import KszDriver.Core.Recording
import KszDriver.Nic.EndianMode

/-
  What `ksz8851SoftReset` does to the reset register.

  Detection returns zero when it succeeds, and the reset
  takes that for a failure.  So a chip that answers is never
  reset, and one that does not is.

  Main declarations:
    * `RegAccess`, `noted`, `grrWrites`
    * `Unresetting`
    * `ResetsProperly`, `PulsesOnce`
    * `not_resetsProperly`
-/

------------------------------------------------------------
-- The Accesses to the Registers
------------------------------------------------------------

namespace KszDriver

inductive RegAccess where
| read (offset : UBYTE)
| write (offset : UBYTE) (v : UWORD)
deriving DecidableEq

/- An access to a register is noted, the latest one first. -/
def noteAccess :
    (op : NicOp) → EndianNic → List RegAccess → List RegAccess
| .readDataReg, e, log =>
    if e.nic.chip.armed then .read e.nic.chip.selected :: log
    else log
| .dataReg v, e, log =>
    if e.nic.chip.armed then .write e.nic.chip.selected v :: log
    else log
| _, _, log => log

abbrev Noted := EndianNic × List RegAccess

/- The effect of an operation, and the note of it. -/
def noted (bus : BusLogic) :
    (op : NicOp) → Noted → op.Ret × Noted :=
  Program.recorded (EndianNic.exec bus) noteAccess

/- A run from a chip, and all its accesses. -/
def runNoted {α : Type} (bus : BusLogic) (p : NicM α)
    (e : EndianNic) : α × Noted :=
  p.run (noted bus) (e, [])

/- What an access writes to the reset register. -/
def grrWrite : RegAccess → Option UWORD
| .write offset v => if offset = regGrr then some v else none
| .read _ => none

/- The values written to the reset register, in order. -/
def grrWrites (log : List RegAccess) : List UWORD :=
  (log.filterMap grrWrite).reverse

/- The accesses before the identity is read for the last
   time. -/
def beforeReread (log : List RegAccess) : List RegAccess :=
  (log.dropWhile (fun a => a ≠ .read regCider)).tail

/-
  A chip that answers is reset once, with its interrupts as
  they were and the driver in its mode; any other is left
  alone.
-/
structure ResetsProperly
    (bus : BusLogic)
    (resetOperation : UWORD)
    (e : EndianNic) : Prop where
  answering :
    e.Answers →
      let result :=
        runNoted bus (ksz8851SoftReset resetOperation) e
      result.2.1.Agrees ∧
        grrWrites result.2.2 = [resetOperation, 0#16] ∧
        result.2.1.nic.chip.reg regIer = e.nic.chip.reg regIer
  silent :
    ¬e.Answers →
      grrWrites
          (runNoted bus (ksz8851SoftReset resetOperation)
            e).2.2 = []

/- Initialising a chip that answers resets its queues once
   before its identity is read again. -/
def PulsesOnce (bus : BusLogic) (e : EndianNic) : Prop :=
  e.Answers →
    grrWrites (beforeReread
        (runNoted bus ksz8851Init e).2.2) =
      [grrQmuModuleSoftRst, 0#16]

------------------------------------------------------------
-- Runs That Are Noted
------------------------------------------------------------

section Runs

variable {α β : Type} {bus : BusLogic}

/- Notes stay. -/
theorem mem_noted
    (p : NicM α)
    (x : Noted)
    {a : RegAccess}
    (hMem : a ∈ x.2) :
    a ∈ (p.run (noted bus) x).2.2 := by
  induction p generalizing x with
  | done value => exact hMem
  | step op next ih =>
      apply ih
      have hNote : a ∈ noteAccess op x.1 x.2 := by
        unfold noteAccess
        split
        · split
          · exact List.mem_cons_of_mem _ hMem
          · exact hMem
        · split
          · exact List.mem_cons_of_mem _ hMem
          · exact hMem
        · exact hMem
      exact hNote

theorem noted_readReg (offset : UBYTE) (x : Noted) :
    ((ksz8851ReadReg offset).run (noted bus) x).2.2 =
      .read offset :: x.2 := by
  have hSelected :=
    selected_cmdWord x.1.nic.iface.isInBigEndianMode offset
  exact congrArg (fun a => RegAccess.read a :: x.2) hSelected

theorem noted_writeReg
    (offset : UBYTE)
    (v : UWORD)
    (x : Noted) :
    ((ksz8851WriteReg offset v).run (noted bus) x).2.2 =
      .write offset v :: x.2 := by
  have hSelected :=
    selected_cmdWord x.1.nic.iface.isInBigEndianMode offset
  exact congrArg (fun a => RegAccess.write a v :: x.2) hSelected

/- The notes do not change what happens. -/
theorem Leads.noted
    {p : NicM α}
    {Q : α → Setting → Prop}
    {x : Noted}
    (hLeads : Leads bus x.1.setting p Q) :
    Q (p.run (KszDriver.noted bus) x).1
      (p.run (KszDriver.noted bus) x).2.1.setting := by
  have hRun := hLeads.exec
  have hSame :
      (p.run (KszDriver.noted bus) x).1 =
          (p.run (EndianNic.exec bus) x.1).1 ∧
        (p.run (KszDriver.noted bus) x).2.1 =
          (p.run (EndianNic.exec bus) x.1).2 :=
    Program.run_recorded p x.1 x.2
  rw [← hSame.1, ← hSame.2] at hRun
  exact hRun

/- Nothing is written to the reset register. -/
def Unresetting (bus : BusLogic) (p : NicM α) : Prop :=
  ∀ x : Noted,
    grrWrites (p.run (noted bus) x).2.2 = grrWrites x.2

namespace Unresetting

theorem pure (value : α) :
    Unresetting bus (Pure.pure value) :=
  fun _ => rfl

theorem bind
    {p : NicM α}
    {f : α → NicM β}
    (hFirst : Unresetting bus p)
    (hRest : ∀ a, Unresetting bus (f a)) :
    Unresetting bus (p >>= f) := by
  intro x
  rw [Program.run_bind, hRest, hFirst]

theorem ite
    {c : Prop} [Decidable c]
    {p q : NicM α}
    (hThen : Unresetting bus p)
    (hElse : Unresetting bus q) :
    Unresetting bus (if c then p else q) := by
  split
  next => exact hThen
  next => exact hElse

/- An operation of which nothing is noted. -/
theorem quiet
    {op : NicOp}
    (hQuiet : ∀ e log, noteAccess op e log = log) :
    Unresetting bus (Program.perform op) := by
  intro x
  exact congrArg grrWrites (hQuiet x.1 x.2)

theorem readReg (offset : UBYTE) :
    Unresetting bus (ksz8851ReadReg offset) := by
  intro x
  rw [noted_readReg]
  rfl

theorem writeReg
    {offset : UBYTE}
    (v : UWORD)
    (hOther : offset ≠ regGrr) :
    Unresetting bus (ksz8851WriteReg offset v) := by
  intro x
  rw [noted_writeReg]
  have hNone : grrWrite (.write offset v) = none :=
    if_neg hOther
  unfold grrWrites
  rw [List.filterMap_cons_none hNone]

theorem setBit
    {offset : UBYTE}
    (mask : UWORD)
    (hOther : offset ≠ regGrr) :
    Unresetting bus (ksz8851SetBit offset mask) :=
  (readReg offset).bind (fun _ => writeReg _ hOther)

theorem clearBit
    {offset : UBYTE}
    (mask : UWORD)
    (hOther : offset ≠ regGrr) :
    Unresetting bus (ksz8851ClearBit offset mask) :=
  (readReg offset).bind (fun _ => writeReg _ hOther)

theorem setInterface (f : NetInterface → NetInterface) :
    Unresetting bus (KszDriver.setInterface f) :=
  quiet (fun _ _ => rfl)

theorem detectNICEndiness :
    Unresetting bus ksz8851DetectNICEndiness := by
  unfold ksz8851DetectNICEndiness
  refine (readReg regCider).bind fun _ => ?_
  refine ite ?_ (pure _)
  refine (setInterface _).bind fun _ => ?_
  exact (readReg regCider).bind fun _ =>
    ite (pure _) (pure _)

theorem switchEndianessMode (bigEndian : Bool) :
    Unresetting bus (ksz8851SwitchEndianessMode bigEndian) := by
  unfold ksz8851SwitchEndianessMode
  refine (readReg regRxfdpr).bind fun _ => ?_
  refine (writeReg _ (by decide)).bind fun _ => ?_
  exact setInterface _

theorem configureRegisters :
    Unresetting bus KszDriver.configureRegisters := by
  have hWrite {offset : UBYTE} (hOther : offset ≠ regGrr)
      (v : UWORD) : Unresetting bus (ksz8851WriteReg offset v) :=
    writeReg v hOther
  unfold KszDriver.configureRegisters
  refine (hWrite (by decide) _).bind fun _ => ?_
  refine (hWrite (by decide) _).bind fun _ => ?_
  refine (hWrite (by decide) _).bind fun _ => ?_
  refine (hWrite (by decide) _).bind fun _ => ?_
  refine (hWrite (by decide) _).bind fun _ => ?_
  refine bind (@quiet bus .getInterface (fun _ _ => rfl))
    fun _ => ?_
  refine (hWrite (by decide) _).bind fun _ => ?_
  refine (hWrite (by decide) _).bind fun _ => ?_
  refine (clearBit _ (by decide)).bind fun _ => ?_
  exact setBit _ (by decide)

end Unresetting

------------------------------------------------------------
-- Resetting
------------------------------------------------------------

/- A chip that answers is found, and goes on to answer. -/
theorem noted_detect_of_answers
    {x : Noted}
    (hAnswers : x.1.Answers) :
    (ksz8851DetectNICEndiness.run (noted bus) x).1 = noError ∧
      (ksz8851DetectNICEndiness.run (noted bus)
        x).2.1.Answers := by
  have hLeads := Leads.noted (x := x)
    (@leads_detectNICEndiness bus x.1.setting hAnswers)
  exact ⟨hLeads.1, (congrArg Setting.cider hLeads.2).trans
    hAnswers⟩

/- Any other is not found. -/
theorem leads_detect_silent
    {w : Setting}
    (hCider : w.cider ≠ revA3Id) :
    Leads bus w ksz8851DetectNICEndiness (fun result _ =>
      result ≠ noError) := by
  have hMiss {w : Setting} {cider : UWORD}
      (hCider : w.cider ≠ revA3Id)
      (hShows : Shows w regCider cider) :
      cider ≠ revA3Id :=
    fun hId => hCider ((hShows.1 rfl).mp hId).2
  unfold ksz8851DetectNICEndiness
  apply (leads_readReg regCider).bind
  rintro cider w' ⟨rfl, hShows⟩
  rw [if_pos (hMiss hCider hShows)]
  have hToggled :
      Leads bus { w with armed := false }
        (setInterface (fun iface =>
          { iface with
            isInBigEndianMode := !iface.isInBigEndianMode }))
        (fun _ w' => w'.cider = w.cider) := by
    apply Leads.perform (.setInterface _)
    intro e hState
    have hSame : e.nic.chip.reg regCider = w.cider :=
      congrArg Setting.cider hState
    exact hSame
  apply hToggled.bind
  intro _ w' hSame
  rw [← hSame] at hCider
  apply (leads_readReg regCider).bind
  rintro again w'' ⟨-, hAgain⟩
  rw [if_pos (hMiss hCider hAgain)]
  exact Leads.pure (by decide)

/- The reset is left at once when the chip was found. -/
theorem noted_softReset_of_answers
    (resetOperation : UWORD)
    {x : Noted}
    (hAnswers : x.1.Answers) :
    ((ksz8851SoftReset resetOperation).run (noted bus) x).2 =
      (ksz8851DetectNICEndiness.run (noted bus) x).2 := by
  have hFound := (@noted_detect_of_answers bus _ hAnswers).1
  have hZero : noError = 0 := rfl
  unfold ksz8851SoftReset
  rw [Program.run_bind, hFound, if_pos hZero]
  rfl

/- It is carried out when there was no answer. -/
theorem noted_softReset_of_silent
    (resetOperation : UWORD)
    {x : Noted}
    (hSilent : ¬x.1.Answers) :
    RegAccess.write regGrr resetOperation ∈
      ((ksz8851SoftReset resetOperation).run (noted bus)
        x).2.2 := by
  have hMissed :
      (ksz8851DetectNICEndiness.run (noted bus) x).1 ≠ 0 :=
    Leads.noted (@leads_detect_silent bus x.1.setting hSilent)
  unfold ksz8851SoftReset
  rw [Program.run_bind, if_neg hMissed, Program.run_bind,
    Program.run_bind, Program.run_bind]
  apply mem_noted
  rw [noted_writeReg]
  exact List.mem_cons_self

/- The first detection of a chip that answers is enough. -/
theorem noted_detectLoop_of_answers
    (tries : Nat)
    {x : Noted}
    (hAnswers : x.1.Answers) :
    ((detectLoop tries).run (noted bus) x).2 =
      (ksz8851DetectNICEndiness.run (noted bus) x).2 := by
  have hFound := (@noted_detect_of_answers bus _ hAnswers).1
  cases tries with
  | zero =>
      unfold detectLoop
      rw [Program.run_bind, hFound, if_pos rfl]
      rfl
  | succ tries =>
      unfold detectLoop
      rw [Program.run_bind, hFound, if_pos rfl]
      rfl

/- Initialising a chip that answers does not reset it. -/
theorem noted_init_of_answers
    {x : Noted}
    (hAnswers : x.1.Answers) :
    grrWrites (ksz8851Init.run (noted bus) x).2.2 =
      grrWrites x.2 := by
  have hOp {op : NicOp}
      (hQuiet : ∀ e log, noteAccess op e log = log) :
      Unresetting bus (Program.perform op) :=
    Unresetting.quiet hQuiet
  have hEnable : Unresetting bus enable :=
    hOp (fun _ _ => rfl)
  have hAlloc : Unresetting bus memPoolAlloc :=
    hOp (fun _ _ => rfl)
  -- Both detections find the chip, so the reset is left.
  have hDisabled :
      (disable.run (noted bus) x).2.1.Answers := hAnswers
  generalize hStart : (disable.run (noted bus) x).2 = y
    at hDisabled
  have hStartLog : grrWrites y.2 = grrWrites x.2 := by
    rw [← hStart]
    exact hOp (fun _ _ => rfl) x
  have hLoop := @noted_detectLoop_of_answers bus 2 _ hDisabled
  have hDetected := @noted_detect_of_answers bus _ hDisabled
  unfold ksz8851Init
  rw [Program.run_bind, hStart, Program.run_bind, hLoop,
    Program.run_bind,
    noted_softReset_of_answers _ hDetected.2]
  have hPrefix :
      grrWrites (ksz8851DetectNICEndiness.run (noted bus)
          (ksz8851DetectNICEndiness.run (noted bus) y).2).2.2 =
        grrWrites x.2 := by
    rw [Unresetting.detectNICEndiness,
      Unresetting.detectNICEndiness, hStartLog]
  refine ((?_ : Unresetting bus _) _).trans hPrefix
  refine (Unresetting.readReg regCider).bind fun _ => ?_
  refine Unresetting.ite ?_ ?_
  · exact hEnable.bind fun _ => Unresetting.pure _
  refine (Unresetting.switchEndianessMode true).bind
    fun _ => ?_
  refine (Unresetting.setInterface _).bind fun _ => ?_
  refine hAlloc.bind fun _ => ?_
  refine (Unresetting.setInterface _).bind fun _ => ?_
  refine Unresetting.ite ?_ ?_
  · refine Unresetting.configureRegisters.bind fun _ => ?_
    exact hEnable.bind fun _ => Unresetting.pure _
  · exact hEnable.bind fun _ => Unresetting.pure _

end Runs

------------------------------------------------------------
-- No Reset Is as It Should Be
------------------------------------------------------------

theorem grrWrites_ne_nil
    {log : List RegAccess}
    {v : UWORD}
    (hMem : RegAccess.write regGrr v ∈ log) :
    grrWrites log ≠ [] := by
  intro hNone
  have hWritten : v ∈ grrWrites log := by
    unfold grrWrites
    rw [List.mem_reverse, List.mem_filterMap]
    exact ⟨.write regGrr v, hMem, rfl⟩
  rw [hNone] at hWritten
  exact List.not_mem_nil hWritten

/- What comes before the second look writes no more than
   everything does. -/
theorem grrWrites_beforeReread
    {log : List RegAccess}
    (hNone : grrWrites log = []) :
    grrWrites (beforeReread log) = [] := by
  have hSub : (beforeReread log).Sublist log :=
    (List.tail_sublist _).trans (List.dropWhile_sublist _)
  have hWrites := hSub.filterMap grrWrite
  unfold grrWrites at hNone ⊢
  rw [List.reverse_eq_nil_iff] at hNone ⊢
  rw [hNone] at hWrites
  exact List.sublist_nil.mp hWrites

/- The writes of a reset, for a chip that answers. -/
theorem grrWrites_softReset_of_answers
    (bus : BusLogic)
    (resetOperation : UWORD)
    {e : EndianNic}
    (hAnswers : e.Answers) :
    grrWrites
        (runNoted bus (ksz8851SoftReset resetOperation) e).2.2 =
      [] := by
  unfold runNoted
  rw [noted_softReset_of_answers resetOperation hAnswers,
    Unresetting.detectNICEndiness]
  rfl

theorem grrWrites_init_of_answers
    (bus : BusLogic)
    {e : EndianNic}
    (hAnswers : e.Answers) :
    grrWrites (runNoted bus ksz8851Init e).2.2 = [] :=
  noted_init_of_answers hAnswers

/-
  Whatever the chip, it is reset exactly when it should not
  be; and initialising a chip that answers never resets its
  queues.
-/
theorem not_resetsProperly
    (bus : BusLogic)
    (resetOperation : UWORD)
    (e : EndianNic) :
    ¬ResetsProperly bus resetOperation e ∧
      (PulsesOnce bus e ↔ ¬e.Answers) := by
  constructor
  · intro hProperly
    by_cases hAnswers : e.Answers
    · have hWrites := (hProperly.answering hAnswers).2.1
      rw [grrWrites_softReset_of_answers bus _ hAnswers]
        at hWrites
      exact absurd hWrites (List.cons_ne_nil _ _).symm
    · have hWritten := @noted_softReset_of_silent bus
        resetOperation (e, []) hAnswers
      exact grrWrites_ne_nil hWritten (hProperly.silent hAnswers)
  · refine ⟨fun hPulses hAnswers => ?_,
      fun hSilent hAnswers => absurd hAnswers hSilent⟩
    have hWrites := hPulses hAnswers
    rw [grrWrites_beforeReread
      (grrWrites_init_of_answers bus hAnswers)] at hWrites
    exact absurd hWrites (List.cons_ne_nil _ _).symm

/- The reset of the queues of a chip that answers. -/
theorem not_resetsProperly_queues :
    ¬ResetsProperly plainBus grrQmuModuleSoftRst
      littleEndianNic := by
  intro hProperly
  have hAnswers : littleEndianNic.Answers := rfl
  have hWrites := (hProperly.answering hAnswers).2.1
  rw [grrWrites_softReset_of_answers plainBus _ hAnswers]
    at hWrites
  exact absurd hWrites (List.cons_ne_nil _ _).symm

end KszDriver
