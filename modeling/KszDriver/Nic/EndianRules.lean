import KszDriver.Nic.HandlerRules

/-
  The endian mode of the chip and what the driver believes
  of it.

  The chip is in one of two modes, and takes a command word
  for an access to a register only if its byte enables are
  those of the mode.  The mode is set by writing the register
  `RXFDPR` and by a global reset, and cannot be read.

  Between any two operations everything else may change.

  Main declarations:
    * `BusLogic`
    * `EndianNic`, `EndianNic.exec`
    * `Leads`, `Keeps`
    * `leads_readReg`, `leads_writeReg`
-/

------------------------------------------------------------
-- A Chip in Two Modes
------------------------------------------------------------

namespace KszDriver

/- The low level driver on a chip in an endian mode. -/
structure EndianNic where
  nic : NicState
  bigEndian : Bool

/-
  What the chip makes of an access that is not meant for its
  mode: any answer but its identity, and anything at all for
  a write.
-/
structure BusLogic where
  defaultMode : Bool
  strayRead : UBYTE → Chip → UWORD
  strayWrite : UWORD → EndianNic → EndianNic
  strayIdentity : ∀ c, strayRead regCider c ≠ revA3Id

/- The mode after a write to a register. -/
def BusLogic.modeAfter
    (bus : BusLogic) (offset : UBYTE) (v : UWORD)
    (bigEndian : Bool) : Bool :=
  if offset = regRxfdpr then decide (v &&& rxfdprEms ≠ 0#16)
  else if offset = regGrr ∧ v &&& grrGlobalSoftRst ≠ 0#16 then
    bus.defaultMode
  else bigEndian

namespace EndianNic

/- The access that is armed is meant for the mode. -/
def Intended (e : EndianNic) : Prop :=
  e.nic.chip.cmd = cmdWord e.bigEndian e.nic.chip.selected

instance (e : EndianNic) : Decidable e.Intended := by
  unfold Intended
  infer_instance

/- The bit that switches the mode reads as zero. -/
def masked (offset : UBYTE) (v : UWORD) : UWORD :=
  if offset = regRxfdpr then v &&& ~~~rxfdprEms else v

/- The effect of an operation on such a chip. -/
def exec (bus : BusLogic) :
    (op : NicOp) → EndianNic → op.Ret × EndianNic
| .readDataReg, e =>
    let answer := e.nic.chip.readData
    let e' :=
      { e with nic := { e.nic with chip := answer.2 } }
    if e.nic.chip.armed then
      if e.Intended then
        (masked e.nic.chip.selected answer.1, e')
      else (bus.strayRead e.nic.chip.selected e.nic.chip, e')
    else (answer.1, e')
| .dataReg v, e =>
    let nic' :=
      { e.nic with chip := e.nic.chip.writeData v }
    if e.nic.chip.armed then
      if e.Intended then
        ((), { nic := nic'
               bigEndian :=
                bus.modeAfter e.nic.chip.selected v
                  e.bigEndian })
      else ((), bus.strayWrite v e)
    else ((), { e with nic := nic' })
| op, e =>
    ((op.exec e.nic).1, { e with nic := (op.exec e.nic).2 })

/- The chip and the driver agree about the mode. -/
def Agrees (e : EndianNic) : Prop :=
  e.bigEndian = e.nic.iface.isInBigEndianMode

/- The chip is there: it answers with its identity to those
   who ask in its mode. -/
def Answers (e : EndianNic) : Prop :=
  e.nic.chip.reg regCider = revA3Id

end EndianNic

------------------------------------------------------------
-- Interference
------------------------------------------------------------

/- What the endian modes depend on. -/
structure Setting where
  bigEndian : Bool
  believed : Bool
  cider : UWORD
  freeMemory : Bool
  armed : Bool

def EndianNic.setting (e : EndianNic) : Setting where
  bigEndian := e.bigEndian
  believed := e.nic.iface.isInBigEndianMode
  cider := e.nic.chip.reg regCider
  freeMemory := e.nic.freeMemory
  armed := e.nic.chip.armed

/-
  Between any two operations everything else may change: the
  registers, the packet queues, and the other data of the
  driver.
-/
structure Changes (e e' : EndianNic) : Prop where
  setting : e'.setting = e.setting
  cmd : e'.nic.chip.cmd = e.nic.chip.cmd

theorem Changes.refl (e : EndianNic) : Changes e e where
  setting := rfl
  cmd := rfl

/- Every operation is allowed. -/
def Anything (_ : NicOp) (_ : EndianNic) : Prop :=
  True

/- From a setting, however the rest changes, the program ends
   with a value and a setting that satisfy `Q`. -/
def Leads {α : Type} (bus : BusLogic) (w : Setting)
    (p : NicM α) (Q : α → Setting → Prop) : Prop :=
  Program.Triple (EndianNic.exec bus) Changes Anything
    (fun e => e.setting = w) p (fun r e => Q r e.setting)

/- The program ends with the setting it began with. -/
def Keeps {α : Type} (bus : BusLogic) (w : Setting)
    (p : NicM α) : Prop :=
  Leads bus w p (fun _ w' => w' = w)

------------------------------------------------------------
-- Rules
------------------------------------------------------------

section Rules

variable {α β : Type} {bus : BusLogic} {w : Setting}

/- Assertions about the setting are stable. -/
theorem stable_setting (P : Setting → Prop) :
    Program.Stable Changes (fun e => P e.setting) := by
  intro e e' hChange hState
  rw [hChange.setting]
  exact hState

theorem Leads.pure
    {Q : α → Setting → Prop}
    {value : α}
    (hValue : Q value w) :
    Leads bus w (pure value) Q := by
  refine Program.Triple.pure (P := fun e : EndianNic => e.setting = w)
    value (stable_setting (Q value)) ?_
  intro e hState
  rw [hState]
  exact hValue

theorem Leads.bind
    {p : NicM α}
    {f : α → NicM β}
    {Q : α → Setting → Prop}
    {Q' : β → Setting → Prop}
    (hFirst : Leads bus w p Q)
    (hRest : ∀ r w', Q r w' → Leads bus w' (f r) Q') :
    Leads bus w (p >>= f) Q' := by
  apply Program.Triple.bind Changes.refl hFirst
  intro r e hMiddle
  exact hRest r e.setting hMiddle e rfl

theorem Leads.conseq
    {p : NicM α}
    {Q Q' : α → Setting → Prop}
    (hFirst : Leads bus w p Q)
    (hPost : ∀ r w', Q r w' → Q' r w') :
    Leads bus w p Q' :=
  Program.Triple.conseq hFirst (fun _ hState => hState)
    (fun r e => hPost r e.setting)

theorem Leads.ite
    {c : Prop} [Decidable c]
    {p q : NicM α}
    {Q : α → Setting → Prop}
    (hThen : c → Leads bus w p Q)
    (hElse : ¬ c → Leads bus w q Q) :
    Leads bus w (if c then p else q) Q :=
  Program.Triple.ite hThen hElse

theorem Leads.perform
    (op : NicOp)
    {Q : op.Ret → Setting → Prop}
    (hOp : ∀ e : EndianNic, e.setting = w →
      Q (e.exec bus op).1 (e.exec bus op).2.setting) :
    Leads bus w (Program.perform op) Q := by
  refine Program.Triple.perform op
    (stable_setting (fun w' => w' = w))
    (fun r => stable_setting (Q r)) ?_
  intro e hState _
  exact hOp e hState

/- What a program leads to is what a run ends with. -/
theorem Leads.exec
    {p : NicM α}
    {Q : α → Setting → Prop}
    {e : EndianNic}
    (hLeads : Leads bus e.setting p Q) :
    Q (p.run (EndianNic.exec bus) e).1
      (p.run (EndianNic.exec bus) e).2.setting :=
  (hLeads e rfl).run Changes.refl (fun _ _ => trivial)

theorem leads_getInterface :
    Leads bus w getInterface (fun context w' =>
      context.isInBigEndianMode = w.believed ∧ w' = w) := by
  apply Leads.perform .getInterface
  intro e hState
  exact ⟨congrArg Setting.believed hState, hState⟩

/- The selection of a register is stable as well. -/
theorem stable_selection (w : Setting) (cmd : UWORD) :
    Program.Stable Changes (fun e =>
      e.setting = w ∧ e.nic.chip.cmd = cmd) := by
  rintro e e' hChange ⟨hState, hCmd⟩
  exact ⟨hChange.setting.trans hState,
    hChange.cmd.trans hCmd⟩

/- An operation after the selection of a register. -/
theorem perform_selected
    (op : NicOp)
    {cmd : UWORD}
    {Q : op.Ret → Setting → Prop}
    (hOp : ∀ e : EndianNic, e.setting = w →
      e.nic.chip.cmd = cmd →
        Q (e.exec bus op).1 (e.exec bus op).2.setting) :
    Program.Triple (EndianNic.exec bus) Changes Anything
      (fun e => e.setting = w ∧ e.nic.chip.cmd = cmd)
      (Program.perform op) (fun r e => Q r e.setting) := by
  refine Program.Triple.perform op (stable_selection w cmd)
    (fun r => stable_setting (Q r)) ?_
  intro e hState _
  exact hOp e hState.1 hState.2

/- An access to a register, up to the data port. -/
theorem leads_access
    {Q : β → Setting → Prop}
    (offset : UBYTE)
    {p : NicM β}
    (hAccess :
      Program.Triple (EndianNic.exec bus) Changes Anything
        (fun e => e.setting = { w with armed := true } ∧
          e.nic.chip.cmd = cmdWord w.believed offset)
        p (fun r e => Q r e.setting)) :
    Leads bus w
      (do
        let context ← getInterface
        cmdReg (cmdWord context.isInBigEndianMode offset)
        p) Q := by
  apply leads_getInterface.bind
  rintro context w' ⟨hBelieved, rfl⟩
  apply Program.Triple.bind Changes.refl _ (fun _ => hAccess)
  refine Program.Triple.perform (NicOp.cmdReg _)
    (stable_setting (fun w => w = w'))
    (fun _ => stable_selection _ _) ?_
  intro e hState _
  subst hState
  rw [hBelieved]
  exact ⟨rfl, rfl⟩

/- The modes have command words of their own. -/
theorem cmdWord_ne (offset : UBYTE) :
    cmdWord true offset ≠ cmdWord false offset := by
  revert offset
  decide +kernel

/- The driver's accesses are meant for the mode that it
   believes the chip is in. -/
theorem intended_iff
    {e : EndianNic}
    {offset : UBYTE}
    {believed : Bool}
    (hCmd : e.nic.chip.cmd = cmdWord believed offset) :
    e.nic.chip.selected = offset ∧
      (e.Intended ↔ e.bigEndian = believed) := by
  have hSelected : e.nic.chip.selected = offset := by
    unfold Chip.selected
    rw [hCmd, selected_cmdWord]
  refine ⟨hSelected, ?_⟩
  unfold EndianNic.Intended
  rw [hCmd, hSelected]
  constructor
  · intro hWords
    cases hBig : e.bigEndian with
    | true =>
        cases believed with
        | true => rfl
        | false =>
            rw [hBig] at hWords
            exact absurd hWords.symm (cmdWord_ne offset)
    | false =>
        cases believed with
        | true =>
            rw [hBig] at hWords
            exact absurd hWords (cmdWord_ne offset)
        | false => rfl
  · intro hSame
    rw [hSame]

/- What a read of a register says about the modes. -/
def Shows (w : Setting) (offset : UBYTE) (v : UWORD) : Prop :=
  (offset = regCider →
    (v = revA3Id ↔
      w.bigEndian = w.believed ∧ w.cider = revA3Id)) ∧
    (offset = regRxfdpr → w.bigEndian = w.believed →
      v &&& rxfdprEms = 0#16)

/- The setting that an access begins with. -/
theorem setting_exec_armed
    {e : EndianNic}
    {chip : Chip}
    {bigEndian : Bool}
    (hState : e.setting = { w with armed := true })
    (hCider : chip.reg regCider = e.nic.chip.reg regCider)
    (hArmed : chip.armed = false) :
    EndianNic.setting
        { nic := { e.nic with chip := chip }
          bigEndian := bigEndian } =
      { w with armed := false, bigEndian := bigEndian } := by
  have hOld := congrArg Setting.cider hState
  have hBelieved := congrArg Setting.believed hState
  have hMemory := congrArg Setting.freeMemory hState
  simp only [EndianNic.setting] at hOld hBelieved hMemory ⊢
  rw [hCider, hArmed, hOld, hBelieved, hMemory]

theorem leads_readReg (offset : UBYTE) :
    Leads bus w (ksz8851ReadReg offset) (fun v w' =>
      w' = { w with armed := false } ∧ Shows w offset v) := by
  apply leads_access
  refine perform_selected (Q := fun v w' =>
    w' = { w with armed := false } ∧ Shows w offset v)
    NicOp.readDataReg ?_
  intro e hState hCmd
  have hArmed : e.nic.chip.armed = true :=
    congrArg Setting.armed hState
  have hBig : e.bigEndian = w.bigEndian :=
    congrArg Setting.bigEndian hState
  have hCider : e.nic.chip.reg regCider = w.cider :=
    congrArg Setting.cider hState
  rcases intended_iff hCmd with ⟨hSelected, hIntended⟩
  rw [hBig] at hIntended
  have hRead : e.nic.chip.readData =
      (e.nic.chip.reg offset,
        { e.nic.chip with armed := false }) := by
    unfold Chip.readData
    rw [if_pos hArmed, hSelected]
  have hSetting := @setting_exec_armed w e
    { e.nic.chip with armed := false } e.bigEndian hState rfl
    rfl
  rw [hBig] at hSetting
  unfold EndianNic.exec Shows
  dsimp only
  rw [if_pos hArmed, hRead, hSelected]
  by_cases hAgree : w.bigEndian = w.believed
  · rw [if_pos (hIntended.mpr hAgree)]
    refine ⟨hBig ▸ hSetting, ?_, ?_⟩
    · rintro rfl
      have hOther : regCider ≠ regRxfdpr := by decide
      unfold EndianNic.masked
      rw [if_neg hOther]
      simp [hCider, hAgree]
    · rintro rfl _
      unfold EndianNic.masked
      have hNone : ~~~rxfdprEms &&& rxfdprEms = 0#16 := by
        decide
      rw [if_pos rfl, BitVec.and_assoc, hNone, BitVec.and_zero]
  · rw [if_neg (fun hMeant => hAgree (hIntended.mp hMeant))]
    refine ⟨hBig ▸ hSetting, ?_, ?_⟩
    · rintro rfl
      exact iff_of_false (bus.strayIdentity _)
        (fun hBoth => hAgree hBoth.1)
    · exact fun _ hSame => absurd hSame hAgree

/- A write in the mode of the chip. -/
theorem leads_writeReg
    {offset : UBYTE}
    (v : UWORD)
    (hAgree : w.bigEndian = w.believed)
    (hOther : offset ≠ regCider) :
    Leads bus w (ksz8851WriteReg offset v) (fun _ w' =>
      w' =
        { w with
          armed := false
          bigEndian := bus.modeAfter offset v w.bigEndian }) := by
  apply leads_access
  refine perform_selected (Q := fun _ w' =>
    w' =
      { w with
        armed := false
        bigEndian := bus.modeAfter offset v w.bigEndian })
    (NicOp.dataReg v) ?_
  intro e hState hCmd
  have hArmed : e.nic.chip.armed = true :=
    congrArg Setting.armed hState
  have hBig : e.bigEndian = w.bigEndian :=
    congrArg Setting.bigEndian hState
  rcases intended_iff hCmd with ⟨hSelected, hIntended⟩
  rw [hBig] at hIntended
  have hReg :
      (e.nic.chip.writeData v).reg regCider =
        e.nic.chip.reg regCider := by
    rw [Chip.reg_writeData_of_armed v hArmed,
      Chip.reg_writeReg, hSelected,
      Function.update_of_ne hOther.symm]
  have hDone : (e.nic.chip.writeData v).armed = false := by
    unfold Chip.writeData
    rw [if_pos hArmed]
  unfold EndianNic.exec
  dsimp only
  rw [if_pos hArmed, if_pos (hIntended.mpr hAgree), hSelected,
    hBig]
  exact setting_exec_armed hState hReg hDone

end Rules

------------------------------------------------------------
-- Programs That Keep the Mode
------------------------------------------------------------

/- The chip answers in the mode that the driver believes it
   to be in, and no access is half done. -/
structure Setting.Ready (w : Setting) : Prop where
  agrees : w.bigEndian = w.believed
  cider : w.cider = revA3Id
  armed : w.armed = false

/- Registers without a say in the mode. -/
def Plain (offset : UBYTE) : Prop :=
  offset ≠ regCider ∧ offset ≠ regRxfdpr ∧ offset ≠ regGrr

instance (offset : UBYTE) : Decidable (Plain offset) := by
  unfold Plain
  infer_instance

section Keeps

variable {α β : Type} {bus : BusLogic} {w : Setting}

theorem Keeps.pure (value : α) :
    Keeps bus w (pure value) :=
  Leads.pure rfl

theorem Keeps.then
    {p : NicM α}
    {f : α → NicM β}
    {Q : β → Setting → Prop}
    (hFirst : Keeps bus w p)
    (hRest : ∀ r, Leads bus w (f r) Q) :
    Leads bus w (p >>= f) Q := by
  apply Leads.bind hFirst
  rintro r w' rfl
  exact hRest r

theorem Keeps.bind
    {p : NicM α}
    {f : α → NicM β}
    (hFirst : Keeps bus w p)
    (hRest : ∀ r, Keeps bus w (f r)) :
    Keeps bus w (p >>= f) :=
  hFirst.then hRest

theorem Keeps.ite
    {c : Prop} [Decidable c]
    {p q : NicM α}
    (hThen : Keeps bus w p)
    (hElse : Keeps bus w q) :
    Keeps bus w (if c then p else q) :=
  Leads.ite (fun _ => hThen) (fun _ => hElse)

theorem Keeps.onlyIf
    {c : Prop} [Decidable c]
    {p : NicM Unit}
    (hThen : Keeps bus w p) :
    Keeps bus w (Program.onlyIf c p) :=
  hThen.ite (Keeps.pure ())

/- An operation that does not show in the setting. -/
theorem keeps_quiet
    {op : NicOp}
    (hOp : ∀ e : EndianNic,
      (e.exec bus op).2.setting = e.setting) :
    Keeps bus w (Program.perform op) := by
  apply Leads.perform op
  intro e hState
  exact (hOp e).trans hState

theorem keeps_disable : Keeps bus w disable :=
  keeps_quiet (fun _ => rfl)

theorem keeps_enable : Keeps bus w enable :=
  keeps_quiet (fun _ => rfl)

theorem keeps_getInterface : Keeps bus w getInterface :=
  keeps_quiet (fun _ => rfl)

theorem keeps_setInterface
    {f : NetInterface → NetInterface}
    (hBelief : ∀ iface,
      (f iface).isInBigEndianMode = iface.isInBigEndianMode) :
    Keeps bus w (setInterface f) := by
  apply keeps_quiet
  intro e
  simp [EndianNic.exec, EndianNic.setting, NicOp.exec, hBelief]

variable (hReady : w.Ready)
include hReady

theorem keeps_readReg (offset : UBYTE) :
    Keeps bus w (ksz8851ReadReg offset) := by
  apply (leads_readReg offset).conseq
  rintro v w' ⟨rfl, -⟩
  rw [← hReady.armed]

theorem keeps_writeReg
    {offset : UBYTE}
    (v : UWORD)
    (hPlain : Plain offset) :
    Keeps bus w (ksz8851WriteReg offset v) := by
  apply (leads_writeReg v hReady.agrees hPlain.1).conseq
  rintro _ w' rfl
  unfold BusLogic.modeAfter
  rw [if_neg hPlain.2.1, if_neg (fun hGrr =>
    hPlain.2.2 hGrr.1), ← hReady.armed]

theorem keeps_setBit
    {offset : UBYTE}
    (mask : UWORD)
    (hPlain : Plain offset) :
    Keeps bus w (ksz8851SetBit offset mask) :=
  (keeps_readReg hReady offset).bind
    (fun _ => keeps_writeReg hReady _ hPlain)

theorem keeps_clearBit
    {offset : UBYTE}
    (mask : UWORD)
    (hPlain : Plain offset) :
    Keeps bus w (ksz8851ClearBit offset mask) :=
  (keeps_readReg hReady offset).bind
    (fun _ => keeps_writeReg hReady _ hPlain)

/- Words for the transmit queue, and from the receive
   queue. -/
theorem keeps_dataReg (v : UWORD) :
    Keeps bus w (dataReg v) := by
  apply Leads.perform (NicOp.dataReg v)
  intro e hState
  have hArmed : e.nic.chip.armed = false :=
    (congrArg Setting.armed hState).trans hReady.armed
  have hFifo : (e.nic.chip.writeData v).reg = e.nic.chip.reg ∧
      (e.nic.chip.writeData v).armed = e.nic.chip.armed := by
    unfold Chip.writeData
    rw [if_neg (by simp [hArmed])]
    split
    · exact ⟨rfl, rfl⟩
    · exact ⟨rfl, rfl⟩
  rw [← hState]
  simp [EndianNic.exec, EndianNic.setting, hArmed, hFifo]

theorem keeps_readDataReg : Keeps bus w readDataReg := by
  apply Leads.perform NicOp.readDataReg
  intro e hState
  have hArmed : e.nic.chip.armed = false :=
    (congrArg Setting.armed hState).trans hReady.armed
  have hFifo : e.nic.chip.readData.2.armed =
      e.nic.chip.armed := by
    unfold Chip.readData
    rw [if_neg (by simp [hArmed])]
    split
    · rfl
    · rfl
  rw [← hState]
  simp [EndianNic.exec, EndianNic.setting, hArmed, hFifo]

theorem keeps_writeWords
    (isInBigEndianMode : Bool)
    (data : Memory)
    (sizeInWord i : Nat) :
    Keeps bus w
      (writeWords isInBigEndianMode data sizeInWord i) := by
  induction sizeInWord generalizing i with
  | zero => exact Keeps.pure ()
  | succ sizeInWord ih =>
      exact (keeps_dataReg hReady _).bind (fun _ => ih (i + 1))

theorem keeps_readWords
    (isInBigEndianMode : Bool)
    (sizeInWord i : Nat)
    (data : Memory) :
    Keeps bus w
      (readWords isInBigEndianMode sizeInWord i data) := by
  induction sizeInWord generalizing i data with
  | zero => exact Keeps.pure data
  | succ sizeInWord ih =>
      exact (keeps_readDataReg hReady).bind (fun _ => ih _ _)

theorem keeps_writeFifo (data : Memory) (length : Nat) :
    Keeps bus w (ksz8851WriteFifo data length) :=
  keeps_getInterface.bind
    (fun _ => keeps_writeWords hReady _ data _ 0)

theorem keeps_writeFifoWordAlign
    (data : Memory) (lengthInBytes : Nat) :
    Keeps bus w
      (ksz8851WriteFifoWordAlign data lengthInBytes) :=
  keeps_getInterface.bind (fun _ =>
    (keeps_writeWords hReady _ data _ 0).bind
      (fun _ => Keeps.pure _))

theorem keeps_readFifo (length : Nat) :
    Keeps bus w (ksz8851ReadFifo length) :=
  keeps_getInterface.bind (fun _ =>
    (keeps_readWords hReady _ _ 0 _).bind
      (fun _ => keeps_setInterface (fun _ => rfl)))

end Keeps

end KszDriver
