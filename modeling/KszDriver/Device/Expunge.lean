import KszDriver.Device.Openers

/-
  When the device is removed.

  The bit that remembers an expunge is the bit of the
  loopback mode, which every close clears; and the libraries
  are closed by every expunge.  As long as the device is
  expunged only while nobody has it open, neither matters.

  Main declarations:
    * `StepExpunges`, `RunExpunges`
    * `ExpungesUnused`
    * `runExpunges_iff`
    * `not_runExpunges_openExpungeClose`
-/

------------------------------------------------------------
-- Removal as It Should Be
------------------------------------------------------------

namespace KszDriver

/- The segment list that a call returns, zero for none. -/
def Driver.returned (s : Driver) : Op → Nat
| .close ios2 => (deviceClose ios2 s).1
| .expunge => (deviceExpunge s).1
| _ => 0

/- The call is to remove the device: an expunge of a device
   that is not open, or the close that leaves it so while an
   expunge is pending. -/
def Removes (pending : Bool) (s : Driver) : Op → Prop
| .expunge => s.base.libOpenCnt = 0#16
| .close ios2 =>
    pending = true ∧ (s.reqs ios2).ioDevice ≠ none ∧
      (s.reqs ios2).ioUnit ≠ none ∧
      s.base.libOpenCnt - 1#16 = 0#16
| _ => False

/- The device can be used after the call. -/
def Driver.Usable (s : Driver) : Prop :=
  s.base.removed = false ∧ s.base.glob = true ∧
    s.base.librariesOpen = true

/- Opening, closing and expunging. -/
def Op.IsCall : Op → Prop
| .openDevice _ _ _ _ | .close _ | .expunge => True
| _ => False

/- What one call is to do. -/
structure StepExpunges
    (pending : Bool)
    (s : Driver)
    (op : Op) : Prop where
  removes : op.IsCall → Removes pending s op →
    s.returned op = s.base.segList ∧
      (s.next op).base.removed = true
  stays : op.IsCall → ¬ Removes pending s op →
    s.returned op = 0 ∧ (s.next op).Usable
  delays : op = .expunge → s.base.libOpenCnt ≠ 0#16 →
    s.next op =
      s.setBase (fun b =>
        { b with libFlags := b.libFlags ||| libfDelExp })

/- An expunge is pending from when it is asked for in vain to
   the next open that succeeds. -/
def nextPending (pending : Bool) (s : Driver) : Op → Bool
| .expunge => pending || decide (s.base.libOpenCnt ≠ 0#16)
| .openDevice ios2 s2unit s2flags env =>
    pending &&
      decide (((s.next (.openDevice ios2 s2unit s2flags
        env)).reqs ios2).ioError ≠ s2errNoError)
| _ => pending

/- Every call of a run does what it is to do. -/
def RunExpunges : Bool → List Op → Driver → Prop
| _, [], _ => True
| pending, op :: ops, s =>
    StepExpunges pending s op ∧
      RunExpunges (nextPending pending s op) ops (s.next op)

------------------------------------------------------------
-- The Condition
------------------------------------------------------------

/- The device is expunged only while nobody has it open. -/
def ExpungesUnused (s : Driver) (op : Op) : Prop :=
  op = .expunge → s.base.libOpenCnt = 0#16

namespace Driver

/- Every expunge closes the libraries. -/
theorem librariesOpen_deviceExpunge (s : Driver) :
    (deviceExpunge s).2.base.librariesOpen = false := rfl

/- An expunge in vain leaves the device without libraries. -/
theorem expungesUnused_of_step
    {pending : Bool}
    {s : Driver}
    {op : Op}
    (hStep : StepExpunges pending s op) :
    ExpungesUnused s op := by
  rintro rfl
  by_contra hOpen
  have hStays := hStep.stays trivial hOpen
  have hClosed := librariesOpen_deviceExpunge s
  have hUsable :
      (deviceExpunge s).2.base.librariesOpen = true :=
    hStays.2.2.2
  rw [hClosed] at hUsable
  cases hUsable

/- A device that is there can be used. -/
def Intact (s : Driver) : Prop :=
  s.base.removed = false →
    s.base.glob = true ∧ s.base.librariesOpen = true

/- The calls that remove the device touch these alone. -/
structure SameLife (s s' : Driver) : Prop where
  removed : s'.base.removed = s.base.removed
  glob : s'.base.glob = s.base.glob
  librariesOpen :
    s'.base.librariesOpen = s.base.librariesOpen

namespace SameLife

variable {s s' s'' : Driver} {ios2 : APTR}

theorem of_base
    (hBase : s'.base = s.base) :
    SameLife s s' :=
  ⟨by rw [hBase], by rw [hBase], by rw [hBase]⟩

theorem trans
    (hFirst : SameLife s s')
    (hSecond : SameLife s' s'') :
    SameLife s s'' where
  removed := hSecond.removed.trans hFirst.removed
  glob := hSecond.glob.trans hFirst.glob
  librariesOpen :=
    hSecond.librariesOpen.trans hFirst.librariesOpen

theorem intact
    (hSame : SameLife s s')
    (hIntact : s.Intact) :
    s'.Intact := by
  intro hThere
  rw [hSame.removed] at hThere
  rw [hSame.glob, hSame.librariesOpen]
  exact hIntact hThere

theorem usable
    (hSame : SameLife s s')
    (hIntact : s.Intact)
    (hThere : s.base.removed = false) :
    s'.Usable := by
  rw [← hSame.removed] at hThere
  exact ⟨hThere, hSame.intact hIntact hThere⟩

theorem initUnitProcess (env : OpenEnv) (s : Driver) :
    SameLife s (initUnitProcess env s) := by
  unfold KszDriver.initUnitProcess
  split
  · exact of_base rfl
  · split
    · exact ⟨rfl, rfl, rfl⟩
    · exact of_base rfl

theorem deviceOpen
    (ios2 : APTR)
    (s2unit s2flags : ULONG)
    (env : OpenEnv)
    (s : Driver) :
    SameLife s (deviceOpen ios2 s2unit s2flags env s) := by
  apply deviceOpen_rule
    (I := fun s' => SameLife s s')
    (J := fun s' => SameLife s s')
  · intro s' flags count hSame
    exact hSame.trans ⟨rfl, rfl, rfl⟩
  · intro s' count hSame
    exact hSame.trans ⟨rfl, rfl, rfl⟩
  · intro s' hSame
    exact hSame.trans (of_base rfl)
  · intro s' hSame
    exact hSame.trans (initUnitProcess env s')
  · intro s' hSame
    exact hSame.trans (of_base rfl)
  · intro s' _ _ hSame
    exact hSame.trans ⟨rfl, rfl, rfl⟩
  · exact of_base rfl

theorem expungeUnit (s : Driver) :
    SameLife s (expungeUnit s) := by
  unfold KszDriver.expungeUnit
  split
  · exact ⟨rfl, rfl, rfl⟩
  · exact of_base rfl

end SameLife

------------------------------------------------------------
-- No Close Remembers an Expunge
------------------------------------------------------------

theorem returned_close (ios2 : APTR) (s : Driver) :
    s.returned (.close ios2) = 0 := by
  show (deviceClose ios2 s).1 = 0
  rw [deviceClose_eq]
  split <;> rfl

theorem sameLife_close (ios2 : APTR) (s : Driver) :
    SameLife s (s.next (.close ios2)) := by
  have hKept : KeptByClose ios2 (SameLife s) :=
    { abortOne := fun s' r hSame =>
        hSame.trans (SameLife.of_base
          (base_of_rest (rest_abortOne s' r)))
      erase := fun _ _ hSame => hSame.trans ⟨rfl, rfl, rfl⟩
      setReq := fun _ _ _ hSame => hSame.trans ⟨rfl, rfl, rfl⟩
      setBase := fun _ _ _ hSame => hSame.trans ⟨rfl, rfl, rfl⟩
      countDown := fun _ hSame => hSame.trans ⟨rfl, rfl, rfl⟩
      expungeUnit := fun s' hSame =>
        hSame.trans (SameLife.expungeUnit s') }
  exact hKept.deviceClose (SameLife.of_base rfl)

------------------------------------------------------------
-- Steps
------------------------------------------------------------

/- Only an expunge removes the device. -/
theorem sameLife_next
    (s : Driver)
    {op : Op}
    (hOther : op ≠ .expunge) :
    SameLife s (s.next op) := by
  cases op with
  | openDevice ios2 s2unit s2flags env =>
      exact SameLife.deviceOpen ios2 s2unit s2flags env s
  | close ios2 => exact sameLife_close ios2 s
  | expunge => exact absurd rfl hOther
  | serviceMsgPort o =>
      exact SameLife.of_base (serves_serviceMsgPort o s).base
  | beginIo _ _ | abortIo _ | pktReceived _ _ _ | doEvent _
  | configChanged _ | clientWrite _ _ | hardware _ =>
      apply SameLife.of_base
      apply Serves.base
      apply Steady.toServes
      apply steady_next
      · intro ios2 s2unit s2flags env hOp
        cases hOp
      · intro ios2 hOp
        cases hOp
      · exact hOther
      · intro o hOp
        cases hOp

theorem deviceExpunge_of_unused
    {s : Driver}
    (hUnused : s.base.libOpenCnt = 0#16) :
    deviceExpunge s =
      (s.base.segList, s.setBase (fun b =>
        { b with
          removed := true
          glob := false
          librariesOpen := false })) := by
  unfold deviceExpunge
  rw [if_neg (not_not.mpr hUnused)]
  rfl

namespace Intact

variable {s : Driver} {op : Op}

theorem start (hStart : s.Start) : s.Intact := by
  rcases hStart with ⟨-, -, -, -, segList, loaded, -, rfl⟩
  intro _
  exact ⟨rfl, rfl⟩

theorem next
    (hIntact : s.Intact)
    (hUnused : ExpungesUnused s op) :
    (s.next op).Intact := by
  by_cases hExpunge : op = .expunge
  · subst hExpunge
    intro hThere
    have hStays : (deviceExpunge s).2.base.removed = false :=
      hThere
    rw [deviceExpunge_of_unused (hUnused rfl)] at hStays
    cases hStays
  · exact (sameLife_next s hExpunge).intact hIntact

/- As long as no expunge is pending, every call does what it
   is to do. -/
theorem stepExpunges
    (hIntact : s.Intact)
    (hAllowed : op.Allowed s)
    (hUnused : ExpungesUnused s op) :
    StepExpunges false s op := by
  cases op with
  | openDevice ios2 s2unit s2flags env =>
      exact
        { removes := fun _ hRemoves => hRemoves.elim
          stays := fun _ _ => ⟨rfl,
            (SameLife.deviceOpen ios2 s2unit s2flags env
              s).usable hIntact hAllowed.1⟩
          delays := fun hOp => by cases hOp }
  | close ios2 =>
      exact
        { removes := fun _ hRemoves =>
            absurd hRemoves.1 Bool.false_ne_true
          stays := fun _ _ => ⟨returned_close ios2 s,
            (sameLife_close ios2 s).usable hIntact
              hAllowed.1⟩
          delays := fun hOp => by cases hOp }
  | expunge =>
      have hNone := hUnused rfl
      exact
        { removes := fun _ _ => by
            show (deviceExpunge s).1 = s.base.segList ∧
              (deviceExpunge s).2.base.removed = true
            rw [deviceExpunge_of_unused hNone]
            exact ⟨rfl, rfl⟩
          stays := fun _ hStays => absurd hNone hStays
          delays := fun _ hOpen => absurd hNone hOpen }
  | _ =>
      exact
        { removes := fun hCall _ => hCall.elim
          stays := fun hCall _ => hCall.elim
          delays := fun hOp => by cases hOp }

end Intact

theorem nextPending_of_unused
    {s : Driver}
    {op : Op}
    (hUnused : ExpungesUnused s op) :
    nextPending false s op = false := by
  cases op with
  | expunge => simp [nextPending, hUnused rfl]
  | _ => rfl

/- Runs whose expunges find nobody are as they should be. -/
theorem runExpunges_of_unused
    {s : Driver}
    {ops : List Op}
    (hIntact : s.Intact)
    (hRuns : deviceMachine.Runs ExpungesUnused ops s) :
    RunExpunges false ops s := by
  induction ops generalizing s with
  | nil => trivial
  | cons op ops ih =>
      rcases hRuns with ⟨⟨hAllowed, hUnused⟩, hRest⟩
      refine ⟨hIntact.stepExpunges hAllowed hUnused, ?_⟩
      rw [nextPending_of_unused hUnused]
      exact ih (hIntact.next hUnused) hRest

/- Runs that are as they should be have no other expunge. -/
theorem unused_of_runExpunges
    {s : Driver}
    {pending : Bool}
    {ops : List Op}
    (hRuns : deviceMachine.Runs Machine.Free ops s)
    (hExpunges : RunExpunges pending ops s) :
    deviceMachine.Runs ExpungesUnused ops s := by
  induction ops generalizing s pending with
  | nil => trivial
  | cons op ops ih =>
      exact ⟨⟨hRuns.1.1, expungesUnused_of_step hExpunges.1⟩,
        ih hRuns.2 hExpunges.2⟩

end Driver

open Driver

------------------------------------------------------------
-- Whole Runs
------------------------------------------------------------

/- A run removes the device when it should, and only then, if
   and only if every expunge finds the device unused. -/
theorem runExpunges_iff
    {s : Driver}
    {ops : List Op}
    (hStart : s.Start)
    (hRuns : deviceMachine.Runs Machine.Free ops s) :
    RunExpunges false ops s ↔
      deviceMachine.Runs ExpungesUnused ops s :=
  ⟨unused_of_runExpunges hRuns,
    runExpunges_of_unused (Intact.start hStart)⟩

/- The device is opened, closed and removed. -/
def openCloseExpunge : List Op :=
  [.openDevice 7 0#32 0#32 (plainOpen 40), .close 7, .expunge]

instance (s : Driver) :
    (op : Op) → Decidable (ExpungesUnused s op)
| .expunge =>
    decidable_of_iff (s.base.libOpenCnt = 0#16)
      ⟨fun hNone _ => hNone, fun hUnused => hUnused rfl⟩
| .openDevice _ _ _ _ | .close _ | .beginIo _ _ | .abortIo _
| .serviceMsgPort _ | .pktReceived _ _ _ | .doEvent _
| .configChanged _ | .clientWrite _ _ | .hardware _ =>
    isTrue (fun hOp => nomatch hOp)

theorem runExpunges_openCloseExpunge :
    RunExpunges false openCloseExpunge
        (loadedDriver (idleRegisters 8000#16)) ↔
      deviceMachine.Runs ExpungesUnused openCloseExpunge
        (loadedDriver (idleRegisters 8000#16)) :=
  runExpunges_iff
    (start_loadedDriver (idleRegisters 8000#16))
    (by decide +kernel)

/- The device is removed while it is open, and closed. -/
def openExpungeClose : List Op :=
  [.openDevice 7 0#32 0#32 (plainOpen 40), .expunge, .close 7]

/- The close forgets the expunge, and the libraries are closed
   with the device still there. -/
theorem not_runExpunges_openExpungeClose :
    (loadedDriver (idleRegisters 8000#16)).Start ∧
      deviceMachine.Runs Machine.Free openExpungeClose
        (loadedDriver (idleRegisters 8000#16)) ∧
      ¬ RunExpunges false openExpungeClose
        (loadedDriver (idleRegisters 8000#16)) := by
  have hRuns :
      deviceMachine.Runs Machine.Free openExpungeClose
        (loadedDriver (idleRegisters 8000#16)) := by
    decide +kernel
  refine ⟨start_loadedDriver _, hRuns, ?_⟩
  intro hExpunges
  have hUnused := unused_of_runExpunges hRuns hExpunges
  revert hUnused
  decide +kernel

end KszDriver
