import KszDriver.Device.Opening

/-
  The handles of the device, and what a close leaves of the
  counters, the flags and the openers.

  A handle is open from the open that succeeded until the
  close of a request that holds its buffer management.

  Main declarations:
    * `base_deviceClose`
    * `Tally`, `tallyMachine`
    * `Tally.Kept`, `kept_next`
-/

------------------------------------------------------------
-- Closes
------------------------------------------------------------

namespace KszDriver

/- The unit does without the base. -/
theorem base_lastClosed (s : Driver) :
    (if s.unit.unitOpenCnt = 0#16 then expungeUnit s
        else s).base.libOpenCnt = s.base.libOpenCnt ∧
      (if s.unit.unitOpenCnt = 0#16 then expungeUnit s
        else s).base.libFlags = s.base.libFlags := by
  by_cases hLast : s.unit.unitOpenCnt = 0#16
  · rw [if_pos hLast]
    unfold expungeUnit
    split
    · exact ⟨rfl, rfl⟩
    · exact ⟨rfl, rfl⟩
  · rw [if_neg hLast]
    exact ⟨rfl, rfl⟩

theorem base_closeUnit (ios2 : APTR) (s : Driver) :
    (closeUnit ios2 s).base.libOpenCnt =
        s.base.libOpenCnt - 1#16 ∧
      (closeUnit ios2 s).base.libFlags =
        resetModes s.base.libFlags := by
  rw [← (counted_freeOpener ios2 s).2.1]
  unfold closeUnit
  generalize freeOpener ios2 s = t
  constructor
  · exact congrArg (· - 1#16) (base_lastClosed _).1
  · exact (base_lastClosed _).2

/- An expunge that has to wait is remembered in the flags. -/
theorem base_deviceExpunge (s : Driver) :
    (deviceExpunge s).2.base.libOpenCnt = s.base.libOpenCnt ∧
      ((deviceExpunge s).2.base.libFlags = s.base.libFlags ∨
        (deviceExpunge s).2.base.libFlags =
          s.base.libFlags ||| libfDelExp) := by
  unfold deviceExpunge
  dsimp only
  split
  · exact ⟨rfl, Or.inr rfl⟩
  · exact ⟨rfl, Or.inl rfl⟩

/- What is left of the base when a handle is closed. -/
theorem base_deviceClose
    {ios2 : APTR}
    {s : Driver}
    (hOpen : (s.reqs ios2).ioDevice ≠ none ∧
      (s.reqs ios2).ioUnit ≠ none) :
    (deviceClose ios2 s).2.base.libOpenCnt =
        s.base.libOpenCnt - 1#16 ∧
      (deviceClose ios2 s).2.base.libFlags =
        resetModes s.base.libFlags := by
  rw [Driver.deviceClose_eq, if_pos hOpen]
  exact base_closeUnit ios2 s

------------------------------------------------------------
-- The Tally
------------------------------------------------------------

/- An open that succeeded, by what it was given and asked
   for. -/
structure Handle where
  bufferManagement : APTR
  s2flags : ULONG

/- The device with the handles that are open. -/
structure Tally where
  driver : Driver
  handles : List Handle

namespace Tally

/- An open succeeded if the request says so, and a close gives
   back a handle that is open. -/
def after (t : Tally) : Op → List Handle
| .openDevice ios2 s2unit s2flags env =>
    if ((deviceOpen ios2 s2unit s2flags env
        t.driver).reqs ios2).ioError = s2errNoError then
      t.handles ++
        [{ bufferManagement := env.bm, s2flags := s2flags }]
    else t.handles
| .close ios2 =>
    if t.driver.OpenHandle ios2 then
      t.handles.eraseP (fun h =>
        h.bufferManagement =
          (t.driver.reqs ios2).bufferManagement)
    else t.handles
| _ => t.handles

def next (t : Tally) (op : Op) : Tally where
  driver := t.driver.next op
  handles := t.after op

def Start (t : Tally) : Prop :=
  t.driver.Start ∧ t.handles = []

end Tally

/- All runs of the device, with the handles. -/
def tallyMachine : Machine Tally Op where
  Start := Tally.Start
  Allowed := fun t op => op.Allowed t.driver
  next := Tally.next

instance decidableTallyRuns
    (C : Tally → Op → Prop)
    [hGuard : ∀ t op, Decidable (C t op)]
    (ops : List Op)
    (t : Tally) :
    Decidable (tallyMachine.Runs C ops t) :=
  Machine.decidableRuns tallyMachine C
    (fun t op => inferInstanceAs
      (Decidable (op.Allowed t.driver)))
    hGuard ops t

instance decidableTallyFree (t : Tally) (op : Op) :
    Decidable (Machine.Free t op) :=
  isTrue trivial

/- The device just after it was loaded. -/
def loadedTally (regs : UBYTE → UWORD) : Tally where
  driver := loadedDriver regs
  handles := []

theorem start_loadedTally (regs : UBYTE → UWORD) :
    (loadedTally regs).Start :=
  ⟨start_loadedDriver regs, rfl⟩

------------------------------------------------------------
-- What Is Kept
------------------------------------------------------------

namespace Tally

variable {t : Tally} {op : Op}

/-
  The device counts its handles, in sixteen bits, and every
  opener is one of them.
-/
structure Kept (t : Tally) : Prop where
  counted :
    t.driver.base.libOpenCnt =
      BitVec.ofNat 16 t.handles.length
  nodup : t.driver.unit.buffMgmt.Nodup
  nonNull : (0 : APTR) ∉ t.driver.unit.buffMgmt
  listed : ∀ b ∈ t.driver.unit.buffMgmt,
    ∃ h ∈ t.handles, h.bufferManagement = b

/- The steps that are neither an open nor a close. -/
def Calm (op : Op) : Prop :=
  (∀ ios2 s2unit s2flags env,
    op ≠ .openDevice ios2 s2unit s2flags env) ∧
    ∀ ios2, op ≠ .close ios2

theorem after_of_calm (hCalm : Calm op) :
    t.after op = t.handles := by
  cases op with
  | openDevice ios2 s2unit s2flags env =>
      exact absurd rfl (hCalm.1 ios2 s2unit s2flags env)
  | close ios2 => exact absurd rfl (hCalm.2 ios2)
  | _ => rfl

theorem after_open
    (ios2 : APTR)
    (s2unit s2flags : ULONG)
    (env : OpenEnv) :
    t.after (.openDevice ios2 s2unit s2flags env) =
      if Succeeds s2unit s2flags env t.driver then
        t.handles ++
          [{ bufferManagement := env.bm, s2flags := s2flags }]
      else t.handles :=
  if_congr (opened_deviceOpen ios2 s2unit s2flags env
    t.driver).ioError rfl rfl

theorem after_close
    {ios2 : APTR}
    (hHandle : t.driver.OpenHandle ios2) :
    t.after (.close ios2) =
      t.handles.eraseP (fun h =>
        h.bufferManagement =
          (t.driver.reqs ios2).bufferManagement) :=
  if_pos hHandle

/- A close of a handle takes one off the tally. -/
theorem length_after_close
    {ios2 : APTR}
    (hKept : t.Kept)
    (hHandle : t.driver.OpenHandle ios2) :
    (t.after (.close ios2)).length = t.handles.length - 1 ∧
      0 < t.handles.length := by
  rcases hKept.listed _ hHandle.2.2 with ⟨h, hIn, hBm⟩
  refine ⟨?_, List.length_pos_of_mem hIn⟩
  rw [after_close hHandle]
  exact List.length_eraseP_of_mem hIn (by simpa using hBm)

/- Without an open or a close the counts stay. -/
theorem calm_next
    (s : Driver)
    (hCalm : Calm op) :
    (s.next op).base.libOpenCnt = s.base.libOpenCnt ∧
      (s.next op).base.unit0 = s.base.unit0 ∧
      ((s.next op).base.libFlags = s.base.libFlags ∨
        (s.next op).base.libFlags =
          s.base.libFlags ||| libfDelExp) ∧
      (s.next op).unit.buffMgmt = s.unit.buffMgmt ∧
      (s.next op).unit.unitOpenCnt = s.unit.unitOpenCnt := by
  by_cases hExpunge : op = .expunge
  · subst hExpunge
    have hBase := base_deviceExpunge s
    have hUnit := Driver.unit_deviceExpunge s
    exact ⟨hBase.1, Driver.unit0_deviceExpunge s, hBase.2,
      congrArg DeviceDriverUnit.buffMgmt hUnit,
      congrArg DeviceDriverUnit.unitOpenCnt hUnit⟩
  · have hServes : Driver.Serves s (s.next op) := by
      by_cases hPort : ∃ o, op = .serviceMsgPort o
      · rcases hPort with ⟨o, rfl⟩
        exact Driver.serves_serviceMsgPort o s
      · exact (Driver.steady_next s hCalm.1 hCalm.2 hExpunge
          (fun o hOp => hPort ⟨o, hOp⟩)).toServes
    exact ⟨congrArg DeviceBase.libOpenCnt hServes.base,
      congrArg DeviceBase.unit0 hServes.base,
      Or.inl (congrArg DeviceBase.libFlags hServes.base),
      hServes.buffMgmt, hServes.unitOpenCnt⟩

/- A request that is no handle any more is closed for
   nothing. -/
theorem next_close_of_closed
    {ios2 : APTR}
    (hAllowed : Op.Allowed t.driver (.close ios2))
    (hClosed : ¬ t.driver.OpenHandle ios2) :
    t.next (.close ios2) = t := by
  have hNone : (t.driver.reqs ios2).ioUnit = none :=
    hAllowed.2.2.resolve_right hClosed
  have hDriver : (deviceClose ios2 t.driver).2 = t.driver :=
    Driver.deviceClose_of_unit_none hNone
  have hHandles : t.after (.close ios2) = t.handles :=
    if_neg hClosed
  show Tally.mk (deviceClose ios2 t.driver).2
    (t.after (.close ios2)) = t
  rw [hDriver, hHandles]

@[simp] theorem handles_next (t : Tally) (op : Op) :
    (t.next op).handles = t.after op := rfl

@[simp] theorem driver_next (t : Tally) (op : Op) :
    (t.next op).driver = t.driver.next op := rfl

theorem start_kept (hStart : t.Start) : t.Kept := by
  rcases hStart with ⟨⟨-, -, hBuffMgmt, -, segList, loaded,
    -, hLoaded⟩, hHandles⟩
  exact
    { counted := by
        rw [hLoaded, hHandles]
        rfl
      nodup := by simp [hBuffMgmt]
      nonNull := by simp [hBuffMgmt]
      listed := by simp [hBuffMgmt] }

theorem kept_calm
    (hKept : t.Kept)
    (hCalm : Calm op) :
    (t.next op).Kept := by
  have hSame := calm_next t.driver hCalm
  rcases hSame with ⟨hCount, -, -, hBuffMgmt, -⟩
  exact
    { counted := by
        rw [handles_next, after_of_calm hCalm]
        exact hCount.trans hKept.counted
      nodup := by
        rw [driver_next, hBuffMgmt]
        exact hKept.nodup
      nonNull := by
        rw [driver_next, hBuffMgmt]
        exact hKept.nonNull
      listed := by
        rw [driver_next, hBuffMgmt, handles_next,
          after_of_calm hCalm]
        exact hKept.listed }

theorem kept_open
    {ios2 : APTR}
    {s2unit s2flags : ULONG}
    {env : OpenEnv}
    (hKept : t.Kept)
    (hNew : env.bm ≠ 0 → env.bm ∉ t.driver.unit.buffMgmt) :
    (t.next (.openDevice ios2 s2unit s2flags env)).Kept := by
  have hOpened :=
    opened_deviceOpen ios2 s2unit s2flags env t.driver
  have hAfter := after_open (t := t) ios2 s2unit s2flags env
  have hCount := hOpened.libOpenCnt
  rcases hOpened.buffMgmt with ⟨old, hOld, hList⟩
  have hNodup : old.Nodup := by
    rcases hOld with rfl | ⟨-, rfl⟩
    · exact hKept.nodup
    · exact List.nodup_nil
  have hThere : ∀ b ∈ old, b ∈ t.driver.unit.buffMgmt := by
    rcases hOld with rfl | ⟨-, rfl⟩
    · exact fun b hIn => hIn
    · simp
  have hNonNull : (0 : APTR) ∉ old :=
    fun hIn => hKept.nonNull (hThere 0 hIn)
  by_cases hSuccess : Succeeds s2unit s2flags env t.driver
  · rw [if_pos hSuccess] at hAfter hList hCount
    have hBm := hSuccess.2.2
    exact
      { counted := by
          rw [handles_next, hAfter, List.length_append,
            BitVec.ofNat_add, ← hKept.counted]
          exact hCount
        nodup := by
          refine hList ▸ List.nodup_append.mpr
            ⟨hNodup, by simp, ?_⟩
          intro b hIn b' hLast hSame
          rw [List.mem_singleton] at hLast
          subst hLast hSame
          exact hNew hBm (hThere _ hIn)
        nonNull := by
          refine hList ▸ fun hIn => ?_
          rcases List.mem_append.mp hIn with hIn | hLast
          · exact hNonNull hIn
          · exact hBm (List.mem_singleton.mp hLast).symm
        listed := by
          rw [handles_next, hAfter]
          refine hList ▸ fun b hIn => ?_
          rcases List.mem_append.mp hIn with hIn | hLast
          · rcases hKept.listed b (hThere b hIn) with
              ⟨h, hOpen, hSame⟩
            exact ⟨h, List.mem_append_left _ hOpen, hSame⟩
          · exact ⟨_, List.mem_append_right _
              (List.mem_singleton_self _),
              (List.mem_singleton.mp hLast).symm⟩ }
  · rw [if_neg hSuccess] at hAfter hList hCount
    exact
      { counted := by
          rw [handles_next, hAfter, ← hKept.counted]
          exact hCount
        nodup := hList ▸ hNodup
        nonNull := hList ▸ hNonNull
        listed := by
          rw [handles_next, hAfter]
          exact hList ▸ fun b hIn =>
            hKept.listed b (hThere b hIn) }

theorem kept_close
    {ios2 : APTR}
    (hKept : t.Kept)
    (hHandle : t.driver.OpenHandle ios2) :
    (t.next (.close ios2)).Kept := by
  have hBase :=
    base_deviceClose ⟨hHandle.1, hHandle.2.1⟩
  have hLength := length_after_close hKept hHandle
  have hList :
      (t.next (.close ios2)).driver.unit.buffMgmt =
        t.driver.unit.buffMgmt.erase
          (t.driver.reqs ios2).bufferManagement :=
    (Driver.closed_of_openHandle hKept.nonNull
      hHandle).buffMgmt
  exact
    { counted := by
        rw [handles_next, hLength.1,
          ← Driver.ofNat_sub_one hLength.2, ← hKept.counted]
        exact hBase.1
      nodup := hList ▸ hKept.nodup.erase _
      nonNull := by
        rw [hList]
        exact fun hIn =>
          hKept.nonNull (List.mem_of_mem_erase hIn)
      listed := by
        rw [hList, handles_next, after_close hHandle]
        intro b hIn
        rw [hKept.nodup.mem_erase_iff] at hIn
        rcases hKept.listed b hIn.2 with ⟨h, hOpen, hSame⟩
        refine ⟨h, ?_, hSame⟩
        rw [List.mem_eraseP_of_neg]
        · exact hOpen
        · simpa [hSame] using hIn.1 }

/- The tally is kept along every run. -/
theorem kept_next
    (hKept : t.Kept)
    (hAllowed : op.Allowed t.driver) :
    (t.next op).Kept := by
  cases op with
  | openDevice ios2 s2unit s2flags env =>
      exact kept_open hKept hAllowed.2.2
  | close ios2 =>
      by_cases hHandle : t.driver.OpenHandle ios2
      · exact kept_close hKept hHandle
      · rw [next_close_of_closed hAllowed hHandle]
        exact hKept
  | _ => exact kept_calm hKept ⟨by simp, by simp⟩

end Tally

end KszDriver
