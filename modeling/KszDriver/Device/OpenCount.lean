import KszDriver.Device.Handles

/-
  The counts of the open handles: that of the device, that
  of the unit, and the list of the openers.

  An open that starts the unit and finds no memory for its
  buffer management leaves the unit behind; the counts have
  sixteen bits.

  Main declarations:
    * `Tally.Agrees`
    * `Tally.Fits`
    * `counts_iff`
-/

------------------------------------------------------------
-- Counts
------------------------------------------------------------

namespace KszDriver

namespace Tally

variable {t : Tally} {op : Op}

/- The counts are the number of the open handles, and there
   is a unit while there are any. -/
def Agrees (t : Tally) : Prop :=
  t.driver.base.libOpenCnt.toNat = t.handles.length ∧
    (t.driver.base.unit0 = true →
      t.driver.unit.buffMgmt.length = t.handles.length ∧
        t.driver.unit.unitOpenCnt.toNat = t.handles.length) ∧
    (t.driver.base.unit0 = true ↔ 0 < t.handles.length)

instance (t : Tally) : Decidable t.Agrees := by
  unfold Agrees
  infer_instance

/- The counts agree after a step, and a close of what is no
   handle any more changes nothing. -/
def Counted (t : Tally) (op : Op) : Prop :=
  (t.next op).Agrees ∧
    ∀ ios2, op = .close ios2 →
      ¬ t.driver.OpenHandle ios2 → t.next op = t

/-
  An open that comes as far as the unit gets memory for its
  buffer management if there was no handle, and it does not
  succeed beyond what the counts can hold.
-/
def Fits (t : Tally) : Op → Prop
| .openDevice _ s2unit s2flags env =>
    ReachesUnit s2unit s2flags env t.driver ∧
        GetsUnit env t.driver →
      (t.handles = [] → env.bm ≠ 0) ∧
        (env.bm ≠ 0 → t.handles.length < 65535)
| _ => True

instance (t : Tally) (op : Op) : Decidable (t.Fits op) :=
  match op with
  | .openDevice _ s2unit s2flags env =>
      inferInstanceAs (Decidable
        (ReachesUnit s2unit s2flags env t.driver ∧
            GetsUnit env t.driver →
          (t.handles = [] → env.bm ≠ 0) ∧
            (env.bm ≠ 0 → t.handles.length < 65535)))
  | .close _ | .expunge | .beginIo _ _ | .abortIo _
  | .serviceMsgPort _ | .pktReceived _ _ _ | .doEvent _
  | .configChanged _ | .clientWrite _ _ | .hardware _ =>
      inferInstanceAs (Decidable True)

/- The counts of a tally that is kept. -/
theorem agrees_iff_of_kept
    (hKept : t.Kept)
    (hOpeners : t.driver.Openers) :
    t.Agrees ↔
      t.handles.length < 65536 ∧
        (t.driver.base.unit0 = true →
          t.driver.unit.buffMgmt.length =
            t.handles.length) ∧
        (t.driver.base.unit0 = true ↔
          0 < t.handles.length) := by
  unfold Agrees
  rw [hKept.counted, BitVec.toNat_ofNat]
  have hWide :
      t.handles.length % 2 ^ 16 = t.handles.length ↔
        t.handles.length < 65536 := by omega
  rw [hWide]
  refine and_congr_right (fun hFits => and_congr_left' ?_)
  refine forall_congr' (fun hUnit => ?_)
  rw [hOpeners.counted hUnit, BitVec.toNat_ofNat]
  constructor
  · exact fun hBoth => hBoth.1
  · intro hLength
    refine ⟨hLength, ?_⟩
    rw [hLength]
    exact hWide.mpr hFits

/- What the counts agreeing says of the openers. -/
theorem length_of_agrees
    (hOpeners : t.driver.Openers)
    (hAgrees : t.Agrees) :
    t.driver.unit.buffMgmt.length = t.handles.length := by
  cases hUnit : t.driver.base.unit0 with
  | true => exact (hAgrees.2.1 hUnit).1
  | false =>
      have hNone : ¬ 0 < t.handles.length := by
        rw [← hAgrees.2.2, hUnit]
        exact Bool.false_ne_true
      rw [hOpeners.freed hUnit]
      exact (Nat.eq_zero_of_not_pos hNone).symm

------------------------------------------------------------
-- Steps
------------------------------------------------------------

theorem agrees_open
    {ios2 : APTR}
    {s2unit s2flags : ULONG}
    {env : OpenEnv}
    (hOpeners : t.driver.Openers)
    (hKept' :
      (t.next (.openDevice ios2 s2unit s2flags env)).Kept)
    (hOpeners' :
      (t.next
        (.openDevice ios2 s2unit s2flags env)).driver.Openers)
    (hAgrees : t.Agrees) :
    (t.next (.openDevice ios2 s2unit s2flags env)).Agrees ↔
      t.Fits (.openDevice ios2 s2unit s2flags env) := by
  have hOpened :=
    opened_deviceOpen ios2 s2unit s2flags env t.driver
  have hAfter := after_open (t := t) ios2 s2unit s2flags env
  have hUnit0 := hOpened.unit0
  have hLength := length_of_agrees hOpeners hAgrees
  rcases hOpened.buffMgmt with ⟨old, hOld, hList⟩
  have hOldLength : old.length = t.handles.length := by
    rw [← hLength]
    rcases hOld with rfl | ⟨hNone, rfl⟩
    · rfl
    · rw [hOpeners.freed hNone]
  have hSmall := hAgrees.1.symm ▸
    t.driver.base.libOpenCnt.isLt
  have hIff := agrees_iff_of_kept hKept' hOpeners'
  rw [handles_next, hAfter, driver_next] at hIff
  refine hIff.trans ?_
  unfold Fits
  by_cases hSuccess : Succeeds s2unit s2flags env t.driver
  · rw [if_pos hSuccess] at hList ⊢
    have hGets : ReachesUnit s2unit s2flags env t.driver ∧
        GetsUnit env t.driver := ⟨hSuccess.1, hSuccess.2.1⟩
    have hUnit := hUnit0.mpr (Or.inr hGets)
    have hBm := hSuccess.2.2
    constructor
    · rintro ⟨hWide, -, -⟩ -
      rw [List.length_append] at hWide
      exact ⟨fun _ => hBm,
        fun _ => Nat.lt_of_succ_lt_succ hWide⟩
    · intro hFits
      have hWide := (hFits hGets).2 hBm
      refine ⟨?_, fun _ => ?_, fun _ => ?_, fun _ => hUnit⟩
      · rw [List.length_append]
        exact Nat.succ_lt_succ hWide
      · refine (congrArg List.length hList).trans ?_
        rw [List.length_append, List.length_append, hOldLength]
        rfl
      · exact List.length_pos_of_mem
          (List.mem_append_right _
            (List.mem_singleton_self _))
  · rw [if_neg hSuccess] at hList ⊢
    have hStays : (deviceOpen ios2 s2unit s2flags env
        t.driver).unit.buffMgmt.length = t.handles.length :=
      (congrArg List.length hList).trans hOldLength
    constructor
    · rintro ⟨-, -, hAgain⟩ hGets
      have hPos := hAgain.mp (hUnit0.mpr (Or.inr hGets))
      refine ⟨fun hNone => ?_, fun hBm => ?_⟩
      · rw [hNone] at hPos
        exact absurd hPos (Nat.lt_irrefl 0)
      · exact absurd ⟨hGets.1, hGets.2, hBm⟩ hSuccess
    · intro hFits
      refine ⟨hSmall, fun _ => hStays, ?_⟩
      refine hUnit0.trans ⟨?_, fun hPos => ?_⟩
      · rintro (hUnit | hGets)
        · exact hAgrees.2.2.mp hUnit
        · refine List.length_pos_iff.mpr (fun hNone => ?_)
          exact hSuccess ⟨hGets.1, hGets.2,
            (hFits hGets).1 hNone⟩
      · exact Or.inl (hAgrees.2.2.mpr hPos)

/- A close of a handle among at most 65535 counts down. -/
theorem agrees_close
    {ios2 : APTR}
    (hKept : t.Kept)
    (hKept' : (t.next (.close ios2)).Kept)
    (hOpeners : t.driver.Openers)
    (hOpeners' : (t.next (.close ios2)).driver.Openers)
    (hAgrees : t.Agrees)
    (hHandle : t.driver.OpenHandle ios2) :
    (t.next (.close ios2)).Agrees := by
  have hClosed := Driver.closed_deviceClose hOpeners hHandle
  have hLength := length_of_agrees hOpeners hAgrees
  have hOne := length_after_close hKept hHandle
  have hUnit := hOpeners.unit0_of_mem hHandle.2.2
  have hSmall := hAgrees.1.symm ▸
    t.driver.base.libOpenCnt.isLt
  have hList : (deviceClose ios2
      t.driver).2.unit.buffMgmt.length =
        t.handles.length - 1 := by
    rw [hClosed.buffMgmt,
      List.length_erase_of_mem hHandle.2.2, hLength]
  rw [agrees_iff_of_kept hKept' hOpeners', handles_next,
    hOne.1]
  refine ⟨Nat.lt_of_le_of_lt (Nat.sub_le _ _) hSmall,
    fun _ => hList, ?_⟩
  refine (Bool.coe_iff_coe.mpr hClosed.unit0).trans ?_
  rw [hUnit, Bool.true_and, decide_eq_true_iff,
    hOpeners.counted hUnit,
    Driver.ofNat_sub_one (hLength ▸ hOne.2), hLength]
  have hZero (n : Nat) (hFits : n < 65536) :
      BitVec.ofNat 16 n ≠ 0#16 ↔ 0 < n := by
    rw [Nat.pos_iff_ne_zero, not_iff_not]
    constructor
    · intro hNull
      have hNat := congrArg BitVec.toNat hNull
      rw [BitVec.toNat_ofNat] at hNat
      exact (Nat.mod_eq_of_lt hFits).symm.trans hNat
    · exact fun hNull => congrArg (BitVec.ofNat 16) hNull
  exact hZero _ (Nat.lt_of_le_of_lt (Nat.sub_le _ _) hSmall)

theorem agrees_calm
    (hCalm : Calm op) :
    (t.next op).Agrees ↔ t.Agrees := by
  have hSame := calm_next t.driver hCalm
  rcases hSame with
    ⟨hCount, hUnit0, -, hBuffMgmt, hUnitOpenCnt⟩
  unfold Agrees
  rw [handles_next, after_of_calm hCalm, driver_next, hCount,
    hUnit0, hBuffMgmt, hUnitOpenCnt]

/- What holds in a run that fits. -/
structure Settled (t : Tally) : Prop where
  kept : t.Kept
  openers : t.driver.Openers
  agrees : t.Agrees

theorem Settled.openers_next
    (hSettled : t.Settled)
    (hAllowed : op.Allowed t.driver) :
    (t.next op).driver.Openers := by
  refine hSettled.openers.next hAllowed ?_
  intro ios2 _ _ hOne
  have hLength :=
    length_of_agrees hSettled.openers hSettled.agrees
  have hSmall := hSettled.agrees.1.symm ▸
    t.driver.base.libOpenCnt.isLt
  omega

theorem Settled.counted_iff
    (hSettled : t.Settled)
    (hAllowed : op.Allowed t.driver) :
    t.Counted op ↔ t.Fits op := by
  have hKept' := kept_next hSettled.kept hAllowed
  have hOpeners' := hSettled.openers_next hAllowed
  unfold Counted
  cases op with
  | openDevice ios2 s2unit s2flags env =>
      refine (and_iff_left ?_).trans
        (agrees_open hSettled.openers hKept' hOpeners'
          hSettled.agrees)
      intro ios2 hOp
      cases hOp
  | close ios2 =>
      refine iff_of_true ⟨?_, ?_⟩ trivial
      · by_cases hHandle : t.driver.OpenHandle ios2
        · exact agrees_close hSettled.kept hKept'
            hSettled.openers hOpeners' hSettled.agrees hHandle
        · rw [next_close_of_closed hAllowed hHandle]
          exact hSettled.agrees
      · intro ios2' hOp hClosed
        cases hOp
        exact next_close_of_closed hAllowed hClosed
  | _ =>
      refine iff_of_true
        ⟨(agrees_calm ⟨by simp, by simp⟩).mpr
          hSettled.agrees, ?_⟩ trivial
      intro ios2 hOp
      cases hOp

theorem start_settled (hStart : t.Start) : t.Settled where
  kept := start_kept hStart
  openers := Driver.Openers.start hStart.1
  agrees := by
    rcases hStart with ⟨⟨-, -, -, hUnit0, segList, loaded,
      -, hLoaded⟩, hHandles⟩
    refine ⟨?_, ?_, ?_⟩
    · rw [hLoaded, hHandles]
      rfl
    · rw [hUnit0]
      intro hUnit
      cases hUnit
    · rw [hUnit0, hHandles]
      exact iff_of_false Bool.false_ne_true
        (Nat.lt_irrefl 0)

theorem Settled.next
    (hSettled : t.Settled)
    (hAllowed : op.Allowed t.driver)
    (hFits : t.Fits op) :
    (t.next op).Settled where
  kept := kept_next hSettled.kept hAllowed
  openers := hSettled.openers_next hAllowed
  agrees := ((hSettled.counted_iff hAllowed).mpr hFits).1

end Tally

------------------------------------------------------------
-- Runs
------------------------------------------------------------

/-
  After every step of a run the counts are the number of the
  open handles exactly if no open leaves a unit without a
  handle, or exceeds what the counts can hold.
-/
theorem counts_iff
    (ops : List Op)
    {t : Tally}
    (hStart : t.Start) :
    tallyMachine.Runs Tally.Counted ops t ↔
      tallyMachine.Runs Tally.Fits ops t := by
  apply Machine.runs_congr (I := Tally.Settled)
  · intro t op hSettled hAllowed
    exact hSettled.counted_iff hAllowed
  · intro t op hSettled hAllowed hFits
    exact hSettled.next hAllowed hFits
  · exact Tally.start_settled hStart

/- Two opens, and closes of both handles, one of them
   twice. -/
def opensAndCloses : List Op :=
  [.openDevice 7 0#32 0#32 (plainOpen 40),
    .openDevice 9 0#32 0#32 (plainOpen 41),
    .close 7, .close 7, .close 9]

theorem counts_iff_opensAndCloses :
    tallyMachine.Runs Tally.Counted opensAndCloses
        (loadedTally (idleRegisters 0x1800#16)) ↔
      tallyMachine.Runs Tally.Fits opensAndCloses
        (loadedTally (idleRegisters 0x1800#16)) :=
  counts_iff opensAndCloses (start_loadedTally _)

/- There is no memory for the buffer management of the first
   opener. -/
def openWithoutMemory : Op :=
  .openDevice 7 0#32 0#32 (plainOpen 0)

theorem not_counted_openWithoutMemory :
    tallyMachine.Runs Machine.Free [openWithoutMemory]
        (loadedTally (idleRegisters 0x1800#16)) ∧
      ¬ tallyMachine.Runs Tally.Counted [openWithoutMemory]
        (loadedTally (idleRegisters 0x1800#16)) := by
  constructor
  · decide +kernel
  · intro hRuns
    have hAgrees := hRuns.1.2.1
    revert hAgrees
    decide +kernel

end KszDriver
