import KszDriver.Device.EntryPoints
import KszDriver.Device.Serving

/-
  The openers of the unit over the life of the device: which
  calls add and remove one, and when the unit is freed.

  The open count of the unit has sixteen bits; a close that
  counts it down to zero frees the unit.

  Main declarations:
    * `Driver.Openers`
    * `openers_deviceOpen`
    * `Closed`, `closed_deviceClose`
    * `steady_next`
    * `Openers.next`
-/

------------------------------------------------------------
-- Counted Openers
------------------------------------------------------------

namespace KszDriver

namespace Driver

/- The openers are counted, and there are none without a
   unit. -/
structure Openers (s : Driver) : Prop where
  nodup : s.unit.buffMgmt.Nodup
  nonNull : (0 : APTR) ∉ s.unit.buffMgmt
  counted : s.base.unit0 = true →
    s.unit.unitOpenCnt =
      BitVec.ofNat 16 s.unit.buffMgmt.length
  freed : s.base.unit0 = false → s.unit.buffMgmt = []

namespace Openers

variable {s s' : Driver} {ios2 : APTR} {env : OpenEnv}

theorem congr
    (hOpeners : s.Openers)
    (hUnit : s'.unit = s.unit)
    (hUnit0 : s'.base.unit0 = s.base.unit0) :
    s'.Openers where
  nodup := hUnit ▸ hOpeners.nodup
  nonNull := hUnit ▸ hOpeners.nonNull
  counted := by
    rw [hUnit0, hUnit]
    exact hOpeners.counted
  freed := by
    rw [hUnit0, hUnit]
    exact hOpeners.freed

theorem of_serves
    (hOpeners : s.Openers)
    (hServes : Serves s s') :
    s'.Openers where
  nodup := hServes.buffMgmt ▸ hOpeners.nodup
  nonNull := hServes.buffMgmt ▸ hOpeners.nonNull
  counted := by
    rw [hServes.base, hServes.buffMgmt, hServes.unitOpenCnt]
    exact hOpeners.counted
  freed := by
    rw [hServes.base, hServes.buffMgmt]
    exact hOpeners.freed

theorem start (hStart : s.Start) : s.Openers where
  nodup := by
    rw [hStart.2.2.1]
    exact List.nodup_nil
  nonNull := by
    rw [hStart.2.2.1]
    exact List.not_mem_nil
  counted := fun hUnit => by
    rw [hStart.2.2.2.1] at hUnit
    cases hUnit
  freed := fun _ => hStart.2.2.1

/- A new unit has the openers that no unit had. -/
theorem buffMgmt_initUnitProcess
    (hOpeners : s.Openers)
    (env : OpenEnv) :
    (initUnitProcess env s).unit.buffMgmt =
      s.unit.buffMgmt := by
  unfold KszDriver.initUnitProcess
  split
  · rfl
  · rename_i hNoUnit
    split
    · exact (hOpeners.freed (by simpa using hNoUnit)).symm
    · rfl

theorem initUnitProcess
    (hOpeners : s.Openers)
    (env : OpenEnv) :
    (initUnitProcess env s).Openers := by
  unfold KszDriver.initUnitProcess
  split
  · exact hOpeners
  · split
    · exact
        { nodup := List.nodup_nil
          nonNull := List.not_mem_nil
          counted := fun _ => rfl
          freed := fun _ => rfl }
    · exact hOpeners

theorem addOpener
    (hOpeners : s.Openers)
    (hUnit : s.base.unit0 = true)
    (hNonNull : env.bm ≠ 0)
    (hNew : env.bm ∉ s.unit.buffMgmt) :
    (addOpener ios2 env s).Openers where
  nodup := by
    refine List.nodup_append.mpr
      ⟨hOpeners.nodup, by simp, ?_⟩
    rintro b hIn b' hIn' rfl
    rw [List.mem_singleton] at hIn'
    exact hNew (hIn' ▸ hIn)
  nonNull := by
    intro hIn
    rcases List.mem_append.mp hIn with hOld | hLast
    · exact hOpeners.nonNull hOld
    · exact hNonNull (List.mem_singleton.mp hLast).symm
  counted := fun _ => by
    show s.unit.unitOpenCnt + 1#16 =
      BitVec.ofNat 16 (s.unit.buffMgmt ++ [env.bm]).length
    rw [hOpeners.counted hUnit, List.length_append,
      BitVec.ofNat_add]
    rfl
  freed := fun hNoUnit => by
    have hNone : s.base.unit0 = false := hNoUnit
    rw [hUnit] at hNone
    cases hNone

end Openers

/- An open keeps the openers there are. -/
theorem openers_deviceOpen
    {s : Driver}
    {env : OpenEnv}
    (ios2 : APTR)
    (s2unit s2flags : ULONG)
    (hOpeners : s.Openers)
    (hNew : env.bm ≠ 0 → env.bm ∉ s.unit.buffMgmt) :
    (deviceOpen ios2 s2unit s2flags env s).Openers ∧
      ∀ b ∈ s.unit.buffMgmt,
        b ∈ (deviceOpen ios2 s2unit s2flags
          env s).unit.buffMgmt := by
  apply deviceOpen_rule
    (I := fun s' => s'.Openers ∧
      s'.unit.buffMgmt = s.unit.buffMgmt)
    (J := fun s' => s'.Openers ∧
      ∀ b ∈ s.unit.buffMgmt, b ∈ s'.unit.buffMgmt)
  · rintro s' flags count ⟨hState, hSame⟩
    exact ⟨hState.congr rfl rfl, hSame⟩
  · rintro s' count ⟨hState, hKept⟩
    exact ⟨hState.congr rfl rfl, hKept⟩
  · rintro s' ⟨hState, hSame⟩
    exact ⟨hState.congr rfl rfl, hSame⟩
  · rintro s' ⟨hState, hSame⟩
    exact ⟨hState.initUnitProcess env,
      (hState.buffMgmt_initUnitProcess env).trans hSame⟩
  · rintro s' ⟨hState, hSame⟩
    refine ⟨hState.congr rfl rfl, ?_⟩
    intro b hIn
    exact hSame ▸ hIn
  · rintro s' hUnit hNonNull ⟨hState, hSame⟩
    refine ⟨hState.addOpener hUnit hNonNull
      (hSame ▸ hNew hNonNull), ?_⟩
    intro b hIn
    exact List.mem_append_left _ (hSame ▸ hIn)
  · exact ⟨hOpeners, rfl⟩

------------------------------------------------------------
-- Closing
------------------------------------------------------------

end Driver

/- What a close of an open handle does. -/
structure Closed (ios2 : APTR) (s s' : Driver) : Prop where
  lists :
    s'.lists =
      (s.abortReqList (.bmRxQueue
        (s.reqs ios2).bufferManagement)).lists
  reqs : ∀ r, r ≠ ios2 →
    s'.reqs r =
      (s.abortReqList (.bmRxQueue
        (s.reqs ios2).bufferManagement)).reqs r
  terminations : ∀ r,
    terminations r s'.log =
      terminations r (s.abortReqList (.bmRxQueue
        (s.reqs ios2).bufferManagement)).log
  outstanding : ∀ r,
    Outstanding r s'.log ↔
      Outstanding r (s.abortReqList (.bmRxQueue
        (s.reqs ios2).bufferManagement)).log
  buffMgmt :
    s'.unit.buffMgmt =
      s.unit.buffMgmt.erase (s.reqs ios2).bufferManagement
  unitOpenCnt :
    s'.unit.unitOpenCnt = s.unit.unitOpenCnt - 1#16
  unit0 :
    s'.base.unit0 =
      (s.base.unit0 &&
        decide (s.unit.unitOpenCnt - 1#16 ≠ 0#16))
  online :
    s'.Online ↔ s.Online ∧
      (s.base.unit0 = true →
        s.unit.unitOpenCnt - 1#16 ≠ 0#16)

namespace Driver

/- The flags and the removal of the base do not concern the
   openers. -/
theorem closed_setBase
    {ios2 : APTR}
    {s s' : Driver}
    {f : DeviceBase → DeviceBase}
    (hClosed : Closed ios2 s s')
    (hUnit0 : ∀ b, (f b).unit0 = b.unit0) :
    Closed ios2 s (s'.setBase f) where
  lists := hClosed.lists
  reqs := hClosed.reqs
  terminations := hClosed.terminations
  outstanding := hClosed.outstanding
  buffMgmt := hClosed.buffMgmt
  unitOpenCnt := hClosed.unitOpenCnt
  unit0 := (hUnit0 s'.base).trans hClosed.unit0
  online := hClosed.online

/- The end of the unit frees no request. -/
theorem same_lastClosed (s : Driver) :
    let t := if s.unit.unitOpenCnt = 0#16 then expungeUnit s
      else s
    t.lists = s.lists ∧ t.reqs = s.reqs ∧ t.log = s.log ∧
      t.unit.buffMgmt = s.unit.buffMgmt ∧
      t.unit.unitOpenCnt = s.unit.unitOpenCnt := by
  unfold expungeUnit
  dsimp only
  split
  · split
    · exact ⟨rfl, rfl, rfl, rfl, rfl⟩
    · exact ⟨rfl, rfl, rfl, rfl, rfl⟩
  · exact ⟨rfl, rfl, rfl, rfl, rfl⟩

theorem unit0_lastClosed (s : Driver) :
    (if s.unit.unitOpenCnt = 0#16 then expungeUnit s
      else s).base.unit0 =
        if s.unit.unitOpenCnt = 0#16 ∧ s.base.unit0 = true
        then false else s.base.unit0 := by
  by_cases hLast : s.unit.unitOpenCnt = 0#16
  · rw [if_pos hLast]
    unfold expungeUnit
    simp only [hLast, true_and]
    split <;> rfl
  · rw [if_neg hLast, if_neg (fun hBoth => hLast hBoth.1)]

theorem online_lastClosed (s : Driver) :
    (if s.unit.unitOpenCnt = 0#16 then expungeUnit s
      else s).Online ↔
        s.Online ∧ (s.base.unit0 = true →
          s.unit.unitOpenCnt ≠ 0#16) := by
  by_cases hLast : s.unit.unitOpenCnt = 0#16
  · rw [if_pos hLast]
    unfold expungeUnit
    split
    next hUnit =>
      apply iff_of_false
      · intro hOnline
        exact absurd (not_online_andNot _) hOnline
      · intro hMore
        exact hMore.2 hUnit hLast
    next hNone =>
      exact (and_iff_left (fun hUnit => absurd hUnit hNone)).symm
  · rw [if_neg hLast]
    exact (and_iff_left (fun _ => hLast)).symm

/- The unit is freed when its open count gets to zero. -/
theorem closed_of_counted
    {ios2 : APTR}
    {s s' : Driver}
    (hLists :
      s'.lists =
        (s.abortReqList (.bmRxQueue
          (s.reqs ios2).bufferManagement)).lists)
    (hReqs : ∀ r, r ≠ ios2 →
      s'.reqs r =
        (s.abortReqList (.bmRxQueue
          (s.reqs ios2).bufferManagement)).reqs r)
    (hLog :
      s'.log =
        (s.abortReqList (.bmRxQueue
          (s.reqs ios2).bufferManagement)).log)
    (hBuffMgmt :
      s'.unit.buffMgmt =
        s.unit.buffMgmt.erase (s.reqs ios2).bufferManagement)
    (hCount :
      s'.unit.unitOpenCnt = s.unit.unitOpenCnt - 1#16)
    (hState : s'.unit.state = s.unit.state)
    (hUnit0 : s'.base.unit0 = s.base.unit0) :
    Closed ios2 s
      (if s'.unit.unitOpenCnt = 0#16 then expungeUnit s'
        else s') := by
  rcases same_lastClosed s' with
    ⟨hLists', hReqs', hLog', hBuffMgmt', hCount'⟩
  exact
    { lists := hLists'.trans hLists
      reqs := fun r hOther =>
        (congrFun hReqs' r).trans (hReqs r hOther)
      terminations := fun r =>
        congrArg (KszDriver.terminations r) (hLog'.trans hLog)
      outstanding := fun r =>
        iff_of_eq (congrArg (Outstanding r) (hLog'.trans hLog))
      buffMgmt := hBuffMgmt'.trans hBuffMgmt
      unitOpenCnt := hCount'.trans hCount
      unit0 := by
        rw [unit0_lastClosed, hCount, hUnit0]
        cases s.base.unit0 <;> simp
      online := by
        rw [online_lastClosed, hCount, hUnit0, Online, Online,
          hState] }

theorem freeOpener_of_mem
    {ios2 : APTR}
    {s : Driver}
    (hNonNull : (s.reqs ios2).bufferManagement ≠ 0)
    (hOpen :
      (s.reqs ios2).bufferManagement ∈ s.unit.buffMgmt) :
    freeOpener ios2 s =
      ((s.abortReqList (.bmRxQueue
        (s.reqs ios2).bufferManagement)).setUnit (fun u =>
          { u with
            buffMgmt := u.buffMgmt.erase
              (s.reqs ios2).bufferManagement })).setReq ios2
        (fun req => { req with bufferManagement := 0 }) := by
  have hUnit :=
    unit_of_rest (rest_abortReqList s
      (.bmRxQueue (s.reqs ios2).bufferManagement))
  unfold freeOpener
  rw [if_pos hNonNull]
  dsimp only
  rw [if_pos (hUnit ▸ hOpen)]

theorem closed_closeUnit
    {ios2 : APTR}
    {s : Driver}
    (hNonNull : (s.reqs ios2).bufferManagement ≠ 0)
    (hOpen :
      (s.reqs ios2).bufferManagement ∈ s.unit.buffMgmt) :
    Closed ios2 s (closeUnit ios2 s) := by
  have hRest :=
    rest_abortReqList s
      (.bmRxQueue (s.reqs ios2).bufferManagement)
  have hUnit := unit_of_rest hRest
  have hBase := base_of_rest hRest
  unfold closeUnit
  rw [freeOpener_of_mem hNonNull hOpen]
  dsimp only
  apply closed_setBase
  · apply closed_of_counted
    · rfl
    · intro r hOther
      simp [setBase, setUnit, hOther]
    · rfl
    · simp [setBase, setUnit, setReq, hUnit]
    · simp [setBase, setUnit, setReq, hUnit]
    · simp [setBase, setUnit, setReq, hUnit]
    · simp [setBase, setUnit, setReq, hBase]
  · intro b
    rfl

/- A handle that is open has a buffer management. -/
theorem closed_of_openHandle
    {ios2 : APTR}
    {s : Driver}
    (hNonNull : (0 : APTR) ∉ s.unit.buffMgmt)
    (hHandle : s.OpenHandle ios2) :
    Closed ios2 s (deviceClose ios2 s).2 := by
  rcases hHandle with ⟨hDevice, hUnit, hOpen⟩
  rw [deviceClose_eq, if_pos ⟨hDevice, hUnit⟩]
  apply closed_closeUnit
  · intro hNull
    exact hNonNull (hNull ▸ hOpen)
  · exact hOpen

theorem closed_deviceClose
    {ios2 : APTR}
    {s : Driver}
    (hOpeners : s.Openers)
    (hHandle : s.OpenHandle ios2) :
    Closed ios2 s (deviceClose ios2 s).2 :=
  closed_of_openHandle hOpeners.nonNull hHandle

------------------------------------------------------------
-- Steps
------------------------------------------------------------

/- The unit process performs the commands that switch the
   unit on and off. -/
theorem not_switches_of_performedNow
    {command : UWORD}
    (hNow : PerformedNow command) :
    ¬ Switches command := by
  rintro (rfl | rfl | rfl)
  · exact absurd hNow (by decide)
  · exact absurd hNow (by decide)
  · exact absurd hNow (by decide)

/- The steps that neither open nor close, nor perform what
   waits in the port of the unit, keep the state bits. -/
theorem steady_next
    (s : Driver)
    {op : Op}
    (hOpen : ∀ ios2 s2unit s2flags env,
      op ≠ .openDevice ios2 s2unit s2flags env)
    (hClose : ∀ ios2, op ≠ .close ios2)
    (hExpunge : op ≠ .expunge)
    (hPort : ∀ o, op ≠ .serviceMsgPort o) :
    Steady s (s.next op) := by
  cases op with
  | openDevice ios2 s2unit s2flags env =>
      exact absurd rfl (hOpen ios2 s2unit s2flags env)
  | close ios2 => exact absurd rfl (hClose ios2)
  | expunge => exact absurd rfl hExpunge
  | serviceMsgPort o => exact absurd rfl (hPort o)
  | beginIo ios2 o =>
      have hTaken : Steady s (s.record (.submitted ios2)) :=
        Steady.refl.record _
      unfold next deviceBeginIo
      dsimp only
      split
      · rename_i hNow
        exact hTaken.trans (steady_performIo o ios2 _
          (not_switches_of_performedNow hNow))
      · exact Steady.of_rest rfl
  | abortIo ios2 =>
      unfold next
      dsimp only
      rcases deviceAbortIo_cases ios2 s with
        hSame | ⟨-, hAborted⟩
      · rw [hSame]
        exact Steady.refl
      · rw [hAborted]
        exact Steady.of_rest (rest_abortOne s ios2)
  | pktReceived buffer size o =>
      exact steady_onPktReceived o s buffer size
  | doEvent events => exact Steady.refl.doEvent events
  | configChanged addr => exact ⟨⟨rfl, rfl, rfl, rfl⟩, rfl⟩
  | clientWrite ios2 req => exact Steady.of_rest rfl
  | hardware regs => exact ⟨⟨rfl, rfl, rfl, rfl⟩, rfl⟩

theorem serves_serviceMsgPort (o : Outcome) (s : Driver) :
    Serves s (serviceMsgPort o s) := by
  unfold serviceMsgPort
  split
  · exact Steady.refl.toServes
  · exact (Steady.refl.remove _).toServes.trans
      (serves_performIo o _ _)

/- An expunge does not concern the unit. -/
theorem unit_deviceExpunge (s : Driver) :
    (deviceExpunge s).2.unit = s.unit := by
  rw [deviceExpunge_setBase]
  rfl

theorem unit0_deviceExpunge (s : Driver) :
    (deviceExpunge s).2.base.unit0 = s.base.unit0 := by
  unfold deviceExpunge
  dsimp only
  split <;> rfl

/-
  Counting down to zero leaves no opener.  The count has
  sixteen bits, the list of the openers has no limit.
-/
def CountsDown (s : Driver) : Prop :=
  s.unit.buffMgmt.length % 65536 = 1 →
    s.unit.buffMgmt.length = 1

instance (s : Driver) : Decidable s.CountsDown := by
  unfold CountsDown
  infer_instance

theorem ofNat_sub_one
    {n : Nat}
    (hPos : 0 < n) :
    BitVec.ofNat 16 n - 1#16 = BitVec.ofNat 16 (n - 1) := by
  have hSucc : BitVec.ofNat 16 n =
      BitVec.ofNat 16 (n - 1) + 1#16 := by
    rw [← BitVec.ofNat_add, Nat.sub_add_cancel hPos]
  rw [hSucc, BitVec.add_sub_cancel]

/- An opener there is has a unit. -/
theorem Openers.unit0_of_mem
    {s : Driver}
    {bm : APTR}
    (hOpeners : s.Openers)
    (hOpen : bm ∈ s.unit.buffMgmt) :
    s.base.unit0 = true := by
  rw [← Bool.not_eq_false]
  intro hNoUnit
  rw [hOpeners.freed hNoUnit] at hOpen
  exact List.not_mem_nil hOpen

/- Counting down one opener of several leaves the unit. -/
theorem Openers.count_ne_zero
    {s : Driver}
    {bm : APTR}
    (hOpeners : s.Openers)
    (hOpen : bm ∈ s.unit.buffMgmt)
    (hCounts : s.CountsDown)
    (hMore : s.unit.buffMgmt.length ≠ 1) :
    s.unit.unitOpenCnt - 1#16 ≠ 0#16 := by
  have hPos := List.length_pos_of_mem hOpen
  rw [hOpeners.counted (hOpeners.unit0_of_mem hOpen),
    ofNat_sub_one hPos]
  intro hZero
  have hMod := congrArg BitVec.toNat hZero
  rw [BitVec.toNat_ofNat] at hMod
  simp only [BitVec.toNat_ofNat, Nat.zero_mod] at hMod
  exact hMore (hCounts (by omega))

theorem openers_closed
    {ios2 : APTR}
    {s s' : Driver}
    (hOpeners : s.Openers)
    (hHandle : s.OpenHandle ios2)
    (hCounts : s.CountsDown)
    (hClosed : Closed ios2 s s') :
    s'.Openers := by
  have hOpen := hHandle.2.2
  have hUnit := hOpeners.unit0_of_mem hOpen
  have hLength := List.length_erase_of_mem hOpen
  exact
    { nodup := by
        rw [hClosed.buffMgmt]
        exact hOpeners.nodup.erase _
      nonNull := by
        rw [hClosed.buffMgmt]
        exact fun hIn =>
          hOpeners.nonNull (List.mem_of_mem_erase hIn)
      counted := fun _ => by
        rw [hClosed.unitOpenCnt, hClosed.buffMgmt, hLength,
          hOpeners.counted hUnit,
          ofNat_sub_one (List.length_pos_of_mem hOpen)]
      freed := fun hFreed => by
        rw [hClosed.unit0, hUnit] at hFreed
        have hZero : s.unit.unitOpenCnt - 1#16 = 0#16 := by
          simpa using hFreed
        have hOne : s.unit.buffMgmt.length = 1 := by
          by_contra hMore
          exact hOpeners.count_ne_zero hOpen hCounts hMore hZero
        rw [hClosed.buffMgmt]
        apply List.eq_nil_of_length_eq_zero
        rw [hLength, hOne] }

/- A close of what is no handle does nothing. -/
theorem deviceClose_of_unit_none
    {ios2 : APTR}
    {s : Driver}
    (hNone : (s.reqs ios2).ioUnit = none) :
    (deviceClose ios2 s).2 = s := by
  unfold deviceClose
  rw [if_neg (fun hBoth => hBoth.2 hNone)]

theorem Openers.next
    {s : Driver}
    {op : Op}
    (hOpeners : s.Openers)
    (hAllowed : op.Allowed s)
    (hCounts : ∀ ios2, op = .close ios2 →
      s.OpenHandle ios2 → s.CountsDown) :
    (s.next op).Openers := by
  cases op with
  | openDevice ios2 s2unit s2flags env =>
      exact (openers_deviceOpen ios2 s2unit s2flags hOpeners
        hAllowed.2.2).1
  | close ios2 =>
      rcases hAllowed.2.2 with hNone | hHandle
      · rw [← deviceClose_of_unit_none hNone] at hOpeners
        exact hOpeners
      · exact openers_closed hOpeners hHandle
          (hCounts ios2 rfl hHandle)
          (closed_deviceClose hOpeners hHandle)
  | expunge =>
      exact hOpeners.congr (unit_deviceExpunge s)
        (unit0_deviceExpunge s)
  | serviceMsgPort o =>
      exact hOpeners.of_serves (serves_serviceMsgPort o s)
  | _ =>
      exact hOpeners.of_serves
        (steady_next s (by simp) (by simp) (by simp)
          (by simp)).toServes

end Driver

end KszDriver
