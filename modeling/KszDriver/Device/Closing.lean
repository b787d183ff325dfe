import KszDriver.Device.Aborting

/-
  What becomes of the requests of an opener that closes.

  `DeviceClose` aborts the reads of the opener and nothing
  else.  As long as nothing else of it waits, no request
  outlives its opener.  Packets may be in the transmit queue
  meanwhile: tasks queue them and drain the queue later.

  Main declarations:
    * `ClosesWithReadsOnly`
    * `Driver.EndsWithOpeners`
    * `endsWithOpeners_of_readsOnly`
    * `orphan_outlives_opener`
-/

------------------------------------------------------------
-- The Condition
------------------------------------------------------------

namespace KszDriver

namespace Driver

/- No request of the opener waits in the port of the unit,
   to be sent, for an orphan packet or for an event. -/
def OnlyReads (s : Driver) (bm : APTR) : Prop :=
  (∀ r ∈ s.lists .unitMsgPort,
    (s.reqs r).bufferManagement ≠ bm) ∧
  (∀ r ∈ s.lists .euTx,
    (s.reqs r).bufferManagement ≠ bm) ∧
  (∀ r ∈ s.lists .euReadOrphan,
    (s.reqs r).bufferManagement ≠ bm) ∧
  (∀ r ∈ s.lists .euEvents,
    (s.reqs r).bufferManagement ≠ bm)

instance (s : Driver) (bm : APTR) :
    Decidable (s.OnlyReads bm) := by
  unfold OnlyReads
  infer_instance

end Driver

/-
  Clients submit requests with the buffer management of an
  open handle.  When a handle is closed, nothing but reads of
  it wait, and the open count of the unit has not wrapped.
-/
def ClosesWithReadsOnly (s : Driver) : PendingOp → Prop
| .device (.beginIo ios2 _) | .queueWrite ios2 =>
    (s.reqs ios2).bufferManagement ∈ s.unit.buffMgmt
| .device (.close ios2) =>
    s.OpenHandle ios2 →
      s.OnlyReads (s.reqs ios2).bufferManagement ∧
        s.CountsDown
| _ => True

instance decidableClosesWithReadsOnly (s : Driver) :
    (op : PendingOp) → Decidable (ClosesWithReadsOnly s op)
| .device (.beginIo ios2 _) | .queueWrite ios2 =>
    inferInstanceAs (Decidable
      ((s.reqs ios2).bufferManagement ∈ s.unit.buffMgmt))
| .device (.close ios2) =>
    inferInstanceAs (Decidable (s.OpenHandle ios2 →
      s.OnlyReads (s.reqs ios2).bufferManagement ∧
        s.CountsDown))
| .device (.openDevice _ _ _ _) | .device .expunge
| .device (.abortIo _) | .device (.serviceMsgPort _)
| .device (.pktReceived _ _ _) | .device (.doEvent _)
| .device (.configChanged _) | .device (.clientWrite _ _)
| .device (.hardware _) | .drain _ =>
    isTrue trivial

/-
  Queued requests refer to openers that are there, a freed
  unit leaves none behind, and closing a handle ends each
  request of it once.
-/
structure Driver.EndsWithOpeners (s : Driver) : Prop where
  queued : ∀ head, ∀ r ∈ s.lists head,
    (s.reqs r).bufferManagement ∈ s.unit.buffMgmt
  freed : s.base.unit0 = false → ∀ head, s.lists head = []
  closing : ∀ ios2, (Op.close ios2).Allowed s →
    ClosesWithReadsOnly s (.device (.close ios2)) →
      s.OpenHandle ios2 → ∀ r, Outstanding r s.log →
        (s.reqs r).bufferManagement =
            (s.reqs ios2).bufferManagement →
          ¬ Outstanding r (s.next (.close ios2)).log ∧
            ∃ req,
              terminations r (s.next (.close ios2)).log =
                req :: terminations r s.log

------------------------------------------------------------
-- The Policy of the Openers
------------------------------------------------------------

/- A request that waits belongs to an opener, and a read to
   the opener whose queue it is in. -/
def openersPolicy (bms : List APTR) : Policy where
  place := fun head _ c =>
    c.bufferManagement ∈ bms ∧
      ∀ bm, head = .bmRxQueue bm → c.bufferManagement = bm
  waits := fun _ _ => True
  lost := fun _ => False
  waits_calm := fun _ _ _ => trivial

theorem openersPolicy_admits
    {bms : List APTR}
    {s : Driver}
    {r : APTR}
    (hOpener : (s.reqs r).bufferManagement ∈ bms) :
    (openersPolicy bms).Admits s r where
  write := fun _ _ _ => trivial
  read := fun _ _ _ =>
    ⟨⟨hOpener, fun _ hHead =>
      ListHead.bmRxQueue.inj hHead⟩, trivial⟩
  orphan := fun _ _ =>
    ⟨⟨hOpener, fun _ hHead => by cases hHead⟩, trivial⟩
  event := fun _ =>
    ⟨⟨hOpener, fun _ hHead => by cases hHead⟩, trivial⟩

/- The invariant of the runs that meet the condition. -/
structure Driver.KeptByOpeners (s : Driver) : Prop where
  openers : s.Openers
  conserved :
    s.Conserved (openersPolicy s.unit.buffMgmt) []

namespace Driver.KeptByOpeners

variable {s : Driver} {op : Op} {ios2 : APTR}

theorem meets
    (hKept : s.KeptByOpeners)
    (hAllowed : op.Allowed s)
    (hGuard : ClosesWithReadsOnly s (.device op)) :
    (openersPolicy s.unit.buffMgmt).Meets s op := by
  cases op with
  | openDevice ios2 s2unit s2flags env =>
      constructor
      · intro hNoUnit head r hMem
        have hOpener := (hKept.conserved.placed head r hMem).1
        rw [hKept.openers.freed hNoUnit] at hOpener
        exact List.not_mem_nil hOpener
      · intro hNonNull r hMem
        have hPlaced := hKept.conserved.placed _ r hMem
        apply hAllowed.2.2 hNonNull
        rw [← hPlaced.2 env.bm rfl]
        exact hPlaced.1
  | beginIo ios2 o =>
      exact ⟨fun _ => openersPolicy_admits hGuard,
        fun _ => ⟨⟨hGuard, fun _ hHead => by cases hHead⟩,
          trivial⟩⟩
  | serviceMsgPort o =>
      intro r hMem
      exact openersPolicy_admits
        (hKept.conserved.placed _ r hMem).1
  | _ => trivial

/- The requests that a close leaves belong to others. -/
theorem conserved_closed
    {s' : Driver}
    (hKept : s.KeptByOpeners)
    (hOwned : s.Owned ios2)
    (hReads : s.OnlyReads (s.reqs ios2).bufferManagement)
    (hClosed : Closed ios2 s s')
    (hCon :
      s'.Conserved (openersPolicy s.unit.buffMgmt) []) :
    s'.Conserved (openersPolicy s'.unit.buffMgmt) [] := by
  have hLinked := hKept.conserved.toLinked
  -- the request keeps its opener unless its list is aborted
  have hSame :
      ∀ head, head ≠ .bmRxQueue
          (s.reqs ios2).bufferManagement →
        ∀ r ∈ s'.lists head, r ∈ s.lists head ∧
          s'.reqs r = s.reqs r := by
    intro head hOther r hMem
    rw [hClosed.lists,
      lists_abortReqList_of_ne hLinked hOther] at hMem
    have hNotHandle : r ≠ ios2 := by
      rintro rfl
      exact hOwned (hKept.conserved.outstanding hMem)
    have hNotRead :
        r ∉ s.lists (.bmRxQueue
          (s.reqs ios2).bufferManagement) :=
      fun hRead => hOther (hLinked.apart _ _ r hMem hRead)
    exact ⟨hMem, (hClosed.reqs r hNotHandle).trans
      (spares_abortReqList s hNotRead).reqs⟩
  apply hCon.change
  · intro head r hMem
    have hPlaced := hCon.placed head r hMem
    refine ⟨?_, hPlaced.2⟩
    rw [hClosed.buffMgmt, hKept.openers.nodup.mem_erase_iff]
    refine ⟨?_, hPlaced.1⟩
    have hLeft (hOther : head ≠ .bmRxQueue
        (s.reqs ios2).bufferManagement)
        (hElse : ∀ r ∈ s.lists head,
          (s.reqs r).bufferManagement ≠
            (s.reqs ios2).bufferManagement) :
        (s'.reqs r).core.bufferManagement ≠
          (s.reqs ios2).bufferManagement := by
      rcases hSame head hOther r hMem with ⟨hMem', hReq⟩
      rw [hReq]
      exact hElse r hMem'
    cases head with
    | unitMsgPort => exact hLeft (by simp) hReads.1
    | euTx => exact hLeft (by simp) hReads.2.1
    | euReadOrphan => exact hLeft (by simp) hReads.2.2.1
    | euEvents => exact hLeft (by simp) hReads.2.2.2
    | bmRxQueue bm =>
        rw [hPlaced.2 bm rfl]
        rintro rfl
        rw [hClosed.lists, lists_abortReqList hLinked] at hMem
        exact List.not_mem_nil hMem
  · exact fun _ _ _ => trivial
  · exact fun _ _ hLost => hLost

/- The steps of the device keep the invariant. -/
theorem next
    (hKept : s.KeptByOpeners)
    (hAllowed : op.Allowed s)
    (hGuard : ClosesWithReadsOnly s (.device op)) :
    (s.next op).KeptByOpeners := by
  have hOpeners : (s.next op).Openers := by
    apply hKept.openers.next hAllowed
    rintro ios2 rfl hHandle
    exact (hGuard hHandle).2
  have hCon :=
    hKept.conserved.next hAllowed (hKept.meets hAllowed hGuard)
  refine ⟨hOpeners, ?_⟩
  cases op with
  | openDevice ios2 s2unit s2flags env =>
      have hMore :=
        (openers_deviceOpen ios2 s2unit s2flags hKept.openers
          hAllowed.2.2).2
      apply hCon.change
      · intro head r hMem
        have hPlaced := hCon.placed head r hMem
        exact ⟨hMore _ hPlaced.1, hPlaced.2⟩
      · exact fun _ _ _ => trivial
      · exact fun _ _ hLost => hLost
  | close ios2 =>
      rcases hAllowed.2.2 with hNone | hHandle
      · have hSame := deviceClose_of_unit_none hNone
        show (deviceClose ios2 s).2.Conserved
          (openersPolicy (deviceClose ios2 s).2.unit.buffMgmt)
            []
        rw [hSame]
        exact hKept.conserved
      · exact hKept.conserved_closed hAllowed.2.1
          (hGuard hHandle).1
          (closed_deviceClose hKept.openers hHandle) hCon
  | expunge =>
      have hUnit : (s.next .expunge).unit = s.unit :=
        unit_deviceExpunge s
      rw [hUnit]
      exact hCon
  | serviceMsgPort o =>
      have hSame :
          (s.next (.serviceMsgPort o)).unit.buffMgmt =
            s.unit.buffMgmt :=
        (serves_serviceMsgPort o s).buffMgmt
      rw [hSame]
      exact hCon
  | _ =>
      rw [(steady_next s (by simp) (by simp) (by simp)
        (by simp)).buffMgmt]
      exact hCon

/- Queueing a packet of an opener keeps it. -/
theorem queueWrite
    (hKept : s.KeptByOpeners)
    (hOwned : s.Owned ios2)
    (hOpener :
      (s.reqs ios2).bufferManagement ∈ s.unit.buffMgmt) :
    (s.queueWrite ios2).KeptByOpeners := by
  have hRest := (dispatched_dispatched ios2 s).rest
  have hUnit : (s.queueWrite ios2).unit = s.unit :=
    unit_of_rest hRest
  have hBase : (s.queueWrite ios2).base = s.base :=
    base_of_rest hRest
  refine ⟨hKept.openers.congr hUnit
    (congrArg DeviceBase.unit0 hBase), ?_⟩
  rw [hUnit]
  exact hKept.conserved.queueWrite hOwned
    ⟨⟨hOpener, fun _ hHead => by cases hHead⟩, trivial⟩

/- So does draining the queue. -/
theorem drain
    (hKept : s.KeptByOpeners)
    (o : Outcome) :
    (sendAllPackets o s).KeptByOpeners := by
  have hSteady := steady_sendAllPackets o s
  refine ⟨hKept.openers.of_serves hSteady.toServes, ?_⟩
  rw [hSteady.buffMgmt]
  exact hKept.conserved.sending.sendAllPackets o

theorem next_pending
    {op : PendingOp}
    (hKept : s.KeptByOpeners)
    (hAllowed : op.Allowed s)
    (hGuard : ClosesWithReadsOnly s op) :
    (s.nextPending op).KeptByOpeners := by
  cases op with
  | device op => exact hKept.next hAllowed hGuard
  | queueWrite ios2 => exact hKept.queueWrite hAllowed.2.1 hGuard
  | drain o => exact hKept.drain o

/- What the invariant says of the requests. -/
theorem endsWithOpeners
    (hKept : s.KeptByOpeners) :
    s.EndsWithOpeners where
  queued := fun head r hMem =>
    (hKept.conserved.placed head r hMem).1
  freed := by
    intro hNoUnit head
    apply List.eq_nil_iff_forall_not_mem.mpr
    intro r hMem
    have hOpener := (hKept.conserved.placed head r hMem).1
    rw [hKept.openers.freed hNoUnit] at hOpener
    exact List.not_mem_nil hOpener
  closing := by
    intro ios2 hAllowed hGuard hHandle r hDue hOpener
    have hReads := (hGuard hHandle).1
    have hClosed := closed_deviceClose hKept.openers hHandle
    have hLinked := hKept.conserved.toLinked
    have hMem :
        r ∈ s.lists (.bmRxQueue
          (s.reqs ios2).bufferManagement) := by
      rcases hKept.conserved.found r hDue with
        hLost | hHeld | ⟨head, hMem⟩
      · exact hLost.elim
      · exact absurd hHeld List.not_mem_nil
      · have hPlaced := hKept.conserved.placed head r hMem
        cases head with
        | unitMsgPort => exact absurd hOpener (hReads.1 r hMem)
        | euTx => exact absurd hOpener (hReads.2.1 r hMem)
        | euReadOrphan =>
            exact absurd hOpener (hReads.2.2.1 r hMem)
        | euEvents =>
            exact absurd hOpener (hReads.2.2.2 r hMem)
        | bmRxQueue bm =>
            have hQueue :
                (s.reqs r).bufferManagement = bm :=
              hPlaced.2 bm rfl
            rw [← hOpener, hQueue]
            exact hMem
    constructor
    · intro hDue'
      have hAborted := (hClosed.outstanding r).mp hDue'
      rcases (hKept.conserved.abortReqList _).found r
        hAborted with hLost | hHeld | ⟨head, hLeft⟩
      · exact hLost
      · exact absurd hHeld List.not_mem_nil
      · exact ((mem_lists_abortLoop hLinked r).mp hLeft).2 hMem
    · exact ⟨_, (hClosed.terminations r).trans
        (terminations_abortReqList hLinked hMem)⟩

end Driver.KeptByOpeners

------------------------------------------------------------
-- Runs
------------------------------------------------------------

/-
  In every run that closes a handle only when nothing but
  reads of it wait, requests end with their openers.
-/
theorem endsWithOpeners_of_readsOnly
    {s : Driver}
    (hReach : pendingMachine.Reach ClosesWithReadsOnly s) :
    s.EndsWithOpeners := by
  have hKept : s.KeptByOpeners :=
    hReach.invariant
      (fun _ hStart =>
        ⟨Driver.Openers.start hStart,
          Driver.Start.conserved hStart _⟩)
      (fun _ _ hAllowed hGuard hState =>
        hState.next_pending hAllowed hGuard)
  exact hKept.endsWithOpeners

/-
  Two openers, a read of the first that waits when it closes,
  and a packet of the second that is still in the queue.
-/
def readAtClose : List PendingOp :=
  (onlineSteps ++
    [Op.openDevice 17 0#32 0#32 (plainOpen 41)] ++
    submitSteps 8 (plainRequest cmdRead) ++
    [Op.clientWrite 9
      { plainRequest cmdWrite with bufferManagement := 41 }]
        ).map .device ++
    [.queueWrite 9, .device (.close 7)]

theorem endsWithOpeners_readAtClose :
    (pendingMachine.run readAtClose
      (loadedDriver (idleRegisters 0x1800#16))
        ).EndsWithOpeners :=
  endsWithOpeners_of_readsOnly
    (Machine.reach_run _
      (Machine.Reach.start (start_loadedDriver _))
      (by decide +kernel))

/-
  A request for orphan packets is not aborted when its opener
  closes: it waits on, and its opener is gone.
-/
theorem orphan_outlives_opener :
    ∃ s : Driver,
      pendingMachine.Reach Machine.Free s ∧
        (Op.close 7).Allowed s ∧ s.OpenHandle 7 ∧
        Outstanding 8 s.log ∧
        (s.reqs 8).bufferManagement =
          (s.reqs 7).bufferManagement ∧
        Outstanding 8 (s.next (.close 7)).log ∧
        8 ∈ (s.next (.close 7)).lists .euReadOrphan ∧
        ((s.next (.close 7)).reqs 8).bufferManagement ∉
          (s.next (.close 7)).unit.buffMgmt := by
  refine ⟨pendingMachine.run
    ((onlineSteps ++ submitSteps 8
      (plainRequest s2ReadOrphan)).map .device)
    (loadedDriver (idleRegisters 0x1800#16)), ?_, ?_⟩
  · exact Machine.reach_run _
      (Machine.Reach.start (start_loadedDriver _))
      (by decide +kernel)
  · decide +kernel

end KszDriver
