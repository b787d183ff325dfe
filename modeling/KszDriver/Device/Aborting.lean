import KszDriver.Device.QueueSteps

/-
  What `AbortIO` does to a request, wherever it waits.

  Writers run in tasks of their own: a task queues its packet
  and drains the queue afterwards, and other tasks may come
  between.

  Main declarations:
    * `pendingMachine`
    * `AbortIoComplete`
    * `Driver.Searched`
    * `abortIoComplete_iff`
    * `not_abortIoComplete_inPort`
-/

------------------------------------------------------------
-- Runs with Packets in the Queue
------------------------------------------------------------

namespace KszDriver

open Driver

/- `DevCmdWritePacket` up to and including `PutMsg`. -/
def Driver.queueWrite (s : Driver) (ios2 : APTR) : Driver :=
  ((s.dispatched ios2).setReq ios2 (fun req =>
    { req with
      ioFlags := req.ioFlags &&& ~~~iofQuick
      lnType := ntMessage })).putMsg .euTx ios2

/- A write that can be sent is queued and the queue drained. -/
theorem deviceBeginIo_eq_queueWrite
    {o : Outcome}
    {ios2 : APTR}
    {s : Driver}
    (hWrite : IsWrite (s.reqs ios2).ioCommand)
    (hOnline : s.Online)
    (hFits : (s.reqs ios2).dataLength ≤ s.unit.mtu) :
    deviceBeginIo o ios2 s =
      sendAllPackets o (s.queueWrite ios2) := by
  have hDispatched := dispatched_dispatched ios2 s
  have hUnit := unit_of_rest hDispatched.rest
  have hOnline' : (s.dispatched ios2).Online := by
    rw [Online, hUnit]
    exact hOnline
  rw [deviceBeginIo_of_isWrite hWrite]
  unfold devCmdWritePacket
  rw [if_pos hOnline', hUnit, hDispatched.req, if_pos hFits]
  rfl

/- The steps of the device, and the two halves of a write. -/
inductive PendingOp where
| device (op : Op)
| queueWrite (ios2 : APTR)
| drain (o : Outcome)

def Driver.nextPending (s : Driver) : PendingOp → Driver
| .device op => s.next op
| .queueWrite ios2 => s.queueWrite ios2
| .drain o => sendAllPackets o s

/- A packet is queued where a write would be. -/
def PendingOp.Allowed (s : Driver) : PendingOp → Prop
| .device op => op.Allowed s
| .queueWrite ios2 =>
    s.base.unit0 = true ∧ s.Owned ios2 ∧
      IsWrite (s.reqs ios2).ioCommand ∧ s.Online ∧
      (s.reqs ios2).dataLength ≤ s.unit.mtu
| .drain _ => s.base.unit0 = true

instance (s : Driver) (op : PendingOp) :
    Decidable (op.Allowed s) := by
  cases op <;> unfold PendingOp.Allowed <;> infer_instance

/- The device with its transmit queue in use. -/
def pendingMachine : Machine Driver PendingOp where
  Start := Driver.Start
  Allowed := fun s op => op.Allowed s
  next := Driver.nextPending

instance (s : Driver) (op : PendingOp) :
    Decidable (Machine.Free s op) :=
  isTrue trivial

instance decidablePendingRuns
    (C : Driver → PendingOp → Prop)
    [hGuard : ∀ s op, Decidable (C s op)]
    (ops : List PendingOp)
    (s : Driver) :
    Decidable (pendingMachine.Runs C ops s) :=
  Machine.decidableRuns pendingMachine C
    (fun s op => inferInstanceAs (Decidable (op.Allowed s)))
    hGuard ops s

namespace Driver

variable {s : Driver} {ios2 : APTR}

/- Queueing a packet keeps a policy that admits it. -/
theorem Conserved.queueWrite
    {P : Policy}
    (hCon : s.Conserved P [])
    (hOwned : s.Owned ios2)
    (hAdmit :
      P.place .euTx ios2 (s.reqs ios2).core.calm ∧
        P.waits ios2 (s.reqs ios2).core.calm) :
    (s.queueWrite ios2).Conserved P [] := by
  have hTaken := hCon.submit hOwned
  have hReset := hTaken.setReq_of_core ios2
    (fun req => { req with ioError := 0 }) rfl
  have hDispatched :
      (s.dispatched ios2).Conserved P [ios2] :=
    Conserved.ite
      (fun _ => hReset.setReq_of_core ios2 _ rfl)
      (fun _ => hReset)
  have hCleared := hDispatched.setReq_calm
    (fun req =>
      { req with
        ioFlags := req.ioFlags &&& ~~~iofQuick
        lnType := ntMessage }) (core_clearQuick _)
  apply hCleared.putMsg
  have hSame : ((s.dispatched ios2).reqs ios2).core =
      (s.reqs ios2).core := by
    rw [(dispatched_dispatched ios2 s).req]
    rfl
  rw [reqs_setReq, if_pos rfl, core_clearQuick, hSame]
  exact hAdmit

theorem Waits.queueWrite
    (hWaits : s.Waits)
    (hOwned : s.Owned ios2)
    (hWrite : IsWrite (s.reqs ios2).ioCommand) :
    (s.queueWrite ios2).Orderly := by
  have hTaken := thins_submitted (s := s) ios2
  have hReset := hTaken.trans (thins_resetError ios2)
  have hHold := (hWaits.holding hOwned).thins hReset
  have hDispatched : Thins s (s.dispatched ios2) :=
    Thins.ite
      (fun _ => hReset.trans (thins_setReq hHold.free _))
      (fun _ => hReset)
  have hCleared := hDispatched.trans (thins_setReq
    (hDispatched.free (hWaits.holding hOwned).free)
    (fun req =>
      { req with
        ioFlags := req.ioFlags &&& ~~~iofQuick
        lnType := ntMessage }))
  have hCommand :
      IsWrite ((s.dispatched ios2).reqs ios2).ioCommand := by
    rw [(dispatched_dispatched ios2 s).req]
    exact hWrite
  have hHold' := (hWaits.holding hOwned).thins hCleared
  unfold KszDriver.Driver.queueWrite putMsg
  apply Joins.orderly hHold'
  apply joins_addTail
  · rfl
  · rw [reqs_setReq, if_pos rfl]
    exact hCommand
  · intro hHead
    cases hHead

/- The transmit queue may be drained at any time. -/
theorem Waits.drain
    (hWaits : s.Waits)
    (o : Outcome) :
    (sendAllPackets o s).Waits where
  conserved := hWaits.conserved.sending.sendAllPackets o
  orderly :=
    hWaits.orderly.thins (hWaits.orderly.sendAllPackets o)

end Driver

theorem waits_of_reach_pending
    {s : Driver}
    (hReach : pendingMachine.Reach Machine.Free s) :
    s.Waits := by
  apply hReach.invariant
  · intro s hStart
    exact hStart.waits
  · intro s op hAllowed _ hWaits
    cases op with
    | device op => exact hWaits.next_waits hAllowed
    | queueWrite ios2 =>
        exact
          { conserved :=
              hWaits.conserved.queueWrite hAllowed.2.1
                ⟨trivial, trivial⟩
            orderly :=
              hWaits.queueWrite hAllowed.2.1 hAllowed.2.2.1 }
    | drain o => exact hWaits.drain o

------------------------------------------------------------
-- Aborting
------------------------------------------------------------

/-
  From `s` to `s'` a request was aborted: it left the one list
  it waited in and ended once, and nothing else happened.
-/
structure Aborted (ios2 : APTR) (s s' : Driver) : Prop where
  waited : ∃ head, ios2 ∈ s.lists head
  lists : ∀ head, s'.lists head = (s.lists head).erase ios2
  once : terminations ios2 s'.log =
    { s.reqs ios2 with ioError := ioerrAborted } ::
      terminations ios2 s.log
  spared : ∀ r, r ≠ ios2 → Spares r s s'
  rest : s'.rest = s.rest

/- `AbortIO` ends a request that is not done, and leaves one
   that is. -/
def AbortIoComplete (ios2 : APTR) (s : Driver) : Prop :=
  if Outstanding ios2 s.log then
    Aborted ios2 s (deviceAbortIo ios2 s).2
  else (deviceAbortIo ios2 s).2 = s

/-
  The request waits in one of the lists that `AbortIO` looks
  into.  It does not look into the port of the unit, and not
  into the transmit queue for a multicast packet.
-/
def Driver.Searched (s : Driver) (ios2 : APTR) : Prop :=
  (∃ bm, ios2 ∈ s.lists (.bmRxQueue bm)) ∨
    ios2 ∈ s.lists .euReadOrphan ∨
    ios2 ∈ s.lists .euEvents ∨
    (ios2 ∈ s.lists .euTx ∧
      (s.reqs ios2).ioCommand ≠ s2Multicast)

section Abort

variable {s : Driver} {ios2 : APTR}

/- The list that is searched for a read. -/
theorem abortList_of_isFor
    {head : ListHead}
    {req : IOSana2Req}
    (hFor : head.IsFor req.waiter)
    (hPort : head ≠ .unitMsgPort)
    (hMulticast : req.ioCommand ≠ s2Multicast) :
    abortList req = some head := by
  unfold abortList
  cases head with
  | unitMsgPort => exact absurd rfl hPort
  | bmRxQueue bm =>
      have hRead : req.ioCommand = cmdRead := hFor.1
      have hBm : req.bufferManagement = bm := hFor.2
      rw [if_pos hRead, hBm]
  | euReadOrphan =>
      have hOrphan : req.ioCommand = s2ReadOrphan := hFor
      rw [hOrphan]
      rfl
  | euEvents =>
      have hEvent : req.ioCommand = s2OnEvent := hFor
      rw [hEvent]
      rfl
  | euTx =>
      rcases hFor with hWrite | hBroadcast | hOther
      · have hCommand : req.ioCommand = cmdWrite := hWrite
        rw [hCommand]
        rfl
      · have hCommand : req.ioCommand = s2Broadcast :=
          hBroadcast
        rw [hCommand]
        rfl
      · exact absurd hOther hMulticast

/- A request that is not in the list searched for it is left
   alone. -/
theorem deviceAbortIo_of_not_mem
    (hNot : ∀ head, abortList (s.reqs ios2) = some head →
      ios2 ∉ s.lists head) :
    (deviceAbortIo ios2 s).2 = s := by
  unfold deviceAbortIo
  split
  · cases hList : abortList (s.reqs ios2) with
    | none => rfl
    | some head =>
        unfold abortRequestAndRemove
        dsimp only
        rw [if_neg (hNot head hList)]
  · rfl

theorem deviceAbortIo_of_mem
    {head : ListHead}
    (hPending : (s.reqs ios2).lnType = ntMessage)
    (hList : abortList (s.reqs ios2) = some head)
    (hMem : ios2 ∈ s.lists head) :
    (deviceAbortIo ios2 s).2 = s.abortOne ios2 := by
  unfold deviceAbortIo
  rw [if_pos hPending, hList]
  unfold abortRequestAndRemove
  dsimp only
  rw [if_pos hMem]

theorem aborted_abortOne
    {head : ListHead}
    (hMem : ios2 ∈ s.lists head) :
    Aborted ios2 s (s.abortOne ios2) where
  waited := ⟨head, hMem⟩
  lists := by
    rw [lists_abortOne]
    exact fun _ => rfl
  once := terminations_abortOne s
  spared := fun _ hOther => spares_abortOne s hOther
  rest := rest_abortOne s ios2

/- A request that is aborted leaves its list. -/
theorem Aborted.not_same
    {s' : Driver}
    (hLinked : s.Linked)
    (hAborted : Aborted ios2 s s') :
    s' ≠ s := by
  rcases hAborted.waited with ⟨head, hMem⟩
  intro hSame
  have hLists := hAborted.lists head
  rw [hSame] at hLists
  rw [hLists] at hMem
  exact (hLinked.once head).not_mem_erase hMem

theorem Driver.aborted_of_searched
    (hOrderly : s.Orderly)
    (hSearched : s.Searched ios2) :
    Aborted ios2 s (deviceAbortIo ios2 s).2 := by
  have hAborts :
      ∀ head, ios2 ∈ s.lists head → head ≠ .unitMsgPort →
        (s.reqs ios2).ioCommand ≠ s2Multicast →
          Aborted ios2 s (deviceAbortIo ios2 s).2 := by
    intro head hMem hPort hMulticast
    rw [deviceAbortIo_of_mem (hOrderly.pending head ios2 hMem)
      (abortList_of_isFor (hOrderly.isFor head ios2 hMem)
        hPort hMulticast) hMem]
    exact aborted_abortOne hMem
  rcases hSearched with ⟨bm, hIn⟩ | hIn | hIn | ⟨hIn, hOther⟩
  · apply hAborts _ hIn (by simp)
    rw [show (s.reqs ios2).ioCommand = cmdRead from
      (hOrderly.isFor _ ios2 hIn).1]
    decide
  · apply hAborts _ hIn (by simp)
    rw [show (s.reqs ios2).ioCommand = s2ReadOrphan from
      hOrderly.isFor _ ios2 hIn]
    decide
  · apply hAborts _ hIn (by simp)
    rw [show (s.reqs ios2).ioCommand = s2OnEvent from
      hOrderly.isFor _ ios2 hIn]
    decide
  · exact hAborts _ hIn (by simp) hOther

/- Wherever else it waits, it is not found. -/
theorem Driver.not_found
    {head head' : ListHead}
    (hOrderly : s.Orderly)
    (hNot : ¬ s.Searched ios2)
    (hMem : ios2 ∈ s.lists head)
    (hList : abortList (s.reqs ios2) = some head') :
    ios2 ∉ s.lists head' := by
  intro hIn
  have hSame := hOrderly.apart head head' ios2 hMem hIn
  subst hSame
  apply hNot
  cases head with
  | unitMsgPort =>
      unfold abortList at hList
      split at hList
      · cases hList
      · split at hList
        · cases hList
        · split at hList
          · cases hList
          · split at hList
            · cases hList
            · split at hList
              · cases hList
              · cases hList
  | bmRxQueue bm => exact Or.inl ⟨bm, hMem⟩
  | euReadOrphan => exact Or.inr (Or.inl hMem)
  | euEvents => exact Or.inr (Or.inr (Or.inl hMem))
  | euTx =>
      refine Or.inr (Or.inr (Or.inr ⟨hMem, ?_⟩))
      intro hMulticast
      unfold abortList at hList
      rw [hMulticast] at hList
      cases hList

end Abort

/-
  In every state the device reaches, `AbortIO` is complete for
  exactly the requests that are done or wait where it looks.
-/
theorem abortIoComplete_iff
    {s : Driver}
    (hReach : pendingMachine.Reach Machine.Free s)
    (ios2 : APTR) :
    AbortIoComplete ios2 s ↔
      (Outstanding ios2 s.log → s.Searched ios2) := by
  have hWaits := waits_of_reach_pending hReach
  unfold AbortIoComplete
  by_cases hDue : Outstanding ios2 s.log
  · rw [if_pos hDue]
    constructor
    · intro hAborted _
      by_contra hNot
      rcases hAborted.waited with ⟨head, hMem⟩
      apply hAborted.not_same hWaits.orderly.toLinked
      apply deviceAbortIo_of_not_mem
      intro head' hList
      exact not_found hWaits.orderly hNot hMem hList
    · intro hSearched
      exact aborted_of_searched hWaits.orderly
        (hSearched hDue)
  · rw [if_neg hDue]
    constructor
    · exact fun _ hDue' => absurd hDue' hDue
    · intro _
      apply deviceAbortIo_of_not_mem
      intro head _ hMem
      exact hDue (hWaits.conserved.outstanding hMem)

/- An online unit with a read request in its queue. -/
def readInQueue : List PendingOp :=
  (onlineSteps ++ submitSteps 9 (plainRequest cmdRead)).map
    .device

theorem abortIoComplete_read :
    AbortIoComplete 9
        (pendingMachine.run readInQueue
          (loadedDriver (idleRegisters 0x1800#16))) ↔
      (Outstanding 9
          (pendingMachine.run readInQueue
            (loadedDriver (idleRegisters 0x1800#16))).log →
        (pendingMachine.run readInQueue
          (loadedDriver (idleRegisters 0x1800#16))).Searched
            9) :=
  abortIoComplete_iff
    (Machine.reach_run _
      (Machine.Reach.start (start_loadedDriver _))
      (by decide +kernel)) 9

/- A request for an event that the unit process has not yet
   taken from its port. -/
def eventInPort : List PendingOp :=
  (.openDevice 7 0#32 0#32 (plainOpen 40) ::
    submitSteps 9
      { plainRequest s2OnEvent with
        wireError := s2eventOnline }).map .device

/- It is looked for in the list of events. -/
theorem not_abortIoComplete_inPort :
    pendingMachine.Reach Machine.Free
        (pendingMachine.run eventInPort
          (loadedDriver (idleRegisters 0x1800#16))) ∧
      (pendingMachine.run eventInPort
        (loadedDriver (idleRegisters 0x1800#16))).base.unit0 =
          true ∧
      ¬ AbortIoComplete 9
        (pendingMachine.run eventInPort
          (loadedDriver (idleRegisters 0x1800#16))) := by
  refine ⟨?_, by decide +kernel, ?_⟩
  · exact Machine.reach_run _
      (Machine.Reach.start (start_loadedDriver _))
      (by decide +kernel)
  · intro hComplete
    have hDue :
        Outstanding 9 (pendingMachine.run eventInPort
          (loadedDriver (idleRegisters 0x1800#16))).log := by
      decide +kernel
    unfold AbortIoComplete at hComplete
    rw [if_pos hDue] at hComplete
    have hLeft := hComplete.lists .unitMsgPort
    revert hLeft
    decide +kernel

end KszDriver
