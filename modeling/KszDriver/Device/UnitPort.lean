import KszDriver.Device.QueueSteps

/-
  The message port of the unit.  Nothing but `PutMsg` adds to
  it and nothing but `GetMsg` takes from it: what a handler,
  an event or a packet ends waits in other lists.

  Main declarations:
    * `Driver.PortIs`, `PortIs.performIo`
    * `Driver.puts`, `Driver.takes`
    * `port_next`
-/

------------------------------------------------------------
-- Operations Elsewhere
------------------------------------------------------------

namespace KszDriver

namespace Driver

/- The requests in the port, none of which is in another
   list. -/
structure PortIs (waiting : List APTR) (s : Driver) :
    Prop where
  port : s.lists .unitMsgPort = waiting
  apart : ∀ head, head ≠ .unitMsgPort →
    ∀ r ∈ s.lists head, r ∉ waiting

theorem Linked.portIs
    {s : Driver}
    (hLinked : s.Linked) :
    s.PortIs (s.lists .unitMsgPort) where
  port := rfl
  apart := fun head hOther r hIn hPort =>
    hOther (hLinked.apart head .unitMsgPort r hIn hPort)

variable {waiting : List APTR} {s s' : Driver}
variable {o : Outcome} {ios2 : APTR}

namespace PortIs

/- The lists are the same. -/
theorem same
    (hIs : s.PortIs waiting)
    (hLists : s'.lists = s.lists) :
    s'.PortIs waiting where
  port := by
    rw [hLists]
    exact hIs.port
  apart := by
    rw [hLists]
    exact hIs.apart

theorem ite
    {c : Prop} [Decidable c]
    {s₁ s₂ : Driver}
    (hThen : s₁.PortIs waiting)
    (hElse : s₂.PortIs waiting) :
    (if c then s₁ else s₂).PortIs waiting := by
  by_cases hCond : c
  · rw [if_pos hCond]
    exact hThen
  · rw [if_neg hCond]
    exact hElse

theorem setReq
    (hIs : s.PortIs waiting)
    (f : IOSana2Req → IOSana2Req) :
    (s.setReq ios2 f).PortIs waiting :=
  hIs.same rfl

theorem setUnit
    (hIs : s.PortIs waiting)
    (f : DeviceDriverUnit → DeviceDriverUnit) :
    (s.setUnit f).PortIs waiting :=
  hIs.same rfl

theorem setBase
    (hIs : s.PortIs waiting)
    (f : DeviceBase → DeviceBase) :
    (s.setBase f).PortIs waiting :=
  hIs.same rfl

theorem runNic
    {α : Type}
    (hIs : s.PortIs waiting)
    (p : NicM α) :
    (s.runNic p).PortIs waiting :=
  hIs.same rfl

theorem setQuery
    (hIs : s.PortIs waiting)
    (query : APTR)
    (f : Sana2DeviceQuery → Sana2DeviceQuery) :
    (s.setQuery query f).PortIs waiting :=
  hIs.same rfl

theorem termIo
    (hIs : s.PortIs waiting) :
    (s.termIo ios2).PortIs waiting :=
  hIs.same (lists_termIo s ios2)

theorem termWithError
    (hIs : s.PortIs waiting)
    (ioError : Int)
    (wireError : ULONG) :
    (s.termWithError ios2 ioError wireError).PortIs waiting :=
  (hIs.setReq _).termIo

/- A request that is not in the port is unlinked. -/
theorem remove
    (hIs : s.PortIs waiting)
    (hOther : ios2 ∉ waiting) :
    (s.remove ios2).PortIs waiting where
  port := by
    change (s.lists .unitMsgPort).erase ios2 = waiting
    rw [hIs.port, List.erase_of_not_mem hOther]
  apart := fun head hHead r hIn =>
    hIs.apart head hHead r (List.mem_of_mem_erase hIn)

/- The first request in the port is taken from it. -/
theorem taken
    {r : APTR}
    {others : List APTR}
    (hIs : s.PortIs (s.lists .unitMsgPort))
    (hFirst : s.lists .unitMsgPort = r :: others) :
    (s.remove r).PortIs others where
  port := by
    change (s.lists .unitMsgPort).erase r = others
    rw [hFirst, List.erase_cons_head]
  apart := by
    intro head hHead r' hIn hOthers
    apply hIs.apart head hHead r' (List.mem_of_mem_erase hIn)
    rw [hFirst]
    exact List.mem_cons_of_mem r hOthers

/- It is put into another list. -/
theorem addTail
    {head : ListHead}
    (hIs : s.PortIs waiting)
    (hHead : head ≠ .unitMsgPort)
    (hOther : ios2 ∉ waiting) :
    (s.addTail head ios2).PortIs waiting where
  port := by
    rw [lists_addTail, if_neg (Ne.symm hHead)]
    exact hIs.port
  apart := by
    intro head' hHead' r hIn
    rw [lists_addTail] at hIn
    split at hIn
    · rcases List.mem_append.mp hIn with hOld | hNew
      · exact hIs.apart head hHead r hOld
      · rwa [List.mem_singleton.mp hNew]
    · exact hIs.apart head' hHead' r hIn

theorem abortOne
    (hIs : s.PortIs waiting)
    (hOther : ios2 ∉ waiting) :
    (s.abortOne ios2).PortIs waiting :=
  ((hIs.remove hOther).setReq _).termIo

theorem abortLoop
    {rs : List APTR}
    (hIs : s.PortIs waiting)
    (hOthers : ∀ r ∈ rs, r ∉ waiting) :
    (abortLoop rs s).PortIs waiting := by
  induction rs generalizing s with
  | nil => exact hIs
  | cons r rs ih =>
      exact ih (hIs.abortOne (hOthers r List.mem_cons_self))
        (fun r' hIn => hOthers r' (List.mem_cons_of_mem r hIn))

theorem abortReqList
    {head : ListHead}
    (hIs : s.PortIs waiting)
    (hHead : head ≠ .unitMsgPort) :
    (s.abortReqList head).PortIs waiting :=
  hIs.abortLoop (hIs.apart head hHead)

theorem doEventLoop
    {events : ULONG}
    {rs : List APTR}
    (hIs : s.PortIs waiting)
    (hOthers : ∀ r ∈ rs, r ∉ waiting) :
    (doEventLoop events rs s).PortIs waiting := by
  induction rs generalizing s with
  | nil => exact hIs
  | cons r rs ih =>
      have hRest : ∀ r' ∈ rs, r' ∉ waiting :=
        fun r' hIn => hOthers r' (List.mem_cons_of_mem r hIn)
      unfold Driver.doEventLoop
      split
      · have hMarked : (s.setErrorOnRequest r 0 events).PortIs
            waiting := hIs.setReq _
        exact ih (hMarked.remove
          (hOthers r List.mem_cons_self)).termIo hRest
      · exact ih hIs hRest

theorem doEvent
    (hIs : s.PortIs waiting)
    (events : ULONG) :
    (s.doEvent events).PortIs waiting := by
  have hFired : (s.record (.fired events)).PortIs waiting :=
    hIs.same rfl
  exact hFired.doEventLoop
    (hIs.apart .euEvents ListHead.noConfusion)

------------------------------------------------------------
-- Commands
------------------------------------------------------------

theorem sendRaw
    (hIs : s.PortIs waiting) :
    (sendRaw o ios2 s).PortIs waiting := by
  unfold KszDriver.sendRaw
  exact ite (ite (hIs.same rfl) (hIs.same rfl))
    (hIs.same rfl)

theorem sendCooked
    (hIs : s.PortIs waiting) :
    (sendCooked o ios2 s).PortIs waiting := by
  unfold KszDriver.sendCooked
  dsimp only
  split
  · split
    · exact hIs.same rfl
    · unfold sendCopied
      exact ite (hIs.same rfl) (hIs.same rfl)
  · exact hIs.same rfl

theorem sendOne
    (hIs : s.PortIs waiting) :
    (sendOne o ios2 s).PortIs waiting := by
  have hSent :
      (if (s.reqs ios2).Raw then KszDriver.sendRaw o ios2 s
        else KszDriver.sendCooked o ios2 s).PortIs waiting :=
    ite hIs.sendRaw hIs.sendCooked
  unfold KszDriver.sendOne
  exact (ite (hSent.doEvent s2eventBuff) hSent).termIo

theorem sendLoop
    {rs : List APTR}
    (hIs : s.PortIs waiting)
    (hOthers : ∀ r ∈ rs, r ∉ waiting) :
    (sendLoop o rs s).PortIs waiting := by
  induction rs generalizing s with
  | nil => exact hIs
  | cons r rs ih =>
      exact ih
        (hIs.remove (hOthers r List.mem_cons_self)).sendOne
        (fun r' hIn => hOthers r' (List.mem_cons_of_mem r hIn))

theorem devCmdWritePacket
    (hIs : s.PortIs waiting)
    (hOther : ios2 ∉ waiting) :
    (devCmdWritePacket o ios2 s).PortIs waiting := by
  have hQueued (f : IOSana2Req → IOSana2Req) :
      ((s.setReq ios2 f).putMsg .euTx ios2).PortIs waiting :=
    ((hIs.setReq f).setReq _).addTail ListHead.noConfusion
      hOther
  unfold KszDriver.devCmdWritePacket
  refine ite (ite ?_ ?_) (hIs.termWithError _ _)
  · exact (hQueued _).sendLoop
      ((hQueued _).apart .euTx ListHead.noConfusion)
  · exact (hIs.termWithError _ _).doEvent s2eventTx

theorem queuePending
    {head : ListHead}
    (hIs : s.PortIs waiting)
    (hHead : head ≠ .unitMsgPort)
    (hOther : ios2 ∉ waiting) :
    (queuePending head ios2 s).PortIs waiting :=
  (hIs.setReq _).addTail hHead hOther

theorem flushReadQueues
    (bms : List APTR)
    (hIs : s.PortIs waiting) :
    (flushReadQueues bms s).PortIs waiting := by
  induction bms generalizing s with
  | nil => exact hIs
  | cons bm bms ih =>
      exact ih (hIs.abortReqList ListHead.noConfusion)

theorem flushRequests
    (hIs : s.PortIs waiting) :
    (flushRequests s).PortIs waiting :=
  ((hIs.flushReadQueues _).abortReqList
    ListHead.noConfusion).abortReqList ListHead.noConfusion

theorem goOnline
    (hIs : s.PortIs waiting) :
    (goOnline s).PortIs waiting := by
  have hStarted : s.started.PortIs waiting := hIs.same rfl
  exact hStarted.doEvent s2eventOnline

theorem devCmdOnline
    (hIs : s.PortIs waiting) :
    (devCmdOnline ios2 s).PortIs waiting :=
  ite (ite hIs.termIo hIs.goOnline.termIo)
    (hIs.termWithError _ _)

theorem goOffline
    (hIs : s.PortIs waiting) :
    (goOffline s).PortIs waiting :=
  (((hIs.setUnit _).doEvent s2eventOffline).flushRequests).same
    rfl

theorem devCmdOffline
    (hIs : s.PortIs waiting) :
    (devCmdOffline (some ios2) s).PortIs waiting := by
  have hStopped :
      (if s.Online then KszDriver.goOffline s
        else s).PortIs waiting := ite hIs.goOffline hIs
  exact hStopped.termIo

theorem devCmdConfigInterface
    (hIs : s.PortIs waiting) :
    (devCmdConfigInterface ios2 s).PortIs waiting := by
  unfold KszDriver.devCmdConfigInterface
  refine ite (hIs.termWithError _ _) ?_
  exact (((hIs.setUnit _).runNic _).setUnit _).devCmdOnline

theorem devCmdNsDeviceQuery
    (hIs : s.PortIs waiting) :
    (devCmdNsDeviceQuery ios2 s).PortIs waiting := by
  unfold KszDriver.devCmdNsDeviceQuery
  dsimp only
  refine termIo (setReq ?_ _)
  exact ite (hIs.same rfl) hIs

/- A command that works on a request outside of the port. -/
theorem dispatch
    {command : UWORD}
    (hIs : s.PortIs waiting)
    (hOther : ios2 ∉ waiting) :
    (dispatch o command ios2 s).PortIs waiting := by
  have hQuery : (devCmdDeviceQuery ios2 s).PortIs waiting :=
    ite
      (ite (hIs.setQuery _ _).termIo (hIs.termWithError _ _))
      (hIs.termWithError _ _)
  have hStats : (devCmdStats ios2 s).PortIs waiting :=
    ite hIs.termIo (hIs.termWithError _ _)
  have hTrack : (devCmdTrackType o ios2 s).PortIs waiting :=
    ite (hIs.termWithError _ _)
      (ite (hIs.setUnit _).termIo hIs.termIo)
  have hUntrack : (devCmdUnTrackType ios2 s).PortIs waiting :=
    ite (hIs.setUnit _).termIo (hIs.termWithError _ _)
  have hRead : (devCmdReadPacket ios2 s).PortIs waiting :=
    ite
      (ite (hIs.queuePending ListHead.noConfusion hOther)
        (hIs.termWithError _ _))
      (hIs.termWithError _ _)
  have hOrphan : (devCmdReadOrphan ios2 s).PortIs waiting :=
    ite (hIs.queuePending ListHead.noConfusion hOther)
      (hIs.termWithError _ _)
  have hEvent : (devCmdOnEvent ios2 s).PortIs waiting :=
    ite (hIs.setReq _).termIo
      (hIs.addTail ListHead.noConfusion hOther)
  unfold KszDriver.dispatch
  refine ite (hIs.devCmdWritePacket hOther) ?_
  refine ite hRead ?_
  refine ite ((hIs.setReq _).devCmdWritePacket hOther) ?_
  refine ite (hIs.devCmdWritePacket hOther) ?_
  refine ite hIs.flushRequests.termIo ?_
  refine ite hEvent ?_
  refine ite hIs.devCmdOnline ?_
  refine ite hIs.devCmdOffline ?_
  refine ite hQuery ?_
  refine ite (hIs.setReq _).termIo ?_
  refine ite hIs.devCmdConfigInterface ?_
  refine ite hOrphan ?_
  refine ite hStats ?_
  refine ite hTrack ?_
  refine ite hUntrack ?_
  refine ite hStats ?_
  exact ite hIs.devCmdNsDeviceQuery (hIs.termWithError _ _)

theorem performIo
    (hIs : s.PortIs waiting)
    (hOther : ios2 ∉ waiting) :
    (performIo o ios2 s).PortIs waiting :=
  (hIs.setReq _).dispatch hOther

------------------------------------------------------------
-- Packets and Entry Points
------------------------------------------------------------

theorem fulfillReadIORequest
    {head : ListHead}
    {buffer : Memory}
    {size : UWORD}
    (hIs : s.PortIs waiting)
    (hOther : ios2 ∉ waiting) :
    (fulfillReadIORequest o head ios2 buffer size s).2.PortIs
      waiting := by
  unfold KszDriver.fulfillReadIORequest
  split
  · dsimp only
    split
    · split
      · refine termIo (remove ?_ hOther)
        exact hIs.same rfl
      · refine termIo (remove (doEvent ?_ s2eventBuff) hOther)
        exact hIs.same rfl
    · exact hIs.same rfl
  · exact hIs.same rfl

theorem onPktReceived
    {buffer : Memory}
    {size : UWORD}
    (hIs : s.PortIs waiting) :
    (onPktReceived o buffer size s).PortIs waiting := by
  apply onPktReceived_rule (I := PortIs waiting)
  · intro t head r hIn _ hHead hIs
    exact hIs.fulfillReadIORequest (hIs.apart head hHead r hIn)
  · exact hIs

theorem freeOpener
    (hIs : s.PortIs waiting) :
    (freeOpener ios2 s).PortIs waiting := by
  have hAborted :
      (s.abortReqList (.bmRxQueue
        (s.reqs ios2).bufferManagement)).PortIs waiting :=
    hIs.abortReqList ListHead.noConfusion
  unfold KszDriver.freeOpener
  exact ite (ite (hAborted.same rfl) hAborted) hIs

theorem closeUnit
    (hIs : s.PortIs waiting) :
    (closeUnit ios2 s).PortIs waiting := by
  have hFreed : (KszDriver.freeOpener ios2 s).PortIs waiting :=
    hIs.freeOpener
  unfold KszDriver.closeUnit expungeUnit
  dsimp only
  split
  · split
    · exact hFreed.same rfl
    · exact hFreed.same rfl
  · exact hFreed.same rfl

theorem deviceClose
    (hIs : s.PortIs waiting) :
    (deviceClose ios2 s).2.PortIs waiting := by
  rw [deviceClose_eq]
  split
  · exact hIs.closeUnit
  · exact hIs

/- An open that finds the unit up empties no list but the one
   of the new opener. -/
theorem addOpener
    {env : OpenEnv}
    (hIs : s.PortIs waiting) :
    (addOpener ios2 env s).PortIs waiting where
  port := hIs.port
  apart := by
    intro head hHead r hIn
    change r ∈ Function.update s.lists (.bmRxQueue env.bm) []
      head at hIn
    rw [Function.update_apply] at hIn
    split at hIn
    · exact absurd hIn List.not_mem_nil
    · exact hIs.apart head hHead r hIn

theorem deviceOpen
    {s2unit s2flags : ULONG}
    {env : OpenEnv}
    (hIs : s.PortIs waiting)
    (hUnit : s.base.unit0 = true) :
    (deviceOpen ios2 s2unit s2flags env s).PortIs waiting := by
  apply deviceOpen_rule
    (I := fun t => t.base.unit0 = true ∧ t.PortIs waiting)
    (J := PortIs waiting)
  · intro t flags count hState
    exact ⟨hState.1, hState.2.setBase _⟩
  · intro t count hIs
    exact hIs.setBase _
  · intro t hState
    exact ⟨hState.1, hState.2.runNic _⟩
  · intro t hState
    unfold initUnitProcess
    rw [if_pos hState.1]
    exact hState
  · intro t hState
    exact hState.2.setReq _
  · intro t _ _ hState
    exact hState.2.addOpener
  · exact ⟨hUnit, hIs⟩

theorem deviceExpunge
    (hIs : s.PortIs waiting) :
    (deviceExpunge s).2.PortIs waiting := by
  rw [deviceExpunge_setBase]
  exact hIs.setBase _

/- A request cannot be aborted while it is in the port. -/
theorem deviceAbortIo
    (hIs : s.PortIs waiting) :
    (deviceAbortIo ios2 s).2.PortIs waiting := by
  unfold KszDriver.deviceAbortIo
  split
  · cases hHead : abortList (s.reqs ios2) with
    | none => exact hIs
    | some head =>
        have hOther : head ≠ .unitMsgPort := by
          rintro rfl
          unfold abortList at hHead
          repeat' split at hHead
          all_goals simp at hHead
        unfold abortRequestAndRemove
        dsimp only
        split
        · rename_i hMem
          exact hIs.abortOne (hIs.apart head hOther ios2 hMem)
        · exact hIs
  · exact hIs

end PortIs

------------------------------------------------------------
-- Steps
------------------------------------------------------------

/- The request that a step puts into the port. -/
def puts (s : Driver) : Op → List APTR
| .beginIo ios2 _ =>
    if PerformedNow (s.reqs ios2).ioCommand then [] else [ios2]
| _ => []

/- The request that a step takes from the port. -/
def takes (s : Driver) : Op → List APTR
| .serviceMsgPort _ => (s.lists .unitMsgPort).head?.toList
| _ => []

variable {op : Op}

theorem port_deviceBeginIo
    (hWaits : s.Waits)
    (hOwned : s.Owned ios2) :
    (deviceBeginIo o ios2 s).lists .unitMsgPort =
      s.lists .unitMsgPort ++ s.puts (.beginIo ios2 o) := by
  have hIs := hWaits.orderly.toLinked.portIs
  have hOther := (hWaits.holding hOwned).free .unitMsgPort
  have hTaken : (s.record (.submitted ios2)).PortIs
      (s.lists .unitMsgPort) := hIs.same rfl
  have hCommand :
      ((s.record (.submitted ios2)).reqs ios2).ioCommand =
        (s.reqs ios2).ioCommand := rfl
  unfold deviceBeginIo puts
  dsimp only
  rw [hCommand]
  by_cases hNow : PerformedNow (s.reqs ios2).ioCommand
  · rw [if_pos hNow, if_pos hNow, List.append_nil]
    exact (hTaken.performIo hOther).port
  · rw [if_neg hNow, if_neg hNow]
    unfold putMsg
    rw [lists_addTail, if_pos rfl]
    rfl

theorem port_serviceMsgPort
    (hWaits : s.Waits) :
    s.lists .unitMsgPort =
      s.takes (.serviceMsgPort o) ++
        (serviceMsgPort o s).lists .unitMsgPort := by
  unfold takes serviceMsgPort
  cases hPort : s.lists .unitMsgPort with
  | nil =>
      dsimp only
      rw [hPort]
      rfl
  | cons r others =>
      have hTaken := (hWaits.orderly.toLinked.portIs).taken
        hPort
      have hOther : r ∉ others := by
        have hOnce := hWaits.orderly.once .unitMsgPort
        rw [hPort] at hOnce
        exact (List.nodup_cons.mp hOnce).1
      dsimp only
      rw [(hTaken.performIo hOther).port]
      rfl

/- The port of a new unit is empty. -/
theorem port_of_made
    {ios2 : APTR}
    {s2unit s2flags : ULONG}
    {env : OpenEnv}
    (hNone : s.base.unit0 = false) :
    (deviceOpen ios2 s2unit s2flags env s).base.unit0 = true →
      (deviceOpen ios2 s2unit s2flags env s).lists
        .unitMsgPort = [] := by
  apply deviceOpen_rule
    (I := fun t => t.base.unit0 = true →
      t.lists .unitMsgPort = [])
    (J := fun t => t.base.unit0 = true →
      t.lists .unitMsgPort = [])
  · exact fun t flags count hPort => hPort
  · exact fun t count hPort => hPort
  · exact fun t hPort => hPort
  · intro t hPort
    unfold initUnitProcess
    split
    · exact hPort
    · split
      · exact fun _ => rfl
      · exact hPort
  · exact fun t hPort => hPort
  · intro t _ _ hPort hUnit
    have hOther : ListHead.unitMsgPort ≠ .bmRxQueue env.bm :=
      ListHead.noConfusion
    exact (Function.update_of_ne hOther [] t.lists).trans
      (hPort hUnit)
  · intro hUnit
    rw [hNone] at hUnit
    cases hUnit

/- While the unit is up, what is put into the port is taken
   from it in this order, or is still in it. -/
theorem port_next
    (hWaits : s.Waits)
    (hUnit : s.base.unit0 = true)
    (hAllowed : op.Allowed s) :
    s.lists .unitMsgPort ++ s.puts op =
      s.takes op ++ (s.next op).lists .unitMsgPort := by
  have hIs := hWaits.orderly.toLinked.portIs
  have hSame (t : Driver)
      (hIs' : t.PortIs (s.lists .unitMsgPort)) :
      s.lists .unitMsgPort ++ [] =
        [] ++ t.lists .unitMsgPort := by
    rw [hIs'.port, List.append_nil, List.nil_append]
  cases op with
  | openDevice ios2 s2unit s2flags env =>
      exact hSame _ (hIs.deviceOpen hUnit)
  | close ios2 => exact hSame _ hIs.deviceClose
  | expunge => exact hSame _ hIs.deviceExpunge
  | beginIo ios2 o =>
      exact (port_deviceBeginIo hWaits hAllowed.2).symm
  | abortIo ios2 => exact hSame _ hIs.deviceAbortIo
  | serviceMsgPort o =>
      exact (List.append_nil _).trans
        (port_serviceMsgPort hWaits)
  | pktReceived buffer size o =>
      exact hSame _ hIs.onPktReceived
  | doEvent events => exact hSame _ (hIs.doEvent events)
  | configChanged addr =>
      exact hSame _ (hIs.setUnit (fun u =>
        { u with stAddr := addr }))
  | clientWrite ios2 req =>
      exact hSame _ (hIs.setReq (fun _ => req))
  | hardware regs => exact hSame _ (hIs.same rfl)

end Driver

end KszDriver
