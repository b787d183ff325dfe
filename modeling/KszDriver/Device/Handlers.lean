import KszDriver.Device.Acts
import KszDriver.Device.Custody

/-
  Every handler, event, abort and delivery keeps requests in
  custody: it puts the request it works on into a list that
  the policy admits, or terminates it once.

  Main declarations:
    * `Policy.Admits`
    * `Conserved.doEvent`, `Conserved.abortReqList`
    * `Conserved.performIo`
    * `Conserved.onPktReceived`
-/

------------------------------------------------------------
-- Events and Aborts
------------------------------------------------------------

namespace KszDriver

/-
  What the policy must say of a request that is performed:
  it admits the request to the list that the command puts it
  into.  Writes have left theirs when the command is done.
-/
structure Policy.Admits
    (P : Policy) (s : Driver) (ios2 : APTR) : Prop where
  write :
    (s.reqs ios2).ioCommand = cmdWrite ∨
        (s.reqs ios2).ioCommand = s2Broadcast ∨
        (s.reqs ios2).ioCommand = s2Multicast →
      s.Online → (s.reqs ios2).dataLength ≤ s.unit.mtu →
        P.waits ios2 (s.reqs ios2).core.calm
  read :
    (s.reqs ios2).ioCommand = cmdRead → s.Online →
      (s.reqs ios2).bufferManagement ∈ s.unit.buffMgmt →
        P.place (.bmRxQueue (s.reqs ios2).bufferManagement)
          ios2 (s.reqs ios2).core ∧
        P.waits ios2 (s.reqs ios2).core
  orphan :
    (s.reqs ios2).ioCommand = s2ReadOrphan → s.Online →
      P.place .euReadOrphan ios2 (s.reqs ios2).core ∧
        P.waits ios2 (s.reqs ios2).core
  event :
    (s.reqs ios2).ioCommand = s2OnEvent →
      P.place .euEvents ios2 (s.reqs ios2).core ∧
        P.waits ios2 (s.reqs ios2).core

/- Resetting the error does not matter. -/
theorem Policy.Admits.resetError
    {P : Policy}
    {s : Driver}
    {ios2 : APTR}
    (hAdmit : P.Admits s ios2) :
    P.Admits (s.setReq ios2 (fun req =>
      { req with ioError := 0 })) ios2 where
  write := by
    rw [Driver.reqs_setReq, if_pos rfl]
    exact hAdmit.write
  read := by
    rw [Driver.reqs_setReq, if_pos rfl]
    exact hAdmit.read
  orphan := by
    rw [Driver.reqs_setReq, if_pos rfl]
    exact hAdmit.orphan
  event := by
    rw [Driver.reqs_setReq, if_pos rfl]
    exact hAdmit.event

namespace Driver

namespace Conserved

variable {P : Policy} {held : List APTR} {s : Driver}
variable {ios2 : APTR}

/- Both branches of a conditional. -/
theorem ite
    {c : Prop} [Decidable c]
    {s₁ s₂ : Driver}
    (hThen : c → s₁.Conserved P held)
    (hElse : ¬ c → s₂.Conserved P held) :
    (if c then s₁ else s₂).Conserved P held := by
  by_cases hCond : c
  · rw [if_pos hCond]
    exact hThen hCond
  · rw [if_neg hCond]
    exact hElse hCond

/- Requests, lists and history stay the same. -/
theorem of_rest
    {s' : Driver}
    (hCon : s.Conserved P held)
    (hReqs : s'.reqs = s.reqs)
    (hLists : s'.lists = s.lists)
    (hLog : s'.log = s.log) :
    s'.Conserved P held := by
  apply hCon.congr hLists hLog
  intro r
  rw [hReqs]

theorem setUnit
    (hCon : s.Conserved P held)
    (f : DeviceDriverUnit → DeviceDriverUnit) :
    (s.setUnit f).Conserved P held :=
  hCon.of_rest rfl rfl rfl

theorem setBase
    (hCon : s.Conserved P held)
    (f : DeviceBase → DeviceBase) :
    (s.setBase f).Conserved P held :=
  hCon.of_rest rfl rfl rfl

theorem setQuery
    (hCon : s.Conserved P held)
    (query : APTR)
    (f : Sana2DeviceQuery → Sana2DeviceQuery) :
    (s.setQuery query f).Conserved P held :=
  hCon.of_rest rfl rfl rfl

theorem runNic
    {α : Type}
    (hCon : s.Conserved P held)
    (p : NicM α) :
    (s.runNic p).Conserved P held :=
  hCon.of_rest rfl rfl rfl

theorem setError
    (hCon : s.Conserved P held)
    (ios2 : APTR)
    (ioError : Int)
    (wireError : ULONG) :
    (s.setErrorOnRequest ios2 ioError wireError).Conserved P
      held :=
  hCon.setReq_of_core ios2 _ rfl

theorem termWithError
    (hCon : s.Conserved P (ios2 :: held))
    (ioError : Int)
    (wireError : ULONG) :
    (s.termWithError ios2 ioError wireError).Conserved P
      held :=
  (hCon.setError ios2 ioError wireError).termIo

theorem doEventLoop
    (events : ULONG)
    {rs : List APTR}
    (hCon : s.Conserved P held)
    (hNodup : rs.Nodup)
    (hMem : ∀ r ∈ rs, r ∈ s.lists .euEvents) :
    (doEventLoop events rs s).Conserved P held := by
  induction rs generalizing s with
  | nil => exact hCon
  | cons ios2 rs ih =>
      have hTail := (List.nodup_cons.mp hNodup).2
      unfold Driver.doEventLoop
      split
      · have hMarked := hCon.setError ios2 0 events
        have hTaken :=
          hMarked.remove (hMem ios2 List.mem_cons_self)
        apply ih hTaken.termIo hTail
        rw [lists_termIo]
        exact Linked.forall_mem_remove hNodup hMem
      · exact ih hCon hTail (fun r hIn =>
          hMem r (List.mem_cons_of_mem ios2 hIn))

theorem doEvent
    (hCon : s.Conserved P held)
    (events : ULONG) :
    (s.doEvent events).Conserved P held :=
  doEventLoop events (hCon.record trivial) (hCon.once _)
    (fun _ hIn => hIn)

theorem abortOne
    {head : ListHead}
    (hCon : s.Conserved P held)
    (hMem : ios2 ∈ s.lists head) :
    (s.abortOne ios2).Conserved P held := by
  have hMarked :=
    (hCon.remove hMem).setReq_of_core ios2
      (fun req => { req with ioError := ioerrAborted }) rfl
  exact hMarked.termIo

theorem abortLoop
    {rs : List APTR}
    {head : ListHead}
    (hCon : s.Conserved P held)
    (hNodup : rs.Nodup)
    (hMem : ∀ r ∈ rs, r ∈ s.lists head) :
    (abortLoop rs s).Conserved P held := by
  induction rs generalizing s with
  | nil => exact hCon
  | cons ios2 rs ih =>
      apply ih (hCon.abortOne (hMem ios2 List.mem_cons_self))
        (List.nodup_cons.mp hNodup).2
      rw [lists_abortOne]
      exact Linked.forall_mem_remove hNodup hMem

theorem abortReqList
    (hCon : s.Conserved P held)
    (head : ListHead) :
    (s.abortReqList head).Conserved P held :=
  hCon.abortLoop (hCon.once head) (fun _ hIn => hIn)

------------------------------------------------------------
-- Sending
------------------------------------------------------------

theorem copyFromBuffer
    (hCon : s.Conserved P held)
    (o : Outcome)
    (ios2 : APTR)
    (offset : Nat) :
    (s.copyFromBuffer o ios2 offset).Conserved P held := by
  have hNoted :
      (s.record (.copiedFromBuffer ios2
        (o.copyFromBuffer ios2).1)).Conserved P held :=
    hCon.record trivial
  exact hNoted.of_rest rfl rfl rfl

theorem runSend
    (hCon : s.Conserved P held)
    (ios2 : APTR)
    (p : NicM ErrorT) :
    (s.runSend ios2 p).Conserved P held :=
  (hCon.runNic p).record trivial

theorem sendRaw
    (hCon : s.Conserved P held)
    (o : Outcome)
    (ios2 : APTR) :
    (sendRaw o ios2 s).Conserved P held := by
  have hCopied := hCon.copyFromBuffer o ios2 0
  exact ite
    (fun _ => ite
      (fun _ => hCopied.runSend ios2 _)
      (fun _ => hCopied.setError ios2 _ _))
    (fun _ => hCon.setError ios2 _ _)

theorem storeHeader
    (hCon : s.Conserved P held)
    (ios2 : APTR) :
    (storeHeader ios2 s).Conserved P held :=
  hCon.of_rest rfl rfl rfl

theorem sendCopied
    (hCon : s.Conserved P held)
    (o : Outcome)
    (ios2 : APTR) :
    (sendCopied o ios2 s).Conserved P held := by
  have hCopied :=
    (hCon.storeHeader ios2).copyFromBuffer o ios2
      etherPacketHeadSize
  exact ite
    (fun _ => hCopied.runSend ios2 _)
    (fun _ => hCopied.setError ios2 _ _)

theorem sendCooked
    (hCon : s.Conserved P held)
    (o : Outcome)
    (ios2 : APTR) :
    (sendCooked o ios2 s).Conserved P held := by
  unfold KszDriver.sendCooked
  apply ite
  · intro _
    cases dmaPacketBuffer o ios2 s with
    | some packet => exact hCon.runSend ios2 _
    | none => exact hCon.sendCopied o ios2
  · intro _
    exact hCon.setError ios2 _ _

/- One packet: its request ends, whatever comes of it. -/
theorem sendOne
    (hCon : s.Conserved P (ios2 :: held))
    (o : Outcome) :
    (sendOne o ios2 s).Conserved P held := by
  unfold KszDriver.sendOne
  have hSent :
      (if (s.reqs ios2).Raw then KszDriver.sendRaw o ios2 s
        else KszDriver.sendCooked o ios2 s).Conserved P
          (ios2 :: held) :=
    ite (fun _ => hCon.sendRaw o ios2)
      (fun _ => hCon.sendCooked o ios2)
  apply termIo
  exact ite (fun _ => hSent.doEvent _) (fun _ => hSent)

end Conserved

end Driver

/- Sending a packet unlinks nothing but event requests. -/
@[simp] theorem lists_sendRaw
    (o : Outcome) (ios2 : APTR) (s : Driver) :
    (sendRaw o ios2 s).lists = s.lists := by
  unfold sendRaw
  dsimp only
  split
  · split <;> rfl
  · rfl

@[simp] theorem lists_sendCooked
    (o : Outcome) (ios2 : APTR) (s : Driver) :
    (sendCooked o ios2 s).lists = s.lists := by
  unfold sendCooked sendCopied
  dsimp only
  split
  · split
    · rfl
    · split <;> rfl
  · rfl

theorem lists_sendOne_of_ne
    {o : Outcome}
    {ios2 : APTR}
    {s : Driver}
    {head : ListHead}
    (hLinked : s.Linked)
    (hOther : head ≠ .euEvents) :
    (sendOne o ios2 s).lists head = s.lists head := by
  have hSent :
      (if (s.reqs ios2).Raw then sendRaw o ios2 s
        else sendCooked o ios2 s).lists = s.lists := by
    split
    · exact lists_sendRaw o ios2 s
    · exact lists_sendCooked o ios2 s
  unfold sendOne
  dsimp only
  generalize (if (s.reqs ios2).Raw then sendRaw o ios2 s
    else sendCooked o ios2 s) = sent at hSent ⊢
  rw [Driver.lists_termIo]
  split
  · rw [Driver.lists_doEvent_of_ne _ (hLinked.congr hSent)
      hOther, hSent]
  · rw [hSent]

namespace Driver

namespace Conserved

variable {P : Policy} {held : List APTR} {s : Driver}
variable {ios2 : APTR}

/- The transmit queue is drained. -/
theorem sendLoop
    (o : Outcome)
    {rs : List APTR}
    (hCon : s.Conserved P held)
    (hNodup : rs.Nodup)
    (hMem : ∀ r ∈ rs, r ∈ s.lists .euTx) :
    (sendLoop o rs s).Conserved P held := by
  induction rs generalizing s with
  | nil => exact hCon
  | cons ios2 rs ih =>
      have hTaken := hCon.remove (hMem ios2 List.mem_cons_self)
      apply ih (hTaken.sendOne o) (List.nodup_cons.mp hNodup).2
      rw [lists_sendOne_of_ne hTaken.toLinked (by decide)]
      exact Linked.forall_mem_remove hNodup hMem

/- Nothing of the transmit queue is left. -/
theorem mem_euTx_sendLoop
    (o : Outcome)
    {rs : List APTR}
    (hCon : s.Conserved P held)
    (hNodup : rs.Nodup)
    (hMem : ∀ r, r ∈ rs ↔ r ∈ s.lists .euTx) :
    (KszDriver.sendLoop o rs s).lists .euTx = [] := by
  induction rs generalizing s with
  | nil =>
      apply List.eq_nil_iff_forall_not_mem.mpr
      intro r hIn
      exact List.not_mem_nil ((hMem r).mpr hIn)
  | cons ios2 rs ih =>
      have hNodup' := List.nodup_cons.mp hNodup
      have hTaken :=
        hCon.remove ((hMem ios2).mp List.mem_cons_self)
      apply ih (hTaken.sendOne o) hNodup'.2
      intro r
      rw [lists_sendOne_of_ne hTaken.toLinked (by decide),
        lists_remove, (hCon.once _).mem_erase_iff, ← hMem r,
        List.mem_cons]
      constructor
      · intro hIn
        refine ⟨?_, Or.inr hIn⟩
        rintro rfl
        exact hNodup'.1 hIn
      · rintro ⟨hOther, hIn⟩
        exact hIn.resolve_left hOther

theorem sending
    (hCon : s.Conserved P held) :
    s.Conserved P.sending held :=
  hCon.change
    (fun head r hMem => Or.inr (hCon.placed head r hMem))
    (fun _ _ hWaits => hWaits) (fun _ _ hLost => hLost)

/- Draining the transmit queue restores the policy. -/
theorem sendAllPackets
    (hCon : s.Conserved P.sending held)
    (o : Outcome) :
    (sendAllPackets o s).Conserved P held := by
  have hSent :
      (KszDriver.sendAllPackets o s).Conserved P.sending
        held :=
    hCon.sendLoop o (hCon.once _) (fun _ hIn => hIn)
  have hEmpty :
      (KszDriver.sendAllPackets o s).lists .euTx = [] :=
    hCon.mem_euTx_sendLoop o (hCon.once _) (fun _ => Iff.rfl)
  apply hSent.change
  · intro head r hMem
    rcases hSent.placed head r hMem with rfl | hPlaced
    · rw [hEmpty] at hMem
      exact absurd hMem List.not_mem_nil
    · exact hPlaced
  · exact fun _ _ hWaits => hWaits
  · exact fun _ _ hLost => hLost

------------------------------------------------------------
-- Commands
------------------------------------------------------------

theorem putMsg
    {head : ListHead}
    (hCon : s.Conserved P (ios2 :: held))
    (hAdmit :
      P.place head ios2 (s.reqs ios2).core ∧
        P.waits ios2 (s.reqs ios2).core) :
    (s.putMsg head ios2).Conserved P held := by
  have hMarked :=
    hCon.setReq_of_core ios2
      (fun req => { req with lnType := ntMessage }) rfl
  apply hMarked.addTail head
  · simpa [IOSana2Req.core, IOSana2Req.Quick] using hAdmit.1
  · simpa [IOSana2Req.core, IOSana2Req.Quick] using hAdmit.2

/- A write goes through the transmit queue, which is drained
   before the command ends. -/
theorem devCmdWritePacket
    (hCon : s.Conserved P (ios2 :: held))
    (o : Outcome)
    (hAdmit : s.Online →
      (s.reqs ios2).dataLength ≤ s.unit.mtu →
        P.waits ios2 (s.reqs ios2).core.calm) :
    (devCmdWritePacket o ios2 s).Conserved P held := by
  unfold KszDriver.devCmdWritePacket
  apply ite
  · intro hOnline
    apply ite
    · intro hLength
      have hCleared :=
        hCon.setReq_calm
          (fun req =>
            { req with
              ioFlags := req.ioFlags &&& ~~~iofQuick
              lnType := ntMessage }) (core_clearQuick _)
      apply sendAllPackets
      apply hCleared.sending.putMsg
      rw [reqs_setReq, if_pos rfl, core_clearQuick]
      exact ⟨Or.inl rfl, hAdmit hOnline hLength⟩
    · intro _
      exact (hCon.termWithError _ _).doEvent _
  · intro _
    exact hCon.termWithError _ _

/- A request is marked as pending and queued. -/
theorem queuePending
    {head : ListHead}
    (hCon : s.Conserved P (ios2 :: held))
    (hAdmit :
      P.place head ios2 (s.reqs ios2).core ∧
        P.waits ios2 (s.reqs ios2).core) :
    (queuePending head ios2 s).Conserved P held :=
  hCon.putMsg hAdmit

theorem devCmdReadPacket
    (hCon : s.Conserved P (ios2 :: held))
    (hAdmit : s.Online →
      (s.reqs ios2).bufferManagement ∈ s.unit.buffMgmt →
        P.place (.bmRxQueue (s.reqs ios2).bufferManagement)
          ios2 (s.reqs ios2).core ∧
        P.waits ios2 (s.reqs ios2).core) :
    (devCmdReadPacket ios2 s).Conserved P held := by
  unfold KszDriver.devCmdReadPacket
  apply ite
  · intro hOnline
    exact ite
      (fun hOpen => hCon.queuePending (hAdmit hOnline hOpen))
      (fun _ => hCon.termWithError _ _)
  · intro _
    exact hCon.termWithError _ _

theorem devCmdReadOrphan
    (hCon : s.Conserved P (ios2 :: held))
    (hAdmit : s.Online →
      P.place .euReadOrphan ios2 (s.reqs ios2).core ∧
        P.waits ios2 (s.reqs ios2).core) :
    (devCmdReadOrphan ios2 s).Conserved P held := by
  unfold KszDriver.devCmdReadOrphan
  exact ite
    (fun hOnline => hCon.queuePending (hAdmit hOnline))
    (fun _ => hCon.termWithError _ _)

theorem devCmdOnEvent
    (hCon : s.Conserved P (ios2 :: held))
    (hAdmit :
      P.place .euEvents ios2 (s.reqs ios2).core ∧
        P.waits ios2 (s.reqs ios2).core) :
    (devCmdOnEvent ios2 s).Conserved P held := by
  unfold KszDriver.devCmdOnEvent
  apply ite
  · intro _
    exact (hCon.setReq_of_core ios2 _ rfl).termIo
  · intro _
    exact hCon.addTail .euEvents hAdmit.1 hAdmit.2

theorem flushReadQueues
    (bms : List APTR)
    (hCon : s.Conserved P held) :
    (flushReadQueues bms s).Conserved P held := by
  induction bms generalizing s with
  | nil => exact hCon
  | cons bm bms ih => exact ih (hCon.abortReqList _)

theorem flushRequests
    (hCon : s.Conserved P held) :
    (flushRequests s).Conserved P held :=
  ((hCon.flushReadQueues _).abortReqList _).abortReqList _

theorem devCmdFlush
    (hCon : s.Conserved P (ios2 :: held)) :
    (devCmdFlush (some ios2) s).Conserved P held :=
  hCon.flushRequests.termIo

theorem goOnline
    (hCon : s.Conserved P held) :
    (goOnline s).Conserved P held := by
  unfold KszDriver.goOnline
  apply doEvent
  apply setUnit
  exact ((hCon.runNic _).runNic _).runNic _

theorem devCmdOnline
    (hCon : s.Conserved P (ios2 :: held)) :
    (devCmdOnline ios2 s).Conserved P held := by
  unfold KszDriver.devCmdOnline
  apply ite
  · intro _
    exact ite (fun _ => hCon.termIo)
      (fun _ => hCon.goOnline.termIo)
  · intro _
    exact hCon.termWithError _ _

theorem goOffline
    (hCon : s.Conserved P held) :
    (goOffline s).Conserved P held :=
  (((hCon.setUnit _).doEvent _).flushRequests).runNic _

theorem devCmdOffline
    (hCon : s.Conserved P (ios2 :: held)) :
    (devCmdOffline (some ios2) s).Conserved P held := by
  unfold KszDriver.devCmdOffline
  exact termIo
    (ite (fun _ => hCon.goOffline) (fun _ => hCon))

theorem devCmdConfigInterface
    (hCon : s.Conserved P (ios2 :: held)) :
    (devCmdConfigInterface ios2 s).Conserved P held := by
  unfold KszDriver.devCmdConfigInterface
  apply ite
  · intro _
    exact hCon.termWithError _ _
  · intro _
    exact (((hCon.setUnit _).runNic _).setUnit _).devCmdOnline

theorem devCmdGetStationAddress
    (hCon : s.Conserved P (ios2 :: held)) :
    (devCmdGetStationAddress ios2 s).Conserved P held :=
  (hCon.setReq_of_core ios2 _ rfl).termIo

theorem devCmdDeviceQuery
    (hCon : s.Conserved P (ios2 :: held)) :
    (devCmdDeviceQuery ios2 s).Conserved P held := by
  unfold KszDriver.devCmdDeviceQuery
  apply ite
  · intro _
    apply ite
    · intro _
      exact (hCon.setQuery _ _).termIo
    · intro _
      exact hCon.termWithError _ _
  · intro _
    exact hCon.termWithError _ _

theorem devCmdStats
    (hCon : s.Conserved P (ios2 :: held)) :
    (devCmdStats ios2 s).Conserved P held := by
  unfold KszDriver.devCmdStats
  exact ite (fun _ => hCon.termIo)
    (fun _ => hCon.termWithError _ _)

theorem devCmdNsDeviceQuery
    (hCon : s.Conserved P (ios2 :: held)) :
    (devCmdNsDeviceQuery ios2 s).Conserved P held := by
  have hCore (req : IOSana2Req) (wireError : ULONG) :
      { req with wireError := wireError }.core = req.core :=
    rfl
  unfold KszDriver.devCmdNsDeviceQuery
  apply termIo
  apply setReq_of_core
  · exact ite (fun _ => hCon.setQuery _ _) (fun _ => hCon)
  · exact hCore _ _

theorem devCmdTrackType
    (hCon : s.Conserved P (ios2 :: held))
    (o : Outcome) :
    (devCmdTrackType o ios2 s).Conserved P held := by
  unfold KszDriver.devCmdTrackType
  apply ite
  · intro _
    exact hCon.termWithError _ _
  · intro _
    exact ite (fun _ => (hCon.setUnit _).termIo)
      (fun _ => hCon.termIo)

theorem devCmdUnTrackType
    (hCon : s.Conserved P (ios2 :: held)) :
    (devCmdUnTrackType ios2 s).Conserved P held := by
  unfold KszDriver.devCmdUnTrackType
  exact ite (fun _ => (hCon.setUnit _).termIo)
    (fun _ => hCon.termWithError _ _)

theorem broadcastPacket
    (hCon : s.Conserved P (ios2 :: held))
    (o : Outcome)
    (hAdmit : s.Online →
      (s.reqs ios2).dataLength ≤ s.unit.mtu →
        P.waits ios2 (s.reqs ios2).core.calm) :
    (broadcastPacket o ios2 s).Conserved P held := by
  apply (hCon.setReq_of_core ios2 _ rfl).devCmdWritePacket
  rw [reqs_setReq, if_pos rfl]
  exact hAdmit

/- Whatever the command, the request is queued where the
   policy admits it, or terminated. -/
theorem dispatch
    (hCon : s.Conserved P (ios2 :: held))
    (o : Outcome)
    (hAdmit : P.Admits s ios2) :
    (dispatch o (s.reqs ios2).ioCommand ios2 s).Conserved P
      held := by
  unfold KszDriver.dispatch
  refine ite (fun h => ?_) fun _ => ?_
  · exact hCon.devCmdWritePacket o (hAdmit.write (Or.inl h))
  refine ite (fun h => ?_) fun _ => ?_
  · exact hCon.devCmdReadPacket (hAdmit.read h)
  refine ite (fun h => ?_) fun _ => ?_
  · exact hCon.broadcastPacket o
      (hAdmit.write (Or.inr (Or.inl h)))
  refine ite (fun h => ?_) fun _ => ?_
  · exact hCon.devCmdWritePacket o
      (hAdmit.write (Or.inr (Or.inr h)))
  refine ite (fun _ => hCon.devCmdFlush) fun _ => ?_
  refine ite (fun h => ?_) fun _ => ?_
  · exact hCon.devCmdOnEvent (hAdmit.event h)
  refine ite (fun _ => hCon.devCmdOnline) fun _ => ?_
  refine ite (fun _ => hCon.devCmdOffline) fun _ => ?_
  refine ite (fun _ => hCon.devCmdDeviceQuery) fun _ => ?_
  refine ite (fun _ => hCon.devCmdGetStationAddress)
    fun _ => ?_
  refine ite (fun _ => hCon.devCmdConfigInterface) fun _ => ?_
  refine ite (fun h => ?_) fun _ => ?_
  · exact hCon.devCmdReadOrphan (hAdmit.orphan h)
  refine ite (fun _ => hCon.devCmdStats) fun _ => ?_
  refine ite (fun _ => hCon.devCmdTrackType o) fun _ => ?_
  refine ite (fun _ => hCon.devCmdUnTrackType) fun _ => ?_
  refine ite (fun _ => hCon.devCmdStats) fun _ => ?_
  refine ite (fun _ => hCon.devCmdNsDeviceQuery) fun _ => ?_
  exact hCon.termWithError _ _

theorem performIo
    (hCon : s.Conserved P (ios2 :: held))
    (o : Outcome)
    (hAdmit : P.Admits s ios2) :
    (performIo o ios2 s).Conserved P held := by
  have hReset :=
    hCon.setReq_of_core ios2
      (fun req => { req with ioError := 0 }) rfl
  have hDone := hReset.dispatch o hAdmit.resetError
  rw [reqs_setReq, if_pos rfl] at hDone
  exact hDone

------------------------------------------------------------
-- Received Packets
------------------------------------------------------------

theorem fulfillReadIORequest
    {head : ListHead}
    (hCon : s.Conserved P held)
    (o : Outcome)
    (buffer : Memory)
    (size : UWORD)
    (hMem : ios2 ∈ s.lists head)
    (hHead : head ≠ .euEvents) :
    (fulfillReadIORequest o head ios2 buffer size
      s).2.Conserved P held := by
  have hDescribed :=
    hCon.setReq_of_core ios2 (describePacket buffer size)
      (core_describePacket buffer size _)
  have hRefused (accepted : Bool) :=
    hDescribed.record
      (show (Event.offered head ios2 accepted).Neutral from
        trivial)
  unfold KszDriver.fulfillReadIORequest
  split
  · dsimp only
    split
    · split
      · have hCopied :=
          (hDescribed.record
            (show (Event.copiedToBuffer ios2
              (deliveredBytes buffer size
                (s.reqs ios2))).Neutral from trivial)).record
            (show (Event.offered head ios2 true).Neutral from
              trivial)
        exact (hCopied.remove hMem).termIo
      · have hFailed :=
          ((hRefused false).setError ios2 s2errNoResources
            s2werrBuffError)
        apply termIo
        apply (hFailed.doEvent s2eventBuff).remove
        rw [lists_doEvent_of_ne _ hFailed.toLinked hHead]
        exact hMem
    · exact hRefused false
  · exact hCon.record trivial

theorem onPktReceived
    (hCon : s.Conserved P held)
    (o : Outcome)
    (buffer : Memory)
    (size : UWORD) :
    (onPktReceived o buffer size s).Conserved P held := by
  apply onPktReceived_rule
    (I := fun t => t.Conserved P held)
  · intro t head r hMem hEvents _ hKept
    exact hKept.fulfillReadIORequest o buffer size hMem hEvents
  · exact hCon

end Conserved

end Driver

end KszDriver
