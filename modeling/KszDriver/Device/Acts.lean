import KszDriver.Device.Lists
import Mathlib.Logic.Relation

/-
  What performing a request is made of.  A handler changes
  and ends the request that it works on, sends the packets
  that wait, aborts requests, fires events, and changes the
  unit in what does not concern its openers.

  What every act preserves, every command preserves; and what
  every offer of a packet preserves, its delivery preserves.

  Main declarations:
    * `Driver.Act`, `Driver.Acts`
    * `acts_performIo`, `performIo_rule`
    * `onPktReceived_rule`
-/

------------------------------------------------------------
-- Acts
------------------------------------------------------------

namespace KszDriver

/- The events that the driver fires. -/
def firedEvents : List ULONG :=
  [s2eventTx, s2eventBuff, s2eventOnline, s2eventOffline]

namespace Driver

/- A change of the unit that spares its MTU, its openers and
   their number. -/
structure Sparing (f : DeviceDriverUnit → DeviceDriverUnit) :
    Prop where
  mtu : ∀ u, (f u).mtu = u.mtu
  buffMgmt : ∀ u, (f u).buffMgmt = u.buffMgmt
  unitOpenCnt : ∀ u, (f u).unitOpenCnt = u.unitOpenCnt

/- One act of a handler that works on `ios2`; `waiting` are
   the packets that it may send. -/
inductive Act (o : Outcome) (ios2 : APTR)
    (waiting : List APTR) : Driver → Driver → Prop where
| setReq {s : Driver} (f : IOSana2Req → IOSana2Req)
    (hCommand : ∀ req, (f req).ioCommand = req.ioCommand) :
    Act o ios2 waiting s (s.setReq ios2 f)
| setUnit {s : Driver} (f : DeviceDriverUnit → DeviceDriverUnit)
    (hSparing : Sparing f) : Act o ios2 waiting s (s.setUnit f)
| runNic {s : Driver} {α : Type} (p : NicM α) :
    Act o ios2 waiting s (s.runNic p)
| setQuery {s : Driver} (query : APTR)
    (f : Sana2DeviceQuery → Sana2DeviceQuery) :
    Act o ios2 waiting s (s.setQuery query f)
| queues {s : Driver} (head : ListHead)
    (hPort : head ≠ .unitMsgPort)
    (hEvents : head = .euEvents →
      (s.reqs ios2).ioCommand = s2OnEvent) :
    Act o ios2 waiting s (s.addTail head ios2)
| sends {s : Driver} (r : APTR) (hWaits : r ∈ waiting) :
    Act o ios2 waiting s (sendOne o r (s.remove r))
| aborts {s : Driver} (r : APTR) :
    Act o ios2 waiting s (s.abortOne r)
| fires {s : Driver} (events : ULONG)
    (hKnown : events ∈ firedEvents) :
    Act o ios2 waiting s (s.doEvent events)
| ends {s : Driver} : Act o ios2 waiting s (s.termIo ios2)

/- Any number of acts. -/
def Acts (o : Outcome) (ios2 : APTR) (waiting : List APTR) :
    Driver → Driver → Prop :=
  Relation.ReflTransGen (Act o ios2 waiting)

namespace Acts

variable {o : Outcome} {ios2 : APTR} {waiting : List APTR}
variable {s s' s'' : Driver}

theorem refl : Acts o ios2 waiting s s :=
  Relation.ReflTransGen.refl

theorem ite
    {c : Prop} [Decidable c]
    {s₁ s₂ : Driver}
    (hThen : c → Acts o ios2 waiting s s₁)
    (hElse : ¬ c → Acts o ios2 waiting s s₂) :
    Acts o ios2 waiting s (if c then s₁ else s₂) := by
  by_cases hCond : c
  · rw [if_pos hCond]
    exact hThen hCond
  · rw [if_neg hCond]
    exact hElse hCond

theorem setReq
    (hActs : Acts o ios2 waiting s s')
    (f : IOSana2Req → IOSana2Req)
    (hCommand : ∀ req, (f req).ioCommand = req.ioCommand) :
    Acts o ios2 waiting s (s'.setReq ios2 f) :=
  hActs.tail (.setReq f hCommand)

theorem setUnit
    (hActs : Acts o ios2 waiting s s')
    {f : DeviceDriverUnit → DeviceDriverUnit}
    (hSparing : Sparing f) :
    Acts o ios2 waiting s (s'.setUnit f) :=
  hActs.tail (.setUnit f hSparing)

theorem runNic
    {α : Type}
    (hActs : Acts o ios2 waiting s s')
    (p : NicM α) :
    Acts o ios2 waiting s (s'.runNic p) :=
  hActs.tail (.runNic p)

theorem setQuery
    (hActs : Acts o ios2 waiting s s')
    (query : APTR)
    (f : Sana2DeviceQuery → Sana2DeviceQuery) :
    Acts o ios2 waiting s (s'.setQuery query f) :=
  hActs.tail (.setQuery query f)

theorem doEvent
    (hActs : Acts o ios2 waiting s s')
    (events : ULONG)
    (hKnown : events ∈ firedEvents) :
    Acts o ios2 waiting s (s'.doEvent events) :=
  hActs.tail (.fires events hKnown)

theorem termIo
    (hActs : Acts o ios2 waiting s s') :
    Acts o ios2 waiting s (s'.termIo ios2) :=
  hActs.tail .ends

theorem termWithError
    (hActs : Acts o ios2 waiting s s')
    (ioError : Int)
    (wireError : ULONG) :
    Acts o ios2 waiting s
      (s'.termWithError ios2 ioError wireError) :=
  (hActs.setReq _ (by intro _; rfl)).termIo

/- A request is marked and put into a list for packets. -/
theorem queuePending
    {head : ListHead}
    (hActs : Acts o ios2 waiting s s')
    (hPort : head ≠ .unitMsgPort)
    (hEvents : head ≠ .euEvents) :
    Acts o ios2 waiting s (queuePending head ios2 s') :=
  (hActs.setReq _ (by intro _; rfl)).tail
    (.queues head hPort (fun hHead => absurd hHead hEvents))

theorem abortLoop
    (hActs : Acts o ios2 waiting s s')
    (rs : List APTR) :
    Acts o ios2 waiting s (abortLoop rs s') := by
  induction rs generalizing s' with
  | nil => exact hActs
  | cons r rs ih => exact ih (hActs.tail (.aborts r))

theorem sendLoop
    {rs : List APTR}
    (hActs : Acts o ios2 waiting s s')
    (hWaiting : ∀ r ∈ rs, r ∈ waiting) :
    Acts o ios2 waiting s (sendLoop o rs s') := by
  induction rs generalizing s' with
  | nil => exact hActs
  | cons r rs ih =>
      exact ih
        (hActs.tail (.sends r (hWaiting r List.mem_cons_self)))
        (fun r' hIn => hWaiting r' (List.mem_cons_of_mem r hIn))

end Acts

end Driver

open Driver

------------------------------------------------------------
-- Commands
------------------------------------------------------------

section Handlers

variable {o : Outcome} {ios2 : APTR} {waiting : List APTR}
variable {s s' : Driver}

/- What waits to be sent may be sent, and so may `ios2`. -/
structure Driver.MaySend (ios2 : APTR) (waiting : List APTR)
    (s : Driver) : Prop where
  own : ios2 ∈ waiting
  queue : ∀ r ∈ s.lists .euTx, r ∈ waiting

theorem acts_devCmdWritePacket
    (hActs : Acts o ios2 waiting s s')
    (hSend : s'.MaySend ios2 waiting) :
    Acts o ios2 waiting s (devCmdWritePacket o ios2 s') := by
  have hMarked (f : IOSana2Req → IOSana2Req)
      (hCommand : ∀ req, (f req).ioCommand = req.ioCommand) :
      Acts o ios2 waiting s
        ((s'.setReq ios2 f).putMsg .euTx ios2) :=
    (hActs.setReq f hCommand).queuePending (by decide)
      (by decide)
  have hWaiting (f : IOSana2Req → IOSana2Req) :
      ∀ r ∈ ((s'.setReq ios2 f).putMsg .euTx ios2).lists .euTx,
        r ∈ waiting := by
    intro r hMem
    unfold putMsg at hMem
    rw [lists_addTail, if_pos rfl] at hMem
    rcases List.mem_append.mp hMem with hOld | hNew
    · exact hSend.queue r hOld
    · rw [List.mem_singleton.mp hNew]
      exact hSend.own
  exact Acts.ite
    (fun _ => Acts.ite
      (fun _ => (hMarked _ (by intro _; rfl)).sendLoop
        (hWaiting _))
      (fun _ => (hActs.termWithError _ _).doEvent s2eventTx
        (by decide)))
    (fun _ => hActs.termWithError _ _)

theorem acts_devCmdReadPacket
    (hActs : Acts o ios2 waiting s s') :
    Acts o ios2 waiting s (devCmdReadPacket ios2 s') :=
  Acts.ite
    (fun _ => Acts.ite
      (fun _ => hActs.queuePending ListHead.noConfusion
        ListHead.noConfusion)
      (fun _ => hActs.termWithError _ _))
    (fun _ => hActs.termWithError _ _)

theorem acts_devCmdReadOrphan
    (hActs : Acts o ios2 waiting s s') :
    Acts o ios2 waiting s (devCmdReadOrphan ios2 s') :=
  Acts.ite
    (fun _ => hActs.queuePending (by decide) (by decide))
    (fun _ => hActs.termWithError _ _)

theorem acts_devCmdOnEvent
    (hActs : Acts o ios2 waiting s s')
    (hCommand : (s'.reqs ios2).ioCommand = s2OnEvent) :
    Acts o ios2 waiting s (devCmdOnEvent ios2 s') :=
  Acts.ite
    (fun _ => (hActs.setReq _ (by intro _; rfl)).termIo)
    (fun _ => hActs.tail
      (.queues .euEvents (by decide) (fun _ => hCommand)))

theorem acts_flushReadQueues
    (hActs : Acts o ios2 waiting s s')
    (bms : List APTR) :
    Acts o ios2 waiting s (flushReadQueues bms s') := by
  induction bms generalizing s' with
  | nil => exact hActs
  | cons bm bms ih => exact ih (hActs.abortLoop _)

theorem acts_flushRequests
    (hActs : Acts o ios2 waiting s s') :
    Acts o ios2 waiting s (flushRequests s') :=
  ((acts_flushReadQueues hActs _).abortLoop _).abortLoop _

theorem acts_goOnline
    (hActs : Acts o ios2 waiting s s') :
    Acts o ios2 waiting s (goOnline s') := by
  have hStarted :=
    ((hActs.runNic (setInterface (fun iface =>
      { iface with onPacketReceived := true }))).runNic
        ksz8851Init).runNic ksz8851Online
  exact (hStarted.setUnit (by
    exact ⟨fun _ => rfl, fun _ => rfl, fun _ => rfl⟩)).doEvent
      s2eventOnline (by decide)

theorem acts_devCmdOnline
    (hActs : Acts o ios2 waiting s s') :
    Acts o ios2 waiting s (devCmdOnline ios2 s') :=
  Acts.ite
    (fun _ => Acts.ite
      (fun _ => hActs.termIo)
      (fun _ => (acts_goOnline hActs).termIo))
    (fun _ => hActs.termWithError _ _)

theorem acts_goOffline
    (hActs : Acts o ios2 waiting s s') :
    Acts o ios2 waiting s (goOffline s') := by
  have hSwitched := hActs.setUnit (f := fun u =>
    { u with state := u.state &&& ~~~etherufOnline })
    ⟨fun _ => rfl, fun _ => rfl, fun _ => rfl⟩
  exact (acts_flushRequests
    (hSwitched.doEvent s2eventOffline (by decide))).runNic
      ksz8851Offline

theorem acts_devCmdOffline
    (hActs : Acts o ios2 waiting s s') :
    Acts o ios2 waiting s (devCmdOffline (some ios2) s') :=
  Acts.termIo
    (Acts.ite (fun _ => acts_goOffline hActs)
      (fun _ => hActs))

theorem acts_devCmdConfigInterface
    (hActs : Acts o ios2 waiting s s') :
    Acts o ios2 waiting s
      (devCmdConfigInterface ios2 s') := by
  have hAddress := hActs.setUnit (f := fun u =>
    { u with stAddr := (s'.reqs ios2).srcAddr })
    ⟨fun _ => rfl, fun _ => rfl, fun _ => rfl⟩
  have hConfigured :=
    (hAddress.runNic (ksz8851SetNetworkAddress
      (s'.reqs ios2).srcAddr)).setUnit (f := fun u =>
        { u with state := u.state ||| etherufConfig })
      ⟨fun _ => rfl, fun _ => rfl, fun _ => rfl⟩
  exact Acts.ite (fun _ => hActs.termWithError _ _)
    (fun _ => acts_devCmdOnline hConfigured)

theorem acts_devCmdDeviceQuery
    (hActs : Acts o ios2 waiting s s') :
    Acts o ios2 waiting s (devCmdDeviceQuery ios2 s') :=
  Acts.ite
    (fun _ => Acts.ite
      (fun _ => (hActs.setQuery _ _).termIo)
      (fun _ => hActs.termWithError _ _))
    (fun _ => hActs.termWithError _ _)

theorem acts_devCmdStats
    (hActs : Acts o ios2 waiting s s') :
    Acts o ios2 waiting s (devCmdStats ios2 s') :=
  Acts.ite (fun _ => hActs.termIo)
    (fun _ => hActs.termWithError _ _)

theorem acts_devCmdNsDeviceQuery
    (hActs : Acts o ios2 waiting s s') :
    Acts o ios2 waiting s (devCmdNsDeviceQuery ios2 s') := by
  unfold devCmdNsDeviceQuery
  dsimp only
  refine Acts.termIo (Acts.setReq ?_ _ (by intro _; rfl))
  exact Acts.ite (fun _ => hActs.setQuery _ _)
    (fun _ => hActs)

theorem acts_devCmdTrackType
    (hActs : Acts o ios2 waiting s s') :
    Acts o ios2 waiting s (devCmdTrackType o ios2 s') :=
  Acts.ite
    (fun _ => hActs.termWithError _ _)
    (fun _ => Acts.ite
      (fun _ => (hActs.setUnit (by
        exact ⟨fun _ => rfl, fun _ => rfl,
          fun _ => rfl⟩)).termIo)
      (fun _ => hActs.termIo))

theorem acts_devCmdUnTrackType
    (hActs : Acts o ios2 waiting s s') :
    Acts o ios2 waiting s (devCmdUnTrackType ios2 s') :=
  Acts.ite
    (fun _ => (hActs.setUnit (by
      exact ⟨fun _ => rfl, fun _ => rfl,
        fun _ => rfl⟩)).termIo)
    (fun _ => hActs.termWithError _ _)

------------------------------------------------------------
-- Dispatch
------------------------------------------------------------

theorem acts_dispatch
    {command : UWORD}
    (hActs : Acts o ios2 waiting s s')
    (hSend : s'.MaySend ios2 waiting)
    (hCommand : (s'.reqs ios2).ioCommand = command) :
    Acts o ios2 waiting s (dispatch o command ios2 s') := by
  have hWrite := acts_devCmdWritePacket hActs hSend
  have hBroadcast :
      Acts o ios2 waiting s (broadcastPacket o ios2 s') :=
    acts_devCmdWritePacket
      (hActs.setReq _ (by intro _; rfl))
      ⟨hSend.own, hSend.queue⟩
  have hAddress :
      Acts o ios2 waiting s (devCmdGetStationAddress ios2 s') :=
    (hActs.setReq _ (by intro _; rfl)).termIo
  have hStats := acts_devCmdStats hActs
  unfold dispatch
  refine Acts.ite (fun _ => hWrite) (fun _ => ?_)
  refine Acts.ite (fun _ => acts_devCmdReadPacket hActs)
    (fun _ => ?_)
  refine Acts.ite (fun _ => hBroadcast) (fun _ => ?_)
  refine Acts.ite (fun _ => hWrite) (fun _ => ?_)
  refine Acts.ite (fun _ => (acts_flushRequests hActs).termIo)
    (fun _ => ?_)
  refine Acts.ite (fun hEvent => acts_devCmdOnEvent hActs
    (hCommand.trans hEvent)) (fun _ => ?_)
  refine Acts.ite (fun _ => acts_devCmdOnline hActs)
    (fun _ => ?_)
  refine Acts.ite (fun _ => acts_devCmdOffline hActs)
    (fun _ => ?_)
  refine Acts.ite (fun _ => acts_devCmdDeviceQuery hActs)
    (fun _ => ?_)
  refine Acts.ite (fun _ => hAddress) (fun _ => ?_)
  refine Acts.ite (fun _ => acts_devCmdConfigInterface hActs)
    (fun _ => ?_)
  refine Acts.ite (fun _ => acts_devCmdReadOrphan hActs)
    (fun _ => ?_)
  refine Acts.ite (fun _ => hStats) (fun _ => ?_)
  refine Acts.ite (fun _ => acts_devCmdTrackType hActs)
    (fun _ => ?_)
  refine Acts.ite (fun _ => acts_devCmdUnTrackType hActs)
    (fun _ => ?_)
  refine Acts.ite (fun _ => hStats) (fun _ => ?_)
  refine Acts.ite (fun _ => acts_devCmdNsDeviceQuery hActs)
    (fun _ => ?_)
  exact hActs.termWithError _ _

/- Performing a request consists of acts on it, and sends
   nothing but it and what waits to be sent. -/
theorem acts_performIo (o : Outcome) (ios2 : APTR) (s : Driver) :
    Acts o ios2 (ios2 :: s.lists .euTx) s
      (performIo o ios2 s) := by
  have hReset :
      Acts o ios2 (ios2 :: s.lists .euTx) s
        (s.setReq ios2 (fun req =>
          { req with ioError := 0 })) :=
    Acts.refl.setReq _ (by intro _; rfl)
  refine acts_dispatch hReset
    ⟨List.mem_cons_self, fun r hIn => ?_⟩ ?_
  · exact List.mem_cons_of_mem _ hIn
  · rw [reqs_setReq, if_pos rfl]

/- What holds before a request is performed, and is kept by
   every act, holds afterwards. -/
theorem performIo_rule
    {I : Driver → Prop}
    (hStart : I s)
    (hAct : ∀ t t',
      Act o ios2 (ios2 :: s.lists .euTx) t t' → I t → I t') :
    I (performIo o ios2 s) := by
  have hActs := acts_performIo o ios2 s
  generalize performIo o ios2 s = t at hActs ⊢
  induction hActs with
  | refl => exact hStart
  | tail hBefore hLast ih => exact hAct _ _ hLast ih

end Handlers

------------------------------------------------------------
-- Received Packets
------------------------------------------------------------

section Packets

variable {I : Driver → Prop}
variable {o : Outcome} {buffer : Memory} {size : UWORD}

theorem askOpeners_rule
    (hOffer : ∀ t head r, r ∈ t.lists head →
      head ≠ .euEvents → head ≠ .unitMsgPort → I t →
        I (fulfillReadIORequest o head r buffer size t).2)
    {s : Driver}
    (bms : List APTR)
    (delivered : Bool)
    (hStart : I s) :
    I (askOpeners o buffer size bms delivered s).2 := by
  induction bms generalizing delivered s with
  | nil => exact hStart
  | cons bm bms ih =>
      unfold askOpeners
      split
      · rename_i r hFirst
        apply ih
        apply hOffer s (.bmRxQueue bm) r
        · exact List.mem_of_find?_eq_some hFirst
        · exact ListHead.noConfusion
        · exact ListHead.noConfusion
        · exact hStart
      · exact ih delivered hStart

/- What is kept whenever a packet is offered to a reader that
   waits is kept by the delivery of the packet. -/
theorem onPktReceived_rule
    (hOffer : ∀ t head r, r ∈ t.lists head →
      head ≠ .euEvents → head ≠ .unitMsgPort → I t →
        I (fulfillReadIORequest o head r buffer size t).2)
    {s : Driver}
    (hStart : I s) :
    I (onPktReceived o buffer size s) := by
  have hAsked :=
    askOpeners_rule hOffer s.unit.buffMgmt false hStart
  unfold onPktReceived
  dsimp only
  split
  · exact hAsked
  · unfold askOrphan
    split
    · exact hAsked
    · rename_i firstOrphan others hOrphans
      apply hOffer _ .euReadOrphan firstOrphan
      · rw [hOrphans]
        exact List.mem_cons_self
      · exact ListHead.noConfusion
      · exact ListHead.noConfusion
      · exact hAsked

end Packets

end KszDriver
