import KszDriver.Device.Acts
import KszDriver.Device.Handlers

/-
  What serving a request leaves alone: the device base, the
  openers and their callbacks; and, but for the commands that
  switch the unit on and off, its state bits.

  Main declarations:
    * `Driver.Serves`, `Driver.Steady`
    * `serves_performIo`
    * `steady_performIo`
    * `online_devCmdOnline`, `not_online_devCmdOffline`
-/

------------------------------------------------------------
-- Serving
------------------------------------------------------------

namespace KszDriver

namespace Driver

/- The base and the openers stay the same. -/
structure Serves (s s' : Driver) : Prop where
  base : s'.base = s.base
  bms : s'.bms = s.bms
  buffMgmt : s'.unit.buffMgmt = s.unit.buffMgmt
  unitOpenCnt : s'.unit.unitOpenCnt = s.unit.unitOpenCnt

/- So do the state bits of the unit. -/
structure Steady (s s' : Driver) : Prop
    extends Serves s s' where
  state : s'.unit.state = s.unit.state

variable {s s' s'' : Driver}

theorem Serves.trans
    (hFirst : Serves s s')
    (hSecond : Serves s' s'') :
    Serves s s'' where
  base := hSecond.base.trans hFirst.base
  bms := hSecond.bms.trans hFirst.bms
  buffMgmt := hSecond.buffMgmt.trans hFirst.buffMgmt
  unitOpenCnt := hSecond.unitOpenCnt.trans hFirst.unitOpenCnt

namespace Steady

theorem refl : Steady s s where
  base := rfl
  bms := rfl
  buffMgmt := rfl
  unitOpenCnt := rfl
  state := rfl

theorem trans
    (hFirst : Steady s s')
    (hSecond : Steady s' s'') :
    Steady s s'' where
  toServes := hFirst.toServes.trans hSecond.toServes
  state := hSecond.state.trans hFirst.state

theorem online
    (hSteady : Steady s s') :
    s'.Online ↔ s.Online := by
  rw [Online, Online, hSteady.state]

/- Whatever keeps all but requests, lists and history. -/
theorem of_rest (hRest : s'.rest = s.rest) : Steady s s' where
  base := base_of_rest hRest
  bms := congrArg Rest.bms hRest
  buffMgmt := by rw [unit_of_rest hRest]
  unitOpenCnt := by rw [unit_of_rest hRest]
  state := by rw [unit_of_rest hRest]

theorem ite
    {c : Prop} [Decidable c]
    {s₁ s₂ : Driver}
    (hThen : Steady s s₁)
    (hElse : Steady s s₂) :
    Steady s (if c then s₁ else s₂) := by
  by_cases hCond : c
  · rw [if_pos hCond]
    exact hThen
  · rw [if_neg hCond]
    exact hElse

theorem setReq
    (hSteady : Steady s s')
    (ios2 : APTR)
    (f : IOSana2Req → IOSana2Req) :
    Steady s (s'.setReq ios2 f) :=
  hSteady.trans (of_rest rfl)

theorem remove
    (hSteady : Steady s s')
    (ios2 : APTR) :
    Steady s (s'.remove ios2) :=
  hSteady.trans (of_rest rfl)

theorem record
    (hSteady : Steady s s')
    (event : Event) :
    Steady s (s'.record event) :=
  hSteady.trans (of_rest rfl)

theorem termIo
    (hSteady : Steady s s')
    (ios2 : APTR) :
    Steady s (s'.termIo ios2) :=
  hSteady.trans (of_rest (rest_termIo s' ios2))

theorem termWithError
    (hSteady : Steady s s')
    (ios2 : APTR)
    (ioError : Int)
    (wireError : ULONG) :
    Steady s (s'.termWithError ios2 ioError wireError) :=
  hSteady.trans (of_rest (rest_termWithError s' ios2 _ _))

theorem doEvent
    (hSteady : Steady s s')
    (events : ULONG) :
    Steady s (s'.doEvent events) :=
  hSteady.trans (of_rest (rest_doEvent s' events))

theorem abortReqList
    (hSteady : Steady s s')
    (head : ListHead) :
    Steady s (s'.abortReqList head) :=
  hSteady.trans (of_rest (rest_abortReqList s' head))

end Steady

theorem steady_runNic
    {α : Type}
    (s : Driver)
    (p : NicM α) :
    Steady s (s.runNic p) :=
  ⟨⟨rfl, rfl, rfl, rfl⟩, rfl⟩

theorem steady_runSend
    (s : Driver)
    (ios2 : APTR)
    (p : NicM ErrorT) :
    Steady s (s.runSend ios2 p) :=
  (steady_runNic s p).record _

theorem steady_copyFromBuffer
    (s : Driver)
    (o : Outcome)
    (ios2 : APTR)
    (offset : Nat) :
    Steady s (s.copyFromBuffer o ios2 offset) :=
  ⟨⟨rfl, rfl, rfl, rfl⟩, rfl⟩

theorem steady_setQuery
    (s : Driver)
    (query : APTR)
    (f : Sana2DeviceQuery → Sana2DeviceQuery) :
    Steady s (s.setQuery query f) :=
  ⟨⟨rfl, rfl, rfl, rfl⟩, rfl⟩

end Driver

open Driver

variable (o : Outcome) (ios2 : APTR) (s : Driver)

------------------------------------------------------------
-- Sending
------------------------------------------------------------

theorem steady_sendRaw : Steady s (sendRaw o ios2 s) := by
  have hCopied := steady_copyFromBuffer s o ios2 0
  exact Steady.ite
    (Steady.ite (hCopied.trans (steady_runSend _ ios2 _))
      (hCopied.setReq ios2 _))
    (Steady.refl.setReq ios2 _)

theorem steady_storeHeader :
    Steady s (storeHeader ios2 s) :=
  ⟨⟨rfl, rfl, rfl, rfl⟩, rfl⟩

theorem steady_sendCopied :
    Steady s (sendCopied o ios2 s) := by
  have hCopied :=
    (steady_storeHeader ios2 s).trans
      (steady_copyFromBuffer _ o ios2 etherPacketHeadSize)
  exact Steady.ite
    (hCopied.trans (steady_runSend _ ios2 _))
    (hCopied.setReq ios2 _)

theorem steady_sendCooked :
    Steady s (sendCooked o ios2 s) := by
  unfold sendCooked
  apply Steady.ite
  · cases dmaPacketBuffer o ios2 s with
    | some packet => exact steady_runSend s ios2 _
    | none => exact steady_sendCopied o ios2 s
  · exact Steady.refl.setReq ios2 _

theorem steady_sendOne : Steady s (sendOne o ios2 s) := by
  have hSent :
      Steady s (if (s.reqs ios2).Raw then sendRaw o ios2 s
        else sendCooked o ios2 s) :=
    Steady.ite (steady_sendRaw o ios2 s)
      (steady_sendCooked o ios2 s)
  exact Steady.termIo (Steady.ite (hSent.doEvent _) hSent) _

theorem steady_sendLoop (rs : List APTR) :
    Steady s (sendLoop o rs s) := by
  induction rs generalizing s with
  | nil => exact Steady.refl
  | cons ios2 rs ih =>
      have hTaken : Steady s (s.remove ios2) :=
        Steady.of_rest rfl
      exact (hTaken.trans (steady_sendOne o ios2 _)).trans
        (ih _)

theorem steady_sendAllPackets :
    Steady s (sendAllPackets o s) :=
  steady_sendLoop o s _

theorem steady_devCmdWritePacket :
    Steady s (devCmdWritePacket o ios2 s) := by
  unfold devCmdWritePacket
  apply Steady.ite
  · apply Steady.ite
    · dsimp only
      refine Steady.trans ?_ (steady_sendAllPackets o _)
      exact Steady.of_rest rfl
    · exact (Steady.refl.termWithError ios2 _ _).doEvent _
  · exact Steady.refl.termWithError ios2 _ _

------------------------------------------------------------
-- Other Commands
------------------------------------------------------------

theorem steady_devCmdReadPacket :
    Steady s (devCmdReadPacket ios2 s) :=
  Steady.ite
    (Steady.ite (Steady.of_rest rfl)
      (Steady.refl.termWithError ios2 _ _))
    (Steady.refl.termWithError ios2 _ _)

theorem steady_devCmdReadOrphan :
    Steady s (devCmdReadOrphan ios2 s) :=
  Steady.ite (Steady.of_rest rfl)
    (Steady.refl.termWithError ios2 _ _)

theorem steady_devCmdOnEvent :
    Steady s (devCmdOnEvent ios2 s) :=
  Steady.ite ((Steady.refl.setReq ios2 _).termIo ios2)
    (Steady.of_rest rfl)

theorem steady_flushReadQueues (bms : List APTR) :
    Steady s (flushReadQueues bms s) := by
  induction bms generalizing s with
  | nil => exact Steady.refl
  | cons bm bms ih =>
      exact (Steady.refl.abortReqList _).trans (ih _)

theorem steady_flushRequests :
    Steady s (flushRequests s) :=
  ((steady_flushReadQueues s _).abortReqList _).abortReqList _

theorem steady_devCmdDeviceQuery :
    Steady s (devCmdDeviceQuery ios2 s) :=
  Steady.ite
    (Steady.ite ((steady_setQuery s _ _).termIo ios2)
      (Steady.refl.termWithError ios2 _ _))
    (Steady.refl.termWithError ios2 _ _)

theorem steady_devCmdStats :
    Steady s (devCmdStats ios2 s) :=
  Steady.ite (Steady.refl.termIo ios2)
    (Steady.refl.termWithError ios2 _ _)

theorem steady_devCmdNsDeviceQuery :
    Steady s (devCmdNsDeviceQuery ios2 s) :=
  ((Steady.ite (steady_setQuery s _ _) Steady.refl).setReq
    ios2 _).termIo ios2

theorem steady_devCmdTrackType :
    Steady s (devCmdTrackType o ios2 s) := by
  have hTracked (u : DeviceDriverUnit → DeviceDriverUnit)
      (hUnit : Steady s (s.setUnit u)) :=
    hUnit.termIo ios2
  exact Steady.ite (Steady.refl.termWithError ios2 _ _)
    (Steady.ite (hTracked _ ⟨⟨rfl, rfl, rfl, rfl⟩, rfl⟩)
      (Steady.refl.termIo ios2))

theorem steady_devCmdUnTrackType :
    Steady s (devCmdUnTrackType ios2 s) := by
  have hUntracked (u : DeviceDriverUnit → DeviceDriverUnit)
      (hUnit : Steady s (s.setUnit u)) :=
    hUnit.termIo ios2
  exact Steady.ite
    (hUntracked _ ⟨⟨rfl, rfl, rfl, rfl⟩, rfl⟩)
    (Steady.refl.termWithError ios2 _ _)

theorem steady_broadcastPacket :
    Steady s (broadcastPacket o ios2 s) := by
  unfold broadcastPacket
  refine Steady.trans ?_ (steady_devCmdWritePacket o ios2 _)
  exact Steady.of_rest rfl

------------------------------------------------------------
-- Online and Offline
------------------------------------------------------------

/- A store that spares the openers and their number. -/
theorem serves_setUnit
    {f : DeviceDriverUnit → DeviceDriverUnit}
    (hBuffMgmt : ∀ u, (f u).buffMgmt = u.buffMgmt)
    (hCount : ∀ u, (f u).unitOpenCnt = u.unitOpenCnt) :
    Serves s (s.setUnit f) :=
  ⟨rfl, rfl, hBuffMgmt s.unit, hCount s.unit⟩

/- The unit changes in nothing but its state, its address
   and the signal of the low level driver. -/
theorem serves_goOnline : Serves s (goOnline s) := by
  have hStarted :=
    (((steady_runNic s (setInterface (fun iface =>
      { iface with onPacketReceived := true }))).trans
        (steady_runNic _ ksz8851Init)).trans
          (steady_runNic _ ksz8851Online)).toServes
  unfold goOnline
  refine Serves.trans ?_
    (Steady.refl.doEvent s2eventOnline).toServes
  exact hStarted.trans
    (serves_setUnit _ (fun _ => rfl) (fun _ => rfl))

/- Setting other bits keeps the online bit. -/
theorem online_or
    {state : ULONG}
    (bits : ULONG)
    (hOnline : state &&& etherufOnline ≠ 0#32) :
    (state ||| bits) &&& etherufOnline ≠ 0#32 := by
  intro hNone
  apply hOnline
  have hBoth :
      (state ||| bits) &&& etherufOnline &&& state =
        state &&& etherufOnline := by
    ext i hi
    simp only [BitVec.getElem_and, BitVec.getElem_or]
    cases state[i] <;> simp
  rw [← hBoth, hNone, BitVec.zero_and]

theorem not_online_andNot (state : ULONG) :
    state &&& ~~~etherufOnline &&& etherufOnline = 0#32 := by
  rw [BitVec.and_assoc]
  have hNone : ~~~etherufOnline &&& etherufOnline = 0#32 := by
    decide
  rw [hNone, BitVec.and_zero]

/- Going online never takes a unit offline. -/
theorem online_devCmdOnline
    {s : Driver}
    (ios2 : APTR)
    (hOnline : s.Online) :
    (devCmdOnline ios2 s).Online := by
  unfold devCmdOnline
  rw [if_pos hOnline]
  split
  · exact (Steady.refl.termIo ios2).online.mpr hOnline
  · exact (Steady.refl.termWithError ios2 _ _).online.mpr
      hOnline

theorem online_devCmdConfigInterface
    {s : Driver}
    (ios2 : APTR)
    (hOnline : s.Online) :
    (devCmdConfigInterface ios2 s).Online := by
  unfold devCmdConfigInterface
  split
  · exact (Steady.refl.termWithError ios2 _ _).online.mpr
      hOnline
  · apply online_devCmdOnline
    exact online_or etherufConfig hOnline

/- The unit as it is when it has gone offline. -/
theorem steady_goOffline :
    Steady
      (s.setUnit (fun u =>
        { u with state := u.state &&& ~~~etherufOnline }))
      (goOffline s) :=
  ((Steady.refl.doEvent _).trans
    (steady_flushRequests _)).trans (steady_runNic _ _)

/- Going offline leaves the unit offline. -/
theorem not_online_goOffline : ¬ (goOffline s).Online := by
  rw [(steady_goOffline s).online]
  intro hOnline
  exact hOnline (not_online_andNot s.unit.state)

theorem not_online_devCmdOffline :
    ¬ (devCmdOffline (some ios2) s).Online := by
  unfold devCmdOffline
  dsimp only
  rw [(Steady.refl.termIo ios2).online]
  split
  · exact not_online_goOffline s
  · rename_i hOffline
    exact hOffline

------------------------------------------------------------
-- Dispatch
------------------------------------------------------------

/- The commands that may change the state bits. -/
def Switches (command : UWORD) : Prop :=
  command = s2Online ∨ command = s2Offline ∨
    command = s2ConfigInterface

instance (command : UWORD) : Decidable (Switches command) := by
  unfold Switches
  infer_instance

theorem steady_dispatch
    {command : UWORD}
    (hSteady : ¬ Switches command) :
    Steady s (dispatch o command ios2 s) := by
  unfold Switches at hSteady
  rw [not_or, not_or] at hSteady
  unfold dispatch
  rw [if_neg hSteady.1, if_neg hSteady.2.1,
    if_neg hSteady.2.2]
  refine Steady.ite (steady_devCmdWritePacket o ios2 s) ?_
  refine Steady.ite (steady_devCmdReadPacket ios2 s) ?_
  refine Steady.ite (steady_broadcastPacket o ios2 s) ?_
  refine Steady.ite (steady_devCmdWritePacket o ios2 s) ?_
  refine Steady.ite ((steady_flushRequests s).termIo ios2) ?_
  refine Steady.ite (steady_devCmdOnEvent ios2 s) ?_
  refine Steady.ite (steady_devCmdDeviceQuery ios2 s) ?_
  refine Steady.ite
    ((Steady.refl.setReq ios2 _).termIo ios2) ?_
  refine Steady.ite (steady_devCmdReadOrphan ios2 s) ?_
  refine Steady.ite (steady_devCmdStats ios2 s) ?_
  refine Steady.ite (steady_devCmdTrackType o ios2 s) ?_
  refine Steady.ite (steady_devCmdUnTrackType ios2 s) ?_
  refine Steady.ite (steady_devCmdStats ios2 s) ?_
  refine Steady.ite (steady_devCmdNsDeviceQuery ios2 s) ?_
  exact Steady.refl.termWithError ios2 _ _

/- Every act serves. -/
theorem serves_act
    {waiting : List APTR}
    {s s' : Driver}
    (hAct : Act o ios2 waiting s s') :
    Serves s s' := by
  cases hAct with
  | setReq f hCommand =>
      exact (Steady.refl.setReq ios2 f).toServes
  | setUnit f hSparing =>
      exact serves_setUnit s hSparing.buffMgmt
        hSparing.unitOpenCnt
  | runNic p => exact (steady_runNic s p).toServes
  | setQuery query f =>
      exact (steady_setQuery s query f).toServes
  | queues head hPort hEvents => exact ⟨rfl, rfl, rfl, rfl⟩
  | sends r hWaits =>
      exact ((Steady.refl.remove r).trans
        (steady_sendOne o r _)).toServes
  | aborts r =>
      exact (Steady.of_rest (rest_abortOne s r)).toServes
  | fires events hKnown =>
      exact (Steady.refl.doEvent events).toServes
  | ends => exact (Steady.refl.termIo ios2).toServes

theorem serves_performIo : Serves s (performIo o ios2 s) :=
  performIo_rule Steady.refl.toServes
    (fun _ _ hAct hServes =>
      hServes.trans (serves_act o ios2 hAct))

theorem steady_performIo
    (hSteady : ¬ Switches (s.reqs ios2).ioCommand) :
    Steady s (performIo o ios2 s) :=
  (Steady.refl.setReq ios2 _).trans
    (steady_dispatch o ios2 _ hSteady)

/- Only going offline takes a unit offline. -/
theorem online_performIo
    {s : Driver}
    (hCommand : (s.reqs ios2).ioCommand ≠ s2Offline)
    (hOnline : s.Online) :
    (performIo o ios2 s).Online := by
  by_cases hSwitches : Switches (s.reqs ios2).ioCommand
  · rcases hSwitches with h | h | h
    · unfold performIo
      rw [h, dispatch_s2Online]
      exact online_devCmdOnline ios2 hOnline
    · exact absurd h hCommand
    · unfold performIo
      rw [h, dispatch_s2ConfigInterface]
      exact online_devCmdConfigInterface ios2 hOnline
  · exact (steady_performIo o ios2 s hSwitches).online.mpr
      hOnline

------------------------------------------------------------
-- Received Packets
------------------------------------------------------------

variable (head : ListHead) (buffer : Memory) (size : UWORD)

theorem steady_fulfillReadIORequest :
    Steady s
      (fulfillReadIORequest o head ios2 buffer size s).2 := by
  have hDescribed :=
    (Steady.refl (s := s)).setReq ios2
      (describePacket buffer size)
  unfold fulfillReadIORequest
  split
  · dsimp only
    split
    · split
      · exact ((hDescribed.record _).record _).remove ios2
          |>.termIo ios2
      · exact (((hDescribed.record _).setReq ios2 _).doEvent
          s2eventBuff).remove ios2 |>.termIo ios2
    · exact hDescribed.record _
  · exact Steady.refl.record _

theorem steady_onPktReceived :
    Steady s (onPktReceived o buffer size s) := by
  apply onPktReceived_rule (I := Steady s)
  · intro t head r _ _ _ hSteady
    exact hSteady.trans
      (steady_fulfillReadIORequest o r t head buffer size)
  · exact Steady.refl

end KszDriver
