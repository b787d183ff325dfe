import KszDriver.Device.Openers
import KszDriver.Device.Performing

/-
  In every run the lists of the driver stay orderly, and one
  step puts at most one request into one list.

  Main declarations:
    * `Passes`
    * `Orderly.next`
    * `Driver.Waits`, `waits_of_reach`
-/

------------------------------------------------------------
-- Opening and Closing
------------------------------------------------------------

namespace KszDriver

namespace Driver

variable {s s' : Driver} {ios2 : APTR}

theorem thins_setBase
    (f : DeviceBase → DeviceBase) :
    Thins s (s.setBase f) :=
  Thins.of_same rfl rfl rfl

/- Lists are cut, and nothing else is changed but what the
   lists do not depend on. -/
theorem thins_cut
    (lists : ListHead → List APTR)
    (hCut : ∀ head, (lists head).Sublist (s.lists head))
    (hReqs : s'.reqs = s.reqs)
    (hLists : s'.lists = lists)
    (hLog : s'.log = s.log) :
    Thins s s' where
  lists := by
    rw [hLists]
    exact hCut
  waiter := by
    intro head r _
    rw [hReqs]
  log := NoneConfigured.of_log hLog

theorem thins_initUnitProcess (env : OpenEnv) :
    Thins s (initUnitProcess env s) := by
  unfold initUnitProcess
  apply Thins.ite
  · intro _
    exact Thins.refl
  · intro _
    apply Thins.ite
    · intro _
      apply thins_cut (newLists s.lists)
      · intro head
        cases head with
        | bmRxQueue bm => exact List.Sublist.refl _
        | _ => exact List.nil_sublist _
      · rfl
      · rfl
      · rfl
    · intro _
      exact Thins.refl

theorem thins_addOpener
    (hFree : s.Free ios2)
    (env : OpenEnv) :
    Thins s (addOpener ios2 env s) := by
  have hMarked := thins_setReq hFree (fun req =>
    { req with
      bufferManagement := env.bm
      ioError := s2errNoError
      lnType := ntReplyMsg
      ioUnit := some 0#8
      ioDevice := some 1 })
  apply hMarked.trans
  apply thins_cut
    (Function.update s.lists (.bmRxQueue env.bm) [])
  · intro head
    rw [Function.update_apply]
    split
    · exact List.nil_sublist _
    · exact List.Sublist.refl _
  · rfl
  · rfl
  · rfl

theorem thins_deviceOpen
    (hFree : s.Free ios2)
    (s2unit s2flags : ULONG)
    (env : OpenEnv) :
    Thins s (deviceOpen ios2 s2unit s2flags env s) := by
  apply deviceOpen_rule (I := Thins s) (J := Thins s)
  · intro t flags count hThins
    exact hThins.trans (thins_setBase _)
  · intro t count hThins
    exact hThins.trans (thins_setBase _)
  · intro t hThins
    exact hThins.trans (thins_runNic _)
  · intro t hThins
    exact hThins.trans (thins_initUnitProcess env)
  · intro t hThins
    exact hThins.trans (thins_setReq (hThins.free hFree) _)
  · intro t _ _ hThins
    exact hThins.trans
      (thins_addOpener (hThins.free hFree) env)
  · exact Thins.refl

theorem Holding.freeOpener
    (hHold : Holding ios2 s) :
    Thins s (freeOpener ios2 s) := by
  unfold KszDriver.freeOpener
  apply Thins.ite
  · intro _
    have hAborted := hHold.toOrderly.abortReqList
      (.bmRxQueue (s.reqs ios2).bufferManagement)
    apply Thins.ite
    · intro _
      have hErased := hAborted.trans (thins_setUnit (fun u =>
        { u with
          buffMgmt := u.buffMgmt.erase
            (s.reqs ios2).bufferManagement }))
      exact hErased.trans
        (thins_setReq (hErased.free hHold.free) _)
    · intro _
      exact hAborted
  · intro _
    exact Thins.refl

theorem thins_expungeUnit :
    Thins s (expungeUnit s) :=
  Thins.ite
    (fun _ => ((thins_setUnit _).trans (thins_runNic _)).trans
      (thins_setBase _))
    (fun _ => Thins.refl)

theorem thins_deviceExpunge :
    Thins s (deviceExpunge s).2 := by
  rw [deviceExpunge_setBase]
  exact thins_setBase _

theorem Holding.closeUnit
    (hHold : Holding ios2 s) :
    Thins s (closeUnit ios2 s) := by
  have hReset :=
    hHold.freeOpener.trans (thins_setBase (fun b =>
      { b with libFlags := resetModes b.libFlags }))
  have hTrashed := hReset.trans
    (thins_setReq (hReset.free hHold.free) (fun req =>
      { req with ioDevice := none, ioUnit := none }))
  have hCounted := hTrashed.trans (thins_setUnit (fun u =>
    { u with unitOpenCnt := u.unitOpenCnt - 1#16 }))
  unfold KszDriver.closeUnit
  dsimp only
  split
  · exact (hCounted.trans thins_expungeUnit).trans
      (thins_setBase _)
  · exact hCounted.trans (thins_setBase _)

theorem Holding.deviceClose
    (hHold : Holding ios2 s) :
    Thins s (deviceClose ios2 s).2 := by
  rw [deviceClose_eq]
  split
  · exact hHold.closeUnit
  · exact Thins.refl

------------------------------------------------------------
-- Steps
------------------------------------------------------------

/- What a step does to the requests that wait. -/
inductive Passes (s s' : Driver) : Prop where
| thins (hThins : Thins s s')
| performs
    (ios2 : APTR)
    (mid : Driver)
    (hThins : Thins s mid)
    (hHold : Holding ios2 mid)
    (hRest : mid.rest = s.rest)
    (hPerforms : Performs ios2 mid s')

theorem Passes.orderly
    (hOrderly : s.Orderly)
    (hPasses : Passes s s') :
    s'.Orderly := by
  cases hPasses with
  | thins hThins => exact hOrderly.thins hThins
  | performs ios2 mid hThins hHold hRest hPerforms =>
      exact hPerforms.orderly hHold

/- The two halves of the invariant: requests are conserved,
   and the lists are orderly. -/
structure Waits (s : Driver) : Prop where
  conserved : s.Conserved custodyPolicy []
  orderly : s.Orderly

theorem Waits.holding
    (hWaits : s.Waits)
    (hOwned : s.Owned ios2) :
    Holding ios2 s where
  toOrderly := hWaits.orderly
  free := fun _ hMem =>
    hOwned (hWaits.conserved.outstanding hMem)

/- The handler has the request as the client submitted it, or
   as it was taken from the port. -/
theorem Holding.passes
    {mid : Driver}
    (hHold : Holding ios2 mid)
    (o : Outcome)
    (hThins : Thins s mid)
    (hRest : mid.rest = s.rest)
    (hPending :
      (mid.reqs ios2).ioCommand = s2OnEvent →
        (mid.reqs ios2).lnType = ntMessage) :
    Passes s (KszDriver.performIo o ios2 mid) := by
  have hReset := thins_resetError (s := mid) ios2
  exact .performs ios2 _ (hThins.trans hReset)
    (hHold.thins hReset) hRest (hHold.performIo o hPending)

theorem thins_submitted (ios2 : APTR) :
    Thins s (s.record (.submitted ios2)) where
  lists := fun head => List.Sublist.refl (s.lists head)
  waiter := fun _ _ _ => rfl
  log := by
    apply NoneConfigured.of_cons (.submitted ios2)
    · rfl
    · intro r req hEvent
      cases hEvent

theorem Waits.deviceBeginIo
    (hWaits : s.Waits)
    (hOwned : s.Owned ios2)
    (o : Outcome) :
    Passes s (deviceBeginIo o ios2 s) := by
  have hTaken := thins_submitted (s := s) ios2
  have hHold := (hWaits.holding hOwned).thins hTaken
  unfold KszDriver.deviceBeginIo
  dsimp only
  split
  · rename_i hNow
    apply hHold.passes o hTaken rfl
    intro hEvent
    rw [hEvent] at hNow
    exact absurd hNow (by decide)
  · have hMarked := hTaken.trans (thins_setReq hHold.free
      (fun req =>
        { req with
          lnType := ntMessage
          ioFlags := req.ioFlags &&& ~~~iofQuick }))
    apply Passes.performs ios2 _ hMarked
      (hWaits.holding hOwned |>.thins hMarked) rfl
    exact .waits .unitMsgPort (joins_addTail
      (fun req => { req with lnType := ntMessage }) rfl
      trivial (fun hHead => by cases hHead))

theorem Orderly.serviceMsgPort
    (hOrderly : s.Orderly)
    (o : Outcome) :
    Passes s (serviceMsgPort o s) := by
  unfold KszDriver.serviceMsgPort
  split
  · exact .thins Thins.refl
  · rename_i ios2 others hFirst
    have hMem : ios2 ∈ s.lists .unitMsgPort := by
      rw [hFirst]
      exact List.mem_cons_self
    exact (hOrderly.remove ios2).passes o
      (thins_remove ios2) rfl
      (fun _ => hOrderly.pending .unitMsgPort ios2 hMem)

theorem Orderly.deviceAbortIo
    (hOrderly : s.Orderly)
    (ios2 : APTR) :
    Thins s (deviceAbortIo ios2 s).2 := by
  rcases deviceAbortIo_cases ios2 s with
    hSame | ⟨-, hAborted⟩
  · rw [hSame]
    exact Thins.refl
  · rw [hAborted]
    exact hOrderly.abortOne ios2

theorem Waits.next
    {op : Op}
    (hWaits : s.Waits)
    (hAllowed : op.Allowed s) :
    Passes s (s.next op) := by
  cases op with
  | openDevice ios2 s2unit s2flags env =>
      exact .thins (thins_deviceOpen
        (hWaits.holding hAllowed.2.1).free s2unit s2flags env)
  | close ios2 =>
      exact .thins (hWaits.holding hAllowed.2.1).deviceClose
  | expunge => exact .thins thins_deviceExpunge
  | beginIo ios2 o =>
      exact hWaits.deviceBeginIo hAllowed.2 o
  | abortIo ios2 =>
      exact .thins (hWaits.orderly.deviceAbortIo ios2)
  | serviceMsgPort o => exact hWaits.orderly.serviceMsgPort o
  | pktReceived buffer size o =>
      exact .thins (hWaits.orderly.onPktReceived o buffer size)
  | doEvent events =>
      exact .thins (hWaits.orderly.doEvent events)
  | configChanged addr =>
      exact .thins (thins_setUnit (fun u =>
        { u with stAddr := addr }))
  | clientWrite ios2 req =>
      exact .thins (thins_setReq
        (hWaits.holding hAllowed).free (fun _ => req))
  | hardware regs =>
      exact .thins (Thins.of_same rfl rfl rfl)

theorem Waits.next_waits
    {op : Op}
    (hWaits : s.Waits)
    (hAllowed : op.Allowed s) :
    (s.next op).Waits where
  conserved :=
    hWaits.conserved.next hAllowed (custodyPolicy_meets s op)
  orderly := (hWaits.next hAllowed).orderly hWaits.orderly

theorem Start.waits
    (hStart : s.Start) :
    s.Waits where
  conserved := hStart.conserved custodyPolicy
  orderly :=
    { toLinked := (hStart.conserved custodyPolicy).toLinked
      pending := by
        intro head r hMem
        rw [hStart.2.1] at hMem
        exact absurd hMem List.not_mem_nil
      isFor := by
        intro head r hMem
        rw [hStart.2.1] at hMem
        exact absurd hMem List.not_mem_nil }

end Driver

theorem waits_of_reach
    {s : Driver}
    (hReach : deviceMachine.Reach Machine.Free s) :
    s.Waits := by
  apply hReach.invariant
  · intro s hStart
    exact hStart.waits
  · intro s op hAllowed _ hWaits
    exact hWaits.next_waits hAllowed

end KszDriver
