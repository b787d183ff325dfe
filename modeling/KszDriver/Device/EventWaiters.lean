import KszDriver.Device.QueueSteps
import KszDriver.Device.UnitLife

/-
  Nobody waits for the unit to go online while it is online,
  or to go offline while it is offline.

  Main declarations:
    * `Driver.NoneInVain`
    * `noneInVain_goOnline`, `noneInVain_goOffline`
    * `noneInVain_and_firesExactly`
-/

------------------------------------------------------------
-- Waiting in Vain
------------------------------------------------------------

namespace KszDriver

namespace Driver

/- No request waits for what holds already. -/
structure NoneInVain (s : Driver) : Prop where
  online : s.Online → ∀ r, ¬ s.WaitsFor s2eventOnline r
  offline : ¬ s.Online → ∀ r, ¬ s.WaitsFor s2eventOffline r

variable {s s' : Driver} {ios2 : APTR}

/- The test of `DevCmdOnEvent` tells a request that would
   wait in vain. -/
theorem noneInVain_iff :
    s.NoneInVain ↔ ∀ r ∈ s.lists .euEvents,
      ¬ AlreadyHolds (s.reqs r).wireError s := by
  constructor
  · rintro hNone r hMem (⟨hAwaits, hOnline⟩ | ⟨hAwaits, hOff⟩)
    · exact hNone.online hOnline r ⟨hMem, hAwaits⟩
    · exact hNone.offline hOff r ⟨hMem, hAwaits⟩
  · intro hNone
    exact
      { online := fun hOnline r hWaits =>
          hNone r hWaits.1 (Or.inl ⟨hWaits.2, hOnline⟩)
        offline := fun hOff r hWaits =>
          hNone r hWaits.1 (Or.inr ⟨hWaits.2, hOff⟩) }

/- Where nobody waits for events, nobody waits in vain. -/
theorem noneInVain_of_nil
    (hNil : s.lists .euEvents = []) :
    s.NoneInVain := by
  apply noneInVain_iff.mpr
  intro r hMem
  rw [hNil] at hMem
  exact absurd hMem List.not_mem_nil

theorem Keeps.waitsFor
    {events : ULONG}
    {r : APTR}
    (hKeeps : Keeps s s')
    (hWaits : s'.WaitsFor events r) :
    s.WaitsFor events r := by
  refine ⟨(hKeeps.lists .euEvents).mem hWaits.1, ?_⟩
  have hSame := congrArg Waiter.wireError
    (hKeeps.waiter .euEvents r hWaits.1)
  change (s'.reqs r).wireError = (s.reqs r).wireError at hSame
  have hAwaits := hWaits.2
  rw [IOSana2Req.Awaits, hSame] at hAwaits
  exact hAwaits

/- The state stays the same, and nobody else waits. -/
theorem NoneInVain.keeps
    (hNone : s.NoneInVain)
    (hKeeps : Keeps s s')
    (hOnline : s'.Online ↔ s.Online) :
    s'.NoneInVain where
  online := fun hOn r hWaits =>
    hNone.online (hOnline.mp hOn) r (hKeeps.waitsFor hWaits)
  offline := fun hOff r hWaits =>
    hNone.offline (fun hOn => hOff (hOnline.mpr hOn)) r
      (hKeeps.waitsFor hWaits)

/- A request that joins a list does not wait in vain. -/
theorem NoneInVain.joins
    {head : ListHead}
    (hNone : s.NoneInVain)
    (hHold : Holding ios2 s)
    (hJoins : Joins head ios2 s s') :
    s'.NoneInVain := by
  have hOnline : s'.Online ↔ s.Online :=
    online_of_alone (by rw [unit_of_rest hJoins.rest])
  rw [noneInVain_iff] at hNone ⊢
  intro r hMem hHolds
  have hHolds' : AlreadyHolds (s'.reqs r).wireError s := by
    unfold AlreadyHolds at hHolds ⊢
    rw [hOnline] at hHolds
    exact hHolds
  rcases hJoins.mem_iff.mp hMem with hOld | ⟨hSame, hHead⟩
  · rw [hJoins.reqs_of_mem hHold hOld] at hHolds'
    exact hNone r hOld hHolds'
  · rw [hSame] at hHolds'
    exact hJoins.calm hHead.symm hHolds'

------------------------------------------------------------
-- Going Online and Offline
------------------------------------------------------------

/- Whoever waits for the unit to go online is told. -/
theorem noneInVain_goOnline
    (hOrderly : s.Orderly) :
    (goOnline s).NoneInVain := by
  have hLinked :=
    (thins_started (s := s)).linked hOrderly.toLinked
  have hOnline : (goOnline s).Online := by
    rw [goOnline_eq]
    exact (Steady.refl.doEvent s2eventOnline).online.mpr
      (online_started s)
  exact
    { online := fun _ =>
        not_waitsFor_doEvent s2eventOnline hLinked
      offline := fun hOff => absurd hOnline hOff }

/- Whoever waits for it to go offline is told before the
   lists are flushed. -/
theorem noneInVain_goOffline
    (hOrderly : s.Orderly) :
    (goOffline s).NoneInVain := by
  have hSwitched : Thins s (s.setUnit (fun u =>
      { u with state := u.state &&& ~~~etherufOnline })) :=
    thins_setUnit _
  have hOrderly' := hOrderly.thins hSwitched
  have hFired := hOrderly'.doEvent s2eventOffline
  have hFlushed := (hOrderly'.thins hFired).flushRequests
  have hKeeps :
      Keeps ((s.setUnit (fun u =>
        { u with
          state := u.state &&& ~~~etherufOnline })).doEvent
            s2eventOffline) (goOffline s) :=
    hFlushed.toKeeps.trans
      (thins_runNic ksz8851Offline).toKeeps
  exact
    { online := fun hOn =>
        absurd hOn (not_online_goOffline s)
      offline := fun _ r hWaits =>
        not_waitsFor_doEvent s2eventOffline
          hOrderly'.toLinked r (hKeeps.waitsFor hWaits) }

/- Terminating a request that is in no list. -/
theorem NoneInVain.termIo
    (hNone : s.NoneInVain)
    (hFree : s.Free ios2) :
    (s.termIo ios2).NoneInVain :=
  hNone.keeps (keeps_termIo hFree)
    (Steady.refl.termIo ios2).online

theorem NoneInVain.termWithError
    {ioError : Int}
    {wireError : ULONG}
    (hNone : s.NoneInVain)
    (hFree : s.Free ios2)
    (hError : ioError ≠ 0) :
    (s.termWithError ios2 ioError wireError).NoneInVain :=
  hNone.keeps (thins_termWithError hFree hError).toKeeps
    (Steady.refl.termWithError ios2 _ _).online

theorem NoneInVain.devCmdOnline
    (hNone : s.NoneInVain)
    (hHold : Holding ios2 s) :
    (devCmdOnline ios2 s).NoneInVain := by
  unfold KszDriver.devCmdOnline
  split
  · split
    · exact hNone.termIo hHold.free
    · exact (noneInVain_goOnline hHold.toOrderly).termIo
        (hHold.toOrderly.goOnline.free hHold.free)
  · exact hNone.termWithError hHold.free (by decide)

theorem NoneInVain.devCmdOffline
    (hNone : s.NoneInVain)
    (hHold : Holding ios2 s) :
    (devCmdOffline (some ios2) s).NoneInVain := by
  unfold KszDriver.devCmdOffline
  dsimp only
  split
  · exact (noneInVain_goOffline hHold.toOrderly).termIo
      (hHold.toOrderly.goOffline.free hHold.free)
  · exact hNone.termIo hHold.free

theorem NoneInVain.devCmdConfigInterface
    (hNone : s.NoneInVain)
    (hHold : Holding ios2 s) :
    (devCmdConfigInterface ios2 s).NoneInVain := by
  by_cases hDone : s.Configured
  · unfold KszDriver.devCmdConfigInterface
    rw [if_pos hDone]
    exact hNone.termWithError hHold.free (by decide)
  · rw [devCmdConfigInterface_of_not_configured hDone]
    have hThins := thins_configured (s := s) ios2
    exact (hNone.keeps hThins.toKeeps
      (online_configured s ios2)).devCmdOnline
        (hHold.thins hThins)

------------------------------------------------------------
-- Steps
------------------------------------------------------------

/- What a handler does leaves nobody waiting in vain, if the
   state bits stay. -/
theorem NoneInVain.performs
    (hNone : s.NoneInVain)
    (hHold : Holding ios2 s)
    (hPerforms : Performs ios2 s s')
    (hOnline : s'.Online ↔ s.Online) :
    s'.NoneInVain := by
  cases hPerforms with
  | ends hThins => exact hNone.keeps hThins.toKeeps hOnline
  | waits head hJoins => exact hNone.joins hHold hJoins
  | configures mid hThins hOwn hUnit hDone =>
      have hKeeps : Keeps s s' := by
        rw [hDone]
        exact hThins.toKeeps.trans
          (keeps_termIo (hThins.free hHold.free))
      exact hNone.keeps hKeeps hOnline

theorem NoneInVain.passes
    (hNone : s.NoneInVain)
    (hPasses : Passes s s')
    (hOnline : s'.Online ↔ s.Online) :
    s'.NoneInVain := by
  cases hPasses with
  | thins hThins => exact hNone.keeps hThins.toKeeps hOnline
  | performs ios2 mid hThins hHold hRest hPerforms =>
      have hMid : mid.Online ↔ s.Online :=
        online_of_alone (by rw [unit_of_rest hRest])
      exact (hNone.keeps hThins.toKeeps hMid).performs hHold
        hPerforms (hOnline.trans hMid.symm)

theorem Passes.noneInVain_of_steady
    (hPasses : Passes s s')
    (hNone : s.base.unit0 = true → s.NoneInVain)
    (hUnit : s'.base.unit0 = true)
    (hSteady : Steady s s') :
    s'.NoneInVain := by
  rw [hSteady.base] at hUnit
  exact (hNone hUnit).passes hPasses hSteady.online

/- The commands that switch the unit. -/
theorem NoneInVain.performIo_of_switches
    (hNone : s.NoneInVain)
    (hHold : Holding ios2 s)
    (o : Outcome)
    (hSwitches : Switches (s.reqs ios2).ioCommand) :
    (performIo o ios2 s).NoneInVain := by
  have hThins := thins_resetError (s := s) ios2
  have hHold' := hHold.thins hThins
  have hNone' := hNone.keeps hThins.toKeeps Iff.rfl
  unfold KszDriver.performIo
  rcases hSwitches with h | h | h
  · rw [h, dispatch_s2Online]
    exact hNone'.devCmdOnline hHold'
  · rw [h, dispatch_s2Offline]
    exact hNone'.devCmdOffline hHold'
  · rw [h, dispatch_s2ConfigInterface]
    exact hNone'.devCmdConfigInterface hHold'

theorem NoneInVain.serviceMsgPort
    (hNone : s.NoneInVain)
    (hOrderly : s.Orderly)
    (o : Outcome) :
    (serviceMsgPort o s).NoneInVain := by
  have hPasses := hOrderly.serviceMsgPort o
  unfold KszDriver.serviceMsgPort at hPasses ⊢
  split at hPasses
  · exact hNone
  · rename_i ios2 others _
    have hHold := hOrderly.remove ios2
    have hTaken := hNone.keeps
      (thins_remove ios2).toKeeps Iff.rfl
    by_cases hSwitches :
        Switches ((s.remove ios2).reqs ios2).ioCommand
    · exact hTaken.performIo_of_switches hHold o hSwitches
    · have hSteady := steady_performIo o ios2 _ hSwitches
      exact hNone.passes hPasses hSteady.online

theorem Waits.noneInVain_next
    {op : Op}
    (hWaits : s.Waits)
    (hAllowed : op.Allowed s)
    (hNone : s.base.unit0 = true → s.NoneInVain)
    (hUnit : (s.next op).base.unit0 = true) :
    (s.next op).NoneInVain := by
  have hPasses := hWaits.next hAllowed
  cases op with
  | openDevice ios2 s2unit s2flags env =>
      have hFound := found_deviceOpen ios2 s2unit s2flags env s
      cases hThere : s.base.unit0 with
      | true =>
          exact (hNone hThere).passes hPasses
            (online_of_alone (hFound.kept hThere).2)
      | false =>
          exact noneInVain_of_nil
            (hFound.made hThere hUnit).2
  | close ios2 =>
      have hKept := kept_deviceClose ios2 s hUnit
      exact (hNone hKept.1).passes hPasses
        (online_of_alone hKept.2.1)
  | expunge =>
      have hKept := kept_deviceExpunge s hUnit
      exact (hNone hKept.1).passes hPasses
        (online_of_alone hKept.2.1)
  | serviceMsgPort o =>
      exact (hNone hAllowed).serviceMsgPort hWaits.orderly o
  | _ =>
      exact hPasses.noneInVain_of_steady hNone hUnit
        (steady_next s (by simp) (by simp) (by simp)
          (by simp))

end Driver

------------------------------------------------------------
-- Runs
------------------------------------------------------------

open Driver

theorem noneInVain_of_reach
    {s : Driver}
    (hReach : deviceMachine.Reach Machine.Free s) :
    s.base.unit0 = true → s.NoneInVain := by
  have hBoth :
      s.Waits ∧ (s.base.unit0 = true → s.NoneInVain) := by
    apply hReach.invariant
      (I := fun s =>
        s.Waits ∧ (s.base.unit0 = true → s.NoneInVain))
    · intro s hStart
      exact ⟨hStart.waits, fun _ =>
        noneInVain_of_nil (hStart.2.1 .euEvents)⟩
    · rintro s op hAllowed _ ⟨hWaits, hNone⟩
      exact ⟨hWaits.next_waits hAllowed,
        hWaits.noneInVain_next hAllowed hNone⟩
  exact hBoth.2

/-
  In every run of the device nobody waits in vain while the
  unit is up; and an event fired in any of its states ends
  exactly the requests that wait for it.  Commands fire
  events in between, with the lists just as well linked.
-/
theorem noneInVain_and_firesExactly
    {s : Driver}
    (hReach : deviceMachine.Reach Machine.Free s) :
    (s.base.unit0 = true → s.NoneInVain) ∧
      ∀ mid : Driver, mid.Linked → ∀ events,
        FiresExactly events mid (mid.doEvent events) :=
  ⟨noneInVain_of_reach hReach,
    fun _ hLinked events =>
      firesExactly_doEvent events hLinked⟩

/- A request waits for the unit to go online, which it then
   does. -/
def waitForOnline : List Op :=
  .openDevice 7 0#32 0#32 (plainOpen 40) ::
    submitSteps 9
      { plainRequest s2OnEvent with
        wireError := s2eventOnline } ++
    [.serviceMsgPort plainOutcome] ++
    submitSteps 8 (plainRequest s2ConfigInterface) ++
    [.serviceMsgPort plainOutcome]

theorem noneInVain_and_firesExactly_waitForOnline :
    let s := deviceMachine.run waitForOnline
      (loadedDriver (idleRegisters 0x1800#16))
    (s.base.unit0 = true → s.NoneInVain) ∧
      ∀ mid : Driver, mid.Linked → ∀ events,
        FiresExactly events mid (mid.doEvent events) :=
  noneInVain_and_firesExactly
    (Machine.reach_run _
      (Machine.Reach.start (start_loadedDriver _))
      (by decide +kernel))

end KszDriver
