import KszDriver.Device.Station
import KszDriver.Nic.BringUp

/-
  What it means for the unit to be online.

  `DevCmdOnline` looks neither at the result of the low level
  initialization nor at that of installing the interrupt
  server.  The unit works as long as both succeed.

  Main declarations:
    * `Station.Working`
    * `Station.FailureReported`
    * `StartsWithMeans`
    * `onlineWorks_iff`
-/

------------------------------------------------------------
-- Working Units
------------------------------------------------------------

namespace KszDriver

open Driver

/-
  A unit that is online is configured and initialized, its
  server is linked once, and the unit waits for the signal
  that the server raises.
-/
def Station.Working (st : Station) : Prop :=
  st.driver.base.unit0 = true → st.driver.Online →
    st.driver.Configured ∧
      st.notes.lastInit = some noError ∧
      st.driver.nic.iface.rxBuffer = true ∧
      st.driver.nic.servers = 1 ∧
      st.driver.unit.lowLevelDriverSignalNumber =
        st.driver.nic.iface.sigNumber

/- The command of this request takes the unit online. -/
def Driver.TakesOnline (s : Driver) (ios2 : APTR) : Prop :=
  ¬ s.Online ∧
    ((s.reqs ios2).ioCommand = s2Online ∧ s.Configured ∨
      (s.reqs ios2).ioCommand = s2ConfigInterface ∧
        ¬ s.Configured)

/- The unit process performs it next. -/
def Station.Starts
    (st : Station) (i : StationInput) (ios2 : APTR) : Prop :=
  (∃ o, i = .device (.serviceMsgPort o)) ∧
    (st.driver.lists .unitMsgPort).head? = some ios2 ∧
    st.driver.TakesOnline ios2

/- The low level driver before it is initialized. -/
def Driver.beforeInit (s : Driver) (ios2 : APTR) : NicState :=
  runCalls
    (if (s.reqs ios2).ioCommand = s2ConfigInterface then
      [.setNetworkAddress (s.reqs ios2).srcAddr, .setReceiver]
    else [.setReceiver]) s.nic

/- Initialization or the installation of the server fails. -/
def Driver.StartFails (s : Driver) (ios2 : APTR) : Prop :=
  (ksz8851Init.runOn (s.beforeInit ios2)).1 ≠ noError ∨
    (installInterruptHandler.runOn
      (ksz8851Init.runOn (s.beforeInit ios2)).2).1 = false

/- A command that fails so ends in an error and leaves the
   unit offline, and nobody is told that it is online. -/
def Station.FailureReported
    (st : Station) (i : StationInput) : Prop :=
  ∀ ios2, st.Starts i ios2 → st.driver.StartFails ios2 →
    (∃ req, Event.terminated ios2 req ∈
        st.driver.since (st.next i).driver ∧
      req.ioError ≠ 0) ∧
    ¬ (st.next i).driver.Online ∧
    Event.fired s2eventOnline ∉
      st.driver.since (st.next i).driver

/- What is asked of every step. -/
def Station.OnlineWorks
    (st : Station) (i : StationInput) : Prop :=
  (st.next i).Working ∧ st.FailureReported i

/- Whenever the unit is taken online, the chip answers, and
   there is memory and a signal. -/
def StartsWithMeans (st : Station) (i : StationInput) : Prop :=
  ∀ ios2, st.Starts i ios2 →
    st.driver.nic.means.cider = revA3Id ∧
      st.driver.nic.means.freeMemory = true ∧
      st.driver.nic.means.freeSignal ≠ -1

------------------------------------------------------------
-- Going Online
------------------------------------------------------------

section Starting

variable {n : NicState} {notes : Notes}

/- The low level driver when the receiver is set. -/
theorem setReceiver_run (n : NicState) :
    (LowLevelCall.setReceiver.run n).footing = n.footing ∧
      (LowLevelCall.setReceiver.run n).means = n.means ∧
      (LowLevelCall.setReceiver.run n).iface.signalTask =
        n.iface.signalTask :=
  ⟨rfl, rfl, rfl⟩

theorem runCalls_goOnlineCalls (n : NicState) :
    runCalls goOnlineCalls n =
      (ksz8851Online.runOn (ksz8851Init.runOn
        (LowLevelCall.setReceiver.run n)).2).2 := by
  have hInit (m : NicState) :
      LowLevelCall.init.run m = (ksz8851Init.runOn m).2 :=
    runOn_discard ksz8851Init m
  rw [← hInit]
  rfl

theorem lastInit_goOnlineCalls (n : NicState) :
    (notes.calls goOnlineCalls n).lastInit =
      some (ksz8851Init.runOn
        (LowLevelCall.setReceiver.run n)).1 := rfl

/- With the means the driver comes up. -/
theorem footing_goOnlineCalls
    (hTask : n.iface.signalTask = false)
    (hCider : n.means.cider = revA3Id)
    (hMemory : n.means.freeMemory = true)
    (hSignal : n.means.freeSignal ≠ -1) :
    (ksz8851Init.runOn
        (LowLevelCall.setReceiver.run n)).1 = noError ∧
      (runCalls goOnlineCalls n).footing =
        (n.footing.allocated true).linked
          n.means.freeSignal := by
  rcases setReceiver_run n with ⟨hFooting, hMeans, hSame⟩
  rw [runCalls_goOnlineCalls]
  generalize LowLevelCall.setReceiver.run n = m
    at hFooting hMeans hSame ⊢
  have hSuccess : (ksz8851Init.runOn m).1 = noError := by
    apply (init_succeeds_iff m).mpr
    rw [hMeans]
    exact ⟨hCider, hMemory⟩
  have hAllocated := footing_init hSuccess
  have hKept := spares_init m
  have hTask' :
      (ksz8851Init.runOn m).2.iface.signalTask = false := by
    have hSame' := congrArg Footing.signalTask hAllocated
    exact (hSame'.trans hSame).trans hTask
  refine ⟨hSuccess, ?_⟩
  rw [footing_online hTask' (by
    rw [hKept, hMeans]
    exact hSignal), hAllocated, hKept, hFooting, hMeans]

/- Setting the address leaves both alone. -/
theorem beforeInit_keeps (s : Driver) (ios2 : APTR) :
    (s.beforeInit ios2).footing = s.nic.footing ∧
      (s.beforeInit ios2).means = s.nic.means := by
  unfold Driver.beforeInit
  split
  · have hFooting :
        ((ksz8851SetNetworkAddress
          (s.reqs ios2).srcAddr).runOn s.nic).2.footing =
            s.nic.footing :=
      (goes_setNetworkAddress (s.reqs ios2).srcAddr).run
    have hMeans := spares_setNetworkAddress
      (s.reqs ios2).srcAddr s.nic
    have hSet := setReceiver_run
      (LowLevelCall.run
        (.setNetworkAddress (s.reqs ios2).srcAddr) s.nic)
    exact ⟨hSet.1.trans hFooting, hSet.2.1.trans hMeans⟩
  · have hSet := setReceiver_run s.nic
    exact ⟨hSet.1, hSet.2.1⟩

/- Whether the start fails is decided by the means. -/
theorem startFails_iff
    {s : Driver}
    {ios2 : APTR}
    (hTask : s.nic.iface.signalTask = false) :
    s.StartFails ios2 ↔
      ¬ (s.nic.means.cider = revA3Id ∧
        s.nic.means.freeMemory = true ∧
        s.nic.means.freeSignal ≠ -1) := by
  rcases beforeInit_keeps s ios2 with ⟨hFooting, hMeans⟩
  unfold Driver.StartFails
  generalize s.beforeInit ios2 = m at hFooting hMeans ⊢
  rcases (treads_init (w := m.footing)).run with
    ⟨rxBuffer, hAllocated, -⟩
  have hTask' :
      (ksz8851Init.runOn m).2.iface.signalTask = false := by
    have hSame := congrArg Footing.signalTask hAllocated
    have hSame' := congrArg Footing.signalTask hFooting
    exact (hSame.trans hSame').trans hTask
  have hInstalled := (runOn_installInterruptHandler hTask').1
  rw [hInstalled, spares_init m, Ne, init_succeeds_iff m,
    hMeans, decide_eq_false_iff_not]
  constructor
  · rintro (hInit | hInstall) ⟨hCider, hMemory, hSignal⟩
    · exact hInit ⟨hCider, hMemory⟩
    · exact hInstall hSignal
  · intro hNot
    by_cases hInit : s.nic.means.cider = revA3Id ∧
        s.nic.means.freeMemory = true
    · exact Or.inr (fun hSignal =>
        hNot ⟨hInit.1, hInit.2, hSignal⟩)
    · exact Or.inl hInit

end Starting

------------------------------------------------------------
-- The Invariant
------------------------------------------------------------

namespace Station

/- What a unit that is online has, and that one which is not
   has no server. -/
structure Backed (st : Station) : Prop where
  grounded : st.driver.nic.footing.Grounded
  online : st.driver.base.unit0 = true → st.driver.Online →
    st.driver.Configured ∧
      st.notes.lastInit = some noError ∧
      st.driver.nic.iface.rxBuffer = true ∧
      st.driver.nic.iface.signalTask = true ∧
      st.driver.unit.lowLevelDriverSignalNumber =
        st.driver.nic.iface.sigNumber
  offline :
    ¬ (st.driver.base.unit0 = true ∧ st.driver.Online) →
      st.driver.nic.iface.signalTask = false

variable {st st' : Station}

theorem Backed.working (hBacked : st.Backed) :
    st.Working := by
  intro hUnit hOnline
  rcases hBacked.online hUnit hOnline with
    ⟨hDone, hInit, hBuffer, hTask, hNumber⟩
  have hServers : st.driver.nic.servers =
      if st.driver.nic.iface.signalTask then 1 else 0 :=
    hBacked.grounded
  rw [hTask, if_pos rfl] at hServers
  exact ⟨hDone, hInit, hBuffer, hServers, hNumber⟩

/- Nothing has happened to the unit or to the driver's own
   state. -/
structure Rests (st st' : Station) : Prop where
  footing : st'.driver.nic.footing = st.driver.nic.footing
  unit0 : st'.driver.base.unit0 = st.driver.base.unit0
  online : st'.driver.Online ↔ st.driver.Online
  configured : st'.driver.Configured ↔ st.driver.Configured
  lastInit : st'.notes.lastInit = st.notes.lastInit
  signalNumber :
    st'.driver.unit.lowLevelDriverSignalNumber =
      st.driver.unit.lowLevelDriverSignalNumber

theorem Backed.rests
    (hBacked : st.Backed)
    (hRests : Rests st st') :
    st'.Backed := by
  have hTask := congrArg Footing.signalTask hRests.footing
  have hNumber := congrArg Footing.sigNumber hRests.footing
  have hBuffer := congrArg Footing.rxBuffer hRests.footing
  change st'.driver.nic.iface.signalTask =
    st.driver.nic.iface.signalTask at hTask
  change st'.driver.nic.iface.sigNumber =
    st.driver.nic.iface.sigNumber at hNumber
  change st'.driver.nic.iface.rxBuffer =
    st.driver.nic.iface.rxBuffer at hBuffer
  exact
    { grounded := by
        rw [hRests.footing]
        exact hBacked.grounded
      online := by
        rw [hRests.unit0, hRests.online, hRests.configured,
          hRests.lastInit, hRests.signalNumber, hTask,
          hNumber, hBuffer]
        exact hBacked.online
      offline := by
        rw [hRests.unit0, hRests.online, hTask]
        exact hBacked.offline }

/- The unit has come up with the means for it. -/
theorem backed_of_up
    {w : Footing}
    {sigNumber : Int}
    (hFooting : st'.driver.nic.footing =
      (w.allocated true).linked sigNumber)
    (hServers : w.servers = 0)
    (hOnline : st'.driver.Online)
    (hUnit : st'.driver.base.unit0 = true)
    (hConfigured : st'.driver.Configured)
    (hInit : st'.notes.lastInit = some noError)
    (hNumber :
      st'.driver.unit.lowLevelDriverSignalNumber =
        st'.driver.nic.iface.sigNumber) :
    st'.Backed where
  grounded := by
    rw [hFooting]
    unfold Footing.Grounded Footing.linked Footing.allocated
    dsimp only
    rw [hServers]
    rfl
  online := fun _ _ =>
    ⟨hConfigured, hInit, congrArg Footing.rxBuffer hFooting,
      congrArg Footing.signalTask hFooting, hNumber⟩
  offline := fun hNot => absurd ⟨hUnit, hOnline⟩ hNot

/- The server has been unlinked, if there was one. -/
theorem Backed.unlinked
    (hBacked : st.Backed)
    (hFooting : st'.driver.nic.footing =
      st.driver.nic.footing.unlinked)
    (hOffline : ¬ (st'.driver.base.unit0 = true ∧
      st'.driver.Online)) :
    st'.Backed where
  grounded := by
    rw [hFooting]
    exact hBacked.grounded.settles_unlinked.1
  online := fun hUnit hOnline =>
    absurd ⟨hUnit, hOnline⟩ hOffline
  offline := by
    intro _
    have hTask := congrArg Footing.signalTask hFooting
    exact hTask.trans hBacked.grounded.unlinked.2

end Station

------------------------------------------------------------
-- Steps at Rest
------------------------------------------------------------

section Calls

variable {cs : List LowLevelCall} {notes : Notes}

theorem lastInit_calls
    (n : NicState)
    (hOther : .init ∉ cs) :
    (notes.calls cs n).lastInit = notes.lastInit := by
  induction cs generalizing notes n with
  | nil => rfl
  | cons c cs ih =>
      unfold Notes.calls
      rw [ih _ (fun hIn =>
        hOther (List.mem_cons_of_mem c hIn))]
      cases c with
      | init => exact absurd List.mem_cons_self hOther
      | _ => rfl

/- Sending keeps the footing. -/
theorem footing_run_of_sends
    {c : LowLevelCall}
    (hSends : c.Sends)
    (n : NicState) :
    (c.run n).footing = n.footing := by
  cases c with
  | sendPacket buffer length =>
      exact (treads_discard
        (goes_sendPacket (w := n.footing) buffer
          length)).run
  | sendPacketCooked dst src packetType payload length =>
      exact (treads_discard
        (goes_sendPacketCooked (w := n.footing) dst src
          packetType payload length)).run
  | _ => exact hSends.elim

theorem footing_runCalls_of_sends
    (hSends : ∀ c ∈ cs, c.Sends)
    (n : NicState) :
    (runCalls cs n).footing = n.footing := by
  induction cs generalizing n with
  | nil => rfl
  | cons c cs ih =>
      have hHead := footing_run_of_sends
        (hSends c List.mem_cons_self) n
      have hTail := ih (fun c' hIn =>
        hSends c' (List.mem_cons_of_mem c hIn)) (c.run n)
      exact hTail.trans hHead

/- A probe does not know about the server. -/
theorem footing_run_probe (n : NicState) :
    (LowLevelCall.probe.run n).footing = n.footing := by
  have hProbe : LowLevelCall.probe.run n =
      (ksz8851DetectNICEndiness.runOn n).2 :=
    runOn_discard ksz8851DetectNICEndiness n
  have hRead (m : NicState) :
      ((ksz8851ReadReg regCider).runOn m).2.footing =
        m.footing := by
    rw [runOn_ksz8851ReadReg]
    rfl
  rw [hProbe]
  unfold ksz8851DetectNICEndiness
  rw [NicM.runOn_bind]
  split
  · rw [NicM.runOn_bind, NicM.runOn_bind]
    split
    · exact (hRead _).trans (hRead n)
    · exact (hRead _).trans (hRead n)
  · exact hRead n

end Calls

namespace Station

variable {st st' : Station} {op : Op}

/- The steps that keep the state bits and only send. -/
theorem rests_of_steady
    (hSteady : Driver.Steady st.driver (st.driver.next op))
    (hFooting : (st.driver.next op).nic.footing =
      st.driver.nic.footing)
    (hNumber :
      (st.driver.next op).unit.lowLevelDriverSignalNumber =
        st.driver.unit.lowLevelDriverSignalNumber)
    (hCalls : ∀ c ∈ st.driver.calls op, c.Sends) :
    Rests st (st.next (.device op)) where
  footing := hFooting
  unit0 := congrArg DeviceBase.unit0 hSteady.base
  online := hSteady.online
  configured := hSteady.configured
  lastInit := lastInit_calls st.driver.nic
    (fun hIn => hCalls _ hIn)
  signalNumber := hNumber

/- What is known of the calls gives the rest. -/
theorem rests_of_wire
    (hSteady : Driver.Steady st.driver (st.driver.next op))
    (hWire : (st.driver.next op).wire =
      st.driver.wire.after (st.driver.calls op))
    (hCalls : ∀ c ∈ st.driver.calls op, c.Sends) :
    Rests st (st.next (.device op)) := by
  apply rests_of_steady hSteady _ _ hCalls
  · rw [nic_of_wire hWire]
    exact footing_runCalls_of_sends hCalls st.driver.nic
  · exact (congrArg Wire.signalNumber hWire).trans
      (st.driver.wire.signalNumber_after
        (fun hIn => hCalls _ hIn))

------------------------------------------------------------
-- Performing Commands
------------------------------------------------------------

variable {ios2 : APTR} {s : Driver}

/- A unit that is configured comes up. -/
theorem backed_goOnline
    (hUnit : s.base.unit0 = true)
    (hConfigured : s.Configured)
    (hGrounded : s.nic.footing.Grounded)
    (hTask : s.nic.iface.signalTask = false)
    (hMeans : s.nic.means.cider = revA3Id ∧
      s.nic.means.freeMemory = true ∧
      s.nic.means.freeSignal ≠ -1)
    (hDriver : st'.driver = (goOnline s).termIo ios2)
    (hInit : st'.notes.lastInit =
      some (ksz8851Init.runOn
        (LowLevelCall.setReceiver.run s.nic)).1) :
    st'.Backed := by
  have hUp := footing_goOnlineCalls hTask hMeans.1
    hMeans.2.1 hMeans.2.2
  have hWire :
      ((goOnline s).termIo ios2).wire =
        s.wire.after goOnlineCalls := by
    rw [wire_termIo, goOnline_eq, wire_doEvent, wire_started]
  have hNic :
      ((goOnline s).termIo ios2).nic =
        runCalls goOnlineCalls s.nic :=
    nic_of_wire hWire
  have hServers : s.nic.footing.servers = 0 := by
    have hServers : s.nic.footing.servers =
        if s.nic.iface.signalTask then 1 else 0 := hGrounded
    rw [hTask] at hServers
    exact hServers
  have hSteady :
      Driver.Steady (goOnline s) ((goOnline s).termIo ios2) :=
    Driver.Steady.refl.termIo ios2
  have hOnline : (goOnline s).Online := by
    rw [goOnline_eq]
    exact (Driver.Steady.refl.doEvent s2eventOnline).online.mpr
      (online_started s)
  have hFooting :
      st'.driver.nic.footing =
        (s.nic.footing.allocated true).linked
          s.nic.means.freeSignal := by
    rw [hDriver, hNic]
    exact hUp.2
  apply backed_of_up hFooting hServers
  · rw [hDriver]
    exact hSteady.online.mpr hOnline
  · rw [hDriver, hSteady.base, (serves_goOnline s).base]
    exact hUnit
  · rw [hDriver]
    exact hSteady.configured.mpr
      (Driver.configured_goOnline.mpr hConfigured)
  · rw [hInit, hUp.1]
  · have hNumber :
        (s.wire.after goOnlineCalls).signalNumber =
          (runCalls goOnlineCalls s.nic).iface.sigNumber :=
      s.wire.signalNumber_after_online [.setReceiver, .init]
    rw [← hNic] at hNumber
    rw [hDriver]
    exact (congrArg Wire.signalNumber hWire).trans hNumber

/- A request is ended, and nothing else is done. -/
theorem rests_of_rest
    (hRest : s.rest = st.driver.rest)
    (hInit : st'.notes.lastInit = st.notes.lastInit)
    (hDriver : st'.driver = s) :
    Rests st st' := by
  have hSteady := Driver.Steady.of_rest hRest
  have hUnit := unit_of_rest hRest
  exact
    { footing := by rw [hDriver, nic_of_rest hRest]
      unit0 := by rw [hDriver, base_of_rest hRest]
      online := by rw [hDriver, hSteady.online]
      configured := by rw [hDriver, hSteady.configured]
      lastInit := hInit
      signalNumber := by rw [hDriver, hUnit] }

/- The parts that the unit is started with. -/
structure SameParts (s s' : Driver) : Prop where
  unit0 : s'.base.unit0 = s.base.unit0
  footing : s'.nic.footing = s.nic.footing
  means : s'.nic.means = s.nic.means

/- A unit that is online has been configured. -/
theorem Backed.startable
    (hBacked : st.Backed)
    (hParts : SameParts st.driver s)
    (hOffline : ¬ st.driver.Online) :
    s.nic.footing.Grounded ∧
      s.nic.iface.signalTask = false := by
  have hTask := congrArg Footing.signalTask hParts.footing
  rw [hParts.footing]
  exact ⟨hBacked.grounded, hTask.trans
    (hBacked.offline (fun hBoth => hOffline hBoth.2))⟩

/- `S2_ONLINE` -/
theorem Backed.devCmdOnline
    (hBacked : st.Backed)
    (hUnit : st.driver.base.unit0 = true)
    (hRest : s.rest = st.driver.rest)
    (hMeans : ¬ s.Online → s.Configured →
      st.driver.nic.means.cider = revA3Id ∧
        st.driver.nic.means.freeMemory = true ∧
        st.driver.nic.means.freeSignal ≠ -1)
    (hDriver : st'.driver = devCmdOnline ios2 s)
    (hInit : st'.notes.lastInit =
      (st.notes.calls (onlineCalls s)
        st.driver.nic).lastInit) :
    st'.Backed := by
  have hSteady := Driver.Steady.of_rest hRest
  have hParts : SameParts st.driver s :=
    { unit0 := congrArg DeviceBase.unit0 hSteady.base
      footing := by rw [nic_of_rest hRest]
      means := by rw [nic_of_rest hRest] }
  by_cases hConfigured : s.Configured
  · by_cases hOnline : s.Online
    · rw [onlineCalls, if_neg (fun hBoth =>
        hBoth.2 hOnline)] at hInit
      rw [KszDriver.devCmdOnline, if_pos hConfigured,
        if_pos hOnline] at hDriver
      exact hBacked.rests (rests_of_rest
        ((rest_termIo s ios2).trans hRest) hInit hDriver)
    · rw [onlineCalls, if_pos ⟨hConfigured, hOnline⟩,
        lastInit_goOnlineCalls, ← nic_of_rest hRest] at hInit
      rw [KszDriver.devCmdOnline, if_pos hConfigured,
        if_neg hOnline] at hDriver
      have hReady := hBacked.startable hParts
        (fun hOn => hOnline (hSteady.online.mpr hOn))
      apply backed_goOnline (hParts.unit0.trans hUnit)
        hConfigured hReady.1 hReady.2 _ hDriver hInit
      rw [hParts.means]
      exact hMeans hOnline hConfigured
  · rw [onlineCalls, if_neg (fun hBoth =>
      hConfigured hBoth.1)] at hInit
    rw [KszDriver.devCmdOnline, if_neg hConfigured] at hDriver
    exact hBacked.rests (rests_of_rest
      ((rest_termWithError s ios2 _ _).trans hRest)
      hInit hDriver)

/- `S2_OFFLINE` -/
theorem Backed.devCmdOffline
    (hBacked : st.Backed)
    (hRest : s.rest = st.driver.rest)
    (hDriver : st'.driver = devCmdOffline (some ios2) s)
    (hInit : st'.notes.lastInit = st.notes.lastInit) :
    st'.Backed := by
  by_cases hOnline : s.Online
  · have hWire := wire_devCmdOffline ios2 s
    rw [if_pos hOnline] at hWire
    have hNic := nic_of_wire hWire
    have hFooting :
        (LowLevelCall.offline.run s.nic).footing =
          s.nic.footing.unlinked :=
      (goes_offline (w := s.nic.footing)).run
    apply hBacked.unlinked
    · rw [hDriver, hNic, ← nic_of_rest hRest]
      exact hFooting
    · rintro ⟨-, hOn⟩
      rw [hDriver] at hOn
      exact not_online_devCmdOffline ios2 s hOn
  · have hEnded : KszDriver.devCmdOffline (some ios2) s =
        s.termIo ios2 := by
      unfold KszDriver.devCmdOffline
      rw [if_neg hOnline]
    rw [hEnded] at hDriver
    exact hBacked.rests (rests_of_rest
      ((rest_termIo s ios2).trans hRest) hInit hDriver)

/- `S2_CONFIGINTERFACE` -/
theorem Backed.devCmdConfigInterface
    (hBacked : st.Backed)
    (hUnit : st.driver.base.unit0 = true)
    (hRest : s.rest = st.driver.rest)
    (hMeans : ¬ s.Online → ¬ s.Configured →
      st.driver.nic.means.cider = revA3Id ∧
        st.driver.nic.means.freeMemory = true ∧
        st.driver.nic.means.freeSignal ≠ -1)
    (hDriver : st'.driver = devCmdConfigInterface ios2 s)
    (hInit : st'.notes.lastInit =
      (st.notes.calls (configCalls ios2 s)
        st.driver.nic).lastInit) :
    st'.Backed := by
  have hSteady := Driver.Steady.of_rest hRest
  by_cases hDone : s.Configured
  · rw [configCalls, if_pos hDone] at hInit
    rw [KszDriver.devCmdConfigInterface, if_pos hDone]
      at hDriver
    exact hBacked.rests (rests_of_rest
      ((rest_termWithError s ios2 _ _).trans hRest)
      hInit hDriver)
  · have hOffline : ¬ s.Online := by
      intro hOnline
      apply hDone
      exact hSteady.configured.mpr
        (hBacked.online hUnit (hSteady.online.mp hOnline)).1
    have hIsDone := configured_configured s ios2
    have hStillOff : ¬ (s.configured ios2).Online :=
      fun hOn => hOffline ((online_configured s ios2).mp hOn)
    have hNic : (s.configured ios2).nic =
        LowLevelCall.run
          (.setNetworkAddress (s.reqs ios2).srcAddr)
          st.driver.nic := by
      rw [← nic_of_rest hRest]
      rfl
    have hFooting :
        ((ksz8851SetNetworkAddress
          (s.reqs ios2).srcAddr).runOn
            st.driver.nic).2.footing =
              st.driver.nic.footing :=
      (goes_setNetworkAddress (s.reqs ios2).srcAddr).run
    have hParts : SameParts st.driver (s.configured ios2) :=
      { unit0 := congrArg DeviceBase.unit0 hSteady.base
        footing := by
          rw [hNic]
          exact hFooting
        means := by
          rw [hNic]
          exact spares_setNetworkAddress _ _ }
    have hReady := hBacked.startable hParts
      (fun hOn => hOffline (hSteady.online.mpr hOn))
    rw [configCalls, if_neg hDone, if_neg hOffline,
      Notes.calls, lastInit_goOnlineCalls, ← hNic] at hInit
    rw [devCmdConfigInterface_of_not_configured hDone,
      KszDriver.devCmdOnline, if_pos hIsDone,
      if_neg hStillOff] at hDriver
    apply backed_goOnline (hParts.unit0.trans hUnit)
      hIsDone hReady.1 hReady.2 _ hDriver hInit
    rw [hParts.means]
    exact hMeans hOffline hDone

/- The first command in the port of the unit. -/
theorem Backed.performs
    {others : List APTR}
    {o : Outcome}
    (hBacked : st.Backed)
    (hUnit : st.driver.base.unit0 = true)
    (hFirst : st.driver.lists .unitMsgPort = ios2 :: others)
    (hMeans : st.driver.TakesOnline ios2 →
      st.driver.nic.means.cider = revA3Id ∧
        st.driver.nic.means.freeMemory = true ∧
        st.driver.nic.means.freeSignal ≠ -1) :
    (st.next (.device (.serviceMsgPort o))).Backed := by
  rcases next_serviceMsgPort hFirst o with ⟨hNext, hCalls⟩
  have hDriver :
      (st.next (.device (.serviceMsgPort o))).driver =
        performIo o ios2 (st.driver.remove ios2) := hNext
  have hInit :
      (st.next (.device (.serviceMsgPort
        o))).notes.lastInit =
          (st.notes.calls (performCalls o ios2
            (st.driver.remove ios2))
              st.driver.nic).lastInit := by
    rw [← hCalls]
    rfl
  have hCommand :
      ((st.driver.remove ios2).reqs ios2).ioCommand =
        (st.driver.reqs ios2).ioCommand := rfl
  have hRest :
      ((st.driver.remove ios2).resetError ios2).rest =
        st.driver.rest := rfl
  by_cases hSwitches :
      Switches (st.driver.reqs ios2).ioCommand
  · unfold performIo at hDriver
    unfold performCalls at hInit
    rw [hCommand] at hDriver hInit
    rcases hSwitches with hOnline | hOffline | hConfig
    · rw [hOnline, dispatch_s2Online] at hDriver
      rw [hOnline, dispatchCalls_s2Online] at hInit
      exact hBacked.devCmdOnline hUnit hRest
        (fun hNot hDone =>
          hMeans ⟨hNot, Or.inl ⟨hOnline, hDone⟩⟩)
        hDriver hInit
    · rw [hOffline, dispatch_s2Offline] at hDriver
      rw [hOffline, dispatchCalls_s2Offline,
        lastInit_calls] at hInit
      · exact hBacked.devCmdOffline hRest hDriver hInit
      · split <;> simp
    · rw [hConfig, dispatch_s2ConfigInterface] at hDriver
      rw [hConfig, dispatchCalls_s2ConfigInterface] at hInit
      exact hBacked.devCmdConfigInterface hUnit hRest
        (fun hNot hDone =>
          hMeans ⟨hNot, Or.inr ⟨hConfig, hDone⟩⟩)
        hDriver hInit
  · apply hBacked.rests
    have hSends : ∀ c ∈ st.driver.calls (.serviceMsgPort o),
        c.Sends := by
      intro c hMem
      rw [hCalls] at hMem
      exact sends_of_mem_dispatchCalls hSwitches hMem
    have hSteady := steady_performIo o ios2
      (st.driver.remove ios2) hSwitches
    have hWire := wire_performIo o ios2
      (st.driver.remove ios2) (fun hConfig =>
        absurd (Or.inr (Or.inr hConfig)) hSwitches)
    rw [← hCalls] at hWire
    rw [← hNext] at hSteady hWire
    exact rests_of_wire
      ((Driver.Steady.refl.remove ios2).trans hSteady) hWire
      hSends

------------------------------------------------------------
-- Opening and Closing
------------------------------------------------------------

/- The unit was there before, and has other openers only. -/
theorem rests_of_alone
    (hFooting : st'.driver.nic.footing =
      st.driver.nic.footing)
    (hUnit0 : st'.driver.base.unit0 = st.driver.base.unit0)
    (hAlone : st'.driver.unit.alone = st.driver.unit.alone)
    (hInit : st'.notes.lastInit = st.notes.lastInit) :
    Rests st st' where
  footing := hFooting
  unit0 := hUnit0
  online := online_of_alone hAlone
  configured := configured_of_alone hAlone
  lastInit := hInit
  signalNumber := by
    have hNumber := congrArg
      DeviceDriverUnit.lowLevelDriverSignalNumber hAlone
    exact hNumber

/- There was no unit, and there is none that is online. -/
theorem Backed.of_none
    (hBacked : st.Backed)
    (hNone : st.driver.base.unit0 = false)
    (hFooting : st'.driver.nic.footing =
      st.driver.nic.footing)
    (hOffline : ¬ (st'.driver.base.unit0 = true ∧
      st'.driver.Online)) :
    st'.Backed where
  grounded := by
    rw [hFooting]
    exact hBacked.grounded
  online := fun hUnit hOnline =>
    absurd ⟨hUnit, hOnline⟩ hOffline
  offline := by
    intro _
    have hTask := congrArg Footing.signalTask hFooting
    apply hTask.trans
    apply hBacked.offline
    rintro ⟨hUnit, -⟩
    rw [hNone] at hUnit
    cases hUnit

/- An open only probes the chip. -/
theorem Backed.deviceOpen
    {s2unit s2flags : ULONG}
    {env : OpenEnv}
    (hBacked : st.Backed) :
    (st.next (.device (.openDevice ios2 s2unit s2flags
      env))).Backed := by
  have hFound := found_deviceOpen ios2 s2unit s2flags env
    st.driver
  have hFooting :
      (KszDriver.deviceOpen ios2 s2unit s2flags env
        st.driver).nic.footing =
          st.driver.nic.footing := by
    rw [nic_deviceOpen]
    split
    · exact footing_run_probe st.driver.nic
    · rfl
  cases hThere : st.driver.base.unit0 with
  | true =>
      rcases hFound.kept hThere with ⟨hStill, hAlone⟩
      apply hBacked.rests
      apply rests_of_alone hFooting
        (hStill.trans hThere.symm) hAlone
      apply lastInit_calls
      unfold calls
      dsimp only
      split <;> simp
  | false =>
      apply hBacked.of_none hThere hFooting
      rintro ⟨hUnit, hOnline⟩
      have hState := congrArg DeviceDriverUnit.state
        (hFound.made hThere hUnit).1
      have hBlank : (KszDriver.deviceOpen ios2 s2unit
          s2flags env st.driver).unit.state = 0#32 :=
        hState
      change (KszDriver.deviceOpen ios2 s2unit s2flags
        env st.driver).Online at hOnline
      rw [Online, hBlank] at hOnline
      exact absurd BitVec.zero_and hOnline

/- The last close takes the driver down. -/
theorem Backed.deviceClose
    (hBacked : st.Backed) :
    (st.next (.device (.close ios2))).Backed := by
  have hKept := kept_deviceClose ios2 st.driver
  have hNic := nic_deviceClose ios2 st.driver
  have hUnit0 := unit0_deviceClose ios2 st.driver
  by_cases hCloses : ClosesUnit ios2 st.driver
  · rw [if_pos hCloses] at hNic hUnit0
    have hFooting :
        (LowLevelCall.deinit.run st.driver.nic).footing =
          st.driver.nic.footing.unlinked :=
      (goes_deinit hBacked.grounded).run
    apply hBacked.unlinked
    · show (KszDriver.deviceClose ios2
        st.driver).2.nic.footing = _
      rw [hNic]
      exact hFooting
    · rintro ⟨hUnit, -⟩
      change (KszDriver.deviceClose ios2
        st.driver).2.base.unit0 = true at hUnit
      rw [hUnit0] at hUnit
      cases hUnit
  · rw [if_neg hCloses] at hNic hUnit0
    have hFooting := congrArg NicState.footing hNic
    cases hThere : st.driver.base.unit0 with
    | true =>
        apply hBacked.rests
        apply rests_of_alone hFooting hUnit0
          (hKept (hUnit0.trans hThere)).2.1
        apply lastInit_calls
        unfold calls
        dsimp only
        rw [if_neg hCloses]
        exact List.not_mem_nil
    | false =>
        apply hBacked.of_none hThere hFooting
        rintro ⟨hUnit, -⟩
        change (KszDriver.deviceClose ios2
          st.driver).2.base.unit0 = true at hUnit
        rw [hUnit0, hThere] at hUnit
        cases hUnit

------------------------------------------------------------
-- Steps
------------------------------------------------------------

variable {i : StationInput}

theorem Backed.setNic
    (hBacked : st.Backed)
    {n : NicState}
    (hFooting : n.footing = st.driver.nic.footing) :
    ({ st with driver := st.driver.setNic n } :
      Station).Backed :=
  hBacked.rests
    { footing := hFooting
      unit0 := rfl
      online := Iff.rfl
      configured := Iff.rfl
      lastInit := rfl
      signalNumber := rfl }

theorem Backed.next
    (hBacked : st.Backed)
    (hAllowed : st.Allowed i)
    (hMeans : StartsWithMeans st i) :
    (st.next i).Backed := by
  cases i with
  | processEvents =>
      have hFooting :
          (ksz8851EventHandler.runOn
            st.driver.nic).2.footing =
              st.driver.nic.footing :=
        (goes_eventHandler (w := st.driver.nic.footing)).run
      exact hBacked.setNic hFooting
  | interfere n => exact hBacked.setNic hAllowed
  | device op =>
      have hSteady := @Driver.steady_next st.driver op
      have hSilent : st.driver.calls op = [] →
          ∀ c ∈ st.driver.calls op, c.Sends := by
        intro hCalls c hMem
        rw [hCalls] at hMem
        exact absurd hMem List.not_mem_nil
      cases op with
      | openDevice ios2 s2unit s2flags env =>
          exact hBacked.deviceOpen
      | close ios2 => exact hBacked.deviceClose
      | expunge =>
          apply hBacked.rests
          apply rests_of_alone
          · exact congrArg NicState.footing
              (nic_deviceExpunge st.driver)
          · exact unit0_deviceExpunge st.driver
          · exact congrArg DeviceDriverUnit.alone
              (unit_deviceExpunge st.driver)
          · rfl
      | serviceMsgPort o =>
          cases hFirst : st.driver.lists .unitMsgPort with
          | nil =>
              have hNext : st.driver.next (.serviceMsgPort o) =
                  st.driver := by
                unfold Driver.next serviceMsgPort
                dsimp only
                rw [hFirst]
              apply hBacked.rests
              apply rests_of_rest rfl _ hNext
              apply lastInit_calls
              unfold calls
              dsimp only
              rw [hFirst]
              exact List.not_mem_nil
          | cons ios2 others =>
              apply hBacked.performs hAllowed hFirst
              intro hTakes
              exact hMeans ios2
                ⟨⟨o, rfl⟩, by rw [hFirst, List.head?_cons],
                  hTakes⟩
      | beginIo ios2 o =>
          apply hBacked.rests
          exact rests_of_wire
            (hSteady (by simp) (by simp) (by simp) (by simp))
            (wire_deviceBeginIo o ios2 st.driver)
            (fun _ hMem => sends_of_mem_beginCalls hMem)
      | abortIo ios2 =>
          apply hBacked.rests
          exact rests_of_wire
            (hSteady (by simp) (by simp) (by simp) (by simp))
            (wire_deviceAbortIo ios2 st.driver) (hSilent rfl)
      | pktReceived buffer size o =>
          apply hBacked.rests
          exact rests_of_wire
            (hSteady (by simp) (by simp) (by simp) (by simp))
            (wire_onPktReceived o buffer size st.driver)
            (hSilent rfl)
      | doEvent events =>
          apply hBacked.rests
          exact rests_of_wire
            (hSteady (by simp) (by simp) (by simp) (by simp))
            (wire_doEvent st.driver events) (hSilent rfl)
      | configChanged addr =>
          apply hBacked.rests
          exact rests_of_steady
            (hSteady (by simp) (by simp) (by simp) (by simp))
            rfl rfl (hSilent rfl)
      | clientWrite ios2 req =>
          apply hBacked.rests
          exact rests_of_steady
            (hSteady (by simp) (by simp) (by simp) (by simp))
            rfl rfl (hSilent rfl)
      | hardware regs =>
          apply hBacked.rests
          exact rests_of_steady
            (hSteady (by simp) (by simp) (by simp) (by simp))
            rfl rfl (hSilent rfl)

/- The bit is set whatever the low level driver answers. -/
theorem online_of_starts
    {ios2 : APTR}
    (hStarts : st.Starts i ios2) :
    (st.next i).driver.Online := by
  rcases hStarts with ⟨⟨o, rfl⟩, hHead, hOffline, hTakes⟩
  have hStarted (t : Driver) :
      ((goOnline t).termIo ios2).Online := by
    rw [(Driver.Steady.refl.termIo ios2).online, goOnline_eq,
      (Driver.Steady.refl.doEvent s2eventOnline).online]
    exact online_started t
  rcases List.head?_eq_some_iff.mp hHead with
    ⟨others, hFirst⟩
  have hNext := (next_serviceMsgPort hFirst o).1
  show (st.driver.next (.serviceMsgPort o)).Online
  rw [hNext]
  unfold performIo
  rw [reqs_remove]
  have hRest :
      ((st.driver.remove ios2).resetError ios2).rest =
        st.driver.rest := rfl
  have hSteady := Driver.Steady.of_rest hRest
  have hOff :
      ¬ ((st.driver.remove ios2).resetError ios2).Online :=
    fun hOn => hOffline (hSteady.online.mp hOn)
  rcases hTakes with ⟨hCommand, hDone⟩ | ⟨hCommand, hDone⟩
  · have hDone' := hSteady.configured.mpr hDone
    rw [hCommand, dispatch_s2Online]
    show (KszDriver.devCmdOnline ios2
      ((st.driver.remove ios2).resetError ios2)).Online
    rw [KszDriver.devCmdOnline, if_pos hDone', if_neg hOff]
    exact hStarted _
  · have hNot :
        ¬ ((st.driver.remove ios2).resetError
          ios2).Configured :=
      fun hYes => hDone (hSteady.configured.mp hYes)
    rw [hCommand, dispatch_s2ConfigInterface]
    show (KszDriver.devCmdConfigInterface ios2
      ((st.driver.remove ios2).resetError ios2)).Online
    rw [devCmdConfigInterface_of_not_configured hNot,
      KszDriver.devCmdOnline,
      if_pos (configured_configured _ ios2),
      if_neg (fun hOn =>
        hOff ((online_configured _ ios2).mp hOn))]
    exact hStarted _

theorem Backed.works_iff
    (hBacked : st.Backed)
    (hAllowed : st.Allowed i) :
    st.OnlineWorks i ↔ StartsWithMeans st i := by
  have hFails (ios2 : APTR) (hStarts : st.Starts i ios2) :
      st.driver.StartFails ios2 ↔ _ :=
    startFails_iff (hBacked.offline
      (fun hBoth => hStarts.2.2.1 hBoth.2))
  constructor
  · intro hWorks ios2 hStarts
    by_contra hLacks
    have hReported := hWorks.2 ios2 hStarts
      ((hFails ios2 hStarts).mpr hLacks)
    exact hReported.2.1 (online_of_starts hStarts)
  · intro hMeans
    refine ⟨(hBacked.next hAllowed hMeans).working, ?_⟩
    intro ios2 hStarts hFailed
    exact absurd (hMeans ios2 hStarts)
      ((hFails ios2 hStarts).mp hFailed)

theorem start_backed (hStart : st.Start) : st.Backed := by
  have hNone : st.driver.base.unit0 = false :=
    hStart.1.2.2.2.1
  exact
    { grounded := by
        rw [hStart.2.1]
        rfl
      online := by
        intro hUnit
        rw [hNone] at hUnit
        cases hUnit
      offline := fun _ =>
        congrArg Footing.signalTask hStart.2.1 }

end Station

------------------------------------------------------------
-- Runs
------------------------------------------------------------

/-
  A unit that is online works in every state of a run, and a
  start that fails is reported, exactly if no start fails.
-/
theorem onlineWorks_iff
    (inputs : List StationInput)
    {st : Station}
    (hStart : st.Start) :
    (st.Working ∧
      stationMachine.Runs Station.OnlineWorks inputs st) ↔
        stationMachine.Runs StartsWithMeans inputs st := by
  have hBacked := Station.start_backed hStart
  rw [and_iff_right hBacked.working]
  apply Machine.runs_congr (I := Station.Backed)
  · intro st i hBacked hAllowed
    exact hBacked.works_iff hAllowed
  · intro st i hBacked hAllowed hMeans
    exact hBacked.next hAllowed hMeans
  · exact hBacked

/- The unit is configured and goes online. -/
def configuredOnline : List StationInput :=
  onlineSteps.map .device

theorem onlineWorks_iff_configuredOnline :
    ((loadedStation (idleRegisters 0x1800#16)).Working ∧
      stationMachine.Runs Station.OnlineWorks configuredOnline
        (loadedStation (idleRegisters 0x1800#16))) ↔
      stationMachine.Runs StartsWithMeans configuredOnline
        (loadedStation (idleRegisters 0x1800#16)) :=
  onlineWorks_iff configuredOnline (start_loadedStation _)

/- All memory is in use when the unit goes online. -/
def noMemory : List StationInput :=
  (onlineSteps.take 3).map .device ++
    [.interfere
        { offlineNic with
          chip :=
            { offlineChip with reg := idleRegisters 0x1800#16 }
          freeMemory := false },
      .device (.serviceMsgPort plainOutcome)]

/- The unit is online although its initialization failed. -/
theorem not_working_noMemory :
    stationMachine.Runs Machine.Free noMemory
        (loadedStation (idleRegisters 0x1800#16)) ∧
      ¬ (stationMachine.run noMemory
        (loadedStation (idleRegisters 0x1800#16))).Working := by
  constructor
  · decide +kernel
  · intro hWorking
    have hInit := (hWorking (by decide +kernel)
      (by decide +kernel)).2.1
    revert hInit
    decide +kernel

end KszDriver
