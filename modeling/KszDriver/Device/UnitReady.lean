import KszDriver.Device.ServiceLoop

/-
  A unit that is up, and what the calls of the clients, the
  work of the process and the interrupt server keep of it.

  Main declarations:
    * `Driver.Ready`
    * `Ready.client`, `Ready.serviceMsgPort`
    * `Ready.processEvents`, `Ready.setNic`
    * `Station.Moored`, `moored_of_reach`
-/

------------------------------------------------------------
-- Ready
------------------------------------------------------------

namespace KszDriver

namespace Driver

/- The unit is up, its requests wait in order, and it knows
   about its interrupt server. -/
structure Ready (s : Driver) : Prop where
  waits : s.Waits
  unit0 : s.base.unit0 = true
  grounded : s.nic.footing.Grounded
  tuned : s.tuning.Tuned

/- Driver, server and signal go on as they were. -/
structure GoesOn (s s' : Driver) : Prop where
  unit0 : s'.base.unit0 = s.base.unit0
  footing : s'.nic.footing = s.nic.footing
  signalNumber : s'.unit.lowLevelDriverSignalNumber =
    s.unit.lowLevelDriverSignalNumber
  freeSignal : s'.nic.freeSignal = s.nic.freeSignal

variable {s s' : Driver} {ios2 : APTR} {o : Outcome}

theorem GoesOn.tuning (hOn : GoesOn s s') :
    s'.tuning = s.tuning := by
  have hTask := congrArg Footing.signalTask hOn.footing
  have hNumber := congrArg Footing.sigNumber hOn.footing
  change s'.nic.iface.signalTask = s.nic.iface.signalTask
    at hTask
  change s'.nic.iface.sigNumber = s.nic.iface.sigNumber
    at hNumber
  show Tuning.mk s'.nic.iface.signalTask
    s'.nic.iface.sigNumber s'.unit.lowLevelDriverSignalNumber
    s'.nic.freeSignal = _
  rw [hTask, hNumber, hOn.signalNumber, hOn.freeSignal]
  rfl

theorem Ready.of_goesOn
    (hReady : s.Ready)
    (hWaits : s'.Waits)
    (hOn : GoesOn s s') :
    s'.Ready where
  waits := hWaits
  unit0 := hOn.unit0.trans hReady.unit0
  grounded := by
    rw [hOn.footing]
    exact hReady.grounded
  tuned := by
    rw [hOn.tuning]
    exact hReady.tuned

/- The base and the wire tell all of it. -/
theorem goesOn_of_wire
    (hBase : s'.base = s.base)
    (hWire : s'.wire = s.wire) :
    GoesOn s s' where
  unit0 := congrArg DeviceBase.unit0 hBase
  footing := congrArg (fun w => w.nic.footing) hWire
  signalNumber := congrArg Wire.signalNumber hWire
  freeSignal := congrArg (fun w => w.nic.freeSignal) hWire

------------------------------------------------------------
-- Clients
------------------------------------------------------------

theorem freeSignal_runCalls
    (cs : List LowLevelCall) (n : NicState) :
    (runCalls cs n).freeSignal = n.freeSignal := by
  induction cs generalizing n with
  | nil => rfl
  | cons c cs ih => exact (ih _).trans (freeSignal_run c n)

theorem goesOn_deviceOpen
    {s2unit s2flags : ULONG}
    {env : OpenEnv}
    (hUnit : s.base.unit0 = true) :
    GoesOn s (deviceOpen ios2 s2unit s2flags env s) where
  unit0 := by
    have hKept :=
      (found_deviceOpen ios2 s2unit s2flags env s).kept hUnit
    exact hKept.1.trans hUnit.symm
  footing := by
    rw [nic_deviceOpen]
    split
    · exact footing_run_probe s.nic
    · rfl
  signalNumber := by
    have hKept :=
      (found_deviceOpen ios2 s2unit s2flags env s).kept hUnit
    have hNumber := congrArg
      DeviceDriverUnit.lowLevelDriverSignalNumber hKept.2
    exact hNumber
  freeSignal := by
    rw [nic_deviceOpen]
    exact freeSignal_runCalls _ _

theorem goesOn_deviceClose
    (hUnit : s.base.unit0 = true)
    (hOthers : ¬ ClosesUnit ios2 s) :
    GoesOn s (deviceClose ios2 s).2 := by
  have hStill : (deviceClose ios2 s).2.base.unit0 = true := by
    rw [unit0_deviceClose, if_neg hOthers]
    exact hUnit
  have hKept := kept_deviceClose ios2 s hStill
  have hNumber := congrArg
    DeviceDriverUnit.lowLevelDriverSignalNumber hKept.2.1
  exact
    { unit0 := hStill.trans hUnit.symm
      footing := congrArg NicState.footing hKept.2.2
      signalNumber := hNumber
      freeSignal := congrArg NicState.freeSignal hKept.2.2 }

theorem goesOn_deviceExpunge :
    GoesOn s (deviceExpunge s).2 where
  unit0 := unit0_deviceExpunge s
  footing := congrArg NicState.footing (nic_deviceExpunge s)
  signalNumber := by rw [unit_deviceExpunge]
  freeSignal := congrArg NicState.freeSignal
    (nic_deviceExpunge s)

/- A client sends packets, but does not switch the unit. -/
theorem goesOn_deviceBeginIo :
    GoesOn s (deviceBeginIo o ios2 s) := by
  have hWire := wire_deviceBeginIo o ios2 s
  have hNic := nic_of_wire hWire
  have hTuning := congrArg Wire.tuning hWire
  have hStill : ∀ c ∈ s.calls (.beginIo ios2 o), c.Still :=
    fun c hIn => (sends_of_mem_beginCalls hIn).still
  rw [tuning_after_of_still hStill] at hTuning
  have hBase :=
    (@steady_next s (.beginIo ios2 o) (by simp) (by simp)
      (by simp) (by simp)).base
  exact
    { unit0 := congrArg DeviceBase.unit0 hBase
      footing := by
        rw [hNic]
        exact footing_runCalls_of_sends
          (fun c hIn => sends_of_mem_beginCalls hIn) s.nic
      signalNumber := congrArg Tuning.signalNumber hTuning
      freeSignal := congrArg Tuning.freeSignal hTuning }

theorem goesOn_client
    {op : Op}
    (hUnit : s.base.unit0 = true)
    (hClient : op.ByClient s) :
    GoesOn s (s.next op) := by
  cases op with
  | openDevice ios2 s2unit s2flags env =>
      exact goesOn_deviceOpen hUnit
  | close ios2 => exact goesOn_deviceClose hUnit hClient
  | expunge => exact goesOn_deviceExpunge
  | beginIo ios2 o => exact goesOn_deviceBeginIo
  | abortIo ios2 =>
      exact goesOn_of_wire
        (@steady_next s (.abortIo ios2) (by simp)
          (by simp) (by simp) (by simp)).base
        (wire_deviceAbortIo ios2 s)
  | clientWrite ios2 req => exact goesOn_of_wire rfl rfl
  | serviceMsgPort _ | pktReceived _ _ _ | doEvent _
  | configChanged _ | hardware _ => exact hClient.elim

theorem Ready.client
    {op : Op}
    (hReady : s.Ready)
    (hClient : op.ByClient s)
    (hAllowed : op.Allowed s) :
    (s.next op).Ready :=
  hReady.of_goesOn (hReady.waits.next_waits hAllowed)
    (goesOn_client hReady.unit0 hClient)

------------------------------------------------------------
-- The Process and the Chip
------------------------------------------------------------

theorem Ready.serviceMsgPort
    (hReady : s.Ready)
    (o : Outcome) :
    (serviceMsgPort o s).Ready ∧
      s.tuning.Turns (serviceMsgPort o s).tuning := by
  have hAllowed : Op.Allowed s (.serviceMsgPort o) :=
    hReady.unit0
  have hTurns :
      s.tuning.Turns (KszDriver.serviceMsgPort o s).tuning := by
    unfold KszDriver.serviceMsgPort
    split
    · exact Tuning.Turns.refl _
    · rename_i ios2 _ _
      have hTaken : (s.remove ios2).tuning = s.tuning := rfl
      have hTuned : (s.remove ios2).tuning.Tuned :=
        hReady.tuned
      rw [← hTaken]
      exact turns_performIo (s := s.remove ios2) o ios2 hTuned
  have hGrounded :
      (KszDriver.serviceMsgPort o s).nic.footing.Grounded := by
    have hProbe : .probe ∉ s.calls (.serviceMsgPort o) := by
      intro hIn
      rcases probes_of_mem_calls hIn with ⟨_, _, _, _, hOp, -⟩
      cases hOp
    have hSettles :
        s.nic.footing.Settles
          ((callsProgram (s.calls
            (.serviceMsgPort o))).runOn s.nic).2.footing :=
      (treads_callsProgram hReady.grounded hProbe).run
    rw [nic_serviceMsgPort, ← runOn_callsProgram]
    exact hSettles.1
  refine ⟨?_, hTurns⟩
  exact
    { waits := hReady.waits.next_waits hAllowed
      unit0 := (congrArg DeviceBase.unit0
        (serves_serviceMsgPort o s).base).trans hReady.unit0
      grounded := hGrounded
      tuned := hTurns.tuned hReady.tuned }

theorem goesOn_setNic
    {n : NicState}
    (hFooting : n.footing = s.nic.footing)
    (hFree : n.freeSignal = s.nic.freeSignal) :
    GoesOn s (s.setNic n) where
  unit0 := rfl
  footing := hFooting
  signalNumber := rfl
  freeSignal := hFree

theorem goesOn_runNic
    {α : Type}
    {p : NicM α}
    (hFooting : (p.runOn s.nic).2.footing = s.nic.footing) :
    GoesOn s (s.runNic p) :=
  goesOn_setNic hFooting (freeSignal_runOn p s.nic)

theorem goesOn_eventHandler :
    GoesOn s (s.runNic ksz8851EventHandler) :=
  goesOn_runNic (goes_eventHandler (w := s.nic.footing)).run

theorem goesOn_isr : GoesOn s (s.runNic isr) :=
  goesOn_runNic (rests_isr.footing s.nic)

theorem GoesOn.trans
    {s'' : Driver}
    (hFirst : GoesOn s s')
    (hSecond : GoesOn s' s'') :
    GoesOn s s'' where
  unit0 := hSecond.unit0.trans hFirst.unit0
  footing := hSecond.footing.trans hFirst.footing
  signalNumber :=
    hSecond.signalNumber.trans hFirst.signalNumber
  freeSignal := hSecond.freeSignal.trans hFirst.freeSignal

/- Packets are delivered to requests that wait elsewhere. -/
theorem Ready.deliverFrames
    {waiting : List APTR}
    (frames : List (Memory × UWORD))
    {o : Nat → Outcome}
    (hReady : s.Ready)
    (hIs : s.PortIs waiting) :
    (deliverFrames o frames s).Waits ∧
      GoesOn s (deliverFrames o frames s) ∧
      (deliverFrames o frames s).PortIs waiting := by
  induction frames generalizing s o with
  | nil =>
      exact ⟨hReady.waits, goesOn_of_wire rfl rfl, hIs⟩
  | cons frame frames ih =>
      rcases frame with ⟨buffer, size⟩
      have hAllowed :
          Op.Allowed s (.pktReceived buffer size (o 0)) :=
        hReady.unit0
      have hOn :
          GoesOn s (onPktReceived (o 0) buffer size s) :=
        goesOn_of_wire
          (@steady_next s (.pktReceived buffer size (o 0))
            (by simp) (by simp) (by simp) (by simp)).base
          (wire_onPktReceived (o 0) buffer size s)
      have hNext := hReady.of_goesOn
        (hReady.waits.next_waits hAllowed) hOn
      have hRest := ih (o := fun k => o (k + 1)) hNext
        hIs.onPktReceived
      exact ⟨hRest.1, hOn.trans hRest.2.1, hRest.2.2⟩

theorem Ready.processEvents
    (hReady : s.Ready)
    (o : Nat → Outcome) :
    (processEvents o s).Ready ∧
      GoesOn s (processEvents o s) ∧
      (processEvents o s).lists .unitMsgPort =
        s.lists .unitMsgPort := by
  have hIs := hReady.waits.orderly.toLinked.portIs
  have hOn := goesOn_eventHandler (s := s)
  have hHandled := hReady.of_goesOn
    (hReady.waits.setNic (ksz8851EventHandler.runOn s.nic).2)
    hOn
  have hDelivered := hHandled.deliverFrames
    ((s.runNic ksz8851EventHandler).nic.delivered.drop
      s.nic.delivered.length) (o := o)
    (hIs.runNic ksz8851EventHandler)
  have hBoth := hOn.trans hDelivered.2.1
  exact ⟨hReady.of_goesOn hDelivered.1 hBoth, hBoth,
    hDelivered.2.2.port⟩

theorem Ready.readConfig
    (hReady : s.Ready)
    (addr : MacAddr) :
    (readConfig addr s).Ready := by
  have hAllowed : Op.Allowed s (.configChanged addr) :=
    hReady.unit0
  exact hReady.of_goesOn (hReady.waits.next_waits hAllowed)
    { unit0 := rfl
      footing := rfl
      signalNumber := rfl
      freeSignal := rfl }

end Driver

------------------------------------------------------------
-- Before the Process
------------------------------------------------------------

open Driver

namespace Station

/- The server is linked only while there is a unit. -/
structure Moored (st : Station) : Prop where
  waits : st.driver.Waits
  grounded : st.driver.nic.footing.Grounded
  unlinked : st.driver.base.unit0 = false →
    st.driver.nic.iface.signalTask = false

variable {st : Station} {i : StationInput} {op : Op}

theorem grounded_next
    (op : Op)
    (hGrounded : st.driver.nic.footing.Grounded) :
    (st.driver.next op).nic.footing.Grounded := by
  by_cases hHardware : ∃ regs, op = .hardware regs
  · rcases hHardware with ⟨regs, rfl⟩
    exact hGrounded
  · rw [nic_next st.driver
      (fun regs hOp => hHardware ⟨regs, hOp⟩)]
    by_cases hProbe : .probe ∈ st.driver.calls op
    · rcases probes_of_mem_calls hProbe with
        ⟨ios2, s2unit, s2flags, env, rfl, hWill⟩
      have hCalls :
          st.driver.calls
            (.openDevice ios2 s2unit s2flags env) =
              [.probe] := if_pos hWill
      rw [hCalls]
      change (LowLevelCall.probe.run
        st.driver.nic).footing.Grounded
      rw [footing_run_probe]
      exact hGrounded
    · have hSettles :
          st.driver.nic.footing.Settles
            ((callsProgram (st.driver.calls op)).runOn
              st.driver.nic).2.footing :=
        (treads_callsProgram hGrounded hProbe).run
      rw [← runOn_callsProgram]
      exact hSettles.1

/- The last close unlinks the server. -/
theorem unlinked_deviceClose
    (ios2 : APTR)
    (hMoored : st.Moored) :
    (deviceClose ios2 st.driver).2.base.unit0 = false →
      (deviceClose ios2 st.driver).2.nic.iface.signalTask =
        false := by
  have hNic := nic_deviceClose ios2 st.driver
  have hUnit0 := unit0_deviceClose ios2 st.driver
  by_cases hCloses : ClosesUnit ios2 st.driver
  · rw [if_pos hCloses] at hNic
    intro _
    have hFooting :
        (LowLevelCall.deinit.run st.driver.nic).footing =
          st.driver.nic.footing.unlinked :=
      (goes_deinit hMoored.grounded).run
    have hTask := congrArg Footing.signalTask hFooting
    rw [hNic]
    exact hTask.trans hMoored.grounded.unlinked.2
  · rw [if_neg hCloses] at hNic hUnit0
    rw [hNic, hUnit0]
    exact hMoored.unlinked

theorem unlinked_deviceOpen
    {ios2 : APTR}
    {s2unit s2flags : ULONG}
    {env : OpenEnv}
    (hMoored : st.Moored)
    (hNone : st.driver.base.unit0 = false) :
    (deviceOpen ios2 s2unit s2flags env
      st.driver).nic.iface.signalTask = false := by
  have hFooting :
      (deviceOpen ios2 s2unit s2flags env
        st.driver).nic.footing = st.driver.nic.footing := by
    rw [nic_deviceOpen]
    split
    · exact footing_run_probe st.driver.nic
    · rfl
  have hTask := congrArg Footing.signalTask hFooting
  exact hTask.trans (hMoored.unlinked hNone)

theorem Moored.device
    (hMoored : st.Moored)
    (hAllowed : op.Allowed st.driver) :
    (st.next (.device op)).Moored where
  waits := hMoored.waits.next_waits hAllowed
  grounded := grounded_next op hMoored.grounded
  unlinked := by
    intro hNone
    have hSteady := @Driver.steady_next st.driver op
    change (st.driver.next op).base.unit0 = false at hNone
    cases op with
    | openDevice ios2 s2unit s2flags env =>
        apply unlinked_deviceOpen hMoored
        rw [← Bool.not_eq_true]
        intro hUnit
        have hKept := (found_deviceOpen ios2 s2unit s2flags env
          st.driver).kept hUnit
        exact absurd hKept.1 (by
          rw [show (deviceOpen ios2 s2unit s2flags env
            st.driver).base.unit0 = false from hNone]
          exact Bool.false_ne_true)
    | close ios2 => exact unlinked_deviceClose ios2 hMoored hNone
    | expunge =>
        have hNic := nic_deviceExpunge st.driver
        show (deviceExpunge st.driver).2.nic.iface.signalTask =
          false
        rw [hNic]
        exact hMoored.unlinked
          ((unit0_deviceExpunge st.driver).symm.trans hNone)
    | serviceMsgPort o =>
        have hBase := congrArg DeviceBase.unit0
          (serves_serviceMsgPort o st.driver).base
        rw [show st.driver.base.unit0 = true from hAllowed,
          show (serviceMsgPort o st.driver).base.unit0 = false
            from hNone] at hBase
        cases hBase
    | clientWrite ios2 req => exact hMoored.unlinked hNone
    | hardware regs => exact hMoored.unlinked hNone
    | beginIo ios2 o =>
        have hBase := congrArg DeviceBase.unit0
          (hSteady (by simp) (by simp) (by simp)
            (by simp)).base
        rw [hNone, hAllowed.1] at hBase
        cases hBase
    | abortIo _ | pktReceived _ _ _ | doEvent _
    | configChanged _ =>
        have hBase := congrArg DeviceBase.unit0
          (hSteady (by simp) (by simp) (by simp)
            (by simp)).base
        rw [hNone, show st.driver.base.unit0 = true from
          hAllowed] at hBase
        cases hBase

theorem Moored.setNic
    {n : NicState}
    (hMoored : st.Moored)
    (hFooting : n.footing = st.driver.nic.footing) :
    ({ st with driver := st.driver.setNic n } :
      Station).Moored where
  waits := hMoored.waits.setNic n
  grounded := by
    show n.footing.Grounded
    rw [hFooting]
    exact hMoored.grounded
  unlinked := fun hNone =>
    (congrArg Footing.signalTask hFooting).trans
      (hMoored.unlinked hNone)

end Station

theorem moored_of_reach
    {st : Station}
    (hReach : stationMachine.Reach Machine.Free st) :
    st.Moored := by
  apply hReach.invariant
  · intro st hStart
    exact
      { waits := hStart.1.waits
        grounded := by
          rw [hStart.2.1]
          rfl
        unlinked := fun _ =>
          congrArg Footing.signalTask hStart.2.1 }
  · intro st i hAllowed _ hMoored
    cases i with
    | device op => exact hMoored.device hAllowed
    | processEvents =>
        exact hMoored.setNic
          (goes_eventHandler (w := st.driver.nic.footing)).run
    | interfere n => exact hMoored.setNic hAllowed

end KszDriver
