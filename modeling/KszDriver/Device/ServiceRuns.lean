import KszDriver.Device.ServiceView

/-
  Whatever clients, interrupts and signals come in between,
  the service loop overlooks nothing and performs every
  request that was put into its port, in order and soon.

  Main declarations:
    * `nothing_due_of_asleep`
    * `performed_of_put`
    * `reach_station_of_process`
-/

------------------------------------------------------------
-- Nothing Is Overlooked
------------------------------------------------------------

namespace KszDriver

open Driver

section Runs

variable {bits : ProcessSignals} {p : UnitProcess}

/- The process begins with nothing to do. -/
theorem start_view
    (hStart : p.Start bits) :
    p.Sound bits ∧
      UnitProcess.attendant.Reach Machine.Free
        (p.view bits) := by
  have hSound := hStart.sound
  refine ⟨hSound, Machine.Reach.start ⟨?_, ?_⟩⟩
  all_goals
    rcases hStart with ⟨-, -, -, hPlace, hAlarms, hChanges,
      hPut, hPerformed⟩
  · show p.ahead bits = []
    unfold UnitProcess.ahead
    rw [hPlace]
  · have hQueue := hSound.queue
    rw [hPut, hPerformed, List.nil_append] at hQueue
    intro duty
    cases duty with
    | lowLevel =>
        show List.replicate p.alarms none = []
        rw [hAlarms]
        rfl
    | ioRequests =>
        show (p.driver.lists .unitMsgPort).map some = []
        rw [← hQueue]
        rfl
    | configFile =>
        show List.replicate p.changes none = []
        rw [hChanges]
        rfl

theorem reach_view
    (hReach : (processMachine bits).Reach Machine.Free p) :
    p.Sound bits ∧
      UnitProcess.attendant.Reach Machine.Free (p.view bits) :=
  (implements_attendant bits).reach
    (fun _ hStart => start_view hStart) hReach

/-
  A process that sleeps in `Wait` has looked at every request
  in its port, every interrupt that was signalled and every
  change of the configuration file.
-/
theorem nothing_due_of_asleep
    (hReach : (processMachine bits).Reach Machine.Free p)
    (hWaiting : p.place = .waiting)
    (hAsleep : p.sigRecvd = 0#32) :
    p.driver.lists .unitMsgPort = [] ∧ p.alarms = 0 ∧
      p.changes = 0 := by
  have hAttends :=
    Attendant.attends_of_reach (reach_view hReach).2
  have hNone := hAttends.nothing_due
    (UnitProcess.gone_view_of_place hWaiting
      Place.noConfusion)
    (by
      show p.ahead bits = []
      unfold UnitProcess.ahead
      rw [hWaiting])
    (fun duty _ =>
      congrFun (UnitProcess.ringing_of_zero hAsleep) duty)
  have hDue (duty : Duty) : p.due duty = [] :=
    hNone duty duty.mem_duties
  refine ⟨?_, ?_, ?_⟩
  · exact List.map_eq_nil_iff.mp (hDue .ioRequests)
  · exact (List.replicate_eq_nil_iff _).mp (hDue .lowLevel)
  · exact (List.replicate_eq_nil_iff _).mp (hDue .configFile)

/- A client asks for a configuration, and the process does
   `turns` steps. -/
def configTurns (turns : Nat) : List ProcessInput :=
  (submitSteps 8 (plainRequest s2ConfigInterface)).map
      .client ++
    List.replicate turns (.work (fun _ => plainOutcome))

/- The process that has just started, after these steps. -/
def configuredProcess (turns : Nat) : UnitProcess :=
  (processMachine firstSignals).run (configTurns turns)
    (openedProcess 19)

theorem reach_configuredProcess
    {turns : Nat}
    (hRuns : (processMachine firstSignals).Runs Machine.Free
      (configTurns turns) (openedProcess 19)) :
    (processMachine firstSignals).Reach Machine.Free
      (configuredProcess turns) :=
  Machine.reach_run _ (Machine.Reach.start start_openedProcess)
    hRuns

theorem nothing_due_of_asleep_configuredProcess :
    (configuredProcess 5).driver.lists .unitMsgPort = [] ∧
      (configuredProcess 5).alarms = 0 ∧
      (configuredProcess 5).changes = 0 :=
  nothing_due_of_asleep
    (reach_configuredProcess (by decide +kernel))
    (by decide +kernel) (by decide +kernel)

------------------------------------------------------------
-- Everything Is Performed
------------------------------------------------------------

/- It is a step of the process. -/
def ProcessInput.isWork : ProcessInput → Bool
| .work _ => true
| _ => false

/- Each step of the process is one of the attendant. -/
theorem countP_acts
    {i : ProcessInput}
    (hStays : p.Stays i) :
    (p.acts bits i).countP Attendant.Input.isServe =
      if i.isWork then 1 else 0 := by
  cases i with
  | work o =>
      unfold UnitProcess.acts
      dsimp only
      rw [if_neg hStays]
      split <;> rfl
  | client op =>
      unfold UnitProcess.acts
      dsimp only
      rw [List.countP_map]
      exact List.countP_eq_zero.mpr (fun _ _ => by
        exact Bool.false_ne_true)
  | interrupt =>
      unfold UnitProcess.acts
      dsimp only
      split <;> rfl
  | interfere n => rfl
  | signals mask =>
      unfold UnitProcess.acts
      dsimp only
      rw [List.countP_map]
      exact List.countP_eq_zero.mpr (fun _ _ => by
        exact Bool.false_ne_true)
  | fileWritten addr => rfl

theorem countP_actsAlong
    {inputs : List ProcessInput}
    (hRuns :
      (processMachine bits).Runs UnitProcess.Stays inputs p) :
    ((processMachine bits).actsAlong (UnitProcess.acts bits)
        inputs p).countP Attendant.Input.isServe =
      inputs.countP ProcessInput.isWork := by
  induction inputs generalizing p with
  | nil => rfl
  | cons i inputs ih =>
      unfold Machine.actsAlong
      rw [List.countP_append, ih hRuns.2,
        countP_acts hRuns.1.2, List.countP_cons]
      omega

/- Histories only grow. -/
theorem put_next
    (i : ProcessInput) :
    p.put <+: (p.next bits i).put := by
  cases i with
  | client op =>
      unfold UnitProcess.next UnitProcess.client
      dsimp only
      split <;> exact List.prefix_append _ _
  | work o =>
      unfold UnitProcess.next UnitProcess.work
      dsimp only
      split
      · unfold UnitProcess.wait
        split <;> exact List.prefix_rfl
      · unfold UnitProcess.lowLevelWork
        split <;> exact List.prefix_rfl
      · unfold UnitProcess.ioRequestWork
        split
        · split <;> exact List.prefix_rfl
        · exact List.prefix_rfl
      · unfold UnitProcess.configFileWork
        split <;> exact List.prefix_rfl
      · exact List.prefix_rfl
  | interrupt =>
      unfold UnitProcess.next UnitProcess.interrupt
      dsimp only
      split <;> exact List.prefix_rfl
  | interfere _ | signals _ | fileWritten _ =>
      exact List.prefix_rfl

theorem put_run
    (bits : ProcessSignals)
    (inputs : List ProcessInput)
    (p : UnitProcess) :
    p.put <+: ((processMachine bits).run inputs p).put := by
  induction inputs generalizing p with
  | nil => exact List.prefix_rfl
  | cons i inputs ih => exact (put_next i).trans (ih _)

/- How far the process is from looking at its port. -/
theorem sourcesBefore_view :
    (p.view bits).sourcesBefore duties .ioRequests ≤ 5 := by
  have hAhead : (p.view bits).ahead.length ≤ 3 := by
    show (p.ahead bits).length ≤ 3
    unfold UnitProcess.ahead
    cases p.place <;> simp [duties]
  unfold Attendant.sourcesBefore
  split
  · rename_i hIn
    have hLess := List.idxOf_lt_length_of_mem hIn
    omega
  · have hQueue : duties.idxOf .ioRequests = 1 := by decide
    omega

/-
  The request that was put into the port as number `k` has
  been performed, as number `k`, after so many steps of the
  process, whatever others do meanwhile.
-/
theorem performed_of_put
    {inputs : List ProcessInput}
    {k : Nat}
    (hReach : (processMachine bits).Reach Machine.Free p)
    (hInLoop : p.place ≠ .left)
    (hRuns :
      (processMachine bits).Runs UnitProcess.Stays inputs p)
    (hPut : k < p.put.length)
    (hSteps : k + 6 ≤
      p.performed.length +
        inputs.countP ProcessInput.isWork) :
    ((processMachine bits).run inputs p).performed[k]? =
      p.put[k]? := by
  have hView := reach_view hReach
  have hAfter := (implements_remaining bits).run hView.1 hRuns
  have hTaken :
      k < ((processMachine bits).run inputs
        p).performed.length := by
    change k < ((UnitProcess.view bits) ((processMachine
      bits).run inputs p)).taken
    rw [← hAfter.2.2]
    by_cases hDone : k < p.performed.length
    · exact Nat.lt_of_lt_of_le hDone
        (Attendant.taken_le_run _ (p.view bits))
    · have hLength := congrArg List.length hView.1.queue
      rw [List.length_append] at hLength
      have hSources := @sourcesBefore_view bits p
      apply Attendant.lt_taken_of_distance
        (Duty.mem_duties .ioRequests)
        (Attendant.attends_of_reach hView.2)
        (decide_eq_false hInLoop) hAfter.2.1
      · refine ⟨Nat.le_of_not_lt hDone, ?_⟩
        change k < p.performed.length +
          ((p.driver.lists .unitMsgPort).map some).length
        rw [List.length_map]
        omega
      · rw [countP_actsAlong hRuns]
        unfold Attendant.distance
        change _ + (k - p.performed.length) + 1 ≤ _
        omega
  have hOld :=
    List.prefix_iff_getElem?.mp (put_run bits inputs p) k hPut
  rw [hAfter.1.queue, List.getElem?_append_left hTaken] at hOld
  rw [hOld, List.getElem?_eq_getElem hPut]

theorem performed_of_put_configuredProcess :
    ((processMachine firstSignals).run
        (List.replicate 6 (.work (fun _ => plainOutcome)))
        (configuredProcess 0)).performed[0]? =
      (configuredProcess 0).put[0]? :=
  performed_of_put
    (reach_configuredProcess (by decide +kernel))
    (by decide +kernel) (by decide +kernel)
    (by decide +kernel) (by decide +kernel)

------------------------------------------------------------
-- The Loop and the Device
------------------------------------------------------------

/- A run of the device leads to this driver. -/
def Driver.Reached (s : Driver) : Prop :=
  ∃ notes : Notes, stationMachine.Reach Machine.Free
    { driver := s, notes := notes }

variable {s : Driver} {op : Op}

theorem Driver.Reached.device
    (hReached : s.Reached)
    (hAllowed : op.Allowed s) :
    (s.next op).Reached := by
  rcases hReached with ⟨notes, hReach⟩
  have hStep : stationMachine.Allowed
      { driver := s, notes := notes } (.device op) := hAllowed
  exact ⟨_, hReach.step hStep trivial⟩

theorem Driver.Reached.setNic
    {n : NicState}
    (hReached : s.Reached)
    (hFooting : n.footing = s.nic.footing) :
    (s.setNic n).Reached := by
  rcases hReached with ⟨notes, hReach⟩
  have hStep : stationMachine.Allowed
      { driver := s, notes := notes } (.interfere n) :=
    hFooting
  exact ⟨notes, hReach.step hStep trivial⟩

theorem Driver.Reached.eventHandler
    (hReached : s.Reached)
    (hUnit : s.base.unit0 = true) :
    (s.runNic ksz8851EventHandler).Reached := by
  rcases hReached with ⟨notes, hReach⟩
  have hStep : stationMachine.Allowed
      { driver := s, notes := notes } .processEvents := hUnit
  exact ⟨notes, hReach.step hStep trivial⟩

theorem Driver.Reached.deliverFrames
    (frames : List (Memory × UWORD))
    {o : Nat → Outcome}
    (hReached : s.Reached)
    (hUnit : s.base.unit0 = true) :
    (deliverFrames o frames s).Reached := by
  induction frames generalizing s o with
  | nil => exact hReached
  | cons frame frames ih =>
      rcases frame with ⟨buffer, size⟩
      have hAllowed :
          Op.Allowed s (.pktReceived buffer size (o 0)) := hUnit
      have hBase := (@steady_next s
        (.pktReceived buffer size (o 0)) (by simp)
        (by simp) (by simp) (by simp)).base
      exact ih (hReached.device hAllowed)
        ((congrArg DeviceBase.unit0 hBase).trans hUnit)

/- What a step of the process does, the device can do. -/
theorem reached_work
    (o : Nat → Outcome)
    (hUnit : p.driver.base.unit0 = true)
    (hReached : p.driver.Reached) :
    (p.work bits o).driver.Reached := by
  unfold UnitProcess.work
  split
  · unfold UnitProcess.wait
    split <;> exact hReached
  · unfold UnitProcess.lowLevelWork
    split
    · exact (hReached.eventHandler hUnit).deliverFrames _ hUnit
    · exact hReached
  · unfold UnitProcess.ioRequestWork
    split
    · split
      · exact hReached
      · exact @Driver.Reached.device _ (.serviceMsgPort (o 0))
          hReached hUnit
    · exact hReached
  · unfold UnitProcess.configFileWork
    split
    · exact @Driver.Reached.device _
        (.configChanged p.configAddr) hReached hUnit
    · exact hReached
  · exact hReached

theorem reached_next
    {i : ProcessInput}
    (hUnit : p.driver.base.unit0 = true)
    (hAllowed : p.Allowed bits i)
    (hReached : p.driver.Reached) :
    (p.next bits i).driver.Reached := by
  cases i with
  | work o => exact reached_work o hUnit hReached
  | client op =>
      unfold UnitProcess.next UnitProcess.client
      dsimp only
      split <;> exact hReached.device hAllowed.2
  | interrupt =>
      have hRun : (p.driver.runNic isr).Reached :=
        hReached.setNic (rests_isr.footing p.driver.nic)
      unfold UnitProcess.next UnitProcess.interrupt
      dsimp only
      split <;> exact hRun
  | interfere n => exact hReached.setNic hAllowed.1
  | signals _ | fileWritten _ => exact hReached

/-
  Every state of the driver in a run of the service loop is
  one that a run of the device leads to, in which commands,
  events and calls are taken as a whole.
-/
theorem reach_station_of_process
    (hReach : (processMachine bits).Reach Machine.Free p) :
    ∃ notes, stationMachine.Reach Machine.Free
      { driver := p.driver, notes := notes } := by
  have hBoth : p.Sound bits ∧ p.driver.Reached := by
    apply hReach.invariant
      (I := fun p => p.Sound bits ∧ p.driver.Reached)
    · intro p hStart
      refine ⟨hStart.sound, ?_⟩
      rcases hStart with ⟨⟨st, ios2, s2unit, s2flags, env,
        hBefore, hOpen, -, hDriver⟩, -⟩
      rw [hDriver]
      exact @Driver.Reached.device _
        (.openDevice ios2 s2unit s2flags env)
        ⟨st.notes, hBefore⟩ hOpen
    · intro p i hAllowed _ hState
      exact ⟨hState.1.next hAllowed,
        reached_next hState.1.ready.unit0 hAllowed hState.2⟩
  exact hBoth.2

theorem reach_station_of_process_configuredProcess :
    ∃ notes, stationMachine.Reach Machine.Free
      { driver := (configuredProcess 5).driver
        notes := notes } :=
  reach_station_of_process
    (reach_configuredProcess (by decide +kernel))

end Runs

end KszDriver
