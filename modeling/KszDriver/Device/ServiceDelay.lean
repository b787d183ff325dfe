import KszDriver.Device.ServiceRuns

/-
  How long an interrupt that was signalled, or a change of the
  configuration file, waits for the service loop.

  The process looks at both again after few steps of its own,
  not counting those in which it performs requests.  As these
  come from a loop that ends only when the port is empty, a
  client can keep it there for as long as it likes.

  Main declarations:
    * `attended_within`
    * `kept_waiting`
-/

------------------------------------------------------------
-- At Most
------------------------------------------------------------

namespace KszDriver

open Driver UnitProcess

section Delay

variable {bits : ProcessSignals} {p : UnitProcess}
variable {duty : Duty} {i : ProcessInput}

/- How many sources the process looks at before this one. -/
theorem sourcesBefore_duty :
    (p.view bits).sourcesBefore duties duty ≤
      4 + duties.idxOf duty := by
  have hAhead : (p.view bits).ahead.length ≤ 3 := by
    show (p.ahead bits).length ≤ 3
    unfold UnitProcess.ahead
    cases p.place <;> simp [duties]
  unfold Attendant.sourcesBefore
  split
  · rename_i hIn
    have hLess := List.idxOf_lt_length_of_mem hIn
    omega
  · omega

/- What has been withdrawn is not due. -/
theorem due_of_withdraw
    {a : Attendant Duty (Option APTR)}
    {duty' : Duty}
    (hLeft : (attendant.next a (.withdraw duty')).due duty ≠
      []) :
    a.due duty ≠ [] := by
  intro hNone
  apply hLeft
  change Function.update a.due duty' [] duty = []
  by_cases hSame : duty = duty'
  · rw [hSame, Function.update_self]
  · rw [Function.update_of_ne hSame, hNone]

/- A step of the process takes it nearer to the duty, or
   performs a request. -/
theorem nearer_work
    {o : Nat → Outcome}
    (hSound : p.Sound bits)
    (hAttends : (p.view bits).Attends duties)
    (hInLoop : p.place ≠ .left)
    (hStays : ¬ p.Leaves)
    (hDue : p.due duty ≠ [])
    (hLeft : (p.work bits o).due duty ≠ []) :
    ((p.work bits o).view bits).sourcesBefore duties duty + 1 +
        p.performed.length =
      (p.view bits).sourcesBefore duties duty +
        (p.work bits o).performed.length := by
  have hRuns : attendant.Runs Attendant.Remains
      (p.acts bits (.work o)) (p.view bits) :=
    runs_acts (fun _ _ hOther => hOther)
      (fun hNot => absurd hStays hNot)
  have hView := hSound.view_next (i := .work o) trivial
  unfold acts at hRuns hView
  dsimp only at hRuns hView
  rw [if_neg hStays] at hRuns hView
  have hServed := @Attendant.nearer_serve _ _ _ duties
    .ioRequests (p.view bits) duty _ _ duty.mem_duties hAttends
    (decide_eq_false hInLoop) hRuns.1.1 hDue
  have hKept := Attendant.sourcesBefore_others (x := duty) _
    (by split <;> simp [Attendant.Input.isServe]) hRuns.2
  rw [Machine.run] at hView
  rw [hView] at hKept
  have hAfter : ((p.view bits).serve duties .ioRequests
      (decide (p.sigRecvd ≠ 0#32))
      (p.noted bits p.sigRecvd)).due duty ≠ [] := by
    change ((p.work bits o).view bits).due duty ≠ [] at hLeft
    change _ = (p.work bits o).view bits at hView
    rw [← hView] at hLeft
    split at hLeft
    · exact due_of_withdraw hLeft
    · exact hLeft
  calc
    _ = _ + 1 + (p.view bits).taken :=
      congrArg (· + 1 + p.performed.length) hKept.1
    _ = _ := hServed hAfter
    _ = _ := congrArg
      ((p.view bits).sourcesBefore duties duty + ·)
      hKept.2.symm

/- One step of the process takes it nearer to the duty, or
   performs a request. -/
theorem nearer_next
    (hSound : p.Sound bits)
    (hAttends : (p.view bits).Attends duties)
    (hInLoop : p.place ≠ .left)
    (hAllowed : p.Allowed bits i)
    (hStays : p.Stays i)
    (hDue : p.due duty ≠ [])
    (hLeft : (p.next bits i).due duty ≠ []) :
    ((p.next bits i).view bits).sourcesBefore duties duty +
        (if i.isWork then 1 else 0) + p.performed.length =
      (p.view bits).sourcesBefore duties duty +
        (p.next bits i).performed.length := by
  have hRuns : attendant.Runs Attendant.Remains
      (p.acts bits i) (p.view bits) :=
    runs_acts (fun _ _ hOther => hOther)
      (fun hNot => absurd hStays hNot)
  have hView := hSound.view_next hAllowed
  have hOthers
      (hNone : ∀ input ∈ p.acts bits i,
        input.isServe = false)
      (hWork : i.isWork = false) :
      ((p.next bits i).view bits).sourcesBefore duties duty +
          (if i.isWork then 1 else 0) + p.performed.length =
        (p.view bits).sourcesBefore duties duty +
          (p.next bits i).performed.length := by
    have hSame := Attendant.sourcesBefore_others (x := duty)
      (p.acts bits i) hNone hRuns
    rw [hView] at hSame
    change _ ∧ (p.next bits i).performed.length =
      p.performed.length at hSame
    rw [hSame.1, hSame.2, hWork]
    rfl
  cases i with
  | work o =>
      exact nearer_work hSound hAttends hInLoop hStays hDue
        hLeft
  | client op =>
      apply hOthers
      · intro input hIn
        rcases List.mem_map.mp hIn with ⟨ios2, -, rfl⟩
        rfl
      · rfl
  | interrupt =>
      apply hOthers
      · intro input hIn
        unfold acts at hIn
        dsimp only at hIn
        split at hIn
        · rw [List.mem_singleton.mp hIn]
          rfl
        · cases hIn
      · rfl
  | interfere n => exact hOthers nofun rfl
  | signals mask =>
      apply hOthers
      · intro input hIn
        rcases List.mem_map.mp hIn with ⟨duty', -, rfl⟩
        rfl
      · rfl
  | fileWritten addr =>
      apply hOthers
      · intro input hIn
        rw [List.mem_singleton.mp hIn]
        rfl
      · rfl

/- The bells ring for all that is due. -/
theorem attends_view
    (hReach : (processMachine bits).Reach Machine.Free p) :
    (p.view bits).Attends duties :=
  Attendant.attends_of_reach (reach_view hReach).2

/- The process stays in its loop. -/
theorem inLoop_next
    (hSound : p.Sound bits)
    (hInLoop : p.place ≠ .left)
    (hAllowed : p.Allowed bits i)
    (hStays : p.Stays i) :
    (p.next bits i).place ≠ .left := by
  have hGone := Attendant.gone_run
    (decide_eq_false hInLoop : (p.view bits).gone = false)
    (runs_acts (fun _ _ hOther => hOther)
      (fun hNot => absurd hStays hNot) :
      attendant.Runs Attendant.Remains (p.acts bits i) _)
  rw [hSound.view_next hAllowed] at hGone
  exact of_decide_eq_false hGone

/- The histories of the requests only grow. -/
theorem performed_le_next
    (hSound : p.Sound bits)
    (hAllowed : p.Allowed bits i) :
    p.performed.length ≤ (p.next bits i).performed.length := by
  have hTaken := @Attendant.taken_le_run _ _ _ duties
    .ioRequests (p.acts bits i) (p.view bits)
  rw [hSound.view_next hAllowed] at hTaken
  exact hTaken

/- The process stays, and something is due for this duty: an
   interrupt, a request or a change of the file. -/
def UnitProcess.Keeps
    (duty : Duty) (p : UnitProcess) (i : ProcessInput) : Prop :=
  p.Stays i ∧ p.due duty ≠ []

instance
    (duty : Duty) (p : UnitProcess) (i : ProcessInput) :
    Decidable (p.Keeps duty i) := by
  unfold UnitProcess.Keeps
  infer_instance

/-
  As long as there is something due for a duty, all steps of
  the process but a few perform requests.
-/
theorem nearer_run
    {inputs : List ProcessInput}
    (hReach : (processMachine bits).Reach Machine.Free p)
    (hInLoop : p.place ≠ .left)
    (hRuns :
      (processMachine bits).Runs (UnitProcess.Keeps duty)
        inputs p) :
    inputs.countP ProcessInput.isWork + p.performed.length ≤
      (p.view bits).sourcesBefore duties duty + 1 +
        ((processMachine bits).run inputs
          p).performed.length := by
  induction inputs generalizing p with
  | nil =>
      show 0 + p.performed.length ≤ _ + 1 + p.performed.length
      omega
  | cons i inputs ih =>
      rcases hRuns with ⟨⟨hAllowed, hStays, hDue⟩, hRest⟩
      have hSound := (reach_view hReach).1
      rw [List.countP_cons]
      cases inputs with
      | nil =>
          have hMore := performed_le_next hSound hAllowed
          show 0 + _ + p.performed.length ≤
            _ + 1 + (p.next bits i).performed.length
          split <;> omega
      | cons j inputs =>
          have hFirst := nearer_next hSound
            (attends_view hReach) hInLoop hAllowed hStays hDue
            hRest.1.2.2
          have hLater := ih (hReach.step hAllowed trivial)
            (inLoop_next hSound hInLoop hAllowed hStays) hRest
          change _ ≤ ((p.next bits i).view bits).sourcesBefore
            duties duty + 1 + _ at hLater
          show _ + p.performed.length ≤ _ + 1 +
            ((processMachine bits).run (j :: inputs)
              (p.next bits i)).performed.length
          change _ + (p.next bits i).performed.length ≤
            _ + ((processMachine bits).run (j :: inputs)
              (p.next bits i)).performed.length at hLater
          omega

/-
  An interrupt that was signalled waits for at most five steps
  of the process, and a change of the configuration file for
  at most seven, apart from the steps that perform requests.
-/
theorem attended_within
    {inputs : List ProcessInput}
    (hReach : (processMachine bits).Reach Machine.Free p)
    (hInLoop : p.place ≠ .left)
    (hRuns :
      (processMachine bits).Runs (UnitProcess.Keeps duty)
        inputs p) :
    inputs.countP ProcessInput.isWork + p.performed.length ≤
      ((processMachine bits).run inputs p).performed.length +
        5 + duties.idxOf duty := by
  have hNearer := nearer_run hReach hInLoop hRuns
  have hBound := @sourcesBefore_duty bits p duty
  omega

/- The first request waits while the process wakes. -/
theorem attended_within_configuredProcess :
    3 + (configuredProcess 0).performed.length ≤
      ((processMachine firstSignals).run
        (List.replicate 3 (.work (fun _ => plainOutcome)))
        (configuredProcess 0)).performed.length + 5 +
          duties.idxOf .ioRequests :=
  @attended_within _ _ .ioRequests
    (List.replicate 3 (.work (fun _ => plainOutcome)))
    (reach_configuredProcess (by decide +kernel))
    (by decide +kernel) (by decide +kernel)

end Delay

------------------------------------------------------------
-- As Long as a Client Likes
------------------------------------------------------------

/- A request for a command that the driver does not support
   is written and submitted. -/
def Driver.askTypeStats (s : Driver) : Driver :=
  deviceBeginIo plainOutcome 8
    (s.setReq 8 (fun _ => plainRequest s2GetTypeStats))

theorem rest_askTypeStats (s : Driver) :
    s.askTypeStats.nic = s.nic ∧ s.askTypeStats.base = s.base ∧
      s.askTypeStats.unit = s.unit ∧
      s.askTypeStats.lists .unitMsgPort =
        s.lists .unitMsgPort ++ [8] ∧
      (s.askTypeStats.reqs 8).ioCommand = s2GetTypeStats := by
  have hLater : ¬ PerformedNow s2GetTypeStats := by
    decide
  simp [Driver.askTypeStats, deviceBeginIo, Driver.setReq,
    Driver.record, Driver.putMsg, Driver.addTail, hLater,
    plainRequest]

theorem rest_notSupported (s : Driver) (ios2 : APTR) :
    (notSupported ios2 s).nic = s.nic ∧
      (notSupported ios2 s).base = s.base ∧
      (notSupported ios2 s).unit = s.unit ∧
      (notSupported ios2 s).lists = s.lists ∧
      (notSupported ios2 s).Owned ios2 := by
  have hOwned (req : IOSana2Req) (log : List Event) :
      ¬ Outstanding ios2 (.terminated ios2 req :: log) :=
    fun hOut => hOut.1 rfl
  unfold notSupported Driver.termWithError Driver.termIo
  dsimp only
  split <;> exact ⟨rfl, rfl, rfl, rfl, hOwned _ _⟩

/- The unit process performs it, and all is as before. -/
theorem rest_performed
    {s : Driver}
    (hPort : s.lists .unitMsgPort = []) :
    (serviceMsgPort plainOutcome s.askTypeStats).nic = s.nic ∧
      (serviceMsgPort plainOutcome s.askTypeStats).base =
        s.base ∧
      (serviceMsgPort plainOutcome s.askTypeStats).unit =
        s.unit ∧
      (serviceMsgPort plainOutcome s.askTypeStats).lists
        .unitMsgPort = [] ∧
      (serviceMsgPort plainOutcome s.askTypeStats).Owned 8 := by
  rcases rest_askTypeStats s with
    ⟨hNic, hBase, hUnit, hQueue, hCommand⟩
  rw [hPort, List.nil_append] at hQueue
  have hPerforms :
      serviceMsgPort plainOutcome s.askTypeStats =
        notSupported 8 ((s.askTypeStats.remove 8).setReq 8
          (fun req => { req with ioError := 0 })) := by
    unfold serviceMsgPort performIo
    rw [hQueue]
    show dispatch plainOutcome
      (s.askTypeStats.reqs 8).ioCommand 8 _ = _
    rw [hCommand]
    rfl
  have hRest := rest_notSupported
    ((s.askTypeStats.remove 8).setReq 8
      (fun req => { req with ioError := 0 })) 8
  rw [← hPerforms] at hRest
  refine ⟨hRest.1.trans hNic, hRest.2.1.trans hBase,
    hRest.2.2.1.trans hUnit, ?_, hRest.2.2.2.2⟩
  rw [hRest.2.2.2.1]
  show (s.askTypeStats.lists .unitMsgPort).erase 8 = []
  rw [hQueue]
  rfl

/-
  The process goes through the port, which is empty, while an
  interrupt and a change of the file wait for it, and the
  client has its request back.
-/
structure UnitProcess.Occupied
    (bits : ProcessSignals)
    (receivedSignals : ULONG)
    (p : UnitProcess) : Prop where
  place : p.place = .ioRequests receivedSignals
  signalled : Signalled receivedSignals bits.mpSigBit
  linked : p.Linked
  alarms : p.alarms ≠ 0
  changes : p.changes ≠ 0
  port : p.driver.lists .unitMsgPort = []
  unit0 : p.driver.base.unit0 = true
  owned : p.driver.Owned 8

/- The client asks, and the process answers. -/
def occupyingSteps : List ProcessInput :=
  (submitSteps 8 (plainRequest s2GetTypeStats)).map .client ++
    [.work (fun _ => plainOutcome)]

/- The process is in the loop over its port, while an
   interrupt and a change of the file wait. -/
structure UnitProcess.Behind (p : UnitProcess) : Prop where
  place : ∃ receivedSignals,
    p.place = .ioRequests receivedSignals
  interrupt : p.due .lowLevel ≠ []
  change : p.due .configFile ≠ []

/- Nothing happens but steps of the process and calls of
   clients; nobody sends a signal, nor does the hardware do
   anything. -/
def UnitProcess.KeepsBehind (p : UnitProcess) :
    ProcessInput → Prop
| .work _ | .client _ => p.Behind
| .interrupt | .interfere _ | .signals _ | .fileWritten _ =>
    False

/-
  The process is at the same place of its loop with the same
  interrupts and changes, and has performed `done` meanwhile.
-/
structure UnitProcess.Lingers
    (p p' : UnitProcess)
    (done : List APTR) : Prop where
  place : p'.place = p.place
  alarms : p'.alarms = p.alarms
  changes : p'.changes = p.changes
  performed : p'.performed = p.performed ++ done

section Occupation

variable {bits : ProcessSignals} {receivedSignals : ULONG}
variable {p p' p'' : UnitProcess}

theorem UnitProcess.Lingers.trans
    {done done' : List APTR}
    (hFirst : p.Lingers p' done)
    (hSecond : p'.Lingers p'' done') :
    p.Lingers p'' (done ++ done') where
  place := hSecond.place.trans hFirst.place
  alarms := hSecond.alarms.trans hFirst.alarms
  changes := hSecond.changes.trans hFirst.changes
  performed := by
    rw [hSecond.performed, hFirst.performed, List.append_assoc]

theorem behind_of
    (hPlace : p.place = .ioRequests receivedSignals)
    (hAlarms : p.alarms ≠ 0)
    (hChanges : p.changes ≠ 0) :
    p.Behind where
  place := ⟨receivedSignals, hPlace⟩
  interrupt := fun hNone => hAlarms
    ((List.replicate_eq_nil_iff _).mp hNone)
  change := fun hNone => hChanges
    ((List.replicate_eq_nil_iff _).mp hNone)

theorem UnitProcess.Occupied.behind
    (hOccupied : p.Occupied bits receivedSignals) :
    p.Behind :=
  behind_of hOccupied.place hOccupied.alarms hOccupied.changes

/- The process is behind as long as it lingers. -/
theorem UnitProcess.Occupied.behind_of_lingers
    {done : List APTR}
    (hOccupied : p.Occupied bits receivedSignals)
    (hLingers : p.Lingers p' done) :
    p'.Behind :=
  behind_of (hLingers.place.trans hOccupied.place)
    (hLingers.alarms ▸ hOccupied.alarms)
    (hLingers.changes ▸ hOccupied.changes)

/- A call of a client leaves the process where it is. -/
theorem driver_client (op : Op) :
    (p.client bits op).driver = p.driver.next op := by
  unfold UnitProcess.client
  dsimp only
  split <;> rfl

theorem lingers_client (op : Op) :
    p.Lingers (p.client bits op) [] := by
  have hPerformed := (List.append_nil p.performed).symm
  unfold UnitProcess.client
  dsimp only
  split <;> exact ⟨rfl, rfl, rfl, hPerformed⟩

/- A request is performed while the server stays linked. -/
theorem lingers_work
    {ios2 : APTR}
    {others : List APTR}
    {o : Nat → Outcome}
    (hPlace : p.place = .ioRequests receivedSignals)
    (hSignalled : Signalled receivedSignals bits.mpSigBit)
    (hPort : p.driver.lists .unitMsgPort = ios2 :: others)
    (hLinked : (serviceMsgPort (o 0)
      p.driver).nic.iface.signalTask = true) :
    (p.work bits o).driver = serviceMsgPort (o 0) p.driver ∧
      p.Lingers (p.work bits o) [ios2] := by
  have hWork : p.work bits o =
      { p.tuned (serviceMsgPort (o 0) p.driver) with
        performed := p.performed ++ [ios2] } := by
    unfold UnitProcess.work
    rw [hPlace]
    show p.ioRequestWork bits o receivedSignals = _
    unfold UnitProcess.ioRequestWork
    rw [if_pos hSignalled, hPort]
  rw [hWork]
  exact ⟨rfl, rfl, if_pos hLinked, rfl, rfl⟩

/- The client has written its request, and submitted it. -/
def UnitProcess.written
    (bits : ProcessSignals) (p : UnitProcess) : UnitProcess :=
  p.client bits
    (.clientWrite 8 (plainRequest s2GetTypeStats))

def UnitProcess.asked
    (bits : ProcessSignals) (p : UnitProcess) : UnitProcess :=
  (p.written bits).client bits (.beginIo 8 plainOutcome)

theorem lingers_written : p.Lingers (p.written bits) [] :=
  lingers_client _

theorem lingers_asked : p.Lingers (p.asked bits) [] :=
  lingers_written.trans (lingers_client _)

theorem driver_asked :
    (p.asked bits).driver = p.driver.askTypeStats := by
  unfold UnitProcess.asked UnitProcess.written
  rw [driver_client, driver_client]
  rfl

/- Afterwards all is as before, and one more request has been
   performed. -/
theorem UnitProcess.Occupied.again
    (hOccupied : p.Occupied bits receivedSignals) :
    (processMachine bits).Runs UnitProcess.KeepsBehind
        occupyingSteps p ∧
      ((processMachine bits).run occupyingSteps p).Occupied
        bits receivedSignals ∧
      ((processMachine bits).run occupyingSteps p).performed =
        p.performed ++ [8] := by
  have hWritten := @lingers_written bits p
  have hAsked := @lingers_asked bits p
  have hQueue :
      (p.asked bits).driver.lists .unitMsgPort = [8] := by
    rw [driver_asked, (rest_askTypeStats _).2.2.2.1,
      hOccupied.port, List.nil_append]
  rcases rest_performed hOccupied.port with
    ⟨hNic, hBase, -, hPort, hOwned⟩
  rw [← driver_asked] at hNic hBase hPort hOwned
  have hStill : (serviceMsgPort plainOutcome
      (p.asked bits).driver).nic.iface.signalTask = true := by
    rw [hNic]
    exact hOccupied.linked
  rcases lingers_work (o := fun _ => plainOutcome)
    (hAsked.place.trans hOccupied.place) hOccupied.signalled
    hQueue hStill with ⟨hDriver, hWork⟩
  have hDone := hAsked.trans hWork
  refine ⟨?_, ?_, hDone.performed⟩
  · exact ⟨⟨⟨trivial, hOccupied.owned⟩, hOccupied.behind⟩,
      ⟨⟨trivial, hOccupied.unit0, hOccupied.owned⟩,
        hOccupied.behind_of_lingers hWritten⟩,
      ⟨trivial, hOccupied.behind_of_lingers hAsked⟩, trivial⟩
  · show ((p.asked bits).work bits
      (fun _ => plainOutcome)).Occupied bits receivedSignals
    refine ⟨hDone.place.trans hOccupied.place,
      hOccupied.signalled, ?_, hDone.alarms ▸ hOccupied.alarms,
      hDone.changes ▸ hOccupied.changes, ?_, ?_, ?_⟩
    · unfold UnitProcess.Linked
      rw [hDriver]
      exact hStill
    · rw [hDriver]
      exact hPort
    · rw [hDriver, hBase]
      exact hOccupied.unit0
    · rw [hDriver]
      exact hOwned

/- As often as the client likes. -/
theorem UnitProcess.Occupied.goesOn
    (hOccupied : p.Occupied bits receivedSignals)
    (n : Nat) :
    ∃ inputs,
      let q := (processMachine bits).run inputs p
      (processMachine bits).Runs UnitProcess.KeepsBehind
          inputs p ∧
        q.Behind ∧ inputs.countP ProcessInput.isWork = n ∧
        q.performed.length = p.performed.length + n := by
  induction n generalizing p with
  | zero => exact ⟨[], trivial, hOccupied.behind, rfl, rfl⟩
  | succ n ih =>
      rcases hOccupied.again with ⟨hRuns, hAgain, hPerformed⟩
      rcases ih hAgain with
        ⟨inputs, hRest, hLast, hCount, hLength⟩
      refine ⟨occupyingSteps ++ inputs,
        Machine.runs_append.mpr ⟨hRuns, hRest⟩, ?_, ?_, ?_⟩
      · rw [Machine.run_append]
        exact hLast
      · rw [List.countP_append, hCount]
        show 1 + n = n + 1
        omega
      · rw [Machine.run_append, hLength, hPerformed,
          List.length_append]
        show p.performed.length + 1 + n = _
        omega

end Occupation

/-
  The process of the unit has just been configured by its
  first request, when an interrupt and a change of the file
  are signalled.
-/
def occupiedSteps : List ProcessInput :=
  configTurns 3 ++
    [.interfere
        { (configuredProcess 3).driver.nic with
          chip :=
            { (configuredProcess 3).driver.nic.chip with
              reg := Function.update
                (configuredProcess 3).driver.nic.chip.reg
                regIsr isrRxis } },
      .interrupt, .fileWritten ksz8851GetStationAddress]

def occupiedProcess : UnitProcess :=
  (processMachine firstSignals).run occupiedSteps
    (openedProcess 19)

theorem reach_occupiedProcess :
    (processMachine firstSignals).Reach Machine.Free
      occupiedProcess := by
  apply Machine.reach_run _
    (Machine.Reach.start start_openedProcess)
  unfold occupiedSteps
  rw [Machine.runs_append]
  refine ⟨by decide +kernel, ⟨⟨rfl, ?_⟩, trivial⟩,
    ⟨?_, trivial⟩, ⟨trivial, trivial⟩, trivial⟩
  · decide +kernel
  · show 0 < ((configuredProcess 3).driver.nic).servers
    decide +kernel

theorem occupied_occupiedProcess :
    occupiedProcess.Occupied firstSignals (1#32 <<< 16) where
  place := by decide +kernel
  signalled := by decide +kernel
  linked := by decide +kernel
  alarms := by decide +kernel
  changes := by decide +kernel
  port := by decide +kernel
  unit0 := by decide +kernel
  owned := by decide +kernel

/-
  There is no bound on the steps of the process for which an
  interrupt and a change of the configuration file wait, while
  one client keeps asking.  In all of these steps the process
  is in the loop over its port, and performs a request.
-/
theorem kept_waiting :
    ∃ p, (processMachine firstSignals).Reach Machine.Free p ∧
      ∀ n, ∃ inputs,
        let q := (processMachine firstSignals).run inputs p
        (processMachine firstSignals).Runs
            UnitProcess.KeepsBehind inputs p ∧
          q.Behind ∧ inputs.countP ProcessInput.isWork = n ∧
          q.performed.length = p.performed.length + n :=
  ⟨occupiedProcess, reach_occupiedProcess,
    occupied_occupiedProcess.goesOn⟩

end KszDriver
