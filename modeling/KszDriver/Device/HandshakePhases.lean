import KszDriver.Device.UnitHandshake

/-
  The phases of the handshake between the task that opens or
  closes the unit and the unit process.

  Without a CTRL_F from elsewhere both tasks always agree on
  the phase, and the phase says whose step comes next.  From
  this follows that no memory is used that has been freed.

  Main declarations:
    * `Phase`, `Handshake.Agreed`
    * `Handshake.agreed_next`
    * `Handshake.safe_of_calm`
-/

------------------------------------------------------------
-- Phases
------------------------------------------------------------

namespace KszDriver

/- Where the two tasks are together. -/
inductive Phase where
| closed
| created
| startupSent
| startupTaken
| portMade
| configRead
| replied
| received
| opened
| closing
| signalled
| shutDown
| ended
| woken
deriving DecidableEq, Repr

/- What the two tasks know of each other. -/
structure Status where
  caller : CallerPlace
  process : ProcessPlace
  startup : StartupMessage
  replyPort : Bool
  etherUnit : Option (Option UnitTask × Bool)
  callerBreak : Bool
  processBreak : Bool
  unit0 : Bool
  fault : Bool
deriving DecidableEq, Repr

def Handshake.status (p : Handshake) : Status where
  caller := p.caller
  process := p.process
  startup := p.startup
  replyPort := p.replyPort
  etherUnit := p.etherUnit.map (fun u => (u.euProc, u.euTx))
  callerBreak := p.callerBreak
  processBreak := p.processBreak
  unit0 := p.driver.base.unit0
  fault := p.fault

namespace Phase

def caller : Phase → CallerPlace
| .closed | .opened => .outside
| .created => .sendingStartup
| .startupSent | .startupTaken | .portMade | .configRead
| .replied => .awaitingReply
| .received => .gotReply
| .closing => .signalling (some .process)
| .signalled | .shutDown | .ended => .awaitingEnd
| .woken => .freeing

def process : Phase → ProcessPlace
| .closed | .ended | .woken => .absent
| .created | .startupSent => .awaitingStartup
| .startupTaken => .settingUp
| .portMade => .readingConfig
| .configRead => .replying
| .replied | .received | .opened | .closing
| .signalled => .serving
| .shutDown => .leaving

def startup : Phase → StartupMessage
| .startupSent => .sent
| .startupTaken | .portMade | .configRead => .taken
| .replied => .replied
| _ => .unused

def etherUnit : Phase → Option (Option UnitTask × Bool)
| .closed => none
| .created | .startupSent | .startupTaken =>
    some (some .process, false)
| .portMade | .configRead | .replied | .received | .opened =>
    some (some .process, true)
| _ => some (some .caller, true)

/- The unit is being started. -/
def Opening : Phase → Prop
| .created | .startupSent | .startupTaken | .portMade
| .configRead | .replied | .received => True
| _ => False

/- The unit is entered into `ed_Units`. -/
def unit0 : Phase → Bool
| .opened | .closing | .signalled | .shutDown | .ended
| .woken => true
| _ => false

def status (phase : Phase) : Status where
  caller := phase.caller
  process := phase.process
  startup := phase.startup
  replyPort := match phase with
    | .created | .startupSent | .startupTaken | .portMade
    | .configRead | .replied => true
    | _ => false
  etherUnit := phase.etherUnit
  callerBreak := phase = .ended
  processBreak := phase = .signalled
  unit0 := phase.unit0
  fault := false

/- Whose step comes next in a call. -/
def turn : Phase → Option UnitTask
| .closed | .opened => none
| .created | .replied | .received | .closing | .ended
| .woken => some .caller
| .startupSent | .startupTaken | .portMade | .configRead
| .signalled | .shutDown => some .process

def next : Phase → Phase
| .closed => .created
| .created => .startupSent
| .startupSent => .startupTaken
| .startupTaken => .portMade
| .portMade => .configRead
| .configRead => .replied
| .replied => .received
| .received => .opened
| .opened => .closing
| .closing => .signalled
| .signalled => .shutDown
| .shutDown => .ended
| .ended => .woken
| .woken => .closed

/- How many steps the call still takes. -/
def due : Phase → Nat
| .closed | .opened => 0
| .created => 7
| .startupSent => 6
| .startupTaken => 5
| .portMade => 4
| .configRead => 3
| .replied => 2
| .received => 1
| .closing => 5
| .signalled => 4
| .shutDown => 3
| .ended => 2
| .woken => 1

/- The phase after a step. -/
def after (phase : Phase) : HandshakeInput → Phase
| .initUnitProcess env =>
    if phase = .closed ∧ Handshake.Starts env then .created
    else phase
| .expungeUnit => if phase = .opened then .closing else phase
| .caller | .process => phase.next
| _ => phase

end Phase

namespace Handshake

variable {p : Handshake} {phase : Phase}

theorem callerRuns_iff
    (hStatus : p.status = phase.status) :
    p.CallerRuns ↔ phase.turn = some .caller := by
  have hCaller := congrArg Status.caller hStatus
  have hStartup := congrArg Status.startup hStatus
  have hBreak := congrArg Status.callerBreak hStatus
  change p.caller = phase.caller at hCaller
  change p.startup = phase.startup at hStartup
  change p.callerBreak = decide (phase = .ended) at hBreak
  unfold CallerRuns
  rw [hCaller, hStartup, hBreak]
  cases phase <;>
    simp [Phase.caller, Phase.startup, Phase.turn]

theorem processRuns_iff
    (hStatus : p.status = phase.status) :
    p.ProcessRuns ↔ phase.turn = some .process := by
  have hProcess := congrArg Status.process hStatus
  have hStartup := congrArg Status.startup hStatus
  have hBreak := congrArg Status.processBreak hStatus
  change p.process = phase.process at hProcess
  change p.startup = phase.startup at hStartup
  change p.processBreak = decide (phase = .signalled) at hBreak
  unfold ProcessRuns
  rw [hProcess, hStartup, hBreak]
  cases phase <;>
    simp [Phase.process, Phase.startup, Phase.turn]

/- The memory of the unit, while it is allocated. -/
theorem etherUnit_of_status
    (hStatus : p.status = phase.status)
    {known : Option UnitTask × Bool}
    (hKnown : phase.etherUnit = some known) :
    ∃ u, p.etherUnit = some u ∧ (u.euProc, u.euTx) = known := by
  have hUnit := congrArg Status.etherUnit hStatus
  change p.etherUnit.map _ = phase.etherUnit at hUnit
  rw [hKnown, Option.map_eq_some_iff] at hUnit
  exact hUnit

/- A new unit up to its station address. -/
def Fresh (u : EtherUnit) : Prop :=
  u.fields = { newUnit with stAddr := u.fields.stAddr }

theorem Fresh.setAddr
    {u : EtherUnit}
    (hFresh : Fresh u)
    (addr : MacAddr)
    (proc : Option UnitTask)
    (tx : Bool) :
    Fresh
      { euProc := proc
        euTx := tx
        fields := { u.fields with stAddr := addr } } := by
  unfold Fresh at hFresh ⊢
  rw [hFresh]

/-
  The two tasks agree on the phase they are in, and the unit
  that is being started is one that can be entered.
-/
structure Agreed (p : Handshake) (phase : Phase) : Prop where
  status : p.status = phase.status
  starts : phase.Opening → Starts p.env
  fresh : phase.Opening →
    ∃ u, p.etherUnit = some u ∧ Fresh u

theorem status_callerStep
    (hStatus : p.status = phase.status)
    (hRuns : p.CallerRuns) :
    p.callerStep.status = phase.next.status := by
  have hTurn := (callerRuns_iff hStatus).mp hRuns
  rcases p with ⟨driver, env, caller, process, startup,
    replyPort, etherUnit, callerBreak, processBreak, fault⟩
  cases phase <;> simp [Phase.turn] at hTurn
  all_goals
    cases etherUnit <;>
      simp [Handshake.status, Phase.status, Phase.caller,
        Phase.process, Phase.startup, Phase.etherUnit,
        Phase.unit0] at hStatus
    simp [hStatus, Handshake.status, Phase.status, Phase.caller,
      Phase.process, Phase.startup, Phase.etherUnit,
      Phase.unit0, Phase.next, callerStep, euProc, freeUnit,
      access, publish, signal, Driver.setBase]

theorem status_processStep
    (hStatus : p.status = phase.status)
    (hRuns : p.ProcessRuns) :
    p.processStep.status = phase.next.status := by
  have hTurn := (processRuns_iff hStatus).mp hRuns
  rcases p with ⟨driver, env, caller, process, startup,
    replyPort, etherUnit, callerBreak, processBreak, fault⟩
  cases phase <;> simp [Phase.turn] at hTurn
  all_goals
    cases etherUnit <;>
      simp [Handshake.status, Phase.status, Phase.caller,
        Phase.process, Phase.startup, Phase.etherUnit,
        Phase.unit0] at hStatus
    simp [hStatus, Handshake.status, Phase.status, Phase.caller,
      Phase.process, Phase.startup, Phase.etherUnit,
      Phase.unit0, Phase.next, processStep, euProc, shutDown,
      access, signal, Driver.setUnit, Driver.runNic]

theorem agreed_callerStep
    (hAgreed : p.Agreed phase)
    (hRuns : p.CallerRuns) :
    p.callerStep.Agreed phase.next := by
  have hStatus := hAgreed.status
  have hTurn := (callerRuns_iff hStatus).mp hRuns
  have hCaller : p.caller = phase.caller :=
    congrArg Status.caller hStatus
  refine ⟨status_callerStep hStatus hRuns, ?_, ?_⟩
  · intro hOpening
    unfold callerStep
    rw [hCaller]
    cases phase <;> simp [Phase.turn] at hTurn
    case created | replied => exact hAgreed.starts trivial
    all_goals cases hOpening
  · intro hOpening
    unfold callerStep
    rw [hCaller]
    cases phase <;> simp [Phase.turn] at hTurn
    case created | replied => exact hAgreed.fresh trivial
    all_goals cases hOpening

theorem agreed_processStep
    (hAgreed : p.Agreed phase)
    (hRuns : p.ProcessRuns) :
    p.processStep.Agreed phase.next := by
  have hStatus := hAgreed.status
  have hTurn := (processRuns_iff hStatus).mp hRuns
  have hProcess : p.process = phase.process :=
    congrArg Status.process hStatus
  refine ⟨status_processStep hStatus hRuns, ?_, ?_⟩
  · intro hOpening
    rcases p with ⟨driver, env, caller, process, startup,
      replyPort, etherUnit, callerBreak, processBreak, fault⟩
    cases hProcess
    cases phase <;> simp [Phase.turn] at hTurn
    case signalled | shutDown => cases hOpening
    all_goals
      have hStarts := hAgreed.starts trivial
      cases etherUnit <;> exact hStarts
  · intro hOpening
    rcases p with ⟨driver, env, caller, process, startup,
      replyPort, etherUnit, callerBreak, processBreak, fault⟩
    cases hProcess
    cases phase <;> simp [Phase.turn] at hTurn
    case signalled | shutDown => cases hOpening
    all_goals
      rcases hAgreed.fresh trivial with ⟨u, hUnit, hFresh⟩
      change etherUnit = some u at hUnit
      subst hUnit
    case startupSent | configRead => exact ⟨u, rfl, hFresh⟩
    case startupTaken | portMade =>
      exact ⟨_, rfl, hFresh.setAddr _ _ _⟩

theorem agreed_enterInitUnitProcess
    {env : OpenEnv}
    (hAgreed : p.Agreed phase)
    (hOutside : p.caller = .outside) :
    (p.enterInitUnitProcess env).Agreed
      (phase.after (.initUnitProcess env)) := by
  have hCaller : p.caller = phase.caller :=
    congrArg Status.caller hAgreed.status
  have hUnit : p.driver.base.unit0 = phase.unit0 :=
    congrArg Status.unit0 hAgreed.status
  rw [hOutside] at hCaller
  unfold enterInitUnitProcess Phase.after
  dsimp only
  rw [hUnit]
  cases phase
  case closed =>
    by_cases hStarts : Starts env
    · have hBoth : Phase.closed = .closed ∧ Starts env :=
        ⟨rfl, hStarts⟩
      rw [if_neg (by decide), if_pos hStarts, if_pos hBoth]
      refine ⟨?_, fun _ => hStarts, fun _ => ⟨_, rfl, rfl⟩⟩
      have hStartup : p.startup = .unused :=
        congrArg Status.startup hAgreed.status
      have hBreak : p.callerBreak = false :=
        congrArg Status.callerBreak hAgreed.status
      have hFault : p.fault = false :=
        congrArg Status.fault hAgreed.status
      simp [Handshake.status, Phase.status, Phase.caller,
        Phase.process, Phase.startup, Phase.etherUnit,
        Phase.unit0, hStartup, hBreak, hFault, hUnit]
    · rw [if_neg (by decide), if_neg hStarts,
        if_neg (fun h => hStarts h.2)]
      exact hAgreed
  case opened =>
    have hEntered : Phase.opened.unit0 = true := rfl
    rw [if_pos hEntered, if_neg (by simp)]
    exact hAgreed
  all_goals cases hCaller

theorem agreed_enterExpungeUnit
    (hAgreed : p.Agreed phase)
    (hOutside : p.caller = .outside) :
    p.enterExpungeUnit.Agreed (phase.after .expungeUnit) := by
  have hCaller : p.caller = phase.caller :=
    congrArg Status.caller hAgreed.status
  have hUnit : p.driver.base.unit0 = phase.unit0 :=
    congrArg Status.unit0 hAgreed.status
  rw [hOutside] at hCaller
  unfold enterExpungeUnit Phase.after
  dsimp only
  rw [hUnit]
  cases phase
  case closed => exact hAgreed
  case opened =>
    rcases etherUnit_of_status hAgreed.status rfl with
      ⟨u, hMemory, hKnown⟩
    have hEntered : Phase.opened.unit0 = true := rfl
    rw [if_pos hEntered, if_pos rfl]
    refine ⟨?_, nofun, nofun⟩
    rcases p with ⟨driver, env, caller, process, startup,
      replyPort, etherUnit, callerBreak, processBreak, fault⟩
    change etherUnit = some u at hMemory
    subst hMemory
    have hStatus := hAgreed.status
    simp [Handshake.status, Phase.status, Phase.caller,
      Phase.process, Phase.startup, Phase.etherUnit,
      Phase.unit0] at hStatus
    simp [hStatus, Handshake.status, Phase.status, Phase.caller,
      Phase.process, Phase.startup, Phase.etherUnit,
      Phase.unit0, access, euProc]
  all_goals cases hCaller

/- Whatever else happens to the driver. -/
theorem Agreed.setDriver
    {s : Driver}
    (hAgreed : p.Agreed phase)
    (hUnit : s.base.unit0 = p.driver.base.unit0) :
    Agreed { p with driver := s } phase := by
  have hStatus :
      Handshake.status { p with driver := s } = p.status := by
    unfold Handshake.status
    rw [hUnit]
  exact ⟨hStatus.trans hAgreed.status, hAgreed.starts,
    hAgreed.fresh⟩

theorem driver_access
    (f : EtherUnit → EtherUnit)
    (p : Handshake) :
    (p.access f).driver = p.driver := by
  unfold access
  split <;> rfl

/- The process reads or writes its unit. -/
theorem agreed_access
    {f : EtherUnit → EtherUnit}
    (hAgreed : p.Agreed phase)
    (hServing : p.process = .serving)
    (hKnown : ∀ u, ((f u).euProc, (f u).euTx) =
      (u.euProc, u.euTx))
    (hFresh : ∀ u, Fresh u → Fresh (f u)) :
    (p.access f).Agreed phase := by
  have hStatus := hAgreed.status
  have hProcess : p.process = phase.process :=
    congrArg Status.process hStatus
  have hSome : ∃ known, phase.etherUnit = some known := by
    rw [hServing] at hProcess
    cases phase <;> first | exact ⟨_, rfl⟩ | cases hProcess
  rcases hSome with ⟨known, hSome⟩
  rcases etherUnit_of_status hStatus hSome with ⟨u, hMemory, -⟩
  have hAccess :
      p.access f = { p with etherUnit := some (f u) } := by
    unfold access
    rw [hMemory]
  rw [hAccess]
  refine ⟨?_, hAgreed.starts, fun hOpening => ?_⟩
  · rw [← hStatus]
    unfold Handshake.status
    dsimp only
    rw [hMemory, Option.map_some, Option.map_some, hKnown]
  · rcases hAgreed.fresh hOpening with ⟨u', hMemory', hOld⟩
    rw [hMemory] at hMemory'
    cases hMemory'
    exact ⟨_, rfl, hFresh _ hOld⟩

/-
  A calm step leads the two tasks from the phase they agree
  on to the next one.
-/
theorem agreed_next
    {i : HandshakeInput}
    (hAgreed : p.Agreed phase)
    (hAllowed : p.Allowed i)
    (hCalm : p.Calm i) :
    (p.next i).Agreed (phase.after i) := by
  cases i with
  | initUnitProcess env =>
      exact agreed_enterInitUnitProcess hAgreed hAllowed
  | expungeUnit => exact agreed_enterExpungeUnit hAgreed hAllowed
  | caller => exact agreed_callerStep hAgreed hAllowed
  | process => exact agreed_processStep hAgreed hAllowed
  | work s =>
      apply (agreed_access hAgreed hAllowed.1
        (fun _ => rfl) (fun _ => id)).setDriver
      rw [driver_access]
      exact hAllowed.2.2.trans hAllowed.2.1.symm
  | rereadConfig =>
      exact agreed_access hAgreed hAllowed.1 (fun _ => rfl)
        (fun _ h => h.setAddr _ _ _)
  | other s => exact hAgreed.setDriver hAllowed
  | fileWritten addr =>
      exact ⟨hAgreed.status, hAgreed.starts, hAgreed.fresh⟩
  | breakCaller | breakProcess => exact hCalm.elim

theorem agreed_start
    (hStart : p.Start) :
    p.Agreed .closed := by
  rcases hStart with ⟨hUnit, hCaller, hProcess, hStartup,
    hReply, hMemory, hCallerBreak, hProcessBreak, hFault⟩
  refine ⟨?_, nofun, nofun⟩
  unfold Handshake.status
  rw [hUnit, hCaller, hProcess, hStartup, hReply, hCallerBreak,
    hProcessBreak, hFault, Option.isNone_iff_eq_none.mp hMemory]
  rfl

/- As long as no CTRL_F comes from elsewhere. -/
theorem agreed_of_reach
    (hReach : handshakeMachine.Reach Calm p) :
    ∃ phase, p.Agreed phase := by
  induction hReach with
  | start hStart => exact ⟨_, agreed_start hStart⟩
  | step _ hAllowed hCalm ih =>
      rcases ih with ⟨phase, hAgreed⟩
      exact ⟨_, agreed_next hAgreed hAllowed hCalm⟩

------------------------------------------------------------
-- No Use After Free
------------------------------------------------------------

/- The process has set the unit up and replied, or has ended
   since. -/
def HasReplied (p : Handshake) : Prop :=
  match p.process with
  | .awaitingStartup | .settingUp | .readingConfig
  | .replying => False
  | .serving | .leaving | .absent => True

/-
  Memory that is used is there: the process never outlives
  the unit, what is entered into `ed_Units` has been set up by
  a process that has replied, and no memory is left behind.
-/
structure Safe (p : Handshake) : Prop where
  fault : p.fault = false
  alive : p.process ≠ .absent → p.etherUnit.isSome = true
  replied : p.driver.base.unit0 = true → p.HasReplied
  entered : p.driver.base.unit0 = true →
    ∃ u, p.etherUnit = some u ∧ u.euTx = true
  noLeak : p.caller = .outside →
    p.etherUnit.isSome = p.driver.base.unit0

theorem Agreed.safe
    (hAgreed : p.Agreed phase) :
    p.Safe := by
  have hStatus := hAgreed.status
  have hCaller : p.caller = phase.caller :=
    congrArg Status.caller hStatus
  have hProcess : p.process = phase.process :=
    congrArg Status.process hStatus
  have hUnit : p.driver.base.unit0 = phase.unit0 :=
    congrArg Status.unit0 hStatus
  have hMemory : p.etherUnit.isSome = phase.etherUnit.isSome :=
    Option.isSome_map.symm.trans
      (congrArg (fun status => status.etherUnit.isSome) hStatus)
  refine ⟨congrArg Status.fault hStatus, ?_, ?_, ?_, ?_⟩
  · rw [hProcess, hMemory]
    cases phase <;>
      simp [Phase.process, Phase.etherUnit]
  · intro hEntered
    rw [hUnit] at hEntered
    unfold HasReplied
    rw [hProcess]
    cases phase <;> trivial
  · intro hEntered
    rw [hUnit] at hEntered
    have hSome :
        ∃ proc, phase.etherUnit = some (proc, true) := by
      cases phase <;> first | exact ⟨_, rfl⟩ | cases hEntered
    rcases hSome with ⟨proc, hSome⟩
    rcases etherUnit_of_status hStatus hSome with ⟨u, hU, hTx⟩
    exact ⟨u, hU, congrArg Prod.snd hTx⟩
  · rw [hCaller, hMemory, hUnit]
    cases phase <;>
      simp [Phase.caller, Phase.etherUnit, Phase.unit0]

/-
  Along every run without a CTRL_F from elsewhere no memory
  is used that has been freed, and none is lost.
-/
theorem safe_of_calm
    (hReach : handshakeMachine.Reach Calm p) :
    p.Safe := by
  rcases agreed_of_reach hReach with ⟨phase, hAgreed⟩
  exact hAgreed.safe

/- The device is loaded and the unit is closed. -/
def closedUnit : Handshake where
  driver := loadedDriver (idleRegisters 0x1800#16)
  env := plainOpen 40
  caller := .outside
  process := .absent
  startup := .unused
  replyPort := false
  etherUnit := none
  callerBreak := false
  processBreak := false
  fault := false

theorem start_closedUnit : closedUnit.Start :=
  ⟨rfl, rfl, rfl, rfl, rfl, rfl, rfl, rfl, rfl⟩

/- The unit is opened and closed. -/
def openAndClose : List HandshakeInput :=
  [.initUnitProcess (plainOpen 40), .caller, .process, .process,
    .process, .process, .caller, .caller, .expungeUnit,
    .caller, .process, .process, .caller, .caller]

theorem reach_closedUnit
    {inputs : List HandshakeInput}
    (hRuns : handshakeMachine.Runs Calm inputs closedUnit) :
    handshakeMachine.Reach Calm
      (handshakeMachine.run inputs closedUnit) :=
  Machine.reach_run _ (Machine.Reach.start start_closedUnit)
    hRuns

instance decidableHandshakeRuns
    (C : Handshake → HandshakeInput → Prop)
    [hGuard : ∀ p i, Decidable (C p i)]
    (inputs : List HandshakeInput)
    (p : Handshake) :
    Decidable (handshakeMachine.Runs C inputs p) :=
  Machine.decidableRuns handshakeMachine C
    (fun p i => inferInstanceAs (Decidable (p.Allowed i)))
    hGuard inputs p

theorem safe_of_calm_openAndClose :
    (handshakeMachine.run openAndClose closedUnit).Safe :=
  safe_of_calm (reach_closedUnit (by decide +kernel))

end Handshake

end KszDriver
