import KszDriver.Device.HandshakePhases

/-
  What the handshake between the opening or closing task and
  the unit process comes to.

  As long as no CTRL_F comes from elsewhere, `InitUnitProcess`
  and `ExpungeUnit` look like single steps of the driver, and
  each of them returns after a fixed number of steps of the
  two tasks, in whatever order they run.  With such a signal
  the unit is freed under the process, or never.

  Main declarations:
    * `unitMachine`, `Handshake.implements_unit`
    * `Handshake.run_unit_of_calm`
    * `Handshake.returned_iff_of_calm`
    * `Handshake.stranded_of_breakProcess`
    * `Handshake.freed_of_breakCaller`
-/

------------------------------------------------------------
-- Single Steps
------------------------------------------------------------

namespace KszDriver

inductive UnitInput where
| initUnitProcess (env : OpenEnv)
| expungeUnit
| other (s : Driver)

/- The driver with `InitUnitProcess` and `ExpungeUnit` as
   single steps. -/
def unitMachine : Machine Driver UnitInput where
  Start s := s.base.unit0 = false
  Allowed s
    | .other s' => s'.base.unit0 = s.base.unit0
    | _ => True
  next s
    | .initUnitProcess env => initUnitProcess env s
    | .expungeUnit => expungeUnit s
    | .other s' => s'

namespace Handshake

variable {p : Handshake} {phase : Phase}

/- The unit counts as gone once the process has shut it
   down. -/
def view (p : Handshake) : Driver :=
  { p.driver with
    base :=
      { p.driver.base with
        unit0 :=
          p.driver.base.unit0 && p.process = .serving } }

/- What the open has found, with the address that the process
   has read. -/
def openEnv (p : Handshake) (u : EtherUnit) : OpenEnv :=
  { p.env with configAddr := u.fields.stAddr }

/-
  What a step is for the driver: the unit is there when it is
  entered, with the address that the process has read, and it
  is gone when the process has left its loop.
-/
def unitActs (p : Handshake) : HandshakeInput → List UnitInput
| .initUnitProcess env =>
    if p.driver.base.unit0 = false ∧ Starts env then []
    else [.initUnitProcess env]
| .expungeUnit =>
    if p.driver.base.unit0 then [] else [.expungeUnit]
| .caller =>
    match p.caller, p.etherUnit with
    | .gotReply, some u => [.initUnitProcess (p.openEnv u)]
    | _, _ => []
| .process =>
    if p.process = .serving then [.expungeUnit] else []
| .work s | .other s => [.other (view { p with driver := s })]
| _ => []

theorem unit0_view
    (p : Handshake) :
    p.view.base.unit0 =
      (p.driver.base.unit0 && p.process = .serving) := rfl

/- Outside of the two functions nothing is hidden. -/
theorem Agreed.view_of_outside
    (hAgreed : p.Agreed phase)
    (hOutside : p.caller = .outside) :
    p.view = p.driver := by
  have hCaller : p.caller = phase.caller :=
    congrArg Status.caller hAgreed.status
  have hProcess : p.process = phase.process :=
    congrArg Status.process hAgreed.status
  have hUnit : p.driver.base.unit0 = phase.unit0 :=
    congrArg Status.unit0 hAgreed.status
  have hBoth : (p.driver.base.unit0 && p.process = .serving) =
      p.driver.base.unit0 := by
    rw [hUnit, hProcess]
    rw [hOutside] at hCaller
    cases phase <;> first | rfl | cases hCaller
  unfold view
  rw [hBoth]

/- `InitUnitProcess` when the process can be started. -/
theorem initUnitProcess_of_starts
    {env : OpenEnv}
    {s : Driver}
    (hUnit : s.base.unit0 = false)
    (hStarts : Starts env) :
    initUnitProcess env s =
      (readConfig env.configAddr
        { s with lists := newLists s.lists, unit := newUnit }
          ).setBase (fun b => { b with unit0 := true }) := by
  unfold initUnitProcess
  rw [if_neg (by rw [hUnit]; exact Bool.false_ne_true)]
  exact if_pos hStarts

/- `InitUnitProcess` is over when the unit is entered. -/
theorem initUnitProcess_view
    {u : EtherUnit}
    (hUnit : p.driver.base.unit0 = false)
    (hServing : p.process = .serving)
    (hStarts : Starts p.env)
    (hMemory : p.etherUnit = some u)
    (hFresh : Fresh u) :
    initUnitProcess (p.openEnv u) p.view =
      p.publish.view := by
  have hClosed : p.view.base.unit0 = false := by
    rw [unit0_view, hUnit]
    rfl
  have hEnv : Starts (p.openEnv u) := hStarts
  rw [initUnitProcess_of_starts hClosed hEnv]
  unfold publish openEnv
  rw [hMemory]
  unfold view readConfig Driver.setUnit Driver.setBase
  dsimp only
  rw [hServing, ← hFresh]
  rfl

/- `ExpungeUnit` is over when the unit has been shut down. -/
theorem expungeUnit_view
    (hUnit : p.driver.base.unit0 = true)
    (hServing : p.process = .serving) :
    expungeUnit p.view =
      (shutDown p.driver).setBase
        (fun b => { b with unit0 := false }) := by
  have hOpened : p.view.base.unit0 = true := by
    rw [unit0_view, hUnit, hServing]
    rfl
  unfold expungeUnit
  rw [if_pos hOpened]
  rfl

/- A step that leaves the driver, and the process serving or
   not serving, leaves the view. -/
theorem view_congr
    {p' : Handshake}
    (hDriver : p'.driver = p.driver)
    (hServing : p.driver.base.unit0 = true →
      (p'.process = .serving ↔ p.process = .serving)) :
    p'.view = p.view := by
  unfold view
  rw [hDriver]
  cases hUnit : p.driver.base.unit0
  · rfl
  · rw [decide_eq_decide.mpr (hServing hUnit)]

theorem access_cases
    (f : EtherUnit → EtherUnit)
    (p : Handshake) :
    (∃ u, p.etherUnit = some u ∧
      p.access f = { p with etherUnit := some (f u) }) ∨
    (p.etherUnit = none ∧
      p.access f = { p with fault := true }) := by
  unfold access
  cases hMemory : p.etherUnit with
  | none => exact Or.inr ⟨rfl, rfl⟩
  | some u => exact Or.inl ⟨u, rfl, rfl⟩

theorem process_access
    (f : EtherUnit → EtherUnit)
    (p : Handshake) :
    (p.access f).process = p.process := by
  unfold access
  split <;> rfl

theorem callerBreak_access
    (f : EtherUnit → EtherUnit)
    (p : Handshake) :
    (p.access f).callerBreak = p.callerBreak := by
  unfold access
  split <;> rfl

theorem driver_signal
    (task : Option UnitTask)
    (p : Handshake) :
    (p.signal task).driver = p.driver := by
  unfold signal
  split
  · rfl
  · split <;> rfl
  · rfl

theorem process_signal
    (task : Option UnitTask)
    (p : Handshake) :
    (p.signal task).process = p.process := by
  unfold signal
  split
  · rfl
  · split <;> rfl
  · rfl

theorem view_initUnitProcess
    {env : OpenEnv}
    (hAgreed : p.Agreed phase)
    (hOutside : p.caller = .outside) :
    unitMachine.run (p.unitActs (.initUnitProcess env))
        p.view =
      (p.enterInitUnitProcess env).view := by
  unfold unitActs enterInitUnitProcess
  dsimp only
  by_cases hStarts :
      p.driver.base.unit0 = false ∧ Starts env
  · rw [if_pos hStarts, if_pos hStarts.2, if_neg (by
      rw [hStarts.1]
      exact Bool.false_ne_true)]
    refine (view_congr (p := p) ?_ (fun hUnit => ?_)).symm
    · rfl
    · rw [hStarts.1] at hUnit
      cases hUnit
  · rw [if_neg hStarts]
    change initUnitProcess env p.view = _
    rw [hAgreed.view_of_outside hOutside]
    unfold initUnitProcess
    cases hUnit : p.driver.base.unit0
    · have hNot : ¬ Starts env := fun h => hStarts ⟨hUnit, h⟩
      rw [if_neg Bool.false_ne_true,
        if_neg Bool.false_ne_true, if_neg hNot]
      exact (if_neg hNot).trans
        (hAgreed.view_of_outside hOutside).symm
    · rw [if_pos rfl, if_pos rfl]
      exact (hAgreed.view_of_outside hOutside).symm

theorem view_expungeUnit
    (hAgreed : p.Agreed phase)
    (hOutside : p.caller = .outside) :
    unitMachine.run (p.unitActs .expungeUnit) p.view =
      p.enterExpungeUnit.view := by
  unfold unitActs enterExpungeUnit
  dsimp only
  cases hUnit : p.driver.base.unit0
  · rw [if_neg Bool.false_ne_true, if_neg Bool.false_ne_true]
    change expungeUnit p.view = _
    rw [hAgreed.view_of_outside hOutside]
    unfold expungeUnit
    rw [hUnit]
    rfl
  · rw [if_pos rfl, if_pos rfl]
    apply Eq.symm
    apply view_congr (driver_access _ p)
    intro _
    rw [process_access]

theorem view_callerStep
    (hAgreed : p.Agreed phase)
    (hRuns : p.CallerRuns) :
    unitMachine.run (p.unitActs .caller) p.view =
      p.callerStep.view := by
  have hTurn := (callerRuns_iff hAgreed.status).mp hRuns
  have hCaller : p.caller = phase.caller :=
    congrArg Status.caller hAgreed.status
  have hProcess : p.process = phase.process :=
    congrArg Status.process hAgreed.status
  have hUnit : p.driver.base.unit0 = phase.unit0 :=
    congrArg Status.unit0 hAgreed.status
  unfold unitActs callerStep
  dsimp only
  rw [hCaller]
  cases phase <;> simp [Phase.turn] at hTurn
  case created | replied | ended => rfl
  case received =>
    rcases hAgreed.fresh trivial with ⟨u, hMemory, hFresh⟩
    rcases etherUnit_of_status hAgreed.status rfl with
      ⟨u', hMemory', hKnown⟩
    have hProc : p.euProc ≠ none := by
      have hKnown : u'.euProc = some .process :=
        congrArg Prod.fst hKnown
      unfold euProc
      rw [hMemory', Option.bind_some, hKnown]
      exact Option.some_ne_none _
    change _ = (if p.euProc = none then _ else _ : Handshake).view
    rw [if_neg hProc, hMemory]
    exact initUnitProcess_view hUnit hProcess
      (hAgreed.starts trivial) hMemory hFresh
  case closing =>
    apply Eq.symm
    apply view_congr (driver_signal _ p)
    intro _
    exact (congrArg (· = ProcessPlace.serving)
      (process_signal _ p)).to_iff
  case woken =>
    unfold freeUnit view Driver.setBase
    dsimp only
    rw [process_access, hProcess, hUnit]
    rfl

/- The process shuts the driver down when it leaves its loop,
   and does nothing to it otherwise. -/
theorem driver_processStep
    (hNot : p.process ≠ .serving) :
    p.processStep.driver = p.driver := by
  unfold processStep
  split
  case h_6 hServing => exact absurd hServing hNot
  case h_7 => exact (driver_signal _ _).trans (driver_access _ p)
  all_goals first | rfl | exact driver_access _ p

theorem view_processStep
    (hAgreed : p.Agreed phase)
    (hRuns : p.ProcessRuns) :
    unitMachine.run (p.unitActs .process) p.view =
      p.processStep.view := by
  have hTurn := (processRuns_iff hAgreed.status).mp hRuns
  have hProcess : p.process = phase.process :=
    congrArg Status.process hAgreed.status
  have hUnit : p.driver.base.unit0 = phase.unit0 :=
    congrArg Status.unit0 hAgreed.status
  have hNext :=
    (agreed_processStep hAgreed hRuns).status
  have hProcess' : p.processStep.process = phase.next.process :=
    congrArg Status.process hNext
  unfold unitActs
  dsimp only
  by_cases hServing : p.process = .serving
  · rw [if_pos hServing]
    have hStep : p.processStep.driver = shutDown p.driver := by
      unfold processStep
      rw [hServing]
    have hLeft : p.processStep.process = .leaving := by
      unfold processStep
      rw [hServing]
    have hEntered : p.driver.base.unit0 = true := by
      rw [hUnit]
      rw [hServing] at hProcess
      cases phase <;> first
      | rfl
      | exact absurd hTurn (by decide)
      | exact absurd hProcess (by decide)
    refine (expungeUnit_view hEntered hServing).trans ?_
    unfold view Driver.setBase
    rw [hStep, hLeft]
    dsimp only
    rw [decide_eq_false (by decide), Bool.and_false]
  · rw [if_neg hServing]
    refine (view_congr (p := p)
      (driver_processStep hServing) (fun hEntered => ?_)).symm
    refine iff_of_false ?_ hServing
    rw [hProcess']
    rw [hUnit] at hEntered
    cases phase <;> first
    | exact absurd hTurn (by decide)
    | exact absurd hEntered (by decide)
    | decide

/- What a calm step does to the driver. -/
theorem view_next
    {i : HandshakeInput}
    (hAgreed : p.Agreed phase)
    (hAllowed : p.Allowed i)
    (hCalm : p.Calm i) :
    unitMachine.run (p.unitActs i) p.view =
      (p.next i).view := by
  cases i with
  | initUnitProcess env =>
      exact view_initUnitProcess hAgreed hAllowed
  | expungeUnit => exact view_expungeUnit hAgreed hAllowed
  | caller => exact view_callerStep hAgreed hAllowed
  | process => exact view_processStep hAgreed hAllowed
  | work s =>
      have hSame : (p.access id).process = p.process :=
        process_access _ p
      change view { p with driver := s } =
        view { p.access id with driver := s }
      unfold view
      rw [hSame]
  | rereadConfig =>
      refine (view_congr (p := p) ?_ (fun _ => ?_)).symm
      · exact driver_access _ p
      · exact (congrArg (· = ProcessPlace.serving)
          (process_access _ p)).to_iff
  | other s | fileWritten addr => rfl
  | breakCaller | breakProcess => exact hCalm.elim

theorem runs_unitActs
    {i : HandshakeInput}
    (hAllowed : p.Allowed i) :
    unitMachine.Runs Machine.Free (p.unitActs i) p.view := by
  cases i with
  | initUnitProcess env =>
      unfold unitActs
      dsimp only
      split
      · trivial
      · exact ⟨⟨trivial, trivial⟩, trivial⟩
  | expungeUnit =>
      unfold unitActs
      dsimp only
      split
      · trivial
      · exact ⟨⟨trivial, trivial⟩, trivial⟩
  | process =>
      unfold unitActs
      dsimp only
      split
      · exact ⟨⟨trivial, trivial⟩, trivial⟩
      · trivial
  | caller =>
      unfold unitActs
      dsimp only
      split
      · exact ⟨⟨trivial, trivial⟩, trivial⟩
      · trivial
  | work s =>
      have hUnit : s.base.unit0 = p.driver.base.unit0 :=
        hAllowed.2.2.trans hAllowed.2.1.symm
      exact ⟨⟨congrArg (· && _) hUnit, trivial⟩, trivial⟩
  | other s =>
      exact ⟨⟨congrArg (· && _) hAllowed, trivial⟩, trivial⟩
  | rereadConfig | fileWritten _ | breakCaller
  | breakProcess => trivial

/- Calm runs implement the two functions as single steps. -/
theorem implements_unit :
    handshakeMachine.Implements Calm unitMachine Machine.Free
      (fun p => ∃ phase, p.Agreed phase) view unitActs where
  kept _ _ := fun ⟨_, hAgreed⟩ hAllowed hCalm =>
    ⟨_, agreed_next hAgreed hAllowed hCalm⟩
  runs _ _ := fun _ hAllowed _ => runs_unitActs hAllowed
  next _ _ := fun ⟨_, hAgreed⟩ hAllowed hCalm =>
    view_next hAgreed hAllowed hCalm

/-
  A calm run that begins and ends outside of the two functions
  leads the driver where the same run leads it with both as
  single steps.
-/
theorem run_unit_of_calm
    {inputs : List HandshakeInput}
    (hReach : handshakeMachine.Reach Calm p)
    (hRuns : handshakeMachine.Runs Calm inputs p)
    (hOutside : p.caller = .outside)
    (hReturned :
      (handshakeMachine.run inputs p).caller = .outside) :
    unitMachine.Runs Machine.Free
        (handshakeMachine.actsAlong unitActs inputs p)
        p.driver ∧
      unitMachine.run
          (handshakeMachine.actsAlong unitActs inputs p)
          p.driver =
        (handshakeMachine.run inputs p).driver := by
  rcases agreed_of_reach hReach with ⟨phase, hAgreed⟩
  rcases implements_unit.run ⟨phase, hAgreed⟩ hRuns with
    ⟨⟨phase', hAgreed'⟩, hActs, hView⟩
  rw [hAgreed.view_of_outside hOutside] at hActs hView
  rw [hAgreed'.view_of_outside hReturned] at hView
  exact ⟨hActs, hView⟩

theorem run_unit_of_calm_openAndClose :
    unitMachine.run
        (handshakeMachine.actsAlong unitActs openAndClose
          closedUnit)
        closedUnit.driver =
      (handshakeMachine.run openAndClose closedUnit).driver :=
  (run_unit_of_calm (Machine.Reach.start start_closedUnit)
    (by decide +kernel) rfl (by decide +kernel)).2

------------------------------------------------------------
-- Both Functions Return
------------------------------------------------------------

end Handshake

/- A step of one of the two tasks. -/
def HandshakeInput.isStep : HandshakeInput → Bool
| .caller | .process => true
| _ => false

/- A call of one of the two functions. -/
def HandshakeInput.IsCall : HandshakeInput → Prop
| .initUnitProcess _ | .expungeUnit => True
| _ => False

namespace Handshake

variable {p : Handshake} {phase : Phase}

/- No second call begins, and no CTRL_F comes from
   elsewhere. -/
def InCall (_ : Handshake) : HandshakeInput → Prop
| .initUnitProcess _ | .expungeUnit | .breakCaller
| .breakProcess => False
| _ => True

instance (p : Handshake) :
    (i : HandshakeInput) → Decidable (p.InCall i)
| .initUnitProcess _ | .expungeUnit | .breakCaller
| .breakProcess => isFalse id
| .caller | .process | .work _ | .rereadConfig | .other _
| .fileWritten _ => isTrue trivial

/- How many steps of the two tasks a call takes. -/
def callSteps (p : Handshake) : HandshakeInput → Nat
| .initUnitProcess env =>
    if p.driver.base.unit0 = false ∧ Starts env then 7 else 0
| .expungeUnit => if p.driver.base.unit0 then 5 else 0
| _ => 0

theorem due_next
    {i : HandshakeInput}
    (hAgreed : p.Agreed phase)
    (hAllowed : p.Allowed i)
    (hInCall : p.InCall i) :
    (phase.after i).due + (if i.isStep then 1 else 0) =
      phase.due := by
  cases i with
  | caller =>
      have hTurn := (callerRuns_iff hAgreed.status).mp hAllowed
      cases phase <;> first | rfl | cases hTurn
  | process =>
      have hTurn := (processRuns_iff hAgreed.status).mp hAllowed
      cases phase <;> first | rfl | cases hTurn
  | work _ | rereadConfig | other _ | fileWritten _ => rfl
  | initUnitProcess _ | expungeUnit | breakCaller
  | breakProcess => exact hInCall.elim

theorem due_run
    {inputs : List HandshakeInput}
    (hAgreed : p.Agreed phase)
    (hRuns : handshakeMachine.Runs InCall inputs p) :
    ∃ phase', (handshakeMachine.run inputs p).Agreed phase' ∧
      phase'.due + inputs.countP HandshakeInput.isStep =
        phase.due := by
  induction inputs generalizing p phase with
  | nil => exact ⟨phase, hAgreed, rfl⟩
  | cons i inputs ih =>
      rcases hRuns with ⟨⟨hAllowed, hInCall⟩, hRest⟩
      have hCalm : p.Calm i := by
        cases i <;> trivial
      have hNext := agreed_next hAgreed hAllowed hCalm
      rcases ih hNext hRest with ⟨phase', hAgreed', hDue⟩
      have hStep := due_next hAgreed hAllowed hInCall
      refine ⟨phase', hAgreed', ?_⟩
      rw [List.countP_cons]
      omega

theorem due_call
    {i : HandshakeInput}
    (hAgreed : p.Agreed phase)
    (hCall : i.IsCall)
    (hAllowed : p.Allowed i) :
    (phase.after i).due = p.callSteps i := by
  have hCaller : p.caller = phase.caller :=
    congrArg Status.caller hAgreed.status
  have hUnit : p.driver.base.unit0 = phase.unit0 :=
    congrArg Status.unit0 hAgreed.status
  cases i with
  | initUnitProcess env =>
      have hOutside := hCaller.symm.trans hAllowed
      unfold Phase.after callSteps
      dsimp only
      rw [hUnit]
      cases phase
      case closed =>
        by_cases hStarts : Starts env
        · rw [if_pos ⟨rfl, hStarts⟩, if_pos ⟨rfl, hStarts⟩]
          rfl
        · rw [if_neg (fun h => hStarts h.2),
            if_neg (fun h => hStarts h.2)]
          rfl
      case opened => rfl
      all_goals cases hOutside
  | expungeUnit =>
      have hOutside := hCaller.symm.trans hAllowed
      unfold Phase.after callSteps
      dsimp only
      rw [hUnit]
      cases phase
      case closed | opened => rfl
      all_goals cases hOutside
  | caller | process | work _ | rereadConfig | other _
  | fileWritten _ | breakCaller | breakProcess =>
      exact hCall.elim

theorem caller_outside_iff
    (hAgreed : p.Agreed phase) :
    p.caller = .outside ↔ phase.due = 0 := by
  have hCaller : p.caller = phase.caller :=
    congrArg Status.caller hAgreed.status
  rw [hCaller]
  cases phase <;> decide

/- Somebody is not blocked. -/
theorem runs_of_inside
    (hAgreed : p.Agreed phase)
    (hInside : p.caller ≠ .outside) :
    p.CallerRuns ∨ p.ProcessRuns := by
  rw [callerRuns_iff hAgreed.status,
    processRuns_iff hAgreed.status]
  have hDue := mt (caller_outside_iff hAgreed).mpr hInside
  cases phase <;> first | exact absurd rfl hDue | decide

/-
  A call returns when the two tasks have taken the steps that
  it takes, in whatever order; until then one of them can go
  on.
-/
theorem returned_iff_of_calm
    {i : HandshakeInput}
    {inputs : List HandshakeInput}
    (hReach : handshakeMachine.Reach Calm p)
    (hCall : i.IsCall)
    (hAllowed : p.Allowed i)
    (hRuns :
      handshakeMachine.Runs InCall inputs (p.next i)) :
    let q := handshakeMachine.run inputs (p.next i)
    let steps := inputs.countP HandshakeInput.isStep
    steps ≤ p.callSteps i ∧
      (q.caller = .outside ↔ steps = p.callSteps i) ∧
      (q.caller ≠ .outside → q.CallerRuns ∨ q.ProcessRuns) := by
  intro q steps
  rcases agreed_of_reach hReach with ⟨phase, hAgreed⟩
  have hCalm : p.Calm i := by
    cases i <;> trivial
  have hNext := agreed_next hAgreed hAllowed hCalm
  rcases due_run hNext hRuns with ⟨phase', hAgreed', hDue⟩
  rw [due_call hAgreed hCall hAllowed] at hDue
  refine ⟨by omega, ?_, runs_of_inside hAgreed'⟩
  rw [caller_outside_iff hAgreed']
  omega

theorem returned_iff_of_calm_closedUnit :
    (handshakeMachine.run
      [.caller, .process, .process, .process, .process, .caller,
        .caller]
      (closedUnit.next
        (.initUnitProcess (plainOpen 40)))).caller =
      .outside := by
  have hRuns : handshakeMachine.Runs InCall
      [.caller, .process, .process, .process, .process, .caller,
        .caller]
      (closedUnit.next (.initUnitProcess (plainOpen 40))) := by
    decide +kernel
  have hCall : HandshakeInput.IsCall
      (.initUnitProcess (plainOpen 40)) := trivial
  exact (returned_iff_of_calm
    (Machine.Reach.start start_closedUnit) hCall rfl
    hRuns).2.1.mpr rfl

------------------------------------------------------------
-- A Signal from Elsewhere
------------------------------------------------------------

/- The process is gone, the unit is not, and whoever closes it
   is not signalled. -/
structure Stranded (p : Handshake) : Prop where
  process : p.process = .absent
  unit0 : p.driver.base.unit0 = true
  callerBreak : p.callerBreak = false
  caller :
    p.caller = .outside ∧ p.euProc = some .process ∨
      p.caller = .signalling (some .process) ∨
      p.caller = .awaitingEnd ∧ p.fault = true

/- No CTRL_F comes to the task that closes. -/
def Unbroken (_ : Handshake) : HandshakeInput → Prop
| .breakCaller => False
| _ => True

instance (p : Handshake) :
    (i : HandshakeInput) → Decidable (p.Unbroken i)
| .breakCaller => isFalse id
| .initUnitProcess _ | .expungeUnit | .caller | .process
| .work _ | .rereadConfig | .other _ | .fileWritten _
| .breakProcess => isTrue trivial

theorem Stranded.next
    {i : HandshakeInput}
    (hStranded : p.Stranded)
    (hAllowed : p.Allowed i)
    (hUnbroken : p.Unbroken i) :
    (p.next i).Stranded := by
  rcases hStranded with ⟨hProcess, hUnit, hBreak, hCaller⟩
  cases i with
  | initUnitProcess env =>
      have hSame : p.enterInitUnitProcess env = p :=
        if_pos hUnit
      change (p.enterInitUnitProcess env).Stranded
      rw [hSame]
      exact ⟨hProcess, hUnit, hBreak, hCaller⟩
  | expungeUnit =>
      rcases hCaller with ⟨-, hProc⟩ | hIn | hIn
      · have hStep : p.enterExpungeUnit =
            { p.access (fun u =>
                { u with euProc := some .caller }) with
              caller := .signalling p.euProc } := if_pos hUnit
        change (p.enterExpungeUnit).Stranded
        rw [hStep, hProc]
        refine ⟨?_, ?_, ?_, Or.inr (Or.inl rfl)⟩
        · exact (process_access _ p).trans hProcess
        · exact (congrArg (fun s => s.base.unit0)
            (driver_access _ p)).trans hUnit
        · exact (callerBreak_access _ p).trans hBreak
      · exact absurd (hIn.symm.trans hAllowed) nofun
      · exact absurd (hIn.1.symm.trans hAllowed) nofun
  | caller =>
      change p.callerStep.Stranded
      change p.CallerRuns at hAllowed
      unfold CallerRuns at hAllowed
      rcases hCaller with hOutside | hSignalling | hWaiting
      · rw [hOutside.1] at hAllowed
        exact hAllowed.elim
      · have hStep : p.callerStep =
            { p with caller := .awaitingEnd, fault := true } := by
          unfold callerStep
          rw [hSignalling]
          unfold signal
          dsimp only
          rw [if_pos hProcess]
        rw [hStep]
        exact ⟨hProcess, hUnit, hBreak,
          Or.inr (Or.inr ⟨rfl, rfl⟩)⟩
      · rw [hWaiting.1, hBreak] at hAllowed
        cases hAllowed
  | process =>
      change p.ProcessRuns at hAllowed
      unfold ProcessRuns at hAllowed
      rw [hProcess] at hAllowed
      exact hAllowed.elim
  | work s => exact absurd (hProcess.symm.trans hAllowed.1) nofun
  | rereadConfig =>
      exact absurd (hProcess.symm.trans hAllowed.1) nofun
  | other s =>
      exact ⟨hProcess, hAllowed.trans hUnit, hBreak, hCaller⟩
  | fileWritten _ => exact ⟨hProcess, hUnit, hBreak, hCaller⟩
  | breakCaller => exact hUnbroken.elim
  | breakProcess => exact absurd hProcess hAllowed

/- The unit is open and nobody has begun to close it; a signal
   from elsewhere may have ended the process. -/
structure LeftOpen (p : Handshake) : Prop where
  caller : p.caller = .outside
  unit0 : p.driver.base.unit0 = true
  callerBreak : p.callerBreak = false
  euProc : p.euProc = some .process
  process : p.process = .serving ∨ p.process = .leaving ∨
    p.process = .absent

/- Nobody begins to close the unit. -/
def LeavesOpen (_ : Handshake) : HandshakeInput → Prop
| .breakCaller | .expungeUnit => False
| _ => True

instance (p : Handshake) :
    (i : HandshakeInput) → Decidable (p.LeavesOpen i)
| .breakCaller | .expungeUnit => isFalse id
| .initUnitProcess _ | .caller | .process | .work _
| .rereadConfig | .other _ | .fileWritten _
| .breakProcess => isTrue trivial

theorem Agreed.leftOpen
    (hAgreed : p.Agreed phase)
    (hOutside : p.caller = .outside)
    (hUnit : p.driver.base.unit0 = true) :
    p.LeftOpen := by
  have hStatus := hAgreed.status
  have hOpened : phase = .opened := by
    have hCaller := hOutside.symm.trans
      (congrArg Status.caller hStatus)
    have hPhase := hUnit.symm.trans
      (congrArg Status.unit0 hStatus)
    cases phase <;> first
    | rfl
    | exact absurd hCaller (by decide)
    | exact absurd hPhase (by decide)
  subst hOpened
  rcases etherUnit_of_status hStatus rfl with
    ⟨u, hMemory, hKnown⟩
  refine ⟨hOutside, hUnit,
    congrArg Status.callerBreak hStatus, ?_,
    Or.inl (congrArg Status.process hStatus)⟩
  unfold euProc
  rw [hMemory]
  exact congrArg Prod.fst hKnown

/- The unit structure is there. -/
theorem LeftOpen.access_id
    (hOpen : p.LeftOpen) :
    p.access id = p := by
  have hProc := hOpen.euProc
  rcases access_cases id p with ⟨u, hMemory, hSame⟩ | hNone
  · rw [hSame, id, ← hMemory]
  · unfold Handshake.euProc at hProc
    rw [hNone.1] at hProc
    cases hProc

/- The process leaves its loop, and signals itself. -/
theorem LeftOpen.process_next
    (hOpen : p.LeftOpen)
    (hRuns : p.ProcessRuns) :
    p.processStep.LeftOpen ∧
      p.processStep.process ≠ .serving := by
  have hSame := hOpen.access_id
  rcases hOpen with ⟨hCaller, hUnit, hBreak, hProc, hProcess⟩
  rcases hProcess with hServing | hLeaving | hAbsent
  · have hStep : p.processStep =
        { p with
          driver := shutDown p.driver
          processBreak := false
          process := .leaving } := by
      unfold processStep
      rw [hServing, hSame]
    rw [hStep]
    exact ⟨⟨hCaller, hUnit, hBreak, hProc, Or.inr (Or.inl rfl)⟩,
      nofun⟩
  · have hAlive : p.process ≠ .absent := by
      rw [hLeaving]
      decide
    have hStep : p.processStep =
        { p with processBreak := true, process := .absent } := by
      unfold processStep
      rw [hLeaving, hSame, hProc]
      unfold signal
      dsimp only
      rw [if_neg hAlive]
    rw [hStep]
    exact ⟨⟨hCaller, hUnit, hBreak, hProc, Or.inr (Or.inr rfl)⟩,
      nofun⟩
  · unfold ProcessRuns at hRuns
    rw [hAbsent] at hRuns
    exact hRuns.elim

theorem LeftOpen.next
    {i : HandshakeInput}
    (hOpen : p.LeftOpen)
    (hAllowed : p.Allowed i)
    (hLeaves : p.LeavesOpen i) :
    (p.next i).LeftOpen := by
  cases i with
  | initUnitProcess env =>
      have hSame : p.enterInitUnitProcess env = p :=
        if_pos hOpen.unit0
      change (p.enterInitUnitProcess env).LeftOpen
      rwa [hSame]
  | caller =>
      change p.CallerRuns at hAllowed
      unfold CallerRuns at hAllowed
      rw [hOpen.caller] at hAllowed
      exact hAllowed.elim
  | process => exact (hOpen.process_next hAllowed).1
  | work s =>
      change LeftOpen { p.access id with driver := s }
      rw [hOpen.access_id]
      exact { hOpen with unit0 := hAllowed.2.2 }
  | rereadConfig =>
      exact absurd (hOpen.unit0.symm.trans hAllowed.2) nofun
  | other s =>
      exact { hOpen with unit0 := hAllowed.trans hOpen.unit0 }
  | fileWritten addr =>
      exact ⟨hOpen.caller, hOpen.unit0, hOpen.callerBreak,
        hOpen.euProc, hOpen.process⟩
  | breakProcess =>
      exact ⟨hOpen.caller, hOpen.unit0, hOpen.callerBreak,
        hOpen.euProc, hOpen.process⟩
  | expungeUnit | breakCaller => exact hLeaves.elim

/- The process has been told to end. -/
def Told (p : Handshake) : Prop :=
  p.processBreak = true ∨ p.process ≠ .serving

theorem LeftOpen.told_next
    {i : HandshakeInput}
    (hOpen : p.LeftOpen)
    (hAllowed : p.Allowed i)
    (hLeaves : p.LeavesOpen i)
    (hTold : p.Told) :
    (p.next i).Told := by
  cases i with
  | initUnitProcess env =>
      have hSame : p.enterInitUnitProcess env = p :=
        if_pos hOpen.unit0
      change (p.enterInitUnitProcess env).Told
      rwa [hSame]
  | caller =>
      change p.CallerRuns at hAllowed
      unfold CallerRuns at hAllowed
      rw [hOpen.caller] at hAllowed
      exact hAllowed.elim
  | process => exact Or.inr (hOpen.process_next hAllowed).2
  | work s =>
      change Told { p.access id with driver := s }
      rwa [hOpen.access_id]
  | rereadConfig =>
      exact absurd (hOpen.unit0.symm.trans hAllowed.2) nofun
  | other _ | fileWritten _ => exact hTold
  | breakProcess => exact Or.inl rfl
  | expungeUnit | breakCaller => exact hLeaves.elim

/- From then on the process is never blocked. -/
theorem LeftOpen.processRuns_of_told
    (hOpen : p.LeftOpen)
    (hTold : p.Told)
    (hAlive : p.process ≠ .absent) :
    p.ProcessRuns := by
  unfold ProcessRuns
  rcases hOpen.process with hServing | hLeaving | hAbsent
  · rw [hServing]
    exact hTold.resolve_right (not_not.mpr hServing)
  · rw [hLeaving]
    trivial
  · exact absurd hAbsent hAlive

/- Whoever begins to close the unit is inside then. -/
theorem Stranded.enters
    (hStranded : p.Stranded) :
    (p.next .expungeUnit).caller ≠ .outside := by
  have hStep : p.enterExpungeUnit.caller =
      .signalling p.euProc :=
    congrArg Handshake.caller (if_pos hStranded.unit0)
  change p.enterExpungeUnit.caller ≠ .outside
  rw [hStep]
  exact nofun

/- Whoever has begun to close the unit goes on with it. -/
theorem Stranded.inside_next
    {i : HandshakeInput}
    (hStranded : p.Stranded)
    (hAllowed : p.Allowed i)
    (hInside : p.caller ≠ .outside) :
    (p.next i).caller ≠ .outside := by
  cases i with
  | initUnitProcess _ | expungeUnit =>
      exact absurd hAllowed hInside
  | caller =>
      change p.CallerRuns at hAllowed
      unfold CallerRuns at hAllowed
      rcases hStranded.caller with hOutside | hIn | hIn
      · exact absurd hOutside.1 hInside
      · have hNext : p.callerStep.caller = .awaitingEnd := by
          unfold callerStep
          rw [hIn]
        change p.callerStep.caller ≠ .outside
        rw [hNext]
        decide
      · rw [hIn.1, hStranded.callerBreak] at hAllowed
        cases hAllowed
  | process =>
      change p.ProcessRuns at hAllowed
      unfold ProcessRuns at hAllowed
      rw [hStranded.process] at hAllowed
      exact hAllowed.elim
  | work s =>
      exact absurd (hStranded.process.symm.trans hAllowed.1)
        nofun
  | rereadConfig =>
      exact absurd (hStranded.process.symm.trans hAllowed.1)
        nofun
  | other _ | fileWritten _ | breakCaller | breakProcess =>
      exact hInside

/-
  A CTRL_F that somebody else sends to the process while the
  unit is open: from then on the process is not blocked until
  it has ended.  When it has ended before anybody began to
  close the unit, and however it goes on without a CTRL_F to
  the closing task, the unit is never freed and `ExpungeUnit`
  never returns.
-/
theorem stranded_of_breakProcess
    {before after : List HandshakeInput}
    (hReach : handshakeMachine.Reach Calm p)
    (hOutside : p.caller = .outside)
    (hUnit : p.driver.base.unit0 = true)
    (hBefore : handshakeMachine.Runs LeavesOpen before p)
    (hAfter : handshakeMachine.Runs Unbroken after
      (handshakeMachine.run before p)) :
    let m := handshakeMachine.run before p
    let q := handshakeMachine.run after m
    (.breakProcess ∈ before → m.process ≠ .absent →
      m.ProcessRuns) ∧
    (m.process = .absent →
      q.process = .absent ∧ q.driver.base.unit0 = true ∧
        (.expungeUnit ∈ after → q.caller ≠ .outside) ∧
        (q.caller = .awaitingEnd →
          q.fault = true ∧ ¬ q.CallerRuns)) := by
  intro m q
  rcases agreed_of_reach hReach with ⟨phase, hAgreed⟩
  have hFirst := hAgreed.leftOpen hOutside hUnit
  have hOpen : m.LeftOpen :=
    hBefore.invariant
      (fun _ _ hAllowed hLeaves hState =>
        hState.next hAllowed hLeaves) hFirst
  constructor
  · intro hMem
    apply hOpen.processRuns_of_told
    exact hBefore.since (J := Told)
      (fun _ _ hAllowed hLeaves hState =>
        LeftOpen.next hState hAllowed hLeaves)
      (fun _ _ _ _ => Or.inl rfl)
      (fun _ _ hAllowed hLeaves hState hTold =>
        hState.told_next hAllowed hLeaves hTold) hFirst hMem
  intro hEnded
  have hStranded : m.Stranded :=
    ⟨hEnded, hOpen.unit0, hOpen.callerBreak,
      Or.inl ⟨hOpen.caller, hOpen.euProc⟩⟩
  have hLast : q.Stranded :=
    hAfter.invariant
      (fun _ _ hAllowed hUnbroken hState =>
        hState.next hAllowed hUnbroken) hStranded
  refine ⟨hLast.process, hLast.unit0, ?_, fun hWaiting => ?_⟩
  · intro hMem
    exact hAfter.since (J := fun p => p.caller ≠ .outside)
      (fun _ _ hAllowed hUnbroken hState =>
        Stranded.next hState hAllowed hUnbroken)
      (fun _ _ _ hState => hState.enters)
      (fun _ _ hAllowed _ hState hInside =>
        hState.inside_next hAllowed hInside) hStranded hMem
  rcases hLast.caller with hOther | hOther | hEnd
  · exact absurd (hOther.1.symm.trans hWaiting) nofun
  · exact absurd (hOther.symm.trans hWaiting) nofun
  · refine ⟨hEnd.2, ?_⟩
    unfold CallerRuns
    rw [hWaiting, hLast.callerBreak]
    exact Bool.false_ne_true

/- The unit is open. -/
def openUnit : Handshake :=
  handshakeMachine.run (openAndClose.take 8) closedUnit

theorem stranded_of_breakProcess_openUnit :
    (handshakeMachine.run [.expungeUnit, .caller]
      (handshakeMachine.run
        [.breakProcess, .process, .process] openUnit)).caller ≠
      .outside :=
  ((stranded_of_breakProcess
    (reach_closedUnit (by decide +kernel)) (by decide +kernel)
    (by decide +kernel)
    (show handshakeMachine.Runs LeavesOpen
      [.breakProcess, .process, .process] openUnit by
        decide +kernel)
    (by decide +kernel)).2 (by decide +kernel)).2.2.1
      List.mem_cons_self

/-
  The closing task waits in `ExpungeUnit` or has gone on, and
  the process has been signalled.  When the function has
  returned, the memory of the unit is gone.
-/
structure Expunging (p : Handshake) : Prop where
  caller : p.caller = .awaitingEnd ∨ p.caller = .freeing ∨
    p.caller = .outside
  process : p.process = .serving ∧ p.processBreak = true ∨
    p.process = .leaving ∨ p.process = .absent
  unit0 : p.driver.base.unit0 = true ↔ p.caller ≠ .outside
  memory : p.caller = .outside → p.etherUnit = none

/- No other call begins. -/
def Expunges (_ : Handshake) : HandshakeInput → Prop
| .initUnitProcess _ | .expungeUnit => False
| _ => True

instance (p : Handshake) :
    (i : HandshakeInput) → Decidable (p.Expunges i)
| .initUnitProcess _ | .expungeUnit => isFalse id
| .caller | .process | .work _ | .rereadConfig | .other _
| .fileWritten _ | .breakCaller | .breakProcess =>
    isTrue trivial

theorem Agreed.expunging
    (hAgreed : p.Agreed phase)
    (hWaiting : p.caller = .awaitingEnd) :
    p.Expunging := by
  have hStatus := hAgreed.status
  have hProcess : p.process = phase.process :=
    congrArg Status.process hStatus
  have hBreak : p.processBreak = decide (phase = .signalled) :=
    congrArg Status.processBreak hStatus
  have hUnit : p.driver.base.unit0 = phase.unit0 :=
    congrArg Status.unit0 hStatus
  have hCaller : CallerPlace.awaitingEnd = phase.caller :=
    hWaiting.symm.trans (congrArg Status.caller hStatus)
  refine ⟨Or.inl hWaiting, ?_, ?_, ?_⟩
  · rw [hProcess, hBreak]
    cases phase <;> first
    | exact absurd hCaller (by decide)
    | decide
  · rw [hUnit, hWaiting]
    cases phase <;> first
    | exact absurd hCaller (by decide)
    | decide
  · rw [hWaiting]
    exact nofun

theorem Expunging.access
    (hExpunging : p.Expunging)
    (f : EtherUnit → EtherUnit) :
    (p.access f).Expunging := by
  rcases hExpunging with ⟨hCaller, hProcess, hUnit, hMemory⟩
  rcases access_cases f p with ⟨u, hSome, hSame⟩ | ⟨-, hSame⟩
  · rw [hSame]
    refine ⟨hCaller, hProcess, hUnit, fun hOutside => ?_⟩
    exact absurd (hSome.symm.trans (hMemory hOutside)) nofun
  · rw [hSame]
    exact ⟨hCaller, hProcess, hUnit, hMemory⟩

theorem Expunging.signal
    (hExpunging : p.Expunging)
    (task : Option UnitTask) :
    (p.signal task).Expunging := by
  rcases hExpunging with ⟨hCaller, hProcess, hUnit, hMemory⟩
  unfold Handshake.signal
  split
  · exact ⟨hCaller, hProcess, hUnit, hMemory⟩
  · split
    · exact ⟨hCaller, hProcess, hUnit, hMemory⟩
    · exact ⟨hCaller,
        hProcess.imp_left (fun hIn => ⟨hIn.1, rfl⟩), hUnit,
        hMemory⟩
  · exact ⟨hCaller, hProcess, hUnit, hMemory⟩

theorem Expunging.setDriver
    {s : Driver}
    (hExpunging : p.Expunging)
    (hUnit : s.base.unit0 = p.driver.base.unit0) :
    Expunging { p with driver := s } where
  caller := hExpunging.caller
  process := hExpunging.process
  unit0 := by
    rw [hUnit]
    exact hExpunging.unit0
  memory := hExpunging.memory

theorem Expunging.caller_next
    (hExpunging : p.Expunging)
    (hRuns : p.CallerRuns) :
    p.callerStep.Expunging ∧
      p.callerStep.caller ≠ .awaitingEnd := by
  rcases hExpunging with ⟨hCaller, hProcess, hUnit, -⟩
  rcases hCaller with hWaiting | hFreeing | hOutside
  · have hStep : p.callerStep =
        { p with callerBreak := false, caller := .freeing } := by
      unfold callerStep
      rw [hWaiting]
    rw [hStep]
    refine ⟨⟨Or.inr (Or.inl rfl), hProcess, ?_, nofun⟩, nofun⟩
    rw [hWaiting] at hUnit
    exact iff_of_true (hUnit.mpr nofun) nofun
  · have hStep : p.callerStep =
        { p.freeUnit with
          driver := p.driver.setBase
            (fun b => { b with unit0 := false })
          caller := .outside } := by
      unfold callerStep
      rw [hFreeing]
    have hSame : p.freeUnit.process = p.process ∧
        p.freeUnit.processBreak = p.processBreak := by
      unfold freeUnit
      rcases access_cases id p with ⟨u, -, hSame⟩ | ⟨-, hSame⟩
      · exact hSame ▸ ⟨rfl, rfl⟩
      · exact hSame ▸ ⟨rfl, rfl⟩
    rw [hStep]
    refine ⟨⟨Or.inr (Or.inr rfl), ?_, ?_, fun _ => rfl⟩, nofun⟩
    · change p.freeUnit.process = _ ∧
        p.freeUnit.processBreak = _ ∨ p.freeUnit.process = _ ∨
          p.freeUnit.process = _
      rw [hSame.1, hSame.2]
      exact hProcess
    · exact iff_of_false Bool.false_ne_true (not_not.mpr rfl)
  · unfold CallerRuns at hRuns
    rw [hOutside] at hRuns
    exact hRuns.elim

theorem Expunging.process_next
    (hExpunging : p.Expunging)
    (hRuns : p.ProcessRuns) :
    p.processStep.Expunging := by
  have hAccess := hExpunging.access id
  rcases hExpunging.process with hServing | hLeaving | hAbsent
  · have hStep : p.processStep =
        { p.access id with
          driver := shutDown p.driver
          processBreak := false
          process := .leaving } := by
      unfold processStep
      rw [hServing.1]
    have hShut := hAccess.setDriver (s := shutDown p.driver)
      (congrArg (fun s => s.base.unit0) (driver_access id p)).symm
    rw [hStep]
    exact ⟨hShut.caller, Or.inr (Or.inl rfl), hShut.unit0,
      hShut.memory⟩
  · have hStep : p.processStep =
        { (p.access id).signal p.euProc with
          process := .absent } := by
      unfold processStep
      rw [hLeaving]
    have hSignal := hAccess.signal p.euProc
    rw [hStep]
    exact ⟨hSignal.caller, Or.inr (Or.inr rfl), hSignal.unit0,
      hSignal.memory⟩
  · unfold ProcessRuns at hRuns
    rw [hAbsent] at hRuns
    exact hRuns.elim

theorem Expunging.next
    {i : HandshakeInput}
    (hExpunging : p.Expunging)
    (hAllowed : p.Allowed i)
    (hExpunges : p.Expunges i) :
    (p.next i).Expunging := by
  cases i with
  | caller => exact (hExpunging.caller_next hAllowed).1
  | process => exact hExpunging.process_next hAllowed
  | work s =>
      apply (hExpunging.access id).setDriver
      rw [driver_access]
      exact hAllowed.2.2.trans hAllowed.2.1.symm
  | rereadConfig => exact hExpunging.access _
  | other s => exact hExpunging.setDriver hAllowed
  | fileWritten _ | breakCaller =>
      exact ⟨hExpunging.caller, hExpunging.process,
        hExpunging.unit0, hExpunging.memory⟩
  | breakProcess =>
      exact ⟨hExpunging.caller,
        hExpunging.process.imp_left (fun hIn => ⟨hIn.1, rfl⟩),
        hExpunging.unit0, hExpunging.memory⟩
  | initUnitProcess _ | expungeUnit => exact hExpunges.elim

/- The closing task has been told to go on. -/
def Woken (p : Handshake) : Prop :=
  p.callerBreak = true ∨ p.caller ≠ .awaitingEnd

theorem woken_access
    (f : EtherUnit → EtherUnit)
    (hWoken : p.Woken) :
    (p.access f).Woken := by
  rcases access_cases f p with ⟨u, -, hSame⟩ | ⟨-, hSame⟩
  · rw [hSame]
    exact hWoken
  · rw [hSame]
    exact hWoken

theorem woken_signal
    (task : Option UnitTask)
    (hWoken : p.Woken) :
    (p.signal task).Woken := by
  unfold signal
  split
  · exact Or.inl rfl
  · split <;> exact hWoken
  · exact hWoken

theorem Expunging.woken_next
    {i : HandshakeInput}
    (hExpunging : p.Expunging)
    (hAllowed : p.Allowed i)
    (hExpunges : p.Expunges i)
    (hWoken : p.Woken) :
    (p.next i).Woken := by
  cases i with
  | caller => exact Or.inr (hExpunging.caller_next hAllowed).2
  | process =>
      change p.processStep.Woken
      unfold processStep
      split
      case h_7 => exact woken_signal _ (woken_access id hWoken)
      all_goals first | exact hWoken | exact woken_access _ hWoken
  | work s => exact woken_access id hWoken
  | rereadConfig => exact woken_access _ hWoken
  | other _ | fileWritten _ | breakProcess => exact hWoken
  | breakCaller => exact Or.inl rfl
  | initUnitProcess _ | expungeUnit => exact hExpunges.elim

/-
  A CTRL_F that somebody else sends to the closing task while
  it waits: from then on the task is not blocked until
  `ExpungeUnit` returns.  When it has returned before the
  process has ended, the unit is freed under the process,
  which then uses memory that is not allocated any more.
-/
theorem freed_of_breakCaller
    {inputs : List HandshakeInput}
    (hReach : handshakeMachine.Reach Calm p)
    (hWaiting : p.caller = .awaitingEnd)
    (hRuns : handshakeMachine.Runs Expunges inputs p) :
    let q := handshakeMachine.run inputs p
    (.breakCaller ∈ inputs → q.caller ≠ .outside →
      q.CallerRuns) ∧
    (q.caller = .outside → q.process ≠ .absent →
      q.driver.base.unit0 = false ∧ q.etherUnit = none ∧
        q.ProcessRuns ∧ (q.next .process).fault = true) := by
  intro q
  rcases agreed_of_reach hReach with ⟨phase, hAgreed⟩
  have hFirst := hAgreed.expunging hWaiting
  have hLast : q.Expunging :=
    hRuns.invariant
      (fun _ _ hAllowed hExpunges hState =>
        hState.next hAllowed hExpunges) hFirst
  constructor
  · intro hMem hInside
    have hWoken : q.Woken :=
      hRuns.since (J := Woken)
        (fun _ _ hAllowed hExpunges hState =>
          Expunging.next hState hAllowed hExpunges)
        (fun _ _ _ _ => Or.inl rfl)
        (fun _ _ hAllowed hExpunges hState hWoken =>
          hState.woken_next hAllowed hExpunges hWoken)
        hFirst hMem
    unfold CallerRuns
    rcases hLast.caller with hIn | hIn | hOut
    · rw [hIn]
      exact hWoken.resolve_right (not_not.mpr hIn)
    · rw [hIn]
      trivial
    · exact absurd hOut hInside
  intro hOutside hAlive
  have hNone := hLast.memory hOutside
  have hAccess : q.access id = { q with fault := true } := by
    unfold access
    rw [hNone]
  refine ⟨?_, hNone, ?_, ?_⟩
  · exact Bool.eq_false_of_not_eq_true
      (fun hIn => hLast.unit0.mp hIn hOutside)
  · unfold ProcessRuns
    rcases hLast.process with hServing | hLeaving | hAbsent
    · rw [hServing.1]
      exact hServing.2
    · rw [hLeaving]
      trivial
    · exact absurd hAbsent hAlive
  · change q.processStep.fault = true
    unfold processStep
    rcases hLast.process with hServing | hLeaving | hAbsent
    · rw [hServing.1, hAccess]
    · have hProc : q.euProc = none := by
        unfold euProc
        rw [hNone]
        rfl
      rw [hLeaving, hAccess, hProc]
      rfl
    · exact absurd hAbsent hAlive

theorem freed_of_breakCaller_signalled :
    ((handshakeMachine.run [.breakCaller, .caller, .caller]
      (handshakeMachine.run (openAndClose.take 10)
        closedUnit)).next .process).fault = true :=
  ((freed_of_breakCaller (reach_closedUnit (by decide +kernel))
    (by decide +kernel) (by decide +kernel)).2
      (by decide +kernel) (by decide +kernel)).2.2.2

end Handshake

end KszDriver
