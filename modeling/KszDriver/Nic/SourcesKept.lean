import KszDriver.Nic.EventHandler

/-
  No interrupt source is lost as long as every step of the
  event handler meets `KeepsSources`; without that guard a
  link change can leave a source masked for ever.

  Main declarations:
    * `TaskSound`, `System.Sound`
    * `System.Sound.next`
    * `quiet_ier_of_keepsSources`
    * `quiet_ier_ne_of_linkAndReceive`
-/

------------------------------------------------------------
-- The Invariant
------------------------------------------------------------

namespace KszDriver

/- The unit task will leave the sources settled. -/
def TaskSound : Task → Host → Prop
| .waiting, h => h.view.Settled 0
| .goingOnline p, h =>
    Program.Safe (Host.exec true) Rely (fun _ _ => True)
      (fun _ h => h.view.Settled 0) p h
| .handling p, h =>
    Program.Safe (Host.exec true) Rely KeepsSources
      (fun _ h => h.view.Settled 0) p h

namespace System

/-
  While the server runs, the task is sound for the state it
  was interrupted in, and the server is safe to turn that
  state into one the task may rely on.
-/
def Sound (s : System) : Prop :=
  match s.irq with
  | none => TaskSound s.task s.host
  | some q =>
      ∃ h₀ : Host, h₀.view.nest = 0 ∧ TaskSound s.task h₀ ∧
        Program.Safe (Host.exec false) Drift
          (fun _ _ => True)
          (fun _ h => h₀.view.Rely h.view) q s.host

/- Without a running server, the task alone counts. -/
theorem sound_iff_task
    {s : System}
    (hIrq : s.irq = none) :
    s.Sound ↔ TaskSound s.task s.host := by
  unfold Sound
  rw [hIrq]

theorem sound_of_task
    {h : Host}
    {task : Task}
    {irq : Option (NicM UBYTE)}
    (hIrq : irq = none)
    (hTask : TaskSound task h) :
    System.Sound
      { host := h, task := task, irq := irq } :=
  (sound_iff_task hIrq).mpr hTask

end System

/- What the task may rely on keeps it sound. -/
theorem TaskSound.stable
    {task : Task}
    {h h' : Host}
    (hSound : TaskSound task h)
    (hRely : Rely h h') :
    TaskSound task h' := by
  cases task with
  | waiting =>
      exact View.steady_settled 0 h h' hRely hSound
  | goingOnline p =>
      exact Program.Safe.stable Rely.trans hSound hRely
  | handling p =>
      exact Program.Safe.stable Rely.trans hSound hRely

/- A whole run of the server is one the task relies on. -/
theorem rely_of_view
    {h h' : Host}
    (hNest : h.view.nest = 0)
    (hView : h.view.Rely h'.view) :
    Rely h h' where
  view := hView
  latch := by
    intro hPos
    rw [hNest] at hPos
    exact absurd hPos (Nat.lt_irrefl 0)

namespace System.Sound

theorem start
    {s : System}
    (hStart : s.Start) :
    s.Sound := by
  rcases hStart with ⟨hTask, hIrq, hNest, hIer⟩
  rw [sound_iff_task hIrq, hTask]
  exact holds_online (A := fun _ _ => True) s.host
    ⟨hNest, hIer⟩

theorem hardware
    {s : System}
    {bits : UWORD}
    (hSources : bits &&& ~~~onlineIerMask = 0#16)
    (values : UBYTE → UWORD)
    (hSound : s.Sound) :
    (s.next (.hardware bits values)).Sound := by
  have hDrift := drift_disturb hSources values s.host
  unfold Sound System.next at *
  cases hIrq : s.irq with
  | none =>
      rw [hIrq] at hSound
      exact hSound.stable hDrift.rely
  | some q =>
      rw [hIrq] at hSound
      rcases hSound with ⟨h₀, hNest, hTask, hServer⟩
      exact ⟨h₀, hNest, hTask,
        hServer.stable Drift.trans hDrift⟩

theorem interrupt
    {s : System}
    (hSound : s.Sound) :
    (s.next .interrupt).Sound := by
  by_cases hEnter : s.Interruptible
  · have hIrq : s.irq = none :=
      Option.isNone_iff_eq_none.mp hEnter.1
    have hNest : s.host.view.nest = 0 := hEnter.2.1
    rw [sound_iff_task hIrq] at hSound
    unfold Sound System.next
    simp only [if_pos hEnter]
    exact ⟨s.host, hNest, hSound,
      holds_isr hNest s.host (View.Drift.refl s.host.view)⟩
  · simpa only [System.next, if_neg hEnter] using hSound

theorem serve
    {s : System}
    (hSound : s.Sound) :
    (s.next .serve).Sound := by
  unfold System.next System.serve
  cases hIrq : s.irq with
  | none => simpa only [hIrq] using hSound
  | some q =>
      unfold Sound at hSound
      rw [hIrq] at hSound
      rcases hSound with ⟨h₀, hNest, hTask, hServer⟩
      cases q with
      | done value =>
          have hView := hServer.finish Drift.refl
          exact hTask.stable (rely_of_view hNest hView)
      | step op next =>
          exact ⟨h₀, hNest, hTask,
            hServer.take_step Drift.refl trivial⟩

theorem wake
    {s : System}
    (hSound : s.Sound) :
    (s.next .wake).Sound := by
  unfold System.next System.wake
  by_cases hIrq : s.irq.isNone = true
  · have hNone := Option.isNone_iff_eq_none.mp hIrq
    simp only [if_pos hIrq]
    cases hTask : s.task with
    | goingOnline p => simpa only [hTask] using hSound
    | handling p => simpa only [hTask] using hSound
    | waiting =>
        by_cases hSignal : s.host.nic.signaled = true
        · rw [sound_iff_task hNone, hTask] at hSound
          simp only [if_pos hSignal]
          apply sound_of_task hNone
          exact holds_eventHandler _
            { nest := hSound.nest
              onlyIer := hSound.onlyIer
              onlyIsr := hSound.onlyIsr
              acked := rfl
              pending := fun src =>
                (hSound.covered src).imp id And.right }
        · simpa only [if_neg hSignal] using hSound
  · simpa only [if_neg hIrq] using hSound

theorem work
    {s : System}
    (hKeeps : StepKeepsSources s .work)
    (hSound : s.Sound) :
    (s.next .work).Sound := by
  unfold System.next System.work
  by_cases hIrq : s.irq.isNone = true
  · have hNone := Option.isNone_iff_eq_none.mp hIrq
    unfold StepKeepsSources at hKeeps
    rw [hNone] at hKeeps
    simp only [if_pos hIrq]
    cases hTask : s.task with
    | waiting => exact hSound
    | goingOnline p =>
        rw [sound_iff_task hNone, hTask] at hSound
        cases p with
        | done value =>
            exact sound_of_task hNone
              (hSound s.host (Rely.refl s.host))
        | step op next =>
            exact sound_of_task hNone
              (Program.Safe.take_step Rely.refl hSound
                trivial)
    | handling p =>
        rw [sound_iff_task hNone, hTask] at hSound
        rw [hTask] at hKeeps
        cases p with
        | done value =>
            exact sound_of_task hNone
              (hSound s.host (Rely.refl s.host))
        | step op next =>
            exact sound_of_task hNone
              (Program.Safe.take_step Rely.refl hSound
                hKeeps)
  · simpa only [if_neg hIrq] using hSound

/- Every step that loses no source keeps the invariant. -/
theorem next
    {s : System}
    (a : Action)
    (hAllowed : a.SetsSources)
    (hKeeps : StepKeepsSources s a)
    (hSound : s.Sound) :
    (s.next a).Sound := by
  cases a with
  | hardware bits values =>
      exact hSound.hardware hAllowed values
  | interrupt => exact hSound.interrupt
  | serve => exact hSound.serve
  | wake => exact hSound.wake
  | work => exact hSound.work hKeeps

/- A quiet system has exactly the sources enabled. -/
theorem quiet_ier
    {s : System}
    (hSound : s.Sound)
    (hQuiet : s.Quiet) :
    s.host.reg regIer = onlineIerMask := by
  rcases hQuiet with ⟨hWaits, hIrq, hSignal⟩
  rw [sound_iff_task (Option.isNone_iff_eq_none.mp hIrq)]
    at hSound
  cases hTask : s.task with
  | goingOnline p => simp [hTask, Task.waits] at hWaits
  | handling p => simp [hTask, Task.waits] at hWaits
  | waiting =>
      rw [hTask] at hSound
      apply eq_onlineIerMask hSound.onlyIer
      intro src
      rcases hSound.covered src with hSet | hCovered
      · exact hSet
      · have hSignaled : s.host.nic.signaled = true :=
          hCovered.1
        rw [hSignal] at hSignaled
        exact absurd hSignaled Bool.false_ne_true

end System.Sound

------------------------------------------------------------
-- Runs
------------------------------------------------------------

/-
  In every run whose steps lose no source, the sources are
  all enabled whenever the system is quiet.
-/
theorem quiet_ier_of_keepsSources
    {s : System}
    (hReach : interruptMachine.Reach StepKeepsSources s)
    (hQuiet : s.Quiet) :
    s.host.reg regIer = onlineIerMask := by
  have hSound : s.Sound :=
    hReach.invariant (fun _ => System.Sound.start)
      (fun _ a hAllowed hKeeps hState =>
        hState.next a hAllowed hKeeps)
  exact hSound.quiet_ier hQuiet

/- The system just before `ksz8851Online`. -/
def offlineSystem : System where
  host := { nic := offlineNic, acked := 0#16 }
  task := .goingOnline ksz8851Online
  irq := none

/-
  Go online, let the hardware set `bits` while `P1SR` reads
  as `p1sr`, and handle the interrupt to its end.
-/
def oneInterrupt (bits p1sr : UWORD) : List Action :=
  List.replicate 32 .work ++
    [.hardware bits (fun _ => p1sr), .interrupt] ++
    List.replicate 16 .serve ++ [.wake] ++
    List.replicate 26 .work

/- A frame that arrives without a link change is serviced. -/
theorem quiet_ier_receive :
    (interruptMachine.run (oneInterrupt 0x2000#16 0x20#16)
      offlineSystem).host.reg regIer = onlineIerMask := by
  have hRuns :
      interruptMachine.Runs StepKeepsSources
        (oneInterrupt 0x2000#16 0x20#16) offlineSystem := by
    decide +kernel
  exact quiet_ier_of_keepsSources
    (Machine.reach_run _
      (Machine.Reach.start ⟨rfl, rfl, rfl, rfl⟩) hRuns)
    (by decide +kernel)

/-
  The value of `P1SR` replaces the status: a frame that
  arrives together with a link change stays masked, with
  nobody left to enable it.
-/
theorem quiet_ier_ne_of_linkAndReceive :
    ∃ s : System,
      interruptMachine.Reach Machine.Free s ∧ s.Quiet ∧
        s.host.reg regIer ≠ onlineIerMask := by
  refine ⟨interruptMachine.run
    (oneInterrupt 0xA000#16 0x20#16) offlineSystem,
    ?_, ?_, ?_⟩
  · exact Machine.reach_run _
      (Machine.Reach.start ⟨rfl, rfl, rfl, rfl⟩)
      (by decide +kernel)
  · decide +kernel
  · decide +kernel

end KszDriver
