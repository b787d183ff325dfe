import KszDriver.Core.Program

/-
  Programs that keep to a discipline: every operation they
  perform meets a guarantee, whatever the environment does in
  between.

  A discipline is often a matter of a small part of the state
  that the environment leaves alone.  `Program.Walks` follows
  a program through that part, with all answers that the
  operations may give.

  Key definitions include:
    * `Program.Guarded`
    * `Program.Walks`

  Key theorems include:
    * `Program.Walks.bind`
    * `Program.Walks.guarded`, `Program.Walks.run`
-/

------------------------------------------------------------
-- Guarantees under Interference
------------------------------------------------------------

namespace Program

variable {Op : Type} {Ret : Op → Type}
variable {α β σ ω : Type}

/-
  From `s`, however the environment interferes along `R`,
  every operation meets `G` when it is performed, and the
  program ends with a value and a state that satisfy `Q`.
-/
def Guarded
    (exec : (op : Op) → σ → Ret op × σ)
    (R : σ → σ → Prop)
    (G : Op → σ → Prop)
    (Q : α → σ → Prop) :
    Program Op Ret α → σ → Prop
| .done value, s => ∀ s', R s s' → Q value s'
| .step op next, s =>
    ∀ s', R s s' →
      G op s' ∧
        Guarded exec R G Q
          (next (exec op s').1) (exec op s').2

variable {exec : (op : Op) → σ → Ret op × σ}
variable {R : σ → σ → Prop} {G : Op → σ → Prop}

/- The goal of a guarded program may be weakened. -/
theorem Guarded.mono
    {Q Q' : α → σ → Prop}
    (hGoal : ∀ value s, Q value s → Q' value s)
    {p : Program Op Ret α}
    {s : σ}
    (hGuarded : Guarded exec R G Q p s) :
    Guarded exec R G Q' p s := by
  induction p generalizing s with
  | done value =>
      intro t hStep
      exact hGoal value t (hGuarded t hStep)
  | step op next ih =>
      intro t hStep
      exact ⟨(hGuarded t hStep).1, ih _ (hGuarded t hStep).2⟩

------------------------------------------------------------
-- Abstract Executions
------------------------------------------------------------

/-
  From every state that `obs` sees as `w`, whatever else is
  in it before each operation, every operation meets `H`, and
  the program ends in `Q`.
-/
def Walks
    (exec : (op : Op) → σ → Ret op × σ)
    (obs : σ → ω)
    (H : Op → ω → Prop)
    (Q : α → ω → Prop) :
    Program Op Ret α → ω → Prop
| .done value, w => Q value w
| .step op next, w =>
    H op w ∧
      ∀ s, obs s = w →
        Walks exec obs H Q
          (next (exec op s).1) (obs (exec op s).2)

variable {obs : σ → ω} {H : Op → ω → Prop}

namespace Walks

theorem pure
    {Q : α → ω → Prop}
    {value : α}
    {w : ω}
    (hGoal : Q value w) :
    Walks exec obs H Q (Pure.pure value) w :=
  hGoal

theorem perform
    {op : Op}
    {Q : Ret op → ω → Prop}
    {w : ω}
    (hMeets : H op w)
    (hGoal : ∀ s, obs s = w →
      Q (exec op s).1 (obs (exec op s).2)) :
    Walks exec obs H Q (Program.perform op) w :=
  ⟨hMeets, hGoal⟩

theorem mono
    {Q Q' : α → ω → Prop}
    {p : Program Op Ret α}
    {w : ω}
    (hWalks : Walks exec obs H Q p w)
    (hGoal : ∀ value w', Q value w' → Q' value w') :
    Walks exec obs H Q' p w := by
  induction p generalizing w with
  | done value => exact hGoal value w hWalks
  | step op next ih =>
      exact ⟨hWalks.1, fun s hSeen =>
        ih _ (hWalks.2 s hSeen)⟩

theorem bind
    {Q : α → ω → Prop}
    {Q' : β → ω → Prop}
    {p : Program Op Ret α}
    {f : α → Program Op Ret β}
    {w : ω}
    (hFirst : Walks exec obs H Q p w)
    (hRest : ∀ a w', Q a w' →
      Walks exec obs H Q' (f a) w') :
    Walks exec obs H Q' (p >>= f) w := by
  induction p generalizing w with
  | done value => exact hRest value w hFirst
  | step op next ih =>
      exact ⟨hFirst.1, fun s hSeen =>
        ih _ (hFirst.2 s hSeen)⟩

theorem ite
    {c : Prop} [Decidable c]
    {Q : α → ω → Prop}
    {p q : Program Op Ret α}
    {w : ω}
    (hThen : c → Walks exec obs H Q p w)
    (hElse : ¬ c → Walks exec obs H Q q w) :
    Walks exec obs H Q (if c then p else q) w := by
  by_cases hCond : c
  · rw [if_pos hCond]
    exact hThen hCond
  · rw [if_neg hCond]
    exact hElse hCond

/- An abstract execution stands for all concrete ones, if the
   environment leaves alone what it sees. -/
theorem guarded
    (hKept : ∀ s s', R s s' → obs s' = obs s)
    {Q : α → ω → Prop}
    {p : Program Op Ret α}
    {s : σ}
    (hWalks : Walks exec obs H Q p (obs s)) :
    Guarded exec R (fun op t => H op (obs t))
      (fun value t => Q value (obs t)) p s := by
  induction p generalizing s with
  | done value =>
      intro t hStep
      rw [hKept s t hStep]
      exact hWalks
  | step op next ih =>
      intro t hStep
      have hSame := hKept s t hStep
      rw [← hSame] at hWalks
      exact ⟨hWalks.1, ih _ (hWalks.2 t rfl)⟩

/- It stands for the run that nothing disturbs, too. -/
theorem run
    {Q : α → ω → Prop}
    {p : Program Op Ret α}
    {s : σ}
    (hWalks : Walks exec obs H Q p (obs s)) :
    Q (p.run exec s).1 (obs (p.run exec s).2) := by
  induction p generalizing s with
  | done value => exact hWalks
  | step op next ih => exact ih _ (hWalks.2 s rfl)

end Walks

end Program
