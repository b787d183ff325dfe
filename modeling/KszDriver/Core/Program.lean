import Mathlib.Logic.Function.Basic

/-
  Programs as trees of operations on a device, with two
  meanings: a run that nothing disturbs, and execution under
  interference.

  A program performs an operation, receives its answer and
  goes on.  `Program.run` executes all operations without
  interruption.  `Program.Safe` is the rely condition of
  rely/guarantee reasoning: before every operation, and
  after the last one, the environment may change the state
  along the relation `R`.  Every operation may moreover be
  assumed to meet `A`.

  Key definitions include:
    * `Program`
    * `Program.run`
    * `Program.Safe`
    * `Program.Stable`
    * `Program.Triple`

  Key theorems include:
    * `Program.run_bind`
    * `Program.Safe.stable`
    * `Program.Safe.bind`
    * `Program.Safe.take_step`
    * `Program.Triple.bind`
    * `Program.Triple.perform`
-/

------------------------------------------------------------
-- Programs
------------------------------------------------------------

/-
  A program over operations `Op`, whose answers have the
  types `Ret`, that finally returns a value of type `α`.
-/
inductive Program
    (Op : Type) (Ret : Op → Type) (α : Type) where
| done : α → Program Op Ret α
| step : (op : Op) →
    (Ret op → Program Op Ret α) → Program Op Ret α

namespace Program

variable {Op : Type} {Ret : Op → Type}
variable {α β γ : Type}

/- Sequential composition. -/
def andThen
    (p : Program Op Ret α)
    (f : α → Program Op Ret β) : Program Op Ret β :=
  match p with
  | .done value => f value
  | .step op next => .step op (fun r => (next r).andThen f)

instance : Monad (Program Op Ret) where
  pure := .done
  bind := andThen

/- The program that performs one operation. -/
def perform (op : Op) : Program Op Ret (Ret op) :=
  .step op .done

/- The program that is performed only if `c` holds. -/
def onlyIf
    (c : Prop) [Decidable c]
    (p : Program Op Ret Unit) : Program Op Ret Unit :=
  if c then p else pure ()

@[simp] theorem pure_bind
    (value : α)
    (f : α → Program Op Ret β) :
    ((pure value : Program Op Ret α) >>= f) = f value := rfl

@[simp] theorem step_bind
    (op : Op)
    (next : Ret op → Program Op Ret α)
    (f : α → Program Op Ret β) :
    ((Program.step op next) >>= f) =
      .step op (fun r => next r >>= f) := rfl

@[simp] theorem perform_bind
    (op : Op)
    (f : Ret op → Program Op Ret β) :
    (perform op >>= f) = .step op f := rfl

/- Composition is associative. -/
theorem bind_assoc
    (p : Program Op Ret α)
    (f : α → Program Op Ret β)
    (g : β → Program Op Ret γ) :
    ((p >>= f) >>= g) = (p >>= fun a => f a >>= g) := by
  induction p with
  | done value => rfl
  | step op next ih =>
      simp only [step_bind, ih]

------------------------------------------------------------
-- Uninterrupted Runs
------------------------------------------------------------

variable {σ : Type}

/- Execute all operations, one after the other. -/
def run
    (exec : (op : Op) → σ → Ret op × σ) :
    Program Op Ret α → σ → α × σ
| .done value, s => (value, s)
| .step op next, s =>
    run exec (next (exec op s).1) (exec op s).2

variable {exec : (op : Op) → σ → Ret op × σ}

@[simp] theorem run_step
    (op : Op)
    (next : Ret op → Program Op Ret α)
    (s : σ) :
    run exec (.step op next) s =
      run exec (next (exec op s).1) (exec op s).2 := rfl

@[simp] theorem run_perform
    (op : Op) (s : σ) :
    run exec (perform op) s = exec op s := rfl

/- A composition runs its parts one after the other. -/
theorem run_bind
    (p : Program Op Ret α)
    (f : α → Program Op Ret β)
    (s : σ) :
    run exec (p >>= f) s =
      run exec (f (run exec p s).1) (run exec p s).2 := by
  induction p generalizing s with
  | done value => rfl
  | step op next ih =>
      simp only [step_bind, run_step, ih]

------------------------------------------------------------
-- Execution under Interference
------------------------------------------------------------

/- Interference along `R` cannot make `P` false. -/
def Stable
    (R : σ → σ → Prop)
    (P : σ → Prop) : Prop :=
  ∀ s s', R s s' → P s → P s'

/-
  From `s`, however the environment interferes along `R`,
  the program ends with a value and a state that satisfy
  `Q`, provided that each operation it performs meets `A`.
-/
def Safe
    (exec : (op : Op) → σ → Ret op × σ)
    (R : σ → σ → Prop)
    (A : Op → σ → Prop)
    (Q : α → σ → Prop) :
    Program Op Ret α → σ → Prop
| .done value, s => ∀ s', R s s' → Q value s'
| .step op next, s =>
    ∀ s', R s s' → A op s' →
      Safe exec R A Q
        (next (exec op s').1) (exec op s').2

variable {R : σ → σ → Prop}
variable {A : Op → σ → Prop}

/- Interference does not end the safety of a program. -/
theorem Safe.stable
    (hTrans : ∀ s₁ s₂ s₃, R s₁ s₂ → R s₂ s₃ → R s₁ s₃)
    {Q : α → σ → Prop}
    {p : Program Op Ret α}
    {s s' : σ}
    (hSafe : Safe exec R A Q p s)
    (hStep : R s s') :
    Safe exec R A Q p s' := by
  cases p with
  | done value =>
      intro t hTail
      exact hSafe t (hTrans s s' t hStep hTail)
  | step op next =>
      intro t hTail hMeets
      exact hSafe t (hTrans s s' t hStep hTail) hMeets

/- A safe program may perform its next operation. -/
theorem Safe.take_step
    (hRefl : ∀ s, R s s)
    {Q : α → σ → Prop}
    {op : Op}
    {next : Ret op → Program Op Ret α}
    {s : σ}
    (hSafe : Safe exec R A Q (.step op next) s)
    (hMeets : A op s) :
    Safe exec R A Q (next (exec op s).1) (exec op s).2 :=
  hSafe s (hRefl s) hMeets

/- A safe program that has ended satisfies its goal. -/
theorem Safe.finish
    (hRefl : ∀ s, R s s)
    {Q : α → σ → Prop}
    {value : α}
    {s : σ}
    (hSafe : Safe exec R A Q (.done value) s) :
    Q value s :=
  hSafe s (hRefl s)

/- A safe program satisfies its goal when nothing interferes
   and every operation is allowed. -/
theorem Safe.run
    (hRefl : ∀ s, R s s)
    (hAllowed : ∀ op s, A op s)
    {Q : α → σ → Prop}
    {p : Program Op Ret α}
    {s : σ}
    (hSafe : Safe exec R A Q p s) :
    Q (p.run exec s).1 (p.run exec s).2 := by
  induction p generalizing s with
  | done value => exact hSafe.finish hRefl
  | step op next ih =>
      exact ih _ (hSafe.take_step hRefl (hAllowed op s))

/- The goal of a safe program may be weakened. -/
theorem Safe.mono
    {Q Q' : α → σ → Prop}
    (hGoal : ∀ value s, Q value s → Q' value s)
    {p : Program Op Ret α}
    {s : σ}
    (hSafe : Safe exec R A Q p s) :
    Safe exec R A Q' p s := by
  induction p generalizing s with
  | done value =>
      intro t hStep
      exact hGoal value t (hSafe t hStep)
  | step op next ih =>
      intro t hStep hMeets
      exact ih _ (hSafe t hStep hMeets)

/- A composition is safe when its second part is safe after
   the first. -/
theorem Safe.bind
    (hRefl : ∀ s, R s s)
    {Q : β → σ → Prop}
    {p : Program Op Ret α}
    {f : α → Program Op Ret β}
    {s : σ}
    (hSafe :
      Safe exec R A
        (fun value t => Safe exec R A Q (f value) t) p s) :
    Safe exec R A Q (p >>= f) s := by
  induction p generalizing s with
  | done value => exact hSafe s (hRefl s)
  | step op next ih =>
      intro t hStep hMeets
      exact ih _ (hSafe t hStep hMeets)

------------------------------------------------------------
-- Preconditions and Postconditions
------------------------------------------------------------

/- From every state with `P`, the program is safe for `Q`. -/
def Triple
    (exec : (op : Op) → σ → Ret op × σ)
    (R : σ → σ → Prop)
    (A : Op → σ → Prop)
    (P : σ → Prop)
    (p : Program Op Ret α)
    (Q : α → σ → Prop) : Prop :=
  ∀ s, P s → Safe exec R A Q p s

namespace Triple

variable {P P' : σ → Prop}

/- Returning a value for which a stable `Q` holds. -/
theorem pure
    {Q : α → σ → Prop}
    (value : α)
    (hStable : Stable R (Q value))
    (hImp : ∀ s, P s → Q value s) :
    Triple exec R A P (pure value) Q := by
  intro s hState t hStep
  exact hStable s t hStep (hImp s hState)

/- One operation, from a stable `P` to a stable `Q`. -/
theorem perform
    (op : Op)
    {Q : Ret op → σ → Prop}
    (hPre : Stable R P)
    (hPost : ∀ r, Stable R (Q r))
    (hOp :
      ∀ s, P s → A op s → Q (exec op s).1 (exec op s).2) :
    Triple exec R A P (perform op) Q := by
  intro s hState t hStep hMeets u hTail
  exact hPost _ _ u hTail
    (hOp t (hPre s t hStep hState) hMeets)

/- The parts of a composition meet in the middle. -/
theorem bind
    {Q : α → σ → Prop}
    {Q' : β → σ → Prop}
    {p : Program Op Ret α}
    {f : α → Program Op Ret β}
    (hRefl : ∀ s, R s s)
    (hFirst : Triple exec R A P p Q)
    (hRest : ∀ a, Triple exec R A (Q a) (f a) Q') :
    Triple exec R A P (p >>= f) Q' := by
  intro s hState
  exact Safe.bind hRefl
    ((hFirst s hState).mono (fun a t hMid => hRest a t hMid))

/- The rule of consequence. -/
theorem conseq
    {Q Q' : α → σ → Prop}
    {p : Program Op Ret α}
    (hTriple : Triple exec R A P p Q)
    (hPre : ∀ s, P' s → P s)
    (hPost : ∀ a s, Q a s → Q' a s) :
    Triple exec R A P' p Q' := by
  intro s hState
  exact (hTriple s (hPre s hState)).mono hPost

/- A precondition about the values alone. -/
theorem assuming
    {c : Prop}
    {Q : α → σ → Prop}
    {p : Program Op Ret α}
    (hTriple : c → Triple exec R A P p Q) :
    Triple exec R A (fun s => c ∧ P s) p Q :=
  fun s hState => hTriple hState.1 s hState.2

/- Both branches of a conditional. -/
theorem ite
    {c : Prop} [Decidable c]
    {Q : α → σ → Prop}
    {p q : Program Op Ret α}
    (hThen : c → Triple exec R A P p Q)
    (hElse : ¬ c → Triple exec R A P q Q) :
    Triple exec R A P (if c then p else q) Q := by
  by_cases hCond : c
  · rw [if_pos hCond]
    exact hThen hCond
  · rw [if_neg hCond]
    exact hElse hCond

/- What a conditional program preserves. -/
theorem onlyIf
    {c : Prop} [Decidable c]
    {p : Program Op Ret Unit}
    (hStable : Stable R P)
    (hProgram : c → Triple exec R A P p (fun _ => P)) :
    Triple exec R A P (onlyIf c p) (fun _ => P) :=
  ite hProgram
    (fun _ => pure () hStable (fun _ hState => hState))

end Triple

end Program
