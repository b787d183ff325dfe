import KszDriver.Core.Discipline

/-
  A record beside the state of a program, in which every
  operation is noted, and programs that perform operations of
  one kind only.

  Key definitions include:
    * `Program.recorded`
    * `Program.performed`
    * `Program.Only`

  Key theorems include:
    * `Program.run_recorded`
    * `Program.performed_bind`
    * `Program.Only.bind`, `Program.Only.walks`
    * `Program.Walks.performed`
-/

------------------------------------------------------------
-- Records
------------------------------------------------------------

namespace Program

variable {Op : Type} {Ret : Op → Type}
variable {α β σ ρ ω : Type}

/- An operation, noted in the state that it is performed in. -/
def recorded
    (exec : (op : Op) → σ → Ret op × σ)
    (note : Op → σ → ρ → ρ)
    (op : Op)
    (p : σ × ρ) : Ret op × (σ × ρ) :=
  ((exec op p.1).1, ((exec op p.1).2, note op p.1 p.2))

variable {exec : (op : Op) → σ → Ret op × σ}
variable {note : Op → σ → ρ → ρ}

/- The record does not interfere. -/
theorem run_recorded
    (p : Program Op Ret α)
    (s : σ)
    (r : ρ) :
    (run (recorded exec note) p (s, r)).1 = (run exec p s).1 ∧
      (run (recorded exec note) p (s, r)).2.1 =
        (run exec p s).2 := by
  induction p generalizing s r with
  | done value => exact ⟨rfl, rfl⟩
  | step op next ih => exact ih _ _ _

/- The operations that a run performs, in order. -/
def performed
    (exec : (op : Op) → σ → Ret op × σ) :
    Program Op Ret α → σ → List Op
| .done _, _ => []
| .step op next, s =>
    op :: performed exec (next (exec op s).1) (exec op s).2

theorem performed_bind
    (p : Program Op Ret α)
    (f : α → Program Op Ret β)
    (s : σ) :
    performed exec (p >>= f) s =
      performed exec p s ++
        performed exec (f (run exec p s).1) (run exec p s).2
        := by
  induction p generalizing s with
  | done value => rfl
  | step op next ih => exact congrArg (op :: ·) (ih _ _)

/- What an execution guarantees of its operations holds of
   those that are performed. -/
theorem Walks.performed
    {A : Op → Prop}
    {Q : α → σ → Prop}
    {p : Program Op Ret α}
    {s : σ}
    (hWalks : Walks exec id (fun op _ => A op) Q p s) :
    ∀ op ∈ Program.performed exec p s, A op := by
  induction p generalizing s with
  | done value =>
      intro op hPerformed
      cases hPerformed
  | step first next ih =>
      intro op hPerformed
      rcases List.mem_cons.mp hPerformed with rfl | hLater
      · exact hWalks.1
      · exact ih _ (hWalks.2 s rfl) op hLater

------------------------------------------------------------
-- Programs of One Kind
------------------------------------------------------------

/- Whatever the answers, all operations meet `A`. -/
def Only (A : Op → Prop) : Program Op Ret α → Prop
| .done _ => True
| .step op next => A op ∧ ∀ r, Only A (next r)

variable {A : Op → Prop}

namespace Only

theorem pure (value : α) :
    Only A (Pure.pure value : Program Op Ret α) :=
  trivial

theorem perform {op : Op} (hMeets : A op) :
    Only A (Program.perform op : Program Op Ret (Ret op)) :=
  ⟨hMeets, fun _ => trivial⟩

theorem bind
    {p : Program Op Ret α}
    {f : α → Program Op Ret β}
    (hFirst : Only A p)
    (hRest : ∀ a, Only A (f a)) :
    Only A (p >>= f) := by
  induction p with
  | done value => exact hRest value
  | step op next ih =>
      exact ⟨hFirst.1, fun r => ih r (hFirst.2 r)⟩

theorem ite
    {c : Prop} [Decidable c]
    {p q : Program Op Ret α}
    (hThen : Only A p)
    (hElse : Only A q) :
    Only A (if c then p else q) := by
  by_cases hCond : c
  · rw [if_pos hCond]
    exact hThen
  · rw [if_neg hCond]
    exact hElse

/- What no operation of the kind changes stays as it is. -/
theorem walks
    {obs : σ → ω}
    {H : Op → ω → Prop}
    (hMeets : ∀ op w, A op → H op w)
    (hKeeps : ∀ op s, A op → obs (exec op s).2 = obs s)
    {p : Program Op Ret α}
    {w : ω}
    (hOnly : Only A p) :
    Walks exec obs H (fun _ w' => w' = w) p w := by
  induction p with
  | done value => exact rfl
  | step op next ih =>
      refine ⟨hMeets op w hOnly.1, ?_⟩
      intro s hSeen
      rw [hKeeps op s hOnly.1, hSeen]
      exact ih _ (hOnly.2 _)

end Only

end Program
