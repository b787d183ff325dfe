import KszDriver.Core.Machine

/-
  A machine that implements another one: what it does in one
  step, the other does in any number of steps, along a view
  of its state.

  Key definitions include:
    * `Machine.Implements`
    * `Machine.actsAlong`

  Key theorems include:
    * `Machine.Implements.reach`
    * `Machine.Implements.run`
-/

------------------------------------------------------------
-- Implementation
------------------------------------------------------------

namespace Machine

variable {σ τ ι κ : Type}

/-
  Along the invariant `I`, every step of `M` that the guard
  `C` lets through is a run `acts` of `N` that `C'` lets
  through, as `view` shows it.
-/
structure Implements
    (M : Machine σ ι)
    (C : σ → ι → Prop)
    (N : Machine τ κ)
    (C' : τ → κ → Prop)
    (I : σ → Prop)
    (view : σ → τ)
    (acts : σ → ι → List κ) : Prop where
  kept : ∀ s i, I s → M.Allowed s i → C s i → I (M.next s i)
  runs : ∀ s i, I s → M.Allowed s i → C s i →
    N.Runs C' (acts s i) (view s)
  next : ∀ s i, I s → M.Allowed s i → C s i →
    N.run (acts s i) (view s) = view (M.next s i)

/- What `N` does while `M` takes a list of inputs. -/
def actsAlong
    (M : Machine σ ι)
    (acts : σ → ι → List κ) : List ι → σ → List κ
| [], _ => []
| i :: inputs, s =>
    acts s i ++ actsAlong M acts inputs (M.next s i)

variable {M : Machine σ ι} {N : Machine τ κ}
variable {C : σ → ι → Prop} {C' : τ → κ → Prop}
variable {I : σ → Prop} {view : σ → τ}
variable {acts : σ → ι → List κ}

/- What the implementation reaches looks like something that
   can be reached. -/
theorem Implements.reach
    (hImplements : M.Implements C N C' I view acts)
    (hStart : ∀ s, M.Start s → I s ∧ N.Reach C' (view s))
    {s : σ}
    (hReach : M.Reach C s) :
    I s ∧ N.Reach C' (view s) := by
  induction hReach with
  | start h => exact hStart _ h
  | @step s i _ hAllowed hGuard ih =>
      refine ⟨hImplements.kept s i ih.1 hAllowed hGuard, ?_⟩
      rw [← hImplements.next s i ih.1 hAllowed hGuard]
      exact reach_run _ ih.2
        (hImplements.runs s i ih.1 hAllowed hGuard)

/- A run of the implementation is a run of what it
   implements. -/
theorem Implements.run
    (hImplements : M.Implements C N C' I view acts)
    {inputs : List ι}
    {s : σ}
    (hState : I s)
    (hRuns : M.Runs C inputs s) :
    I (M.run inputs s) ∧
      N.Runs C' (M.actsAlong acts inputs s) (view s) ∧
      N.run (M.actsAlong acts inputs s) (view s) =
        view (M.run inputs s) := by
  induction inputs generalizing s with
  | nil => exact ⟨hState, trivial, rfl⟩
  | cons i inputs ih =>
      rcases hRuns with ⟨⟨hAllowed, hGuard⟩, hRest⟩
      have hHere := hImplements.runs s i hState hAllowed hGuard
      have hNext := hImplements.next s i hState hAllowed hGuard
      have hThere :=
        ih (hImplements.kept s i hState hAllowed hGuard) hRest
      refine ⟨hThere.1, ?_, ?_⟩
      · apply runs_append.mpr
        rw [hNext]
        exact ⟨hHere, hThere.2.1⟩
      · exact (run_append N _ _ _).trans
          ((congrArg _ hNext).trans hThere.2.2)

end Machine
