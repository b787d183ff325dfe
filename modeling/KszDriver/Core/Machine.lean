import Mathlib.Logic.Function.Basic

/-
  Machines that take one input at a time, and what holds
  along their guarded runs.

  A machine says in which states it may start, which inputs
  its environment may offer in a state, and which state an
  input leads to.  A guard `C` restricts a run further: a
  run is guarded by `C` when every one of its steps meets
  `C`.

  Key definitions include:
    * `Machine`
    * `Machine.Reach`
    * `Machine.Runs`
    * `Machine.run`
    * `Machine.recording`

  Key theorems include:
    * `Machine.Reach.invariant`
    * `Machine.Reach.mono`
    * `Machine.runs_append`
    * `Machine.Runs.invariant`
    * `Machine.Runs.since`
    * `Machine.runs_congr`
    * `Machine.reach_run`
-/

------------------------------------------------------------
-- Machines
------------------------------------------------------------

/-
  A deterministic machine with states `σ` and inputs `ι`.
  Everything the environment decides is part of an input.
-/
structure Machine (σ ι : Type) where
  Start : σ → Prop
  Allowed : σ → ι → Prop
  next : σ → ι → σ

namespace Machine

variable {σ ι : Type}

/- The runs in which every step is allowed and meets `C`. -/
inductive Reach
    (M : Machine σ ι)
    (C : σ → ι → Prop) : σ → Prop where
| start {s : σ} (hStart : M.Start s) : Reach M C s
| step {s : σ} {i : ι}
    (hReach : Reach M C s)
    (hAllowed : M.Allowed s i)
    (hGuard : C s i) : Reach M C (M.next s i)

/- No guard at all. -/
def Free (_ : σ) (_ : ι) : Prop :=
  True

/-
  A property that every start state has, and that every
  allowed and guarded step preserves, holds of every state
  a guarded run reaches.
-/
theorem Reach.invariant
    {M : Machine σ ι}
    {C : σ → ι → Prop}
    {I : σ → Prop}
    (hStart : ∀ s, M.Start s → I s)
    (hStep :
      ∀ s i, M.Allowed s i → C s i → I s → I (M.next s i))
    {s : σ}
    (hReach : M.Reach C s) :
    I s := by
  induction hReach with
  | start h => exact hStart _ h
  | step _ hAllowed hGuard ih =>
      exact hStep _ _ hAllowed hGuard ih

/- A weaker guard lets through at least the same runs. -/
theorem Reach.mono
    {M : Machine σ ι}
    {C C' : σ → ι → Prop}
    (hGuards : ∀ s i, C s i → C' s i)
    {s : σ}
    (hReach : M.Reach C s) :
    M.Reach C' s := by
  induction hReach with
  | start h => exact Reach.start h
  | step _ hAllowed hGuard ih =>
      exact Reach.step ih hAllowed (hGuards _ _ hGuard)

/- Every guarded run is a run. -/
theorem Reach.free
    {M : Machine σ ι}
    {C : σ → ι → Prop}
    {s : σ}
    (hReach : M.Reach C s) :
    M.Reach Free s :=
  hReach.mono (fun _ _ _ => trivial)

------------------------------------------------------------
-- Executing a List of Inputs
------------------------------------------------------------

/- The state after a list of inputs. -/
def run (M : Machine σ ι) : List ι → σ → σ
| [], s => s
| i :: inputs, s => run M inputs (M.next s i)

/- Every input of the list is allowed and meets `C`. -/
def Runs
    (M : Machine σ ι)
    (C : σ → ι → Prop) : List ι → σ → Prop
| [], _ => True
| i :: inputs, s =>
    (M.Allowed s i ∧ C s i) ∧ Runs M C inputs (M.next s i)

/- One list after the other. -/
theorem run_append
    (M : Machine σ ι)
    (inputs later : List ι)
    (s : σ) :
    M.run (inputs ++ later) s =
      M.run later (M.run inputs s) := by
  induction inputs generalizing s with
  | nil => rfl
  | cons i inputs ih => exact ih (M.next s i)

theorem runs_append
    {M : Machine σ ι}
    {C : σ → ι → Prop}
    {inputs later : List ι}
    {s : σ} :
    M.Runs C (inputs ++ later) s ↔
      M.Runs C inputs s ∧
        M.Runs C later (M.run inputs s) := by
  induction inputs generalizing s with
  | nil => exact (and_iff_right trivial).symm
  | cons i inputs ih =>
      unfold run
      rw [List.cons_append, Runs, Runs, ih]
      exact and_assoc.symm

/-
  What every allowed and guarded step preserves, a guarded
  list of inputs preserves, whatever state it starts from.
-/
theorem Runs.invariant
    {M : Machine σ ι}
    {C : σ → ι → Prop}
    {I : σ → Prop}
    (hStep :
      ∀ s i, M.Allowed s i → C s i → I s → I (M.next s i))
    {inputs : List ι}
    {s : σ}
    (hRuns : M.Runs C inputs s)
    (hState : I s) :
    I (M.run inputs s) := by
  induction inputs generalizing s with
  | nil => exact hState
  | cons i inputs ih =>
      exact ih hRuns.2
        (hStep s i hRuns.1.1 hRuns.1.2 hState)

/-
  An input that brings a property about, which every other
  step preserves along an invariant `I`: once the input has
  come, the property holds.
-/
theorem Runs.since
    {M : Machine σ ι}
    {C : σ → ι → Prop}
    {I J : σ → Prop}
    {i : ι}
    (hStep :
      ∀ s j, M.Allowed s j → C s j → I s → I (M.next s j))
    (hBegins :
      ∀ s, M.Allowed s i → C s i → I s → J (M.next s i))
    (hStays :
      ∀ s j, M.Allowed s j → C s j → I s → J s →
        J (M.next s j))
    {inputs : List ι}
    {s : σ}
    (hRuns : M.Runs C inputs s)
    (hState : I s)
    (hMem : i ∈ inputs) :
    J (M.run inputs s) := by
  induction inputs generalizing s with
  | nil => exact absurd hMem List.not_mem_nil
  | cons j inputs ih =>
      rcases hRuns with ⟨⟨hAllowed, hGuard⟩, hRest⟩
      have hNext := hStep s j hAllowed hGuard hState
      rcases List.mem_cons.mp hMem with rfl | hLater
      · have hBoth := Runs.invariant (I := fun s => I s ∧ J s)
          (fun s j hAllowed hGuard hBoth =>
            ⟨hStep s j hAllowed hGuard hBoth.1,
              hStays s j hAllowed hGuard hBoth.1 hBoth.2⟩)
          hRest ⟨hNext, hBegins s hAllowed hGuard hState⟩
        exact hBoth.2
      · exact ih hRest hNext hLater

/- Guarded lists of inputs can be checked by evaluation. -/
def decidableRuns
    (M : Machine σ ι)
    (C : σ → ι → Prop)
    (hAllowed : ∀ s i, Decidable (M.Allowed s i))
    (hGuard : ∀ s i, Decidable (C s i)) :
    (inputs : List ι) → (s : σ) →
      Decidable (M.Runs C inputs s)
| [], _ => isTrue trivial
| i :: inputs, s =>
    let head : Decidable (M.Allowed s i ∧ C s i) :=
      @instDecidableAnd _ _ (hAllowed s i) (hGuard s i)
    let tail :=
      decidableRuns M C hAllowed hGuard inputs (M.next s i)
    @instDecidableAnd _ _ head tail

/- Where everything is allowed, every list is a run. -/
theorem runs_free
    {M : Machine σ ι}
    (hAllowed : ∀ s i, M.Allowed s i)
    (inputs : List ι)
    (s : σ) :
    M.Runs Free inputs s := by
  induction inputs generalizing s with
  | nil => trivial
  | cons i inputs ih => exact ⟨⟨hAllowed s i, trivial⟩, ih _⟩

/- Two guards let through the same lists, if they agree along
   an invariant that one of them keeps. -/
theorem runs_congr
    {M : Machine σ ι}
    {C C' : σ → ι → Prop}
    {I : σ → Prop}
    (hAgree :
      ∀ s i, I s → M.Allowed s i → (C s i ↔ C' s i))
    (hStep :
      ∀ s i, I s → M.Allowed s i → C' s i → I (M.next s i))
    (inputs : List ι)
    {s : σ}
    (hState : I s) :
    M.Runs C inputs s ↔ M.Runs C' inputs s := by
  induction inputs generalizing s with
  | nil => exact Iff.rfl
  | cons i inputs ih =>
      constructor
      · rintro ⟨⟨hAllowed, hGuard⟩, hRest⟩
        have hGuard' := (hAgree s i hState hAllowed).mp hGuard
        exact ⟨⟨hAllowed, hGuard'⟩,
          (ih (hStep s i hState hAllowed hGuard')).mp hRest⟩
      · rintro ⟨⟨hAllowed, hGuard'⟩, hRest⟩
        have hGuard := (hAgree s i hState hAllowed).mpr hGuard'
        exact ⟨⟨hAllowed, hGuard⟩,
          (ih (hStep s i hState hAllowed hGuard')).mpr hRest⟩

/- What a list of inputs leads to is reachable. -/
theorem reach_run
    {M : Machine σ ι}
    {C : σ → ι → Prop}
    (inputs : List ι)
    {s : σ}
    (hReach : M.Reach C s)
    (hRuns : M.Runs C inputs s) :
    M.Reach C (M.run inputs s) := by
  induction inputs generalizing s with
  | nil => exact hReach
  | cons i inputs ih =>
      exact ih
        (Reach.step hReach hRuns.1.1 hRuns.1.2) hRuns.2

------------------------------------------------------------
-- Keeping a Record
------------------------------------------------------------

/-
  The machine, with a record beside it that every step is
  noted in.
-/
def recording
    {ρ : Type}
    (M : Machine σ ι)
    (blank : ρ)
    (note : ρ → σ → ι → σ → ρ) : Machine (σ × ρ) ι where
  Start := fun p => M.Start p.1 ∧ p.2 = blank
  Allowed := fun p i => M.Allowed p.1 i
  next := fun p i =>
    (M.next p.1 i, note p.2 p.1 i (M.next p.1 i))

/- The record does not interfere. -/
theorem Reach.unrecorded
    {ρ : Type}
    {M : Machine σ ι}
    {blank : ρ}
    {note : ρ → σ → ι → σ → ρ}
    {C : σ → ι → Prop}
    {p : σ × ρ}
    (hReach :
      (M.recording blank note).Reach (fun p i => C p.1 i) p) :
    M.Reach C p.1 := by
  induction hReach with
  | start hStart => exact Reach.start hStart.1
  | step _ hAllowed hGuard ih =>
      exact Reach.step ih hAllowed hGuard

end Machine
