import KszDriver.Core.Machine
import Mathlib.Algebra.BigOperators.Group.Finset.Basic
import Mathlib.Data.List.Count

/-
  Tasks that share data under semaphores.

  A semaphore belongs to one task at a time, which may obtain
  it again and has to release it as often.  A task may wait
  until another one, the server, has nothing to do.  While
  the semaphore `alone` belongs to a task, no other one runs.

  Where every task obtains semaphores in the order of their
  ranks, some task can always go on, and what is only touched
  under a semaphore is touched by one task at a time.

  Key definitions include:
    * `SemAct`, `SemTasks`
    * `SemAct.Obeys`, `SemAct.Keeps`
    * `semaphoreMachine`
    * `SemTasks.Sound`

  Key theorems include:
    * `SemTasks.Sound.of_reach`
    * `SemTasks.Sound.exists_canRun`
    * `SemTasks.Sound.returned_iff`
    * `SemTasks.Sound.owner_of_under`
-/

------------------------------------------------------------
-- Acts
------------------------------------------------------------

/- What a task does with semaphores `κ` and shared data `δ`. -/
inductive SemAct (κ δ : Type) where
| obtains (l : κ)
| releases (l : κ)
| reads (x : δ)
| writes (x : δ)
| awaits
deriving DecidableEq, Repr

namespace SemAct

variable {κ δ : Type} [DecidableEq κ]

/- The semaphores that a task has after an act. -/
def stack (held : List κ) : SemAct κ δ → List κ
| .obtains l => l :: held
| .releases l => held.erase l
| .reads _ => held
| .writes _ => held
| .awaits => held

/- Every act is as `ok` demands with the semaphores that the
   task has then, and in the end it has none. -/
def Obeys (ok : List κ → SemAct κ δ → Prop) :
    List κ → List (SemAct κ δ) → Prop
| held, [] => held = []
| held, a :: acts =>
    ok held a ∧ Obeys ok (a.stack held) acts

/- A part of the acts after which the task has the same
   semaphores as before. -/
def Keeps
    (ok : List κ → SemAct κ δ → Prop)
    (held : List κ)
    (acts : List (SemAct κ δ)) : Prop :=
  ∀ rest, Obeys ok held rest → Obeys ok held (acts ++ rest)

/- Acts under a semaphore. -/
def under
    (l : κ) (acts : List (SemAct κ δ)) : List (SemAct κ δ) :=
  .obtains l :: (acts ++ [.releases l])

/-
  Semaphores are obtained in the order of their ranks, or
  again, and only what the task has is released.  With a
  semaphore from `bar` on, nobody is waited for.
-/
def InOrder
    (rank : κ → Nat) (bar : Nat) (held : List κ) :
    SemAct κ δ → Prop
| .obtains l => l ∈ held ∨ ∀ k ∈ held, rank k < rank l
| .releases l => l ∈ held
| .reads _ => True
| .writes _ => True
| .awaits => ∀ k ∈ held, rank k < bar

/- The server needs only semaphores from `bar` on. -/
def ByServer (rank : κ → Nat) (bar : Nat) : SemAct κ δ → Prop
| .obtains l => bar ≤ rank l
| .awaits => False
| _ => True

/- The data `x` is read or written. -/
def Uses (x : δ) (a : SemAct κ δ) : Prop :=
  a = .reads x ∨ a = .writes x

/- What is guarded by a semaphore is used under it. -/
def Guarded
    (guard : δ → Option κ) (held : List κ) (a : SemAct κ δ) :
    Prop :=
  ∀ x, a.Uses x → ∀ l ∈ guard x, l ∈ held

variable {ok : List κ → SemAct κ δ → Prop}
variable {held : List κ} {acts acts' : List (SemAct κ δ)}

@[simp] theorem keeps_nil : Keeps ok held [] :=
  fun _ hRest => hRest

theorem Keeps.append
    (hFirst : Keeps ok held acts)
    (hThen : Keeps ok held acts') :
    Keeps ok held (acts ++ acts') := by
  intro rest hRest
  rw [List.append_assoc]
  exact hFirst _ (hThen _ hRest)

/- An act that leaves the semaphores alone. -/
theorem keeps_cons
    {a : SemAct κ δ}
    (hOk : ok held a)
    (hSame : a.stack held = held)
    (hThen : Keeps ok held acts) :
    Keeps ok held (a :: acts) := by
  intro rest hRest
  refine ⟨hOk, ?_⟩
  rw [hSame]
  exact hThen rest hRest

/- What is done under a semaphore. -/
theorem keeps_under
    {l : κ}
    (hObtains : ok held (.obtains l))
    (hReleases : ok (l :: held) (.releases l))
    (hInside : Keeps ok (l :: held) acts) :
    Keeps ok held (under l acts) := by
  intro rest hRest
  unfold under
  rw [List.cons_append, List.append_assoc]
  refine ⟨hObtains, hInside _ ⟨hReleases, ?_⟩⟩
  show Obeys ok ((l :: held).erase l) rest
  rw [List.erase_cons_head]
  exact hRest

theorem keeps_flatMap
    {β : Type}
    {f : β → List (SemAct κ δ)}
    (bs : List β)
    (hEach : ∀ b ∈ bs, Keeps ok held (f b)) :
    Keeps ok held (bs.flatMap f) := by
  induction bs with
  | nil => exact keeps_nil
  | cons b bs ih =>
      rw [List.flatMap_cons]
      exact (hEach b List.mem_cons_self).append
        (ih (fun b' hMem =>
          hEach b' (List.mem_cons_of_mem b hMem)))

/- A whole call. -/
theorem Keeps.obeys
    (hKeeps : Keeps ok [] acts) :
    Obeys ok [] acts := by
  have hAll := hKeeps [] rfl
  rwa [List.append_nil] at hAll

end SemAct

------------------------------------------------------------
-- Tasks
------------------------------------------------------------

/-
  Who has each semaphore and how often, and what each task
  has still to do before its call returns.
-/
structure SemTasks (ν κ δ : Type) where
  owner : κ → Option ν
  nest : κ → Nat
  rest : ν → List (SemAct κ δ)

namespace SemTasks

/- A task begins a call, or goes on. -/
inductive Input (ν κ δ : Type) where
| calls (t : ν) (acts : List (SemAct κ δ))
| runs (t : ν)

section Definitions

variable {ν κ δ : Type} [DecidableEq ν] [DecidableEq κ]
variable (alone : κ) (server : ν)

/- What an act does to the semaphores. -/
def act (p : SemTasks ν κ δ) (t : ν) :
    SemAct κ δ → SemTasks ν κ δ
| .obtains l =>
    { p with
      owner := Function.update p.owner l (some t)
      nest := Function.update p.nest l (p.nest l + 1) }
| .releases l =>
    { p with
      owner :=
        if p.nest l = 1 then Function.update p.owner l none
        else p.owner
      nest := Function.update p.nest l (p.nest l - 1) }
| .reads _ => p
| .writes _ => p
| .awaits => p

def next (p : SemTasks ν κ δ) :
    Input ν κ δ → SemTasks ν κ δ
| .calls t acts =>
    { p with rest := Function.update p.rest t acts }
| .runs t =>
    match p.rest t with
    | [] => p
    | a :: acts =>
        { p.act t a with rest := Function.update p.rest t acts }

/- The next act of a task need not wait. -/
def Enabled (p : SemTasks ν κ δ) (t : ν) : Prop :=
  match p.rest t with
  | [] => False
  | .obtains l :: _ =>
      p.owner l = none ∨ p.owner l = some t
  | .releases _ :: _ => True
  | .reads _ :: _ => True
  | .writes _ :: _ => True
  | .awaits :: _ => p.rest server = []

/- Then the task can go on, unless another one runs alone. -/
def CanRun (p : SemTasks ν κ δ) (t : ν) : Prop :=
  p.Enabled server t ∧
    (p.owner alone = none ∨ p.owner alone = some t)

/- The next act of the task. -/
def Poised
    (p : SemTasks ν κ δ) (t : ν) (a : SemAct κ δ) : Prop :=
  (p.rest t).head? = some a

/- Two tasks are about to use the same data, and one of them
   writes it. -/
def Races
    (p : SemTasks ν κ δ) (x : δ) (t t' : ν) : Prop :=
  t ≠ t' ∧ p.Poised t (.writes x) ∧
    (p.Poised t' (.reads x) ∨ p.Poised t' (.writes x))

end Definitions

instance {ν κ δ : Type} [DecidableEq ν] [DecidableEq κ]
    [DecidableEq δ] (p : SemTasks ν κ δ) (server t : ν) :
    Decidable (p.Enabled server t) := by
  unfold Enabled
  split <;> infer_instance

instance {ν κ δ : Type} [DecidableEq ν] [DecidableEq κ]
    [DecidableEq δ] (p : SemTasks ν κ δ) (alone : κ)
    (server t : ν) :
    Decidable (p.CanRun alone server t) := by
  unfold CanRun
  infer_instance

end SemTasks

/- All runs of the tasks, whose calls are those of `C`. -/
def semaphoreMachine
    {ν κ δ : Type} [DecidableEq ν] [DecidableEq κ]
    (alone : κ)
    (server : ν)
    (C : ν → List (SemAct κ δ) → Prop) :
    Machine (SemTasks ν κ δ) (SemTasks.Input ν κ δ) where
  Start := fun p =>
    (∀ l, p.owner l = none ∧ p.nest l = 0) ∧ ∀ t, p.rest t = []
  Allowed := fun p i =>
    match i with
    | .calls t acts => p.rest t = [] ∧ C t acts
    | .runs t => p.CanRun alone server t
  next := SemTasks.next

------------------------------------------------------------
-- What Holds Along Every Run
------------------------------------------------------------

namespace SemTasks

variable {ν κ δ : Type} [DecidableEq κ]
variable {alone : κ} {server : ν}
variable {ok : ν → List κ → SemAct κ δ → Prop}
variable {p : SemTasks ν κ δ} {t t' : ν} {l : κ}

theorem act_obtains
    (p : SemTasks ν κ δ)
    (t : ν)
    (l k : κ) :
    (p.act t (.obtains l)).owner k =
        (if k = l then some t else p.owner k) ∧
      (p.act t (.obtains l)).nest k =
        if k = l then p.nest l + 1 else p.nest k :=
  ⟨Function.update_apply _ _ _ _, Function.update_apply _ _ _ _⟩

theorem act_releases
    (p : SemTasks ν κ δ)
    (t : ν)
    (l k : κ) :
    (p.act t (.releases l)).owner k =
        (if k = l ∧ p.nest l = 1 then none else p.owner k) ∧
      (p.act t (.releases l)).nest k =
        if k = l then p.nest l - 1 else p.nest k := by
  refine ⟨?_, Function.update_apply _ _ _ _⟩
  unfold act
  dsimp only
  by_cases hLast : p.nest l = 1
  · rw [if_pos hLast, Function.update_apply]
    simp only [hLast, and_true]
  · rw [if_neg hLast, if_neg (fun hBoth => hLast hBoth.2)]

/- The task has these semaphores, each as often as it is
   listed. -/
def Has (p : SemTasks ν κ δ) (t : ν) (held : List κ) : Prop :=
  ∀ l, (p.owner l = some t → held.count l = p.nest l) ∧
    (p.owner l ≠ some t → held.count l = 0)

/- Every task keeps to `ok` in what it has still to do. -/
structure Sound
    (ok : ν → List κ → SemAct κ δ → Prop)
    (p : SemTasks ν κ δ) : Prop where
  nest : ∀ l, p.owner l = none ↔ p.nest l = 0
  obeys : ∀ t, ∃ held, p.Has t held ∧
    SemAct.Obeys (ok t) held (p.rest t)

theorem Has.mem_iff
    {held : List κ}
    (hHas : p.Has t held)
    (hNest : p.owner l = none ↔ p.nest l = 0) :
    l ∈ held ↔ p.owner l = some t := by
  rw [← List.count_pos_iff]
  constructor
  · intro hPos
    by_contra hOther
    rw [(hHas l).2 hOther] at hPos
    exact Nat.lt_irrefl 0 hPos
  · intro hOwner
    rw [(hHas l).1 hOwner]
    apply Nat.pos_of_ne_zero
    intro hZero
    rw [hNest.mpr hZero] at hOwner
    cases hOwner

/- Before an act, a semaphore that is to be obtained is not
   another task's, and one that is to be released is the
   task's own. -/
structure Ready
    (p : SemTasks ν κ δ) (t : ν) (a : SemAct κ δ) : Prop where
  free : ∀ l, a = .obtains l →
    p.owner l = none ∨ p.owner l = some t
  mine : ∀ l, a = .releases l → p.owner l = some t

/- What an act leaves to the task itself. -/
theorem Has.act
    {held : List κ}
    {a : SemAct κ δ}
    (hHas : p.Has t held)
    (hNest : ∀ l, p.owner l = none ↔ p.nest l = 0)
    (hReady : p.Ready t a) :
    (p.act t a).Has t (a.stack held) := by
  intro k
  cases a with
  | obtains l =>
      rw [(act_obtains p t l k).1, (act_obtains p t l k).2]
      by_cases hSame : k = l
      · subst hSame
        rw [if_pos rfl, if_pos rfl]
        refine ⟨fun _ => ?_, fun hOther => absurd rfl hOther⟩
        show (k :: held).count k = _
        rw [List.count_cons_self]
        rcases hReady.free k rfl with hNone | hMine
        · rw [(hHas k).2 (by rw [hNone]; nofun),
            (hNest k).mp hNone]
        · rw [(hHas k).1 hMine]
      · rw [if_neg hSame, if_neg hSame]
        show (_ → (l :: held).count k = _) ∧
          (_ → (l :: held).count k = _)
        rw [List.count_cons_of_ne (Ne.symm hSame)]
        exact hHas k
  | releases l =>
      rw [(act_releases p t l k).1, (act_releases p t l k).2]
      by_cases hSame : k = l
      · subst hSame
        have hMine := hReady.mine k rfl
        rw [if_pos rfl]
        show (_ → (held.erase k).count k = _) ∧
          (_ → (held.erase k).count k = _)
        rw [List.count_erase_self, (hHas k).1 hMine]
        refine ⟨fun _ => rfl, fun hGone => ?_⟩
        by_contra hMore
        apply hGone
        rw [if_neg (fun hLast => hMore (by rw [hLast.2])), hMine]
      · rw [if_neg (fun hBoth => hSame hBoth.1), if_neg hSame]
        show (_ → (held.erase l).count k = _) ∧
          (_ → (held.erase l).count k = _)
        rw [List.count_erase_of_ne hSame]
        exact hHas k
  | reads _ => exact hHas k
  | writes _ => exact hHas k
  | awaits => exact hHas k

/- What it leaves to another task. -/
theorem Has.act_of_ne
    {held : List κ}
    {a : SemAct κ δ}
    (hHas : p.Has t' held)
    (hOther : t' ≠ t)
    (hReady : p.Ready t a) :
    (p.act t a).Has t' held := by
  have hNotMine : some t ≠ some t' :=
    fun hSame => hOther (Option.some.inj hSame).symm
  intro k
  cases a with
  | obtains l =>
      rw [(act_obtains p t l k).1, (act_obtains p t l k).2]
      by_cases hSame : k = l
      · subst hSame
        rw [if_pos rfl, if_pos rfl]
        refine ⟨fun hMine => absurd hMine hNotMine,
          fun _ => (hHas k).2 ?_⟩
        rcases hReady.free k rfl with hOwner | hOwner
        · rw [hOwner]
          nofun
        · rw [hOwner]
          exact hNotMine
      · rw [if_neg hSame, if_neg hSame]
        exact hHas k
  | releases l =>
      rw [(act_releases p t l k).1, (act_releases p t l k).2]
      by_cases hSame : k = l
      · subst hSame
        have hMine := hReady.mine k rfl
        have hZero : held.count k = 0 :=
          (hHas k).2 (by rw [hMine]; exact hNotMine)
        refine ⟨fun hOwner => absurd hOwner ?_, fun _ => hZero⟩
        split
        · nofun
        · rw [hMine]
          exact hNotMine
      · rw [if_neg (fun hBoth => hSame hBoth.1), if_neg hSame]
        exact hHas k
  | reads _ => exact hHas k
  | writes _ => exact hHas k
  | awaits => exact hHas k

theorem nest_act
    {a : SemAct κ δ}
    (hNest : ∀ l, p.owner l = none ↔ p.nest l = 0)
    (hReady : p.Ready t a)
    (k : κ) :
    (p.act t a).owner k = none ↔ (p.act t a).nest k = 0 := by
  cases a with
  | obtains l =>
      rw [(act_obtains p t l k).1, (act_obtains p t l k).2]
      split
      · exact ⟨nofun, nofun⟩
      · exact hNest k
  | releases l =>
      rw [(act_releases p t l k).1, (act_releases p t l k).2]
      by_cases hSame : k = l
      · subst hSame
        have hMine := hReady.mine k rfl
        have hSome : p.nest k ≠ 0 := by
          intro hZero
          rw [(hNest k).mpr hZero] at hMine
          cases hMine
        rw [if_pos rfl]
        split
        next hLast =>
          exact iff_of_true rfl (by rw [hLast.2])
        next hMore =>
          rw [hMine]
          refine ⟨nofun, fun hZero => absurd hZero ?_⟩
          have hTwice : p.nest k ≠ 1 :=
            fun hLast => hMore ⟨rfl, hLast⟩
          omega
      · rw [if_neg (fun hBoth => hSame hBoth.1), if_neg hSame]
        exact hNest k
  | reads _ => exact hNest k
  | writes _ => exact hNest k
  | awaits => exact hNest k

/- What the task is about to do, it does as `ok` demands. -/
theorem Sound.poised
    {a : SemAct κ δ}
    (hSound : Sound ok p)
    (hPoised : p.Poised t a) :
    ∃ held, (∀ l, l ∈ held ↔ p.owner l = some t) ∧
      ok t held a := by
  rcases hSound.obeys t with ⟨held, hHas, hObeys⟩
  refine ⟨held, fun l => hHas.mem_iff (hSound.nest l), ?_⟩
  rcases List.head?_eq_some_iff.mp hPoised with ⟨acts, hRest⟩
  rw [hRest] at hObeys
  exact hObeys.1

/- Whoever is about to use guarded data has the semaphore. -/
theorem Sound.owner_of_under
    {a : SemAct κ δ}
    (hSound : Sound ok p)
    (hUnder : ∀ held, ok t held a → l ∈ held)
    (hPoised : p.Poised t a) :
    p.owner l = some t := by
  rcases hSound.poised hPoised with ⟨held, hMem, hOk⟩
  exact (hMem l).mp (hUnder held hOk)

/- Who has a semaphore has something left to do. -/
theorem Sound.poised_of_owner
    (hSound : Sound ok p)
    (hOwner : p.owner l = some t) :
    ∃ a, p.Poised t a := by
  rcases hSound.obeys t with ⟨held, hHas, hObeys⟩
  cases hRest : p.rest t with
  | nil =>
      rw [hRest] at hObeys
      have hNone : held = [] := hObeys
      have hIn := (hHas.mem_iff (hSound.nest l)).mpr hOwner
      rw [hNone] at hIn
      cases hIn
  | cons a acts =>
      refine ⟨a, ?_⟩
      unfold Poised
      rw [hRest]
      rfl

section Runs

variable [DecidableEq ν]

/- A task goes on. -/
theorem Sound.runs
    (hReleases : ∀ t held l, ok t held (.releases l) → l ∈ held)
    (hSound : Sound ok p)
    (hRuns : p.CanRun alone server t) :
    Sound ok (p.next (.runs t)) := by
  rcases hSound.obeys t with ⟨held, hHas, hObeys⟩
  unfold SemTasks.next
  dsimp only
  cases hRest : p.rest t with
  | nil => exact hSound
  | cons a acts =>
      rw [hRest] at hObeys
      have hReady : p.Ready t a := by
        refine ⟨?_, ?_⟩
        · rintro l rfl
          have hEnabled := hRuns.1
          unfold Enabled at hEnabled
          rw [hRest] at hEnabled
          exact hEnabled
        · rintro l rfl
          exact (hHas.mem_iff (hSound.nest l)).mp
            (hReleases t held l hObeys.1)
      refine ⟨nest_act hSound.nest hReady, ?_⟩
      intro t'
      by_cases hSame : t' = t
      · subst hSame
        refine ⟨a.stack held, hHas.act hSound.nest hReady, ?_⟩
        show SemAct.Obeys _ _ (Function.update p.rest t' acts t')
        rw [Function.update_self]
        exact hObeys.2
      · rcases hSound.obeys t' with ⟨held', hHas', hObeys'⟩
        refine ⟨held', hHas'.act_of_ne hSame hReady, ?_⟩
        show SemAct.Obeys _ _ (Function.update p.rest t acts t')
        rw [Function.update_of_ne hSame]
        exact hObeys'

/- A task begins a call. -/
theorem Sound.calls
    {acts : List (SemAct κ δ)}
    (hSound : Sound ok p)
    (hIdle : p.rest t = [])
    (hCall : SemAct.Obeys (ok t) [] acts) :
    Sound ok (p.next (.calls t acts)) := by
  refine ⟨hSound.nest, ?_⟩
  intro t'
  rcases hSound.obeys t' with ⟨held, hHas, hObeys⟩
  refine ⟨held, hHas, ?_⟩
  show SemAct.Obeys _ _ (Function.update p.rest t acts t')
  by_cases hSame : t' = t
  · subst hSame
    rw [hIdle] at hObeys
    have hNone : held = [] := hObeys
    rw [Function.update_self, hNone]
    exact hCall
  · rw [Function.update_of_ne hSame]
    exact hObeys

theorem Sound.of_reach
    {C : ν → List (SemAct κ δ) → Prop}
    (hReleases : ∀ t held l, ok t held (.releases l) → l ∈ held)
    (hCalls : ∀ t acts, C t acts → SemAct.Obeys (ok t) [] acts)
    (hReach :
      (semaphoreMachine alone server C).Reach Machine.Free p) :
    Sound ok p := by
  refine hReach.invariant ?_ ?_
  · rintro p ⟨hNone, hIdle⟩
    refine ⟨fun l => ?_, fun t => ⟨[], fun l => ?_, ?_⟩⟩
    · exact iff_of_true (hNone l).1 (hNone l).2
    · rw [(hNone l).1]
      exact ⟨nofun, fun _ => List.count_nil⟩
    · rw [hIdle t]
      rfl
  · intro p i hAllowed _ hSound
    cases i with
    | calls t acts =>
        exact hSound.calls hAllowed.1 (hCalls t acts hAllowed.2)
    | runs t => exact hSound.runs hReleases hAllowed

end Runs

------------------------------------------------------------
-- Somebody Can Go On
------------------------------------------------------------

/-
  The tasks obtain semaphores by rank, the server only those
  from `bar` on, and `alone` comes last.
-/
structure Ranked
    (alone : κ)
    (server : ν)
    (rank : κ → Nat)
    (bar : Nat)
    (ok : ν → List κ → SemAct κ δ → Prop) : Prop where
  order : ∀ t held a, ok t held a → a.InOrder rank bar held
  server : ∀ held a, ok server held a → a.ByServer rank bar
  last : ∀ l, rank l ≤ rank alone
  bar : bar ≤ rank alone

variable {rank : κ → Nat} {bar : Nat}

omit [DecidableEq κ] in
theorem enabled_of_poised
    {a : SemAct κ δ}
    (hPoised : p.Poised t a)
    (hFree : ∀ l, a = .obtains l →
      p.owner l = none ∨ p.owner l = some t)
    (hIdle : a = .awaits → p.rest server = []) :
    p.Enabled server t := by
  rcases List.head?_eq_some_iff.mp hPoised with ⟨acts, hRest⟩
  unfold Enabled
  rw [hRest]
  cases a with
  | obtains l => exact hFree l rfl
  | awaits => exact hIdle rfl
  | _ => trivial

/- Who runs alone can go on. -/
theorem Sound.canRun_of_alone
    (hSound : Sound ok p)
    (hRanked : Ranked alone server rank bar ok)
    (hAlone : p.owner alone = some t) :
    p.CanRun alone server t := by
  rcases hSound.poised_of_owner hAlone with ⟨a, hPoised⟩
  rcases hSound.poised hPoised with ⟨held, hMem, hOk⟩
  have hOrder := hRanked.order t held a hOk
  have hHeld := (hMem alone).mpr hAlone
  refine ⟨enabled_of_poised hPoised ?_ ?_, Or.inr hAlone⟩
  · rintro l rfl
    rcases hOrder with hAgain | hAbove
    · exact Or.inr ((hMem l).mp hAgain)
    · exact absurd (hAbove alone hHeld)
        (Nat.not_lt.mpr (hRanked.last l))
  · rintro rfl
    exact absurd (hOrder alone hHeld)
      (Nat.not_lt.mpr hRanked.bar)

/-
  Who waits for a semaphore waits for somebody with a higher
  one, and the highest of them is not waited with, except for
  the server.  Induction on how many ranks are left.
-/
theorem Sound.exists_enabled_of_owner
    (hSound : Sound ok p)
    (hRanked : Ranked alone server rank bar ok)
    (hServer : rank l < bar → p.rest server ≠ [] →
      ∃ t, p.Enabled server t)
    (hOwner : p.owner l = some t) :
    ∃ t, p.Enabled server t := by
  induction hLeft : rank alone - rank l
    using Nat.strong_induction_on generalizing l t with
  | _ left ih =>
      rcases hSound.poised_of_owner hOwner with ⟨a, hPoised⟩
      rcases hSound.poised hPoised with ⟨held, hMem, hOk⟩
      have hOrder := hRanked.order t held a hOk
      have hHeld := (hMem l).mpr hOwner
      by_cases hBlocked : ∃ k, a = .obtains k ∧
          p.owner k ≠ none ∧ p.owner k ≠ some t
      · rcases hBlocked with ⟨k, rfl, hTaken, hOther⟩
        rcases Option.ne_none_iff_exists'.mp hTaken with
          ⟨t', hOwner'⟩
        rcases hOrder with hAgain | hAbove
        · exact absurd ((hMem k).mp hAgain) hOther
        · have hHigher := hAbove l hHeld
          have hMost := hRanked.last k
          exact ih _ (by omega)
            (fun hLow => hServer (hHigher.trans hLow))
            hOwner' rfl
      · by_cases hAwaits :
            a = .awaits ∧ p.rest server ≠ []
        · rcases hAwaits with ⟨rfl, hBusy⟩
          exact hServer (hOrder l hHeld) hBusy
        · refine ⟨t, enabled_of_poised hPoised ?_ ?_⟩
          · intro k hObtains
            by_contra hTaken
            push Not at hTaken
            exact hBlocked ⟨k, hObtains, hTaken⟩
          · intro hWaits
            by_contra hBusy
            exact hAwaits ⟨hWaits, hBusy⟩

omit [DecidableEq κ] in
theorem exists_poised
    (hBusy : p.rest t ≠ []) :
    ∃ a, p.Poised t a := by
  rcases List.exists_cons_of_ne_nil hBusy with ⟨a, acts, hRest⟩
  refine ⟨a, ?_⟩
  unfold Poised
  rw [hRest]
  rfl

/- The server waits for semaphores only that are not waited
   with for the server. -/
theorem Sound.exists_enabled_of_server
    (hSound : Sound ok p)
    (hRanked : Ranked alone server rank bar ok)
    (hBusy : p.rest server ≠ []) :
    ∃ t, p.Enabled server t := by
  rcases exists_poised hBusy with ⟨a, hPoised⟩
  rcases hSound.poised hPoised with ⟨held, hMem, hOk⟩
  have hByServer := hRanked.server held a hOk
  by_cases hBlocked : ∃ k, a = .obtains k ∧
      p.owner k ≠ none ∧ p.owner k ≠ some server
  · rcases hBlocked with ⟨k, rfl, hTaken, -⟩
    rcases Option.ne_none_iff_exists'.mp hTaken with
      ⟨t', hOwner⟩
    exact hSound.exists_enabled_of_owner hRanked
      (fun hLow => absurd hLow (Nat.not_lt.mpr hByServer))
      hOwner
  · refine ⟨server, enabled_of_poised hPoised ?_ ?_⟩
    · intro k hObtains
      by_contra hTaken
      push Not at hTaken
      exact hBlocked ⟨k, hObtains, hTaken⟩
    · rintro rfl
      exact hByServer.elim

/- While any task has something left to do, some task can go
   on. -/
theorem Sound.exists_canRun
    (hSound : Sound ok p)
    (hRanked : Ranked alone server rank bar ok)
    (hBusy : p.rest t ≠ []) :
    ∃ t', p.CanRun alone server t' := by
  cases hAlone : p.owner alone with
  | some t' =>
      exact ⟨t', hSound.canRun_of_alone hRanked hAlone⟩
  | none =>
      suffices hEnabled : ∃ t', p.Enabled server t' by
        rcases hEnabled with ⟨t', hEnabled⟩
        exact ⟨t', hEnabled, Or.inl hAlone⟩
      by_cases hServer : p.rest server = []
      · rcases exists_poised hBusy with ⟨a, hPoised⟩
        by_cases hFree : ∀ k, a = .obtains k →
            p.owner k = none ∨ p.owner k = some t
        · exact ⟨t, enabled_of_poised hPoised hFree
            (fun _ => hServer)⟩
        · push Not at hFree
          rcases hFree with ⟨k, -, hTaken, -⟩
          rcases Option.ne_none_iff_exists'.mp hTaken with
            ⟨t', hOwner⟩
          exact hSound.exists_enabled_of_owner hRanked
            (fun _ hBusy => absurd hServer hBusy) hOwner
      · exact hSound.exists_enabled_of_server hRanked hServer

------------------------------------------------------------
-- Every Call Returns
------------------------------------------------------------

/- How much some tasks have still to do. -/
def work (p : SemTasks ν κ δ) (ts : Finset ν) : Nat :=
  ∑ t ∈ ts, (p.rest t).length

variable [DecidableEq ν]

theorem work_runs
    {ts : Finset ν}
    (hMem : t ∈ ts)
    (hRuns : p.CanRun alone server t) :
    (p.next (.runs t)).work ts + 1 = p.work ts := by
  have hEnabled := hRuns.1
  unfold next work
  dsimp only
  unfold Enabled at hEnabled
  cases hRest : p.rest t with
  | nil =>
      rw [hRest] at hEnabled
      exact hEnabled.elim
  | cons a acts =>
      dsimp only
      rw [← Finset.add_sum_erase ts _ hMem,
        ← Finset.add_sum_erase ts (fun t => (p.rest t).length)
          hMem, Function.update_self, hRest,
        List.length_cons]
      have hOthers :
          ∑ t' ∈ ts.erase t,
              (Function.update p.rest t acts t').length =
            ∑ t' ∈ ts.erase t, (p.rest t').length := by
        apply Finset.sum_congr rfl
        intro t' hIn
        rw [Function.update_of_ne (Finset.ne_of_mem_erase hIn)]
      rw [hOthers]
      omega

/- Who has nothing to do does not begin by itself. -/
theorem rest_runs
    (hIdle : p.rest t = []) :
    (p.next (.runs t')).rest t = [] := by
  unfold next
  dsimp only
  cases hRest : p.rest t' with
  | nil => exact hIdle
  | cons a acts =>
      dsimp only
      by_cases hSame : t = t'
      · subst hSame
        rw [hRest] at hIdle
        cases hIdle
      · rw [Function.update_of_ne hSame]
        exact hIdle

/-
  While no task begins a new call, the tasks go on until every
  call has returned, and that takes as many steps as they had
  to do, in whatever order they run.
-/
theorem Sound.returned_iff
    {C : ν → List (SemAct κ δ) → Prop}
    {ts : Finset ν}
    {schedule : List ν}
    (hReleases : ∀ t held l, ok t held (.releases l) → l ∈ held)
    (hSound : Sound ok p)
    (hRanked : Ranked alone server rank bar ok)
    (hTasks : ∀ t, p.rest t ≠ [] → t ∈ ts)
    (hRuns : (semaphoreMachine alone server C).Runs Machine.Free
      (schedule.map .runs) p) :
    schedule.length ≤ p.work ts ∧
      ((∀ t, ((semaphoreMachine alone server C).run
          (schedule.map .runs) p).rest t = []) ↔
        schedule.length = p.work ts) ∧
      (schedule.length < p.work ts →
        ∃ t, ((semaphoreMachine alone server C).run
          (schedule.map .runs) p).CanRun alone server t) := by
  induction schedule generalizing p with
  | nil =>
      have hNone : (∀ t, p.rest t = []) ↔ 0 = p.work ts := by
        rw [eq_comm]
        unfold work
        rw [Finset.sum_eq_zero_iff]
        simp only [List.length_eq_zero_iff]
        refine ⟨fun hAll t _ => hAll t, fun hAll t => ?_⟩
        by_contra hBusy
        exact hBusy (hAll t (hTasks t hBusy))
      refine ⟨Nat.zero_le _, hNone, fun hLeft => ?_⟩
      have hBusy : ∃ t, p.rest t ≠ [] := by
        by_contra hAll
        push Not at hAll
        exact Nat.ne_of_lt hLeft (hNone.mp hAll)
      rcases hBusy with ⟨t, hBusy⟩
      exact hSound.exists_canRun hRanked hBusy
  | cons t schedule ih =>
      rcases hRuns with ⟨⟨hCan, -⟩, hRest⟩
      have hBusy : p.rest t ≠ [] := by
        intro hIdle
        have hEnabled := hCan.1
        unfold Enabled at hEnabled
        rw [hIdle] at hEnabled
        exact hEnabled
      have hWork := work_runs (hTasks t hBusy) hCan
      have hLater := ih (hSound.runs hReleases hCan)
        (fun t' hBusy' => hTasks t' (fun hIdle =>
          hBusy' (rest_runs hIdle))) hRest
      rw [List.length_cons, ← hWork]
      refine ⟨Nat.succ_le_succ hLater.1, ?_, ?_⟩
      · rw [Nat.add_right_cancel_iff]
        exact hLater.2.1
      · exact fun hLeft => hLater.2.2 (by omega)

end SemTasks
