import Mathlib.Data.List.Nodup
import Mathlib.Data.List.Perm.Subperm

/-
  Customers who wait in line, and are served or leave it.

  A line keeps who arrived and what became of them, and what
  was handed out.  It is fair when what was handed out went,
  in order, to the customers who did not leave, in the order
  in which they arrived.

  Key definitions include:
    * `Line`
    * `Line.arrive`, `Line.settle`, `Line.hand`
    * `Line.Fair`

  Key theorems include:
    * `Line.Fair.arrive`
    * `Line.Fair.leave`
    * `Line.Fair.serve`
    * `eq_filter_of_sublist`
-/

------------------------------------------------------------
-- Lines
------------------------------------------------------------

/- What became of a customer. -/
inductive Fate (π : Type) where
| waiting
| left
| served (item : π)

/- The turn of a customer, who has none if he left, and none
   yet while he waits. -/
def Fate.turn {π : Type} : Fate π → Option (Option π)
| .waiting => some none
| .left => none
| .served item => some (some item)

/- Who arrived and what was handed out, oldest first. -/
structure Line (κ π : Type) where
  arrivals : List (κ × Fate π)
  handed : List π

namespace Line

variable {κ π : Type}

/- Nobody has come yet. -/
def empty : Line κ π where
  arrivals := []
  handed := []

/- The customer, if he waits. -/
def whoWaits : κ × Fate π → Option κ
| (k, .waiting) => some k
| _ => none

/- Who waits, in the order of arrival. -/
def waiting (l : Line κ π) : List κ :=
  l.arrivals.filterMap whoWaits

/- The turns of all who did not leave. -/
def turns (arrivals : List (κ × Fate π)) :
    List (Option π) :=
  arrivals.filterMap (fun arrival => arrival.2.turn)

/- Customers arrive. -/
def arrive (l : Line κ π) (ks : List κ) : Line κ π :=
  { l with
    arrivals := l.arrivals ++ ks.map (fun k => (k, .waiting)) }

/- What becomes of one customer. -/
def settleOne
    (stays : κ → Prop) [DecidablePred stays]
    (fate : Fate π) : κ × Fate π → κ × Fate π
| (k, .waiting) => if stays k then (k, .waiting) else (k, fate)
| arrival => arrival

/- Those who wait and do not stay meet their fate. -/
def settle
    (l : Line κ π)
    (stays : κ → Prop) [DecidablePred stays]
    (fate : Fate π) : Line κ π :=
  { l with arrivals := l.arrivals.map (settleOne stays fate) }

/- Something is handed out. -/
def hand (l : Line κ π) (items : List π) : Line κ π :=
  { l with handed := l.handed ++ items }

/-
  The turns of those who did not leave are what was handed
  out, in order; then come those who still wait.
-/
def Fair (l : Line κ π) : Prop :=
  ∃ m, turns l.arrivals =
    l.handed.map some ++ List.replicate m none

------------------------------------------------------------
-- Waiting
------------------------------------------------------------

theorem waiting_arrive (l : Line κ π) (ks : List κ) :
    (l.arrive ks).waiting = l.waiting ++ ks := by
  unfold waiting arrive
  rw [List.filterMap_append, List.filterMap_map]
  congr 1
  exact List.filterMap_some

theorem waiting_hand (l : Line κ π) (items : List π) :
    (l.hand items).waiting = l.waiting := rfl

section Settling

variable {stays : κ → Prop} [DecidablePred stays]

theorem whoWaits_settleOne
    {fate : Fate π}
    (hFate : fate ≠ .waiting)
    (arrival : κ × Fate π) :
    whoWaits (settleOne stays fate arrival) =
      (whoWaits arrival).filter (fun k => decide (stays k)) := by
  rcases arrival with ⟨k, old⟩
  cases old with
  | waiting =>
      by_cases hStays : stays k
      · simp [settleOne, whoWaits, hStays, Option.filter_some]
      · cases fate with
        | waiting => exact absurd rfl hFate
        | left =>
            simp [settleOne, whoWaits, hStays,
              Option.filter_some]
        | served item =>
            simp [settleOne, whoWaits, hStays,
              Option.filter_some]
  | left => rfl
  | served item => rfl

theorem waiting_settle
    {fate : Fate π}
    (l : Line κ π)
    (hFate : fate ≠ .waiting) :
    (l.settle stays fate).waiting =
      l.waiting.filter (fun k => decide (stays k)) := by
  unfold waiting settle
  dsimp only
  induction l.arrivals with
  | nil => rfl
  | cons arrival arrivals ih =>
      rw [List.map_cons, List.filterMap_cons,
        List.filterMap_cons, whoWaits_settleOne hFate, ih]
      cases whoWaits arrival with
      | none => rfl
      | some k =>
          by_cases hStays : stays k
          · simp [hStays, Option.filter_some]
          · simp [hStays, Option.filter_some]

/- Where all who wait stay, nothing is settled. -/
theorem map_settleOne_of_stay
    {arrivals : List (κ × Fate π)}
    (fate : Fate π)
    (hStay : ∀ k ∈ arrivals.filterMap whoWaits, stays k) :
    arrivals.map (settleOne stays fate) = arrivals := by
  induction arrivals with
  | nil => rfl
  | cons arrival arrivals ih =>
      rcases arrival with ⟨k, old⟩
      cases old with
      | waiting =>
          have hFirst : stays k := hStay k List.mem_cons_self
          rw [List.map_cons, settleOne, if_pos hFirst,
            ih (fun k' hIn =>
              hStay k' (List.mem_cons_of_mem k hIn))]
      | left => exact congrArg _ (ih hStay)
      | served item => exact congrArg _ (ih hStay)

theorem settle_of_stay
    {l : Line κ π}
    (fate : Fate π)
    (hStay : ∀ k ∈ l.waiting, stays k) :
    l.settle stays fate = l := by
  unfold settle
  rw [map_settleOne_of_stay fate hStay]

end Settling

------------------------------------------------------------
-- Fairness
------------------------------------------------------------

theorem arrive_nil (l : Line κ π) : l.arrive [] = l := by
  unfold arrive
  rw [List.map_nil, List.append_nil]

theorem hand_nil (l : Line κ π) : l.hand [] = l := by
  unfold hand
  rw [List.append_nil]

theorem fair_empty : Fair (empty : Line κ π) :=
  ⟨0, rfl⟩

/- The `k`-th thing that was handed out went to the `k`-th
   customer who did not leave. -/
theorem Fair.turn
    {l : Line κ π}
    (hFair : l.Fair)
    {k : Nat}
    (hHanded : k < l.handed.length) :
    (turns l.arrivals)[k]? = some (l.handed[k]?) := by
  rcases hFair with ⟨m, hTurns⟩
  rw [hTurns, List.getElem?_append_left
    (by rw [List.length_map]; exact hHanded)]
  rw [List.getElem?_map, List.getElem?_eq_getElem hHanded]
  rfl

theorem Fair.arrive
    {l : Line κ π}
    (hFair : l.Fair)
    (ks : List κ) :
    (l.arrive ks).Fair := by
  rcases hFair with ⟨m, hTurns⟩
  refine ⟨m + ks.length, ?_⟩
  have hNew :
      turns (ks.map (fun k => (k, (.waiting : Fate π)))) =
        List.replicate ks.length none := by
    induction ks with
    | nil => rfl
    | cons k ks ih =>
        rw [List.length_cons, List.replicate_succ, ← ih]
        rfl
  unfold turns at hTurns hNew ⊢
  unfold Line.arrive
  rw [List.filterMap_append, hTurns, hNew, List.append_assoc,
    List.replicate_append_replicate]

section Settling

variable {stays : κ → Prop} [DecidablePred stays]

/- Whoever waits first means that nothing is left over that
   was handed out. -/
theorem turns_waiting
    {k : κ}
    {arrivals : List (κ × Fate π)}
    {handed : List π}
    {m : Nat}
    (hTurns : turns ((k, .waiting) :: arrivals) =
      handed.map some ++ List.replicate m none) :
    handed = [] ∧ turns arrivals =
      List.replicate (m - 1) none := by
  have hCons :
      turns ((k, Fate.waiting) :: arrivals) =
        none :: turns arrivals := rfl
  rw [hCons] at hTurns
  cases handed with
  | nil =>
      cases m with
      | zero => cases hTurns
      | succ m =>
          rw [List.replicate_succ] at hTurns
          exact ⟨rfl, (List.cons.inj hTurns).2⟩
  | cons item handed =>
      exact absurd (List.cons.inj hTurns).1 (by simp)

/- Some of those who wait leave. -/
theorem turns_leave
    {arrivals : List (κ × Fate π)}
    {handed : List π}
    {m : Nat}
    (hTurns : turns arrivals =
      handed.map some ++ List.replicate m none) :
    ∃ m', turns (arrivals.map (settleOne stays .left)) =
      handed.map some ++ List.replicate m' none := by
  induction arrivals generalizing handed m with
  | nil => exact ⟨m, hTurns⟩
  | cons arrival arrivals ih =>
      rcases arrival with ⟨k, fate⟩
      cases fate with
      | waiting =>
          rcases turns_waiting hTurns with ⟨rfl, hRest⟩
          have hRest' :
              turns arrivals =
                ([] : List π).map some ++
                  List.replicate (m - 1) none := hRest
          rcases ih hRest' with ⟨m', hSettled⟩
          by_cases hStays : stays k
          · refine ⟨m' + 1, ?_⟩
            rw [List.map_cons, settleOne, if_pos hStays]
            exact congrArg (none :: ·) hSettled
          · refine ⟨m', ?_⟩
            rw [List.map_cons, settleOne, if_neg hStays]
            exact hSettled
      | left => exact ih hTurns
      | served item =>
          cases handed with
          | nil =>
              cases m with
              | zero => cases hTurns
              | succ m =>
                  exact absurd (List.cons.inj hTurns).1
                    (by simp)
          | cons item' handed =>
              have hInj := List.cons.inj hTurns
              rcases ih hInj.2 with ⟨m', hSettled⟩
              refine ⟨m', ?_⟩
              show some item :: turns _ = _
              rw [hInj.1, hSettled]
              rfl

theorem Fair.leave
    {l : Line κ π}
    (hFair : l.Fair) :
    (l.settle stays .left).Fair := by
  rcases hFair with ⟨m, hTurns⟩
  exact turns_leave hTurns

/- Of those who wait, the first one is served. -/
theorem turns_serve
    {k : κ}
    {ks : List κ}
    {item : π}
    {arrivals : List (κ × Fate π)}
    {handed : List π}
    {m : Nat}
    (hFirst : arrivals.filterMap whoWaits = k :: ks)
    (hGoes : ¬ stays k)
    (hStay : ∀ k' ∈ ks, stays k')
    (hTurns : turns arrivals =
      handed.map some ++ List.replicate m none) :
    ∃ m', turns
        (arrivals.map (settleOne stays (.served item))) =
      (handed ++ [item]).map some ++
        List.replicate m' none := by
  induction arrivals generalizing handed m with
  | nil => cases hFirst
  | cons arrival arrivals ih =>
      rcases arrival with ⟨k', fate⟩
      cases fate with
      | waiting =>
          have hInj := List.cons.inj hFirst
          cases hInj.1
          rcases turns_waiting hTurns with ⟨rfl, hRest⟩
          refine ⟨m - 1, ?_⟩
          rw [List.map_cons, settleOne, if_neg hGoes,
            map_settleOne_of_stay]
          · exact congrArg (some item :: ·) hRest
          · intro k' hIn
            rw [hInj.2] at hIn
            exact hStay k' hIn
      | left => exact ih hFirst hTurns
      | served item' =>
          cases handed with
          | nil =>
              cases m with
              | zero => cases hTurns
              | succ m =>
                  exact absurd (List.cons.inj hTurns).1
                    (by simp)
          | cons item'' handed =>
              have hInj := List.cons.inj hTurns
              rcases ih hFirst hInj.2 with ⟨m', hSettled⟩
              refine ⟨m', ?_⟩
              show some item' :: turns _ = _
              rw [hInj.1, hSettled]
              rfl

theorem Fair.serve
    {l : Line κ π}
    {k : κ}
    {ks : List κ}
    (hFair : l.Fair)
    (item : π)
    (hFirst : l.waiting = k :: ks)
    (hGoes : ¬ stays k)
    (hStay : ∀ k' ∈ ks, stays k') :
    ((l.settle stays (.served item)).hand [item]).Fair := by
  rcases hFair with ⟨m, hTurns⟩
  exact turns_serve hFirst hGoes hStay hTurns

end Settling

end Line

------------------------------------------------------------
-- Parts of a List
------------------------------------------------------------

/- A part of a list is what is selected by being in it. -/
theorem eq_filter_of_sublist
    {κ : Type}
    {part whole : List κ}
    {p : κ → Prop} [DecidablePred p]
    (hPart : part.Sublist whole)
    (hNodup : whole.Nodup)
    (hMem : ∀ k ∈ whole, k ∈ part ↔ p k) :
    part = whole.filter (fun k => decide (p k)) := by
  have hSelected :
      part.filter (fun k => decide (p k)) = part := by
    apply List.filter_eq_self.mpr
    intro k hIn
    exact decide_eq_true ((hMem k (hPart.mem hIn)).mp hIn)
  have hWithin :
      part.Sublist (whole.filter (fun k => decide (p k))) := by
    rw [← hSelected]
    exact hPart.filter _
  apply hWithin.eq_of_length_le
  apply (List.subperm_of_subset (hNodup.filter _) ?_).length_le
  intro k hIn
  have hBoth := List.mem_filter.mp hIn
  exact (hMem k hBoth.1).mpr (of_decide_eq_true hBoth.2)
