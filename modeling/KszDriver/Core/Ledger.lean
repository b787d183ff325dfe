import Mathlib.Data.List.Basic

/-
  Ledgers of items that are taken out and given back.

  A ledger lists what happened to the items, newest entry
  first.  It is balanced when an item is taken out only while
  it is in, and given back only while it is out.  Between two
  takings of an item, a balanced ledger gives it back at most
  once.

  Key definitions include:
    * `Ledger.Entry`
    * `Ledger.IsOut`
    * `Ledger.Balanced`

  Key theorems include:
    * `Ledger.Balanced.count_back_le_one`
-/

------------------------------------------------------------
-- Entries
------------------------------------------------------------

namespace Ledger

/- An item is taken out or given back. -/
inductive Entry (κ : Type) where
| taken (item : κ)
| back (item : κ)
deriving DecidableEq, Repr

variable {κ : Type}

/- Whether an item is out, by its newest entry. -/
def IsOut (item : κ) : List (Entry κ) → Prop
| [] => False
| .taken other :: ledger =>
    other = item ∨ IsOut item ledger
| .back other :: ledger =>
    other ≠ item ∧ IsOut item ledger

/- Items are taken out when they are in, and conversely. -/
def Balanced : List (Entry κ) → Prop
| [] => True
| .taken item :: ledger =>
    ¬ IsOut item ledger ∧ Balanced ledger
| .back item :: ledger =>
    IsOut item ledger ∧ Balanced ledger

/- Older parts of a balanced ledger are balanced. -/
theorem Balanced.tail
    {entry : Entry κ}
    {ledger : List (Entry κ)}
    (hBalanced : Balanced (entry :: ledger)) :
    Balanced ledger := by
  cases entry with
  | taken item => exact hBalanced.2
  | back item => exact hBalanced.2

------------------------------------------------------------
-- At Most One Return
------------------------------------------------------------

variable [DecidableEq κ]

instance decidableIsOut (item : κ) :
    (ledger : List (Entry κ)) → Decidable (IsOut item ledger)
| [] => isFalse id
| .taken _ :: ledger =>
    let tail := decidableIsOut item ledger
    @instDecidableOr _ _ _ tail
| .back _ :: ledger =>
    let tail := decidableIsOut item ledger
    @instDecidableAnd _ _ _ tail

/- An item that is out has not come back since its taking. -/
theorem count_back_eq_zero
    {item : κ}
    {newer older : List (Entry κ)}
    (hNotTaken : Entry.taken item ∉ newer)
    (hOut : IsOut item (newer ++ older)) :
    newer.count (Entry.back item) = 0 := by
  induction newer with
  | nil => rfl
  | cons entry newer ih =>
      rw [List.mem_cons, not_or] at hNotTaken
      cases entry with
      | taken other =>
          have hOther : other ≠ item := by
            rintro rfl
            exact hNotTaken.1 rfl
          have hRest := hOut.resolve_left hOther
          simpa using ih hNotTaken.2 hRest
      | back other =>
          rcases hOut with ⟨hOther, hRest⟩
          simpa [hOther] using ih hNotTaken.2 hRest

/-
  Between one taking of an item and the next, a balanced
  ledger gives it back at most once.
-/
theorem Balanced.count_back_le_one
    {item : κ}
    {newer older : List (Entry κ)}
    (hBalanced : Balanced (newer ++ older))
    (hNotTaken : Entry.taken item ∉ newer) :
    newer.count (Entry.back item) ≤ 1 := by
  induction newer with
  | nil => exact Nat.zero_le 1
  | cons entry newer ih =>
      rw [List.mem_cons, not_or] at hNotTaken
      have hCount := ih hBalanced.tail hNotTaken.2
      cases entry with
      | taken other => simpa using hCount
      | back other =>
          by_cases hOther : other = item
          · subst hOther
            have hNone :=
              count_back_eq_zero hNotTaken.2 hBalanced.1
            simp [hNone]
          · simpa [hOther] using hCount

end Ledger
