import KszDriver.Core.Recording
import Mathlib.Data.List.GetD

/-
  Programs that load and store fields of buffers in a memory
  of bytes.

  An operation names its buffer by the pointer it goes
  through, and a field by its offset.  What no operation of
  a run stores to is unchanged after it.

  Key definitions include:
    * `BufferOp`, `BufferOp.exec`
    * `BufferOp.Inside`

  Key theorems include:
    * `Buffer.load_store`, `Buffer.load_store_apart`
    * `Buffer.run_unchanged`
-/

------------------------------------------------------------
-- Loading and Storing
------------------------------------------------------------

namespace Buffer

variable {β : Type}

/- The `n` bytes at an address. -/
def load (m : Nat → β) (i n : Nat) : List β :=
  (List.range n).map (fun k => m (i + k))

/- The memory with these bytes at an address. -/
def store (m : Nat → β) (i : Nat) (bytes : List β) :
    Nat → β :=
  fun j =>
    if i ≤ j then bytes.getD (j - i) (m j) else m j

theorem store_inside
    (m : Nat → β)
    {i k : Nat}
    {bytes : List β}
    (hInside : k < bytes.length) :
    store m i bytes (i + k) = bytes[k] := by
  unfold store
  rw [if_pos (Nat.le_add_right i k), Nat.add_sub_cancel_left]
  exact List.getD_eq_getElem _ _ hInside

theorem store_outside
    (m : Nat → β)
    {i j : Nat}
    {bytes : List β}
    (hOutside : j < i ∨ i + bytes.length ≤ j) :
    store m i bytes j = m j := by
  unfold store
  rcases hOutside with hBefore | hBehind
  · exact if_neg (Nat.not_le.mpr hBefore)
  · have hEnd : bytes.length ≤ j - i := by
      omega
    rw [List.getD_eq_default _ _ hEnd, ite_self]

/- What was stored is loaded again. -/
theorem load_store
    (m : Nat → β)
    (i : Nat)
    (bytes : List β) :
    load (store m i bytes) i bytes.length = bytes := by
  unfold load
  apply List.ext_getElem
  · simp
  · intro k _ hInside
    rw [List.getElem_map, List.getElem_range]
    exact store_inside m hInside

/- A store elsewhere is not seen. -/
theorem load_store_apart
    (m : Nat → β)
    {i j n : Nat}
    {bytes : List β}
    (hApart : j + n ≤ i ∨ i + bytes.length ≤ j) :
    load (store m i bytes) j n = load m j n := by
  apply List.map_congr_left
  intro k hInside
  have hBound := List.mem_range.mp hInside
  apply store_outside
  omega

end Buffer

------------------------------------------------------------
-- Operations
------------------------------------------------------------

/- A field of the buffer at `base` is loaded or stored. -/
inductive BufferOp (β : Type) where
| load (base offset size : Nat)
| store (base offset : Nat) (bytes : List β)

namespace BufferOp

variable {β : Type}

abbrev Ret : BufferOp β → Type
| .load _ _ _ => List β
| .store _ _ _ => Unit

def exec :
    (op : BufferOp β) → (Nat → β) → op.Ret × (Nat → β)
| .load base offset size, m =>
    (Buffer.load m (base + offset) size, m)
| .store base offset bytes, m =>
    ((), Buffer.store m (base + offset) bytes)

/- The pointer that an operation goes through. -/
def base : BufferOp β → Nat
| .load base _ _ => base
| .store base _ _ => base

/- An operation goes through the pointer `base`, and a store
   to the first `capacity` bytes of the buffer there. -/
def Inside (base capacity : Nat) : BufferOp β → Prop
| .load other _ _ => other = base
| .store other offset bytes =>
    other = base ∧ offset + bytes.length ≤ capacity

theorem Inside.base_eq
    {op : BufferOp β}
    {base capacity : Nat}
    (hInside : op.Inside base capacity) :
    op.base = base := by
  cases op with
  | load other offset size => exact hInside
  | store other offset bytes => exact hInside.1

end BufferOp

namespace Buffer

variable {α β : Type}

/-
  A run whose stores stay inside of a buffer changes nothing
  outside of it.
-/
theorem run_unchanged
    {p : Program (BufferOp β) BufferOp.Ret α}
    {m : Nat → β}
    {base capacity j : Nat}
    (hInside : ∀ op ∈ p.performed BufferOp.exec m,
      op.Inside base capacity)
    (hOutside : j < base ∨ base + capacity ≤ j) :
    (p.run BufferOp.exec m).2 j = m j := by
  induction p generalizing m with
  | done value => rfl
  | step op next ih =>
      have hRest := ih _ (fun op hLater =>
        hInside op (List.mem_cons_of_mem _ hLater))
      have hFirst := hInside op List.mem_cons_self
      rw [Program.run_step, hRest]
      cases op with
      | load other offset size => rfl
      | store other offset bytes =>
          rcases hFirst with ⟨rfl, hBound⟩
          apply store_outside
          omega

end Buffer
