import Mathlib.Data.List.Basic

/-
  Byte streams that cross a port word by word.

  A word order says which two bytes make up a word and in
  which order they cross the port.  Sent in this order, the
  words that are read from a memory area carry its bytes as
  they lie there.

  Key definitions include:
    * `WordOrder`
    * `WordOrder.bytes`, `WordOrder.words`
    * `WordOrder.store`

  Key theorems include:
    * `WordOrder.words_add`, `WordOrder.words_congr`
    * `WordOrder.bytes_words`
    * `WordOrder.length_bytes`
    * `WordOrder.store_outside`, `WordOrder.store_inside`
-/

------------------------------------------------------------
-- Word Orders
------------------------------------------------------------

/-
  An order of the two bytes of a word: `first` crosses the
  port before `second`, and `join` puts a word together.
-/
structure WordOrder (ω β : Type) where
  first : ω → β
  second : ω → β
  join : β → β → ω
  first_join : ∀ b b', first (join b b') = b
  second_join : ∀ b b', second (join b b') = b'

namespace WordOrder

variable {ω β : Type}

/- The bytes that a list of words carries, in order. -/
def bytes (order : WordOrder ω β) (ws : List ω) : List β :=
  ws.flatMap (fun w => [order.first w, order.second w])

/- The word that starts at byte `i` of a memory area. -/
def wordAt (order : WordOrder ω β) (m : Nat → β) (i : Nat) :
    ω :=
  order.join (m i) (m (i + 1))

/- The first `n` words of a memory area. -/
def words (order : WordOrder ω β) (m : Nat → β) (n : Nat) :
    List ω :=
  (List.range n).map (fun i => order.wordAt m (2 * i))

variable (order : WordOrder ω β)

@[simp] theorem bytes_nil : order.bytes [] = [] := rfl

@[simp] theorem bytes_singleton (w : ω) :
    order.bytes [w] = [order.first w, order.second w] := rfl

@[simp] theorem bytes_append (ws ws' : List ω) :
    order.bytes (ws ++ ws') =
      order.bytes ws ++ order.bytes ws' :=
  List.flatMap_append

/- Two bytes cross the port with every word. -/
theorem length_bytes (ws : List ω) :
    (order.bytes ws).length = 2 * ws.length := by
  induction ws with
  | nil => rfl
  | cons w ws ih =>
      rw [← List.singleton_append, bytes_append,
        List.length_append, ih, List.length_append]
      simp
      omega

@[simp] theorem length_words (m : Nat → β) (n : Nat) :
    (order.words m n).length = n := by
  simp [words]

theorem words_succ (m : Nat → β) (n : Nat) :
    order.words m (n + 1) =
      order.words m n ++ [order.wordAt m (2 * n)] := by
  unfold words
  rw [List.range_succ, List.map_append]
  rfl

/- The words of a memory area, in two parts. -/
theorem words_add (m : Nat → β) (n k : Nat) :
    order.words m (n + k) =
      order.words m n ++
        order.words (fun i => m (2 * n + i)) k := by
  unfold words
  rw [List.range_add, List.map_append, List.map_map]
  congr 1
  apply List.map_congr_left
  intro i _
  unfold wordAt
  dsimp only [Function.comp_apply]
  rw [Nat.mul_add, Nat.add_assoc]

/- The words are up to the bytes. -/
theorem words_congr
    {m m' : Nat → β}
    {n : Nat}
    (hSame : ∀ i, i < 2 * n → m i = m' i) :
    order.words m n = order.words m' n := by
  unfold words
  apply List.map_congr_left
  intro i hIn
  rw [List.mem_range] at hIn
  unfold wordAt
  rw [hSame (2 * i) (by omega), hSame (2 * i + 1) (by omega)]

/- The words of a memory area carry its bytes. -/
theorem bytes_words (m : Nat → β) (n : Nat) :
    order.bytes (order.words m n) =
      (List.range (2 * n)).map m := by
  induction n with
  | zero => rfl
  | succ n ih =>
      have hDouble : 2 * (n + 1) = 2 * n + 1 + 1 := by
        omega
      rw [words_succ, bytes_append, ih, hDouble,
        List.range_succ, List.range_succ]
      simp [wordAt, order.first_join, order.second_join]

------------------------------------------------------------
-- Storing What Was Received
------------------------------------------------------------

/-
  A memory area into which words are stored one after the
  other, from word `i` on, in the order in which their bytes
  crossed the port.
-/
def store (m : Nat → β) (i : Nat) : List ω → Nat → β
| [] => m
| w :: ws =>
    store
      (fun j =>
        if j = 2 * i then order.first w
        else if j = 2 * i + 1 then order.second w
        else m j) (i + 1) ws

/- Bytes in front of the stored words and behind them stay. -/
theorem store_outside
    (m : Nat → β)
    {i j : Nat}
    {ws : List ω}
    (hOutside : j < 2 * i ∨ 2 * i + 2 * ws.length ≤ j) :
    order.store m i ws j = m j := by
  induction ws generalizing m i with
  | nil => rfl
  | cons w ws ih =>
      rw [List.length_cons] at hOutside
      unfold store
      rw [ih _ (by omega), if_neg (by omega),
        if_neg (by omega)]

/- The stored bytes are those that crossed the port. -/
theorem store_inside
    (m : Nat → β)
    {i j : Nat}
    {ws : List ω}
    (hInside : j < 2 * ws.length) :
    (order.bytes ws)[j]? = some (order.store m i ws (2 * i + j))
      := by
  induction ws generalizing m i j with
  | nil => simp at hInside
  | cons w ws ih =>
      rw [List.length_cons] at hInside
      have hBytes :
          order.bytes (w :: ws) =
            order.first w :: order.second w ::
              order.bytes ws := rfl
      unfold store
      rw [hBytes]
      match j with
      | 0 =>
          rw [order.store_outside _ (by omega)]
          simp
      | 1 =>
          rw [order.store_outside _ (by omega)]
          simp
      | j + 2 =>
          have hAt : 2 * i + (j + 2) = 2 * (i + 1) + j := by
            omega
          rw [hAt]
          exact ih _ (by omega)

/- Read back, the stored words give the bytes that crossed. -/
theorem bytes_store (m : Nat → β) (ws : List ω) :
    (List.range (2 * ws.length)).map (order.store m 0 ws) =
      order.bytes ws := by
  apply List.ext_getElem?
  intro j
  by_cases hInside : j < 2 * ws.length
  · rw [order.store_inside m (i := 0) hInside]
    simp [hInside]
  · rw [List.getElem?_eq_none (by simpa using hInside),
      List.getElem?_eq_none (by
        rw [length_bytes]
        exact Nat.not_lt.mp hInside)]

end WordOrder
