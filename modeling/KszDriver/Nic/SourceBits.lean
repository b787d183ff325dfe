import KszDriver.Nic.Interrupts
import Mathlib.Tactic.IntervalCases

/-
  The bits of the interrupt sources in the words of the
  status and enable registers.

  Main declarations:
    * `link_in_iff`, `receive_in_iff`, `overrun_in_iff`
    * `Source.in_or_iff`, `Source.in_and_iff`
    * `OnlySources`
    * `eq_onlineIerMask`
-/

------------------------------------------------------------
-- Source Bits
------------------------------------------------------------

namespace KszDriver

/- Testing a status bit is testing the bit of its source. -/
theorem and_twoPow_ne_zero_iff
    (word : UWORD)
    {i : Nat}
    (hBit : i < 16) :
    word &&& BitVec.twoPow 16 i ≠ 0#16 ↔
      word.getLsbD i = true := by
  rw [BitVec.and_twoPow]
  have hPow : BitVec.twoPow 16 i ≠ 0#16 := by
    intro hZero
    have hBits := congrArg (fun v => v.getLsbD i) hZero
    simp [hBit] at hBits
  by_cases hSet : word.getLsbD i = true
  · simp [hSet, hPow]
  · simp [hSet]

theorem link_in_iff (word : UWORD) :
    word &&& isrLcis ≠ 0#16 ↔ Source.link.In word :=
  and_twoPow_ne_zero_iff word (by decide : 15 < 16)

theorem receive_in_iff (word : UWORD) :
    word &&& isrRxis ≠ 0#16 ↔ Source.receive.In word :=
  and_twoPow_ne_zero_iff word (by decide : 13 < 16)

theorem overrun_in_iff (word : UWORD) :
    word &&& isrRxois ≠ 0#16 ↔ Source.overrun.In word :=
  and_twoPow_ne_zero_iff word (by decide : 11 < 16)

namespace Source

theorem bit_lt (src : Source) : src.bit < 16 := by
  cases src <;> decide

@[simp] theorem in_or_iff
    (src : Source) (v w : UWORD) :
    src.In (v ||| w) ↔ src.In v ∨ src.In w := by
  simp [In, BitVec.getLsbD_or]

@[simp] theorem in_and_iff
    (src : Source) (v w : UWORD) :
    src.In (v &&& w) ↔ src.In v ∧ src.In w := by
  simp [In, BitVec.getLsbD_and]

@[simp] theorem in_not_iff
    (src : Source) (v : UWORD) :
    src.In (~~~v) ↔ ¬ src.In v := by
  simp [In, bit_lt]

theorem not_in_zero (src : Source) : ¬ src.In 0#16 := by
  cases src <;> decide

@[simp] theorem in_onlineIerMask (src : Source) :
    src.In onlineIerMask := by
  cases src <;> decide

/- Every bit of the enabled sources belongs to a source. -/
theorem exists_of_bit
    {i : Nat}
    (hBit : onlineIerMask.getLsbD i = true) :
    ∃ src : Source, src.bit = i := by
  have hLt : i < 16 := BitVec.lt_of_getLsbD hBit
  interval_cases i
  all_goals first
    | exact ⟨.overrun, rfl⟩
    | exact ⟨.receive, rfl⟩
    | exact ⟨.link, rfl⟩
    | exact absurd hBit (by decide)

end Source

/- A word has no bits but those of the sources. -/
def OnlySources (word : UWORD) : Prop :=
  ∀ i, word.getLsbD i = true →
    onlineIerMask.getLsbD i = true

/- The word with exactly the bits of the sources. -/
theorem eq_onlineIerMask
    {word : UWORD}
    (hOnly : OnlySources word)
    (hAll : ∀ src : Source, src.In word) :
    word = onlineIerMask := by
  apply BitVec.eq_of_getLsbD_eq
  intro i _
  cases hBit : onlineIerMask.getLsbD i with
  | true =>
      rcases Source.exists_of_bit hBit with ⟨src, rfl⟩
      exact hAll src
  | false =>
      by_contra hSet
      have hMask := hOnly i (by simpa using hSet)
      simp [hMask] at hBit

theorem onlySources_of_and_not
    {word : UWORD}
    (hNone : word &&& ~~~onlineIerMask = 0#16) :
    OnlySources word := by
  intro i hBit
  have hLt : i < 16 := BitVec.lt_of_getLsbD hBit
  have hBits := congrArg (fun v => v.getLsbD i) hNone
  simpa [hBit, hLt] using hBits

theorem OnlySources.or
    {v w : UWORD}
    (hLeft : OnlySources v)
    (hRight : OnlySources w) :
    OnlySources (v ||| w) := by
  intro i hBit
  rw [BitVec.getLsbD_or, Bool.or_eq_true] at hBit
  exact hBit.elim (hLeft i) (hRight i)

theorem OnlySources.and_left
    {v : UWORD}
    (hLeft : OnlySources v)
    (w : UWORD) :
    OnlySources (v &&& w) := by
  intro i hBit
  rw [BitVec.getLsbD_and, Bool.and_eq_true] at hBit
  exact hLeft i hBit.1

/- A sources-only word passes no test for another bit. -/
theorem OnlySources.and_eq_zero
    {word : UWORD}
    (hOnly : OnlySources word)
    {mask : UWORD}
    (hMask : onlineIerMask &&& mask = 0#16) :
    word &&& mask = 0#16 := by
  apply BitVec.eq_of_getLsbD_eq
  intro i _
  have hBits := congrArg (fun v => v.getLsbD i) hMask
  simp only [BitVec.getLsbD_and, BitVec.getLsbD_zero] at *
  cases hWord : word.getLsbD i with
  | true => simpa [hOnly i hWord] using hBits
  | false => simp

/- `IER` loses the enable bit of a pending source only. -/
theorem maskPending_le
    (isr status enableBit ier : UWORD)
    {i : Nat}
    (hBit :
      (maskPending isr status enableBit ier).getLsbD i =
        true) :
    ier.getLsbD i = true := by
  unfold maskPending at hBit
  split at hBit
  · rw [BitVec.getLsbD_and, Bool.and_eq_true] at hBit
    exact hBit.1
  · exact hBit

end KszDriver
