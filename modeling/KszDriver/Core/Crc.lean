import Mathlib.Data.List.Basic

/-
  Cyclic redundancy checks, one bit after the other.

  A forward register takes its input in at the most
  significant bit and shifts to the left.  A reflected one
  takes it in at the least significant bit and shifts to the
  right, and may take in all bits of a byte before it shifts
  them out.  With mirrored polynomials the two are mirror
  images of each other.

  Key definitions include:
    * `Crc.forwardStep`, `Crc.reflectedStep`
    * `Crc.reflectedByte`, `Crc.reflected`

  Key theorems include:
    * `Crc.reverse_reflectedStep`
    * `Crc.reflectedByte_eq`
    * `Crc.reverse_reflected`
-/

------------------------------------------------------------
-- Registers
------------------------------------------------------------

namespace Crc

variable {w n : Nat}

/- One bit of input to a forward register. -/
def forwardStep
    (poly crc : BitVec w) (bit : Bool) : BitVec w :=
  if crc.msb ^^ bit then crc <<< 1 ^^^ poly else crc <<< 1

/- One bit of input to a reflected register. -/
def reflectedStep
    (poly crc : BitVec w) (bit : Bool) : BitVec w :=
  if crc.getLsbD 0 ^^ bit then crc >>> 1 ^^^ poly
  else crc >>> 1

/- The bits of a byte, the least significant one first. -/
def bitsOf (byte : BitVec n) : List Bool :=
  (List.range n).map byte.getLsbD

/- The byte is added to the register, which then takes in as
   many zeros as the byte has bits. -/
def reflectedByte
    (poly crc : BitVec w) (byte : BitVec n) : BitVec w :=
  (List.range n).foldl
    (fun crc _ => reflectedStep poly crc false)
    (crc ^^^ byte.setWidth w)

/- The reflected register after a string of bytes. -/
def reflected
    (poly preset : BitVec w) (text : List (BitVec n)) :
    BitVec w :=
  text.foldl (reflectedByte poly) preset

/- The forward register after a string of bytes, of which each
   one is taken in from its least significant bit on. -/
def forward
    (poly preset : BitVec w) (text : List (BitVec n)) :
    BitVec w :=
  text.foldl
    (fun crc byte => (bitsOf byte).foldl (forwardStep poly) crc)
    preset

------------------------------------------------------------
-- Mirror Images
------------------------------------------------------------

theorem reverse_xor (x y : BitVec w) :
    (x ^^^ y).reverse = x.reverse ^^^ y.reverse := by
  apply BitVec.eq_of_getLsbD_eq
  intro i hBit
  simp [BitVec.getLsbD_reverse, BitVec.getMsbD_xor]

theorem reverse_ushiftRight_one (x : BitVec w) :
    (x >>> 1).reverse = x.reverse <<< 1 := by
  apply BitVec.eq_of_getLsbD_eq
  intro i hBit
  rw [BitVec.getLsbD_reverse, BitVec.getMsbD_ushiftRight,
    BitVec.getLsbD_shiftLeft, BitVec.getLsbD_reverse]
  by_cases hFirst : i < 1
  · simp [hFirst]
  · simp [hFirst, hBit]

/- A step of the mirror image is the mirror image of a step. -/
theorem reverse_reflectedStep
    (poly crc : BitVec w)
    (bit : Bool) :
    (reflectedStep poly crc bit).reverse =
      forwardStep poly.reverse crc.reverse bit := by
  unfold reflectedStep forwardStep
  rw [BitVec.msb_reverse]
  split
  · rw [reverse_xor, reverse_ushiftRight_one]
  · rw [reverse_ushiftRight_one]

theorem reverse_foldl_reflectedStep
    (poly : BitVec w)
    (bits : List Bool)
    (crc : BitVec w) :
    (bits.foldl (reflectedStep poly) crc).reverse =
      bits.foldl (forwardStep poly.reverse) crc.reverse := by
  induction bits generalizing crc with
  | nil => rfl
  | cons bit bits ih =>
      rw [List.foldl_cons, List.foldl_cons, ih,
        reverse_reflectedStep]

------------------------------------------------------------
-- Whole Bytes
------------------------------------------------------------

/- What was added to the register before is taken in as it
   gets to the end of it. -/
theorem reflectedStep_xor (poly crc added : BitVec w) :
    reflectedStep poly (crc ^^^ added) false =
      reflectedStep poly crc (added.getLsbD 0) ^^^
        added >>> 1 := by
  unfold reflectedStep
  rw [BitVec.getLsbD_xor, Bool.xor_false,
    BitVec.ushiftRight_xor_distrib]
  split
  · rw [BitVec.xor_assoc, BitVec.xor_assoc,
      BitVec.xor_comm poly]
  · rfl

theorem foldl_reflectedStep_xor
    (poly crc added : BitVec w)
    (turns : Nat) :
    (List.range turns).foldl
        (fun crc _ => reflectedStep poly crc false)
        (crc ^^^ added) =
      ((List.range turns).map added.getLsbD).foldl
          (reflectedStep poly) crc ^^^
        added >>> turns := by
  induction turns with
  | zero => simp
  | succ turns ih =>
      rw [List.range_succ, List.foldl_append, ih,
        List.map_append, List.foldl_append, List.foldl_cons,
        List.foldl_nil, reflectedStep_xor,
        BitVec.getLsbD_ushiftRight, Nat.add_zero,
        ← BitVec.shiftRight_add]
      rfl

/- A byte that is added first is taken in bit by bit. -/
theorem reflectedByte_eq
    (poly crc : BitVec w)
    (byte : BitVec n)
    (hFits : n ≤ w) :
    reflectedByte poly crc byte =
      (bitsOf byte).foldl (reflectedStep poly) crc := by
  have hGone : byte.setWidth w >>> n = 0#w := by
    apply BitVec.eq_of_getLsbD_eq
    intro i hBit
    simp [BitVec.getLsbD_ushiftRight]
  have hBits :
      (List.range n).map (byte.setWidth w).getLsbD =
        bitsOf byte := by
    apply List.map_congr_left
    intro i hTurn
    have hBit : i < w :=
      Nat.lt_of_lt_of_le (List.mem_range.mp hTurn) hFits
    simp [hBit]
  unfold reflectedByte
  rw [foldl_reflectedStep_xor, hGone, hBits, BitVec.xor_zero]

/- The registers are mirror images after any string. -/
theorem reverse_reflected
    (poly preset : BitVec w)
    (text : List (BitVec n))
    (hFits : n ≤ w) :
    (reflected poly preset text).reverse =
      forward poly.reverse preset.reverse text := by
  unfold reflected forward
  induction text generalizing preset with
  | nil => rfl
  | cons byte text ih =>
      rw [List.foldl_cons, List.foldl_cons, ih,
        reflectedByte_eq poly preset byte hFits,
        reverse_foldl_reflectedStep]

end Crc
