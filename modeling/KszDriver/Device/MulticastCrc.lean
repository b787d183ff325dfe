import KszDriver.Core.Crc
import KszDriver.Device.Types
import KszDriver.Nic.MulticastFilter

/-
  The checksum of the low level driver, the one of `getmcaf`
  (`device.c`), and the standard CRC-32.

  The standard register shifts to the right, those of the
  driver shift to the left: they are its mirror image.

  Main declarations:
    * `calcCrcLoop`, `mcafCrc`, `getmcaf`
    * `crc32Register`
    * `calcCrcLoop_of_long`
    * `ksz8851CalcCrc_standard`
    * `mcafBit_getmcaf`
-/

------------------------------------------------------------
-- Two Implementations
------------------------------------------------------------

namespace KszDriver

/- `for (i = 0; i < length; i++)`, for at most `turns` turns.
   The counter has sixteen bits. -/
def calcCrcLoop (data : Memory) (length : Nat) :
    Nat → UWORD → ULONG → Option ULONG
| 0, _, _ => none
| turns + 1, i, crc =>
    if i.toNat < length then
      calcCrcLoop data length turns (i + 1#16)
        ((List.range 8).foldl (crcBit (data i.toNat)) crc)
    else some crc

/- One turn of the inner loop of `getmcaf`. -/
def mcafTurn : ULONG × UBYTE → ULONG × UBYTE
| (crc, c) =>
    ((if (if crc &&& 0x80000000#32 ≠ 0#32 then 1#32
          else 0#32) ^^^ (c &&& 1#8).setWidth 32 ≠ 0#32
      then crc <<< 1 ^^^ (0x04c11db6#32 ||| 1#32)
      else crc <<< 1), c >>> 1)

/- `for (i = 8; --i >= 0;)` -/
def mcafByte (crc : ULONG) (c : UBYTE) : ULONG :=
  (mcafTurn^[8] (crc, c)).1

/- What `getmcaf` computes for an address, before it shifts
   by 26. -/
def mcafCrc (addr : MacAddr) : ULONG :=
  (List.ofFn addr).foldl mcafByte 0xffffffff#32

/- The word of `af` with this index. -/
def filterWord (i : Nat) : Fin 2 :=
  ⟨i % 2, Nat.mod_lt i Nat.two_pos⟩

/- Turn on the bit of an address. -/
def mcafEntry (af : Fin 2 → ULONG) (addr : MacAddr) :
    Fin 2 → ULONG :=
  let crc := mcafCrc addr >>> 26
  let word := filterWord (crc >>> 5).toNat
  Function.update af word
    (af word ||| 1#32 <<< (crc &&& 0x1f#32 ^^^ 24#32).toNat)

/- The filter for the addresses in the list. -/
def getmcaf (libFlags : UBYTE) (mcaf : List MacAddr) :
    Fin 2 → ULONG :=
  if libFlags.setWidth 32 &&& etherufPromisc ≠ 0#32 then
    fun _ => 0xffffffff#32
  else mcaf.foldl mcafEntry (fun _ => 0#32)

------------------------------------------------------------
-- The Standard
------------------------------------------------------------

/- The register of the reflected CRC-32 after a string, without
   the final complement. -/
def crc32Register (text : List UBYTE) : ULONG :=
  Crc.reflected 0xEDB88320#32 0xFFFFFFFF#32 text

/- Its mirror image, bit by bit. -/
theorem reverse_crc32Register (text : List UBYTE) :
    (crc32Register text).reverse =
      Crc.forward 0x04C11DB7#32 0xFFFFFFFF#32 text := by
  have hPoly : (0xEDB88320#32).reverse = 0x04C11DB7#32 := by
    decide +kernel
  have hPreset : (0xFFFFFFFF#32).reverse = 0xFFFFFFFF#32 := by
    decide +kernel
  unfold crc32Register
  rw [Crc.reverse_reflected _ _ _ (by decide), hPoly, hPreset]

------------------------------------------------------------
-- One Bit
------------------------------------------------------------

/- A word that has at most its lowest bit set. -/
theorem ne_zero_iff_of_bit
    {word : ULONG}
    {bit : Bool}
    (hWord : word = (BitVec.ofBool bit).setWidth 32) :
    word ≠ 0#32 ↔ bit = true := by
  rw [hWord]
  cases bit <;> decide

theorem crcBit_eq (byte : UBYTE) (crc : ULONG) (j : Nat) :
    crcBit byte crc j =
      Crc.forwardStep 0x04C11DB7#32 crc (byte.getLsbD j) := by
  have hWord :
      (crc >>> 31 ^^^ (byte >>> j).setWidth 32) &&& 1#32 =
        (BitVec.ofBool (crc.msb ^^ byte.getLsbD j)).setWidth
          32 := by
    rw [BitVec.and_one_eq_setWidth_ofBool_getLsbD,
      BitVec.getLsbD_xor, BitVec.getLsbD_ushiftRight,
      BitVec.getLsbD_setWidth, BitVec.getLsbD_ushiftRight,
      BitVec.msb_eq_getLsbD_last]
    rfl
  unfold crcBit Crc.forwardStep
  rw [if_congr (ne_zero_iff_of_bit hWord) rfl rfl]

/- The highest bit of a word, as a number. -/
theorem highBit_eq (crc : ULONG) :
    (if crc &&& 0x80000000#32 ≠ 0#32 then 1#32 else 0#32) =
      (BitVec.ofBool crc.msb).setWidth 32 := by
  have hMask : 0x80000000#32 = BitVec.twoPow 32 31 := by
    decide
  rw [hMask, BitVec.and_twoPow, BitVec.msb_eq_getLsbD_last]
  cases crc.getLsbD 31 <;> simp

theorem mcafTurn_eq (crc : ULONG) (c : UBYTE) :
    mcafTurn (crc, c) =
      (Crc.forwardStep 0x04C11DB7#32 crc (c.getLsbD 0),
        c >>> 1) := by
  have hWord :
      (if crc &&& 0x80000000#32 ≠ 0#32 then 1#32 else 0#32) ^^^
          (c &&& 1#8).setWidth 32 =
        (BitVec.ofBool (crc.msb ^^ c.getLsbD 0)).setWidth
          32 := by
    rw [highBit_eq, BitVec.and_one_eq_setWidth_ofBool_getLsbD]
    cases crc.msb <;> cases c.getLsbD 0 <;> rfl
  unfold mcafTurn Crc.forwardStep
  dsimp only
  rw [if_congr (ne_zero_iff_of_bit hWord) rfl rfl]
  rfl

/- Eight turns take in the eight bits of a byte. -/
theorem mcafByte_eq (crc : ULONG) (c : UBYTE) :
    mcafByte crc c =
      (Crc.bitsOf c).foldl (Crc.forwardStep 0x04C11DB7#32)
        crc := by
  have hTurns (turns : Nat) :
      mcafTurn^[turns] (crc, c) =
        (((List.range turns).map c.getLsbD).foldl
          (Crc.forwardStep 0x04C11DB7#32) crc,
          c >>> turns) := by
    induction turns with
    | zero => simp
    | succ turns ih =>
        rw [Function.iterate_succ_apply', ih, mcafTurn_eq,
          List.range_succ, List.map_append, List.foldl_append,
          BitVec.getLsbD_ushiftRight, Nat.add_zero,
          ← BitVec.shiftRight_add]
        rfl
  unfold mcafByte Crc.bitsOf
  rw [hTurns]

------------------------------------------------------------
-- Whole Strings
------------------------------------------------------------

/- The low level driver computes the forward register. -/
theorem ksz8851CalcCrc_eq (data : Memory) (length : Nat) :
    ksz8851CalcCrc data length =
      Crc.forward 0x04C11DB7#32 0xFFFFFFFF#32
        (data.bytes length) := by
  unfold ksz8851CalcCrc Crc.forward Crc.bitsOf Memory.bytes
  rw [List.foldl_map]
  congr
  funext crc i
  rw [List.foldl_map]
  congr
  funext crc j
  exact crcBit_eq (data i) crc j

/- So does `getmcaf`. -/
theorem mcafCrc_eq (addr : MacAddr) :
    mcafCrc addr = ksz8851CalcCrc addr.memory 6 := by
  have hBytes : addr.memory.bytes 6 = List.ofFn addr := by
    simp [Memory.bytes, MacAddr.memory, List.range_succ,
      List.ofFn_succ]
  rw [ksz8851CalcCrc_eq, hBytes]
  unfold mcafCrc Crc.forward
  congr
  funext crc c
  exact mcafByte_eq crc c

/- The counter gets to the end of a string that it can count,
   and the loop ends there. -/
theorem calcCrcLoop_eq
    {data : Memory}
    {length turns i : Nat}
    {crc : ULONG}
    (hLength : length ≤ 65535)
    (hStart : i ≤ length)
    (hTurns : length - i < turns) :
    calcCrcLoop data length turns (BitVec.ofNat 16 i) crc =
      some ((List.range' i (length - i)).foldl
        (fun crc i =>
          (List.range 8).foldl (crcBit (data i)) crc)
        crc) := by
  have hCount : (BitVec.ofNat 16 i).toNat = i := by
    rw [BitVec.toNat_ofNat]
    omega
  induction turns generalizing i crc with
  | zero => omega
  | succ turns ih =>
      unfold calcCrcLoop
      rw [hCount]
      by_cases hMore : i < length
      · have hNext :
            BitVec.ofNat 16 i + 1#16 = BitVec.ofNat 16 (i + 1) :=
          (BitVec.ofNat_add i 1).symm
        have hLeft : length - i = length - (i + 1) + 1 := by
          omega
        have hCount' : (BitVec.ofNat 16 (i + 1)).toNat = i + 1 := by
          rw [BitVec.toNat_ofNat]
          omega
        rw [if_pos hMore, hNext, ih (by omega) (by omega) hCount',
          hLeft, List.range'_succ, List.foldl_cons]
      · have hEnd : length - i = 0 := by omega
        rw [if_neg hMore, hEnd]
        rfl

/- For a longer string the loop does not end. -/
theorem calcCrcLoop_of_long
    {data : Memory}
    {length : Nat}
    (hLength : 65535 < length)
    (turns : Nat)
    (i : UWORD)
    (crc : ULONG) :
    calcCrcLoop data length turns i crc = none := by
  induction turns generalizing i crc with
  | zero => rfl
  | succ turns ih =>
      have hMore : i.toNat < length := by
        have hCount := i.isLt
        omega
      unfold calcCrcLoop
      rw [if_pos hMore]
      exact ih _ _

/-
  The checksum of a string that the counter can count is the
  mirror image of the standard register, and for an address
  `getmcaf` computes the same.
-/
theorem ksz8851CalcCrc_standard :
    (∀ (data : Memory) (length turns : Nat),
      length ≤ 65535 → length < turns →
        calcCrcLoop data length turns 0#16 0xFFFFFFFF#32 =
          some (crc32Register (data.bytes length)).reverse) ∧
      (∀ (data : Memory) (length : Nat), length ≤ 65535 →
        ksz8851CalcCrc data length =
          (crc32Register (data.bytes length)).reverse) ∧
      ∀ addr : MacAddr,
        mcafCrc addr = ksz8851CalcCrc addr.memory 6 := by
  have hStandard (data : Memory) (length : Nat) :
      ksz8851CalcCrc data length =
        (crc32Register (data.bytes length)).reverse := by
    rw [reverse_crc32Register, ksz8851CalcCrc_eq]
  refine ⟨?_, fun data length _ => hStandard data length,
    mcafCrc_eq⟩
  intro data length turns hLength hTurns
  have hLoop :=
    @calcCrcLoop_eq data length turns 0 0xFFFFFFFF#32 hLength
      (Nat.zero_le length) hTurns
  rw [Nat.sub_zero, ← List.range_eq_range'] at hLoop
  rw [← hStandard]
  exact hLoop

/- The check string of nine digits. -/
theorem ksz8851CalcCrc_standard_digits :
    let digits : Memory := fun i => BitVec.ofNat 8 (0x31 + i)
    crc32Register (digits.bytes 9) = ~~~0xCBF43926#32 ∧
      calcCrcLoop digits 9 10 0#16 0xFFFFFFFF#32 =
        some (crc32Register (digits.bytes 9)).reverse ∧
      ksz8851CalcCrc digits 9 =
        (crc32Register (digits.bytes 9)).reverse := by
  intro digits
  exact ⟨by decide +kernel,
    ksz8851CalcCrc_standard.1 digits 9 10 (by decide)
      (by decide),
    ksz8851CalcCrc_standard.2.1 digits 9 (by decide)⟩

------------------------------------------------------------
-- The Filter of the Device
------------------------------------------------------------

/- Bit `k` of the filter.  The four bytes of a word are stored
   the other way round. -/
def mcafBit (af : Fin 2 → ULONG) (k : Nat) : Bool :=
  (af (filterWord (k / 32))).getLsbD (k % 32 ^^^ 24)

/- Which bit of which word an address turns on. -/
theorem mcafEntry_eq (af : Fin 2 → ULONG) (addr : MacAddr) :
    mcafEntry af addr =
      Function.update af (filterWord (addr.hashIndex / 32))
        (af (filterWord (addr.hashIndex / 32)) |||
          1#32 <<< (addr.hashIndex % 32 ^^^ 24)) := by
  have hTop :
      (mcafCrc addr >>> 26).toNat = addr.hashIndex := by
    rw [mcafCrc_eq, BitVec.toNat_ushiftRight,
      Nat.shiftRight_eq_div_pow]
    rfl
  have hWord :
      (mcafCrc addr >>> 26 >>> 5).toNat =
        addr.hashIndex / 32 := by
    rw [BitVec.toNat_ushiftRight, hTop,
      Nat.shiftRight_eq_div_pow]
  have hMask : (0x1f#32).toNat = 2 ^ 5 - 1 := rfl
  have hPlace :
      (mcafCrc addr >>> 26 &&& 0x1f#32 ^^^ 24#32).toNat =
        addr.hashIndex % 32 ^^^ 24 := by
    rw [BitVec.toNat_xor, BitVec.toNat_and, hTop, hMask,
      Nat.and_two_pow_sub_one_eq_mod]
    rfl
  unfold mcafEntry
  dsimp only
  rw [hWord, hPlace]

/- An address turns on its own bit. -/
theorem mcafBit_mcafEntry
    (af : Fin 2 → ULONG)
    (addr : MacAddr)
    {k : Nat}
    (hIndex : k < 64) :
    mcafBit (mcafEntry af addr) k = true ↔
      mcafBit af k = true ∨ addr.hashIndex = k := by
  have hRange : addr.hashIndex < 64 := topSixBits_lt _
  rw [mcafEntry_eq]
  unfold mcafBit
  generalize addr.hashIndex = m at hRange ⊢
  by_cases hWord :
      filterWord (k / 32) = filterWord (m / 32)
  · have hBit : k % 32 ^^^ 24 < 32 :=
      Nat.xor_lt_two_pow (n := 5) (by omega) (by decide)
    have hSame :
        k % 32 ^^^ 24 = m % 32 ^^^ 24 ↔ m = k := by
      have hValues : k / 32 % 2 = m / 32 % 2 :=
        congrArg Fin.val hWord
      constructor
      · intro hPlace
        have hUndone := congrArg (· ^^^ 24) hPlace
        simp only [Nat.xor_assoc, Nat.xor_self, Nat.xor_zero]
          at hUndone
        omega
      · rintro rfl
        rfl
    rw [hWord, Function.update_self,
      getLsbD_or_one_shiftLeft _ hBit]
    simp [hSame]
  · have hOther : m ≠ k := by
      rintro rfl
      exact hWord rfl
    rw [Function.update_of_ne hWord]
    simp [hOther]

theorem mcafBit_foldl
    (af : Fin 2 → ULONG)
    (mcaf : List MacAddr)
    {k : Nat}
    (hIndex : k < 64) :
    mcafBit (mcaf.foldl mcafEntry af) k = true ↔
      mcafBit af k = true ∨
        ∃ addr ∈ mcaf, addr.hashIndex = k := by
  induction mcaf generalizing af with
  | nil => simp
  | cons addr mcaf ih =>
      rw [List.foldl_cons, ih, mcafBit_mcafEntry _ _ hIndex,
        or_assoc]
      simp only [List.mem_cons, exists_eq_or_imp]

/-
  In the promiscuous mode every address passes the filter;
  else the bits are those that the addresses in the list are
  hashed to.
-/
theorem mcafBit_getmcaf
    (libFlags : UBYTE)
    (mcaf : List MacAddr)
    {k : Nat}
    (hIndex : k < 64) :
    mcafBit (getmcaf libFlags mcaf) k = true ↔
      libFlags.setWidth 32 &&& etherufPromisc ≠ 0#32 ∨
        ∃ addr ∈ mcaf, addr.hashIndex = k := by
  unfold getmcaf
  by_cases hPromisc :
      libFlags.setWidth 32 &&& etherufPromisc ≠ 0#32
  · have hBit : k % 32 ^^^ 24 < 32 :=
      Nat.xor_lt_two_pow (n := 5) (by omega) (by decide)
    have hAll : 0xffffffff#32 = BitVec.allOnes 32 := by
      decide
    rw [if_pos hPromisc]
    unfold mcafBit
    rw [hAll, BitVec.getLsbD_allOnes]
    simp [hBit, hPromisc]
  · have hNone : ¬ mcafBit (fun _ => 0#32) k = true := by
      simp [mcafBit]
    rw [if_neg hPromisc, mcafBit_foldl _ _ hIndex,
      or_iff_right hNone, or_iff_right hPromisc]

end KszDriver
