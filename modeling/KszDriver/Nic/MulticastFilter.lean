import KszDriver.Nic.TxStream

/-
  The hash table of the multicast filter is the union of the
  bits of its active entries.

  Main declarations:
    * `topSixBits`, `MacFilterEntry.Marks`
    * `NicState.hashBit`
    * `tableBit_foldl`
    * `hashBit_ksz8851SetMulticastFilter`
-/

------------------------------------------------------------
-- Entries and Their Bits
------------------------------------------------------------

namespace KszDriver

/- The top six bits of a checksum. -/
def topSixBits (crc : ULONG) : Nat :=
  crc.toNat / 2 ^ 26

theorem topSixBits_lt (crc : ULONG) : topSixBits crc < 64 := by
  have hCrc := crc.isLt
  unfold topSixBits
  omega

/- The bit of the table that an address is hashed to. -/
def MacAddr.hashIndex (addr : MacAddr) : Nat :=
  topSixBits (ksz8851CalcCrc addr.memory 6)

namespace MacFilterEntry

/- The entry is in use. -/
def Active (entry : MacFilterEntry) : Prop :=
  entry.refCount > 0#16

instance (entry : MacFilterEntry) : Decidable entry.Active := by
  unfold Active
  infer_instance

/- The entry is in use and hashed to bit `k`. -/
def Marks (k : Nat) (entry : MacFilterEntry) : Prop :=
  entry.Active ∧ entry.addr.hashIndex = k

instance (k : Nat) (entry : MacFilterEntry) :
    Decidable (entry.Marks k) := by
  unfold Marks
  infer_instance

end MacFilterEntry

------------------------------------------------------------
-- The Table in Memory
------------------------------------------------------------

/- Bit `k` of a table of four words. -/
def tableBit (hashTable : Fin 4 → UWORD) (k : Nat) : Bool :=
  (hashTable ⟨k / 16 % 4, by omega⟩).getLsbD (k % 16)

/- The index is computed by a shift and a mask. -/
theorem toNat_index (crc : ULONG) :
    (crc >>> 26 &&& 0x3F#32).toNat = topSixBits crc := by
  have hLt := topSixBits_lt crc
  have hMask : (0x3F#32).toNat = 2 ^ 6 - 1 := rfl
  rw [BitVec.toNat_and, BitVec.toNat_ushiftRight, hMask,
    Nat.and_two_pow_sub_one_eq_mod, Nat.shiftRight_eq_div_pow]
  exact Nat.mod_eq_of_lt hLt

/- Setting one bit of a word. -/
theorem getLsbD_or_one_shiftLeft
    {w : Nat}
    (word : BitVec w)
    {m j : Nat}
    (hBit : j < w) :
    (word ||| 1#w <<< m).getLsbD j =
      (word.getLsbD j || decide (j = m)) := by
  have hWidth : 0 < w := Nat.zero_lt_of_lt hBit
  have hOne :
      (1#w <<< m).getLsbD j = decide (j = m) := by
    rw [BitVec.getLsbD_shiftLeft, BitVec.getLsbD_one]
    by_cases hSame : j = m
    · subst hSame
      simp [hBit, hWidth]
    · by_cases hBelow : j < m
      · simp [hBelow, hSame]
      · have hAbove : j - m ≠ 0 := by omega
        simp [hAbove, hSame]
  rw [BitVec.getLsbD_or, hOne]

/- An entry sets its own bit, if it is active. -/
theorem tableBit_hashEntry
    (hashTable : Fin 4 → UWORD)
    (entry : MacFilterEntry)
    {k : Nat}
    (hIndex : k < 64) :
    tableBit (hashEntry hashTable entry) k = true ↔
      tableBit hashTable k = true ∨ entry.Marks k := by
  unfold hashEntry MacFilterEntry.Marks MacFilterEntry.Active
  by_cases hActive : entry.refCount > 0#16
  · have hRange := topSixBits_lt
      (ksz8851CalcCrc entry.addr.memory 6)
    have hBit : k % 16 < 16 := by omega
    rw [if_pos hActive]
    dsimp only
    rw [toNat_index]
    unfold MacAddr.hashIndex tableBit
    generalize topSixBits
      (ksz8851CalcCrc entry.addr.memory 6) = m at hRange ⊢
    by_cases hWord :
        ⟨k / 16 % 4, by omega⟩ = Fin.ofNat 4 (m / 16)
    · have hSame : k % 16 = m % 16 ↔ m = k := by
        have hValues := congrArg Fin.val hWord
        simp only [Fin.val_ofNat] at hValues
        omega
      rw [hWord, Function.update_self,
        getLsbD_or_one_shiftLeft _ hBit]
      simp [hSame, hActive]
    · have hOther : m ≠ k := by
        rintro rfl
        exact hWord rfl
      rw [Function.update_of_ne hWord]
      simp [hOther]
  · rw [if_neg hActive]
    simp [hActive]

/- The table has the bits of all entries. -/
theorem tableBit_foldl
    (filter : List MacFilterEntry)
    (hashTable : Fin 4 → UWORD)
    {k : Nat}
    (hIndex : k < 64) :
    tableBit (filter.foldl hashEntry hashTable) k = true ↔
      tableBit hashTable k = true ∨
        ∃ entry ∈ filter, entry.Marks k := by
  induction filter generalizing hashTable with
  | nil => simp
  | cons entry filter ih =>
      rw [List.foldl_cons, ih, tableBit_hashEntry _ _ hIndex,
        or_assoc]
      simp only [List.mem_cons, exists_eq_or_imp]

------------------------------------------------------------
-- The Table in the Chip
------------------------------------------------------------

/- The registers that hold the table. -/
def regMahtr : Fin 4 → UBYTE
| 0 => regMahtr0
| 1 => regMahtr1
| 2 => regMahtr2
| 3 => regMahtr3

/- The table in the chip. -/
def NicState.hashTable (n : NicState) (i : Fin 4) : UWORD :=
  n.chip.reg (regMahtr i)

/- Bit `k` of the table in the chip. -/
def NicState.hashBit (n : NicState) (k : Nat) : Bool :=
  tableBit n.hashTable k

/- The registers of the table are four, and none of them is
   special to the chip. -/
theorem regMahtr_injective : Function.Injective regMahtr := by
  intro i j
  revert i j
  decide

theorem hashTable_writeReg
    (i : Fin 4) (v : UWORD) (n : NicState) :
    ((ksz8851WriteReg (regMahtr i) v).runOn n).2.hashTable =
      Function.update n.hashTable i v := by
  have hPlain : regMahtr i ≠ regIsr := by
    revert i
    decide
  rw [runOn_ksz8851WriteReg]
  funext j
  change ((n.access (regMahtr i)).chip.writeReg (regMahtr i)
    v).reg (regMahtr j) = _
  rw [Chip.reg_writeReg, if_neg hPlain]
  by_cases hSame : j = i
  · rw [hSame, Function.update_self, Function.update_self]
  · rw [Function.update_of_ne hSame, Function.update_of_ne
      (fun hReg => hSame (regMahtr_injective hReg))]
    rfl

/- The function writes the table that it computes. -/
theorem hashTable_ksz8851SetMulticastFilter
    (filter : List MacFilterEntry) (n : NicState) :
    ((ksz8851SetMulticastFilter filter).runOn n).2.hashTable =
      filter.foldl hashEntry (fun _ => 0#16) := by
  unfold ksz8851SetMulticastFilter
  dsimp only
  generalize filter.foldl hashEntry (fun _ => 0#16) = table
  have hWrite (i : Fin 4) (n : NicState) :=
    hashTable_writeReg i (table i) n
  rw [NicM.runOn_bind, NicM.runOn_bind, NicM.runOn_bind,
    NicM.runOn_bind, NicM.runOn_pure]
  funext i
  have h3 := hWrite 3
  have h2 := hWrite 2
  have h1 := hWrite 1
  have h0 := hWrite 0
  unfold regMahtr at h0 h1 h2 h3
  dsimp only at h0 h1 h2 h3 ⊢
  rw [h3, h2, h1, h0]
  match i with
  | 0 => rfl
  | 1 => rfl
  | 2 => rfl
  | 3 => rfl

/- Two tables with the same bits are the same. -/
theorem table_ext
    {table table' : Fin 4 → UWORD}
    (hBits : ∀ k, k < 64 →
      (tableBit table k = true ↔ tableBit table' k = true)) :
    table = table' := by
  funext i
  apply BitVec.eq_of_getLsbD_eq
  intro j hj
  have hBit := hBits (16 * i.val + j) (by omega)
  have hWord : (⟨(16 * i.val + j) / 16 % 4, by omega⟩ : Fin 4) =
      i := by
    apply Fin.ext
    simp only
    omega
  have hPlace : (16 * i.val + j) % 16 = j := by
    omega
  unfold tableBit at hBit
  rw [hWord, hPlace] at hBit
  exact Bool.eq_iff_iff.mpr hBit

theorem hashBit_iff
    (filter : List MacFilterEntry)
    (n : NicState)
    {k : Nat}
    (hIndex : k < 64) :
    ((ksz8851SetMulticastFilter filter).runOn n).2.hashBit k =
        true ↔
      ∃ entry ∈ filter, entry.Marks k := by
  have hClear : ¬ tableBit (fun _ => 0#16) k = true := by
    simp [tableBit]
  unfold NicState.hashBit
  rw [hashTable_ksz8851SetMulticastFilter,
    tableBit_foldl filter _ hIndex]
  exact or_iff_right hClear

/- Whether an entry marks a bit is up to its address. -/
theorem exists_marks_of_addresses
    {filter filter' : List MacFilterEntry}
    {k : Nat}
    (hAddresses : ∀ addr : MacAddr,
      (∃ entry ∈ filter, entry.Active ∧ entry.addr = addr) →
        ∃ entry ∈ filter', entry.Active ∧ entry.addr = addr)
    (hMarked : ∃ entry ∈ filter, entry.Marks k) :
    ∃ entry ∈ filter', entry.Marks k := by
  rcases hMarked with ⟨entry, hMem, hActive, hIndex⟩
  rcases hAddresses entry.addr ⟨entry, hMem, hActive, rfl⟩
    with ⟨entry', hMem', hActive', hAddr⟩
  refine ⟨entry', hMem', hActive', ?_⟩
  rw [hAddr]
  exact hIndex

/-
  The hash table is the union of the bits of the active
  entries, whatever was in it before.  So every address in
  use passes the filter, and filters with the same addresses
  in use have the same table.
-/
theorem hashBit_ksz8851SetMulticastFilter :
    (∀ (filter : List MacFilterEntry) (n : NicState) (k : Nat),
      k < 64 →
        (((ksz8851SetMulticastFilter filter).runOn
            n).2.hashBit k = true ↔
          ∃ entry ∈ filter, entry.refCount > 0#16 ∧
            topSixBits (ksz8851CalcCrc entry.addr.memory 6) =
              k)) ∧
      (∀ (filter : List MacFilterEntry) (n : NicState),
        ∀ entry ∈ filter, entry.refCount > 0#16 →
          ((ksz8851SetMulticastFilter filter).runOn
            n).2.hashBit
              (topSixBits
                (ksz8851CalcCrc entry.addr.memory 6)) =
                  true) ∧
      ∀ (filter filter' : List MacFilterEntry)
        (n n' : NicState),
        (∀ addr : MacAddr,
          (∃ entry ∈ filter,
            entry.refCount > 0#16 ∧ entry.addr = addr) ↔
          ∃ entry ∈ filter',
            entry.refCount > 0#16 ∧ entry.addr = addr) →
          ((ksz8851SetMulticastFilter filter).runOn
              n).2.hashTable =
            ((ksz8851SetMulticastFilter filter').runOn
              n').2.hashTable := by
  refine ⟨?_, ?_, ?_⟩
  · intro filter n k hIndex
    exact hashBit_iff filter n hIndex
  · intro filter n entry hMem hActive
    apply (hashBit_iff filter n (topSixBits_lt _)).mpr
    exact ⟨entry, hMem, hActive, rfl⟩
  · intro filter filter' n n' hSame
    apply table_ext
    intro k hIndex
    apply (hashBit_iff filter n hIndex).trans
    apply Iff.trans ?_ (hashBit_iff filter' n' hIndex).symm
    exact ⟨exists_marks_of_addresses
        (fun addr => (hSame addr).mp),
      exists_marks_of_addresses
        (fun addr => (hSame addr).mpr)⟩

/- The address of all hosts, and the bit that it sets. -/
theorem hashBit_ksz8851SetMulticastFilter_allHosts :
    let allHosts : MacAddr :=
      ![0x01#8, 0x00#8, 0x5e#8, 0x00#8, 0x00#8, 0x01#8]
    topSixBits (ksz8851CalcCrc allHosts.memory 6) = 31 ∧
      ((ksz8851SetMulticastFilter
        [{ addr := allHosts, refCount := 1#16 }]).runOn
          offlineNic).2.hashBit 31 = true := by
  intro allHosts
  have hIndex :
      topSixBits (ksz8851CalcCrc allHosts.memory 6) = 31 := by
    decide +kernel
  refine ⟨hIndex, ?_⟩
  apply (hashBit_ksz8851SetMulticastFilter.1 _ _ 31
    (by decide)).mpr
  exact ⟨_, List.mem_singleton.mpr rfl, by decide, hIndex⟩

end KszDriver
