import KszDriver.Nic.RxStream

/-
  The receive buffer and the bytes that are stored in it.

  The buffer holds as many bytes as the longest frame that is
  accepted, but a frame is read in whole double words.  The
  two longest frames end behind the buffer.

  Main declarations:
    * `rxBufferSize`
    * `StoresInside`
    * `storesInside_iff`
    * `not_storesInside_longest`
-/

------------------------------------------------------------
-- Stores Inside the Buffer
------------------------------------------------------------

namespace KszDriver

open NicState

/- The bytes that `ksz8851Init` allocates for the buffer. -/
def rxBufferSize : Nat := ethMaxFrameSize + 4

/- The same state with another receive queue, and with other
   bytes in and behind the buffer. -/
def NicState.presenting
    (n : NicState) (rxq : List UWORD) (data : Memory) :
    NicState :=
  { n with
    chip := { n.chip with rxq := rxq }
    iface := { n.iface with rxData := data } }

/-
  Whatever the queue presents and whatever lies behind the
  buffer, it lies there unchanged after a frame was received.
-/
def StoresInside (n : NicState) : Prop :=
  ∀ rxq data i, rxBufferSize ≤ i →
    (ksz8851ReceivePacket.runOn
      (n.presenting rxq data)).2.iface.rxData i = data i

/- A valid frame with one of the two longest byte counts that
   are accepted. -/
def Overlong (n : NicState) : Prop :=
  n.frameStatus &&& rxfhsrRxfv ≠ 0#16 ∧
    (n.rxPktLength = 1521#16 ∨ n.rxPktLength = 1522#16)

instance (n : NicState) : Decidable (Overlong n) := by
  unfold Overlong
  infer_instance

section Buffer

variable {n : NicState}

/- A frame that is read out is valid and not too long. -/
theorem verdict_eq_accept_iff :
    n.verdict = .accept ↔
      n.frameStatus &&& rxfhsrRxfv ≠ 0#16 ∧
        LengthAccepted n.rxPktLength := by
  unfold verdict
  by_cases hInvalid : n.frameStatus &&& rxfhsrRxfv = 0#16
  · rw [if_pos hInvalid]
    constructor
    · intro hAccept
      split at hAccept <;> cases hAccept
    · intro hValid
      exact absurd hInvalid hValid.1
  · rw [if_neg hInvalid]
    by_cases hLength : LengthAccepted n.rxPktLength
    · rw [if_pos hLength]
      exact iff_of_true rfl ⟨hInvalid, hLength⟩
    · rw [if_neg hLength]
      constructor
      · intro hAccept
        cases hAccept
      · intro hValid
        exact absurd hValid.2 hLength

/- Of the accepted byte counts, the two longest are rounded up
   beyond the buffer. -/
theorem readLength_le_rxBufferSize_iff
    {rxPktLength : UWORD}
    (hAccepted : LengthAccepted rxPktLength) :
    readLength rxPktLength.toNat ≤ rxBufferSize ↔
      ¬ (rxPktLength = 1521#16 ∨ rxPktLength = 1522#16) := by
  have hMost : rxPktLength.toNat ≤ 1522 := hAccepted.2
  rw [← BitVec.toNat_inj, ← BitVec.toNat_inj]
  change _ ↔ ¬ (rxPktLength.toNat = 1521 ∨
    rxPktLength.toNat = 1522)
  unfold readLength rxBufferSize ethMaxFrameSize
  omega

theorem rxData_ksz8851ReceivePacket
    (hVerdict : n.verdict = .accept) :
    (ksz8851ReceivePacket.runOn n).2.iface.rxData =
      (n.readOut 3).filled n.rxPktLength.toNat := by
  rw [(received_ksz8851ReceivePacket hVerdict).2.iface]

/- The last byte of a read of zeros is a zero. -/
theorem filled_of_empty
    {length i : Nat}
    (hQueue : n.chip.rxq = [])
    (hInside : i < readLength length) :
    n.filled length i = 0#8 := by
  have hZeros :
      ∀ w ∈ n.rxWords (readLength length / 2), w = 0#16 := by
    intro w hWord
    unfold rxWords at hWord
    rw [hQueue] at hWord
    rcases List.mem_map.mp hWord with ⟨j, -, rfl⟩
    rfl
  have hRead :
      i < 2 * (n.rxWords (readLength length / 2)).length := by
    rw [length_rxWords]
    unfold readLength at hInside ⊢
    omega
  have hStored :=
    (portOrder n.iface.isInBigEndianMode).store_inside
      n.iface.rxData (i := 0) hRead
  rw [Nat.mul_zero, Nat.zero_add] at hStored
  rcases List.mem_flatMap.mp
      (List.mem_of_getElem? hStored) with
    ⟨w, hWord, hByte⟩
  rw [hZeros w hWord] at hByte
  unfold NicState.filled
  cases hMode : n.iface.isInBigEndianMode <;>
    rw [hMode] at hByte <;>
    rcases List.mem_cons.mp hByte with hFirst | hSecond
  · exact hFirst
  · exact List.mem_singleton.mp hSecond
  · exact hFirst
  · exact List.mem_singleton.mp hSecond

/- Everything that is stored lies in the buffer if and only if
   the frame is none of the two longest. -/
theorem storesInside_iff (n : NicState) :
    StoresInside n ↔ ¬ Overlong n := by
  by_cases hVerdict : n.verdict = .accept
  · have hValid := verdict_eq_accept_iff.mp hVerdict
    have hRounded :=
      readLength_le_rxBufferSize_iff hValid.2
    have hOverlong :
        ¬ Overlong n ↔
          readLength n.rxPktLength.toNat ≤ rxBufferSize := by
      rw [hRounded]
      unfold Overlong
      rw [and_iff_right hValid.1]
    have hData (rxq : List UWORD) (data : Memory) :
        (ksz8851ReceivePacket.runOn
          (n.presenting rxq data)).2.iface.rxData =
            ((n.presenting rxq data).readOut 3).filled
              n.rxPktLength.toNat :=
      rxData_ksz8851ReceivePacket hVerdict
    rw [hOverlong]
    constructor
    · intro hInside
      by_contra hBehind
      -- The byte behind the buffer becomes a zero.
      have hSame :=
        hInside [] (fun _ => 1#8) rxBufferSize (le_refl _)
      rw [hData, filled_of_empty rfl (Nat.not_le.mp hBehind)]
        at hSame
      exact absurd hSame (by decide)
    · intro hFits rxq data i hBehind
      rw [hData, filled_of_le _ (hFits.trans hBehind)]
      rfl
  · have hNot : ¬ Overlong n := by
      intro hOverlong
      apply hVerdict
      refine verdict_eq_accept_iff.mpr ⟨hOverlong.1, ?_⟩
      rcases hOverlong.2 with hLength | hLength <;>
        rw [hLength] <;> decide
    refine iff_of_true ?_ hNot
    intro rxq data i _
    have hReleased :=
      (released_ksz8851ReceivePacket
        (n := n.presenting rxq data) hVerdict).2
    rw [hReleased.iface]
    rfl

end Buffer

------------------------------------------------------------
-- The Longest Frame
------------------------------------------------------------

/- A chip that presents a frame with this byte count. -/
def nicWithFrame (rxfhsr rxfhbcr : UWORD) : NicState :=
  { offlineNic with
    chip :=
      { offlineChip with
        reg := Function.update
          (Function.update offlineChip.reg regRxfhsr rxfhsr)
          regRxfhbcr rxfhbcr } }

theorem not_storesInside_longest :
    ¬ StoresInside (nicWithFrame rxfhsrRxfv 1522#16) := by
  intro hInside
  have hSame := hInside [] (fun _ => 1#8) rxBufferSize
    (le_refl _)
  revert hSame
  decide +kernel

end KszDriver
