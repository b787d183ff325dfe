import KszDriver.Device.Delivery
import KszDriver.Nic.RxBuffer

/-
  The lengths of a received frame, in both layers.

  Six is subtracted from the byte count and, for a cooked
  request, fourteen from the size that is handed on.  Neither
  subtraction is guarded, and a result that wrapped becomes
  the longest packet.

  Main declarations:
    * `WithinFrame`
    * `withinFrame_iff`
    * `not_withinFrame_cooked`
-/

------------------------------------------------------------
-- Bytes of This Frame
------------------------------------------------------------

namespace KszDriver

open NicState

/- The bytes that are read from the queue for the frame in
   front of it. -/
def NicState.frameBytes (n : NicState) : List UBYTE :=
  (portOrder n.iface.isInBigEndianMode).bytes
    ((n.readOut 3).rxWords
      (readLength n.rxPktLength.toNat / 2))

/- Where the data for a request starts in the buffer: behind
   two dummy bytes and, unless it is raw, behind the Ethernet
   header. -/
def dataOffset (raw : Bool) : Nat :=
  if raw then 2 else 2 + 14

/-
  A packet was handed on, with the byte count less six as its
  size, and what the request is given of it, with the length
  that is stored in the request, are bytes of this frame.
-/
structure GivenWithin
    (n : NicState)
    (o : Outcome)
    (head : ListHead)
    (ios2 : APTR)
    (s : Driver)
    (packet : Memory × UWORD) : Prop where
  size : (packet.2.toNat : Int) = n.rxPktLength.toNat - 6
  stored :
    dataOffset (decide (s.reqs ios2).Raw) +
        ((fulfillReadIORequest o head ios2 packet.1 packet.2
          s).2.reqs ios2).dataLength.toNat ≤
      readLength n.rxPktLength.toNat
  copied : ∀ bytes,
    .copiedToBuffer ios2 bytes ∈
      s.since (fulfillReadIORequest o head ios2 packet.1
        packet.2 s).2 →
    dataOffset (decide (s.reqs ios2).Raw) + bytes.length ≤
        readLength n.rxPktLength.toNat ∧
      bytes <:+: n.frameBytes

/- So it is with the packet that `ksz8851ReceivePacket` hands
   on. -/
def WithinFrame
    (n : NicState)
    (o : Outcome)
    (head : ListHead)
    (ios2 : APTR)
    (s : Driver) : Prop :=
  ∃ packet,
    (ksz8851ReceivePacket.runOn n).2.delivered =
      n.delivered ++ [packet] ∧
    GivenWithin n o head ios2 s packet

------------------------------------------------------------
-- The Lengths
------------------------------------------------------------

/- The size that is handed on does not wrap. -/
theorem toNat_size_iff (rxPktLength : UWORD) :
    ((rxPktLength - 2#16 - 4#16).toNat : Int) =
        rxPktLength.toNat - 6 ↔
      6 ≤ rxPktLength.toNat := by
  have hBound := rxPktLength.isLt
  rw [BitVec.toNat_sub, BitVec.toNat_sub]
  simp only [BitVec.toNat_ofNat]
  omega

/- What a request gets of a packet lies within the bytes that
   were read, exactly if there is an Ethernet header to be
   skipped. -/
theorem deliveredLength_within_iff
    {rxPktLength : UWORD}
    (raw : Bool)
    (hAccepted : LengthAccepted rxPktLength)
    (hLeast : 6 ≤ rxPktLength.toNat) :
    dataOffset raw +
          (deliveredLength raw
            (rxPktLength - 2#16 - 4#16)).toNat ≤
        readLength rxPktLength.toNat ↔
      raw = true ∨ 20 ≤ rxPktLength.toNat := by
  have hMost : rxPktLength.toNat ≤ 1522 := hAccepted.2
  have hSize :
      (rxPktLength - 2#16 - 4#16).toNat =
        rxPktLength.toNat - 6 := by
    rw [BitVec.toNat_sub, BitVec.toNat_sub]
    simp only [BitVec.toNat_ofNat]
    omega
  generalize rxPktLength - 2#16 - 4#16 = size at hSize ⊢
  unfold dataOffset deliveredLength readLength
  cases raw with
  | true =>
      simp only [if_true, gt_iff_lt, BitVec.lt_def, true_or,
        iff_true, BitVec.toNat_ofNat]
      split
      · simp only [BitVec.toNat_ofNat]
        omega
      · omega
  | false =>
      have hPayload :
          (size - 14#16).toNat =
            (65522 + size.toNat) % 65536 := by
        rw [BitVec.toNat_sub]
        simp
      simp only [Bool.false_eq_true, if_false, gt_iff_lt,
        BitVec.lt_def, false_or, BitVec.toNat_ofNat]
      split
      · rename_i hClamped
        rw [hPayload] at hClamped
        simp only [BitVec.toNat_ofNat]
        omega
      · rename_i hShort
        rw [hPayload] at hShort ⊢
        omega

------------------------------------------------------------
-- The Frame and the Request
------------------------------------------------------------

/- Bytes inside the part that was read are part of it. -/
theorem bytes_drop_infix
    (m : Memory)
    {offset length read : Nat}
    (hInside : offset + length ≤ read) :
    (m.drop offset).bytes length <:+: m.bytes read := by
  refine ⟨m.bytes offset,
    (m.drop (offset + length)).bytes
      (read - (offset + length)), ?_⟩
  rw [← Memory.bytes_add, ← Memory.bytes_add,
    Nat.add_sub_cancel' hInside]

/- The bytes that were read lie in the buffer. -/
theorem frameBytes_eq (n : NicState) :
    n.frameBytes =
      ((n.readOut 3).filled n.rxPktLength.toNat).bytes
        (readLength n.rxPktLength.toNat) :=
  (bytes_filled (n.readOut 3) n.rxPktLength.toNat).symm

section Given

variable {n : NicState} {s : Driver}
variable {head : ListHead} {ios2 : APTR}

/- The packet that is handed on for an acceptable frame. -/
def NicState.packet (n : NicState) : Memory × UWORD :=
  (((n.readOut 3).filled n.rxPktLength.toNat).drop 2,
    n.rxPktLength - 2#16 - 4#16)

theorem delivered_ksz8851ReceivePacket
    (hVerdict : n.verdict = .accept)
    (hCalled : n.iface.onPacketReceived = true) :
    (ksz8851ReceivePacket.runOn n).2.delivered =
      n.delivered ++ [n.packet] := by
  rw [(received_ksz8851ReceivePacket hVerdict).2.delivered,
    if_pos hCalled]
  rfl

theorem dataLength_fulfillReadIORequest
    (o : Outcome)
    (head : ListHead)
    (packet : Memory × UWORD)
    (hBm : (s.reqs ios2).bufferManagement ≠ 0) :
    ((fulfillReadIORequest o head ios2 packet.1 packet.2
        s).2.reqs ios2).dataLength.toNat =
      (deliveredLength (decide (s.reqs ios2).Raw)
        packet.2).toNat := by
  have hInfo := congrArg PacketInfo.dataLength
    (packetInfo_fulfillReadIORequest o head packet.1 packet.2
      hBm ios2)
  rw [if_pos rfl] at hInfo
  have hLength :
      ((fulfillReadIORequest o head ios2 packet.1 packet.2
        s).2.reqs ios2).dataLength =
      (deliveredLength (decide (s.reqs ios2).Raw)
        packet.2).setWidth 32 := hInfo
  rw [hLength, BitVec.toNat_setWidth]
  have hBound :=
    (deliveredLength (decide (s.reqs ios2).Raw)
      packet.2).isLt
  omega

/- The bytes for the request start at its offset. -/
theorem deliveredBytes_packet :
    deliveredBytes n.packet.1 n.packet.2 (s.reqs ios2) =
      (((n.readOut 3).filled n.rxPktLength.toNat).drop
        (dataOffset (decide (s.reqs ios2).Raw))).bytes
          (deliveredLength (decide (s.reqs ios2).Raw)
            n.packet.2).toNat := by
  unfold deliveredBytes NicState.packet dataOffset
  by_cases hRaw : (s.reqs ios2).Raw
  · rw [if_pos hRaw, Memory.drop_drop, decide_eq_true hRaw,
      if_pos rfl]
  · rw [if_neg hRaw, Memory.drop_drop, decide_eq_false hRaw,
      if_neg Bool.false_ne_true]

/-
  Both layers keep within the frame if and only if the byte
  count covers what they subtract.
-/
theorem withinFrame_iff
    (n : NicState)
    (o : Outcome)
    (head : ListHead)
    (ios2 : APTR)
    (s : Driver)
    (hVerdict : n.verdict = .accept)
    (hCalled : n.iface.onPacketReceived = true)
    (hBm : (s.reqs ios2).bufferManagement ≠ 0) :
    WithinFrame n o head ios2 s ↔
      6 ≤ n.rxPktLength.toNat ∧
        ((s.reqs ios2).Raw ∨ 20 ≤ n.rxPktLength.toNat) := by
  have hDelivered :=
    delivered_ksz8851ReceivePacket hVerdict hCalled
  have hLength : LengthAccepted n.rxPktLength :=
    (verdict_eq_accept_iff.mp hVerdict).2
  have hStored :=
    dataLength_fulfillReadIORequest o head n.packet hBm
  constructor
  · rintro ⟨packet, hPacket, hGiven⟩
    have hSame : packet = n.packet := by
      rw [hDelivered] at hPacket
      simpa using hPacket.symm
    subst hSame
    have hLeast : 6 ≤ n.rxPktLength.toNat :=
      (toNat_size_iff n.rxPktLength).mp hGiven.size
    have hWithin := hGiven.stored
    rw [hStored] at hWithin
    refine ⟨hLeast, ?_⟩
    simpa using
      (deliveredLength_within_iff _ hLength hLeast).mp hWithin
  · rintro ⟨hLeast, hHeader⟩
    have hWithin :=
      (deliveredLength_within_iff (decide (s.reqs ios2).Raw)
        hLength hLeast).mpr (by simpa using hHeader)
    refine ⟨n.packet, hDelivered, ?_⟩
    exact
      { size := (toNat_size_iff n.rxPktLength).mpr hLeast
        stored := by
          rw [hStored]
          exact hWithin
        copied := by
          intro bytes hCopied
          have hBytes :=
            (copied_fulfillReadIORequest hCopied).trans
              deliveredBytes_packet
          subst hBytes
          refine ⟨?_, ?_⟩
          · rw [Memory.length_bytes]
            exact hWithin
          · rw [frameBytes_eq]
            exact bytes_drop_infix _ hWithin }

end Given

------------------------------------------------------------
-- A Cooked Read of a Short Frame
------------------------------------------------------------

/- The unit is online and a cooked read waits at 40, for
   packets of the type 0. -/
def oneReader : Driver :=
  deviceMachine.run
    (onlineSteps ++ submitSteps 9 (plainRequest cmdRead))
    (loadedDriver (idleRegisters 0x1800#16))

/- A valid frame of this byte count has arrived. -/
def arrivedNic (rxfhbcr : UWORD) : NicState :=
  oneReader.nic.setChip (fun c =>
    { c with
      reg := Function.update
        (Function.update c.reg regRxfhsr rxfhsrRxfv)
        regRxfhbcr rxfhbcr })

theorem withinFrame_iff_oneReader :
    WithinFrame (arrivedNic 68#16) plainOutcome
        (.bmRxQueue 40) 9 oneReader ↔
      6 ≤ (arrivedNic 68#16).rxPktLength.toNat ∧
        ((oneReader.reqs 9).Raw ∨
          20 ≤ (arrivedNic 68#16).rxPktLength.toNat) :=
  withinFrame_iff _ _ _ _ _ (by decide +kernel)
    (by decide +kernel) (by decide +kernel)

/- Of a frame with ten bytes, 1500 are given. -/
theorem not_withinFrame_cooked :
    (arrivedNic 16#16).verdict = .accept ∧
      firstMatching (packetTypeOf (arrivedNic 16#16).packet.1)
          (.bmRxQueue 40) oneReader = some 9 ∧
      ¬ WithinFrame (arrivedNic 16#16) plainOutcome
        (.bmRxQueue 40) 9 oneReader := by
  refine ⟨by decide +kernel, by decide +kernel, ?_⟩
  rintro ⟨packet, hPacket, hGiven⟩
  have hSame : packet = (arrivedNic 16#16).packet := by
    rw [delivered_ksz8851ReceivePacket (by decide +kernel)
      (by decide +kernel)] at hPacket
    simpa using hPacket.symm
  subst hSame
  have hStored := hGiven.stored
  revert hStored
  decide +kernel

end KszDriver
