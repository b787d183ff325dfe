import KszDriver.Device.DeliveryOrder
import KszDriver.Device.ShortFrames

/-
  A frame on its way from the chip to the client: the bytes
  that the chip presents are those that a raw read gets, and
  a cooked read gets them without the Ethernet header.

  Main declarations:
    * `PresentsFrame`
    * `GetsFrame`
    * `received_end_to_end`
-/

------------------------------------------------------------
-- Frames in the Receive Queue
------------------------------------------------------------

namespace KszDriver

open NicState Driver

/-
  The chip presents a valid frame, in the byte order that the
  driver expects: three words, two bytes, the frame, and its
  checksum, which are counted without the three words.
  Behind them anything may follow.
-/
structure PresentsFrame
    (isInBigEndianMode : Bool)
    (frame : List UBYTE)
    (n : NicState) : Prop where
  mode : n.iface.isInBigEndianMode = isInBigEndianMode
  valid : n.frameStatus &&& rxfhsrRxfv ≠ 0#16
  count : n.rxPktLength.toNat = frame.length + 6
  queue : ∃ header words dummy crc pad,
    n.chip.rxq = header ++ words ∧
      header.length = 3 ∧ dummy.length = 2 ∧
      crc.length = 4 ∧
      (portOrder isInBigEndianMode).bytes words =
        dummy ++ frame ++ crc ++ pad

section Queue

variable {n : NicState}

/- Fewer words are read from the front. -/
theorem take_rxWords
    {j k : Nat}
    (hFewer : j ≤ k) :
    (n.rxWords k).take j = n.rxWords j := by
  unfold NicState.rxWords
  rw [← List.map_take, List.take_range,
    Nat.min_eq_left hFewer]

/- The bytes of the first words come first. -/
theorem take_bytes
    (order : WordOrder UWORD UBYTE)
    (ws : List UWORD)
    {j m : Nat}
    (hWords : j ≤ ws.length)
    (hBytes : m ≤ 2 * j) :
    (order.bytes ws).take m =
      (order.bytes (ws.take j)).take m := by
  have hLong : m ≤ (order.bytes (ws.take j)).length := by
    rw [order.length_bytes, List.length_take,
      Nat.min_eq_left hWords]
    exact hBytes
  conv_lhs => rw [← List.take_append_drop j ws]
  rw [order.bytes_append, List.take_append_of_le_length hLong]

/- Fewer bytes of a memory area. -/
theorem Memory.take_bytes
    (m : Memory)
    {j k : Nat}
    (hFewer : j ≤ k) :
    (m.bytes k).take j = m.bytes j := by
  unfold Memory.bytes
  rw [← List.map_take, List.take_range,
    Nat.min_eq_left hFewer]

/- As far as the queue goes, its bytes are read. -/
theorem take_bytes_rxWords
    (order : WordOrder UWORD UBYTE)
    {k m : Nat}
    (hRead : m ≤ 2 * k)
    (hQueue : m ≤ 2 * n.chip.rxq.length) :
    (order.bytes (n.rxWords k)).take m =
      (order.bytes n.chip.rxq).take m := by
  have hWords : (m + 1) / 2 ≤ k := by
    omega
  have hLong : (m + 1) / 2 ≤ n.chip.rxq.length := by
    omega
  have hBytes : m ≤ 2 * ((m + 1) / 2) := by
    omega
  rw [take_bytes order (n.rxWords k)
      (by rw [length_rxWords]; exact hWords) hBytes,
    take_rxWords hWords, rxWords_of_le hLong,
    ← take_bytes order _ hLong hBytes]

end Queue

section Frames

variable {n : NicState} {isInBigEndianMode : Bool}
variable {frame : List UBYTE}

/- A frame of this length is read out. -/
theorem PresentsFrame.verdict
    (hFrame : PresentsFrame isInBigEndianMode frame n)
    (hMost : frame.length ≤ 1514) :
    n.verdict = .accept := by
  refine verdict_eq_accept_iff.mpr ⟨hFrame.valid, ?_, ?_⟩
  · intro hZero
    have hCount := hFrame.count
    rw [hZero] at hCount
    simp at hCount
  · rw [hFrame.count]
    unfold ethMaxFrameSize
    omega

theorem PresentsFrame.size
    (hFrame : PresentsFrame isInBigEndianMode frame n) :
    n.packet.2.toNat = frame.length := by
  have hSize :=
    (toNat_size_iff n.rxPktLength).mpr (by
      rw [hFrame.count]
      omega)
  rw [hFrame.count] at hSize
  have hPacket :
      n.packet.2 = n.rxPktLength - 2#16 - 4#16 := rfl
  rw [hPacket]
  omega

/- The packet that is handed on are the bytes of the frame. -/
theorem PresentsFrame.bytes
    (hFrame : PresentsFrame isInBigEndianMode frame n) :
    n.packet.1.bytes frame.length = frame := by
  rcases hFrame.queue with
    ⟨header, words, dummy, crc, pad, hQueue, hHeader, hDummy,
      hCrc, hBytes⟩
  have hRest : (n.readOut 3).chip.rxq = words := by
    show n.chip.rxq.drop 3 = words
    rw [hQueue, ← hHeader, List.drop_left]
  have hLong :
      2 + frame.length ≤ 2 * words.length := by
    have hLength := congrArg List.length hBytes
    rw [WordOrder.length_bytes] at hLength
    simp only [List.length_append] at hLength
    omega
  have hRead :
      2 + frame.length ≤
        2 * (readLength n.rxPktLength.toNat / 2) := by
    rw [hFrame.count]
    unfold readLength
    omega
  have hMode :
      (n.readOut 3).iface.isInBigEndianMode =
        isInBigEndianMode := hFrame.mode
  have hFront :
      ((n.readOut 3).filled n.rxPktLength.toNat).bytes
          (2 + frame.length) =
        dummy ++ frame := by
    have hInside :
        2 + frame.length ≤
          readLength n.rxPktLength.toNat := by
      omega
    rw [← Memory.take_bytes _ hInside, bytes_filled, hMode,
      take_bytes_rxWords _ hRead (by rw [hRest]; exact hLong),
      hRest, hBytes, List.append_assoc]
    apply List.take_left'
    rw [List.length_append, hDummy]
  rw [Memory.bytes_add] at hFront
  exact (List.append_inj hFront (by simp [hDummy])).2

end Frames

------------------------------------------------------------
-- Frames in a Request
------------------------------------------------------------

/- The type of a frame, high byte first. -/
def frameType (frame : List UBYTE) : UWORD :=
  wordOf (frame.getD 12 0#8) (frame.getD 13 0#8)

/- What a request says of a frame, and the bytes that are
   copied for it. -/
structure HoldsFrame
    (frame : List UBYTE)
    (raw : Bool)
    (bytes : List UBYTE)
    (req : IOSana2Req) : Prop where
  bytes : bytes = if raw then frame else frame.drop 14
  dataLength : req.dataLength.toNat =
    if raw then frame.length else frame.length - 14
  dstAddr : List.ofFn req.dstAddr = frame.take 6
  srcAddr : List.ofFn req.srcAddr = (frame.drop 6).take 6
  packetType : req.packetType.toNat =
    (frame.getD 12 0#8).toNat * 256 +
      (frame.getD 13 0#8).toNat
  noError : req.ioError = 0

/- The request is given the frame, and terminated once. -/
def GetsFrame
    (frame : List UBYTE) (bm r : APTR) (s s' : Driver) :
    Prop :=
  ∃ bytes req,
    packetStory r s'.log =
      [.terminated r req, .offered (.bmRxQueue bm) r true,
        .copiedToBuffer r bytes] ++ packetStory r s.log ∧
    HoldsFrame frame (decide (s.reqs r).Raw) bytes req

section Packets

variable {buffer : Memory} {size : UWORD}
variable {frame : List UBYTE}

/- The bytes of the buffer are those of the frame. -/
theorem getD_of_bytes
    {i : Nat}
    (hBytes : buffer.bytes frame.length = frame)
    (hInside : i < frame.length) :
    frame.getD i 0#8 = buffer i := by
  have hAt : (buffer.bytes frame.length)[i]? =
      some (buffer i) := by
    unfold Memory.bytes
    rw [List.getElem?_map, List.getElem?_range hInside]
    rfl
  rw [hBytes] at hAt
  rw [List.getD_eq_getElem?_getD, hAt]
  rfl

theorem packetTypeOf_eq
    (hBytes : buffer.bytes frame.length = frame)
    (hLeast : 14 ≤ frame.length) :
    packetTypeOf buffer = frameType frame := by
  unfold packetTypeOf frameType Memory.wordAt
  rw [getD_of_bytes hBytes (by omega),
    getD_of_bytes hBytes (by omega)]

/- The value of a word, high byte first. -/
theorem toNat_wordOf (high low : UBYTE) :
    (wordOf high low).toNat = high.toNat * 256 + low.toNat := by
  have hHigh := high.isLt
  have hLow := low.isLt
  have hWide : (high.setWidth 16).toNat = high.toNat := by
    rw [BitVec.toNat_setWidth, Nat.mod_eq_of_lt (by omega)]
  have hShift :
      (high.setWidth 16 <<< 8).toNat = high.toNat <<< 8 := by
    rw [BitVec.toNat_shiftLeft, hWide]
    apply Nat.mod_eq_of_lt
    rw [Nat.shiftLeft_eq]
    omega
  have hWidth : (low.setWidth 16).toNat = low.toNat := by
    rw [BitVec.toNat_setWidth, Nat.mod_eq_of_lt (by omega)]
  unfold wordOf
  rw [BitVec.toNat_or, hShift, hWidth,
    ← Nat.shiftLeft_add_eq_or_of_lt hLow, Nat.shiftLeft_eq]

theorem deliveredLength_frame
    (raw : Bool)
    (hSize : size.toNat = frame.length)
    (hLeast : 14 ≤ frame.length)
    (hMost : frame.length ≤ 1514) :
    (deliveredLength raw size).toNat =
      if raw then frame.length else frame.length - 14 := by
  have hPayload : (size - 14#16).toNat = frame.length - 14 := by
    rw [BitVec.toNat_sub, hSize]
    simp only [BitVec.toNat_ofNat]
    omega
  unfold deliveredLength
  cases raw with
  | true =>
      have hFits : ¬ size > 1514#16 := by
        rw [gt_iff_lt, BitVec.lt_def, hSize]
        simp only [BitVec.toNat_ofNat]
        omega
      rw [if_pos rfl, if_neg hFits, if_pos rfl]
      exact hSize
  | false =>
      have hFits : ¬ size - 14#16 > 1500#16 := by
        rw [gt_iff_lt, BitVec.lt_def, hPayload]
        simp only [BitVec.toNat_ofNat]
        omega
      rw [if_neg Bool.false_ne_true, if_neg hFits,
        if_neg Bool.false_ne_true]
      exact hPayload

/- The part of the frame behind its header. -/
theorem bytes_drop_of_bytes
    {offset : Nat}
    (hBytes : buffer.bytes frame.length = frame)
    (hInside : offset ≤ frame.length) :
    (buffer.drop offset).bytes (frame.length - offset) =
      frame.drop offset := by
  have hParts := buffer.bytes_add offset
    (frame.length - offset)
  rw [Nat.add_sub_cancel' hInside, hBytes] at hParts
  have hDrop := congrArg (List.drop offset) hParts
  rw [List.drop_left' (Memory.length_bytes _ _)] at hDrop
  exact hDrop.symm

theorem ofFn_macAddr (m : Memory) :
    List.ofFn m.macAddr = m.bytes 6 := by
  rfl

/- What a request gets of the packet. -/
theorem holdsFrame_describePacket
    {req : IOSana2Req}
    (hBytes : buffer.bytes frame.length = frame)
    (hSize : size.toNat = frame.length)
    (hLeast : 14 ≤ frame.length)
    (hMost : frame.length ≤ 1514)
    (hNoError : req.ioError = 0) :
    HoldsFrame frame (decide req.Raw)
      (deliveredBytes buffer size req)
      (describePacket buffer size req) where
  bytes := by
    unfold deliveredBytes
    rw [deliveredLength_frame _ hSize hLeast hMost]
    by_cases hRaw : req.Raw
    · rw [if_pos hRaw, decide_eq_true hRaw, if_pos rfl,
        if_pos rfl, Memory.drop_zero]
      exact hBytes
    · rw [if_neg hRaw, decide_eq_false hRaw,
        if_neg Bool.false_ne_true, if_neg Bool.false_ne_true]
      exact bytes_drop_of_bytes hBytes hLeast
  dataLength := by
    have hLength :
        (describePacket buffer size req).dataLength =
          (deliveredLength (decide req.Raw)
            size).setWidth 32 := rfl
    have hBound := (deliveredLength (decide req.Raw) size).isLt
    rw [hLength, BitVec.toNat_setWidth,
      ← deliveredLength_frame _ hSize hLeast hMost]
    omega
  dstAddr := by
    have hAddr :
        (describePacket buffer size req).dstAddr =
          buffer.macAddr := rfl
    rw [hAddr, ofFn_macAddr, ← hBytes, Memory.take_bytes]
    omega
  srcAddr := by
    have hAddr :
        (describePacket buffer size req).srcAddr =
          (buffer.drop 6).macAddr := rfl
    rw [hAddr, ofFn_macAddr,
      ← bytes_drop_of_bytes hBytes (by omega),
      Memory.take_bytes]
    omega
  packetType := by
    have hType :
        (describePacket buffer size req).packetType =
          (packetTypeOf buffer).setWidth 32 := rfl
    have hBound := (packetTypeOf buffer).isLt
    rw [hType, BitVec.toNat_setWidth,
      Nat.mod_eq_of_lt (by omega),
      packetTypeOf_eq hBytes hLeast]
    exact toNat_wordOf _ _
  noError := hNoError

end Packets

------------------------------------------------------------
-- From the Chip to the Client
------------------------------------------------------------

section Clients

variable {s : Driver} {bm r : APTR} {o : Outcome}
variable {buffer : Memory} {size : UWORD}
variable {frame : List UBYTE}

/- Where an opener has a matching read, one is chosen. -/
theorem exists_chosen
    (hOpen : bm ∈ s.unit.buffMgmt)
    (hPending : ∃ r ∈ s.lists (.bmRxQueue bm),
      TypeMatches (s.reqs r).packetType
        (packetTypeOf buffer)) :
    ∃ r, s.chosen buffer bm = some r := by
  rcases hPending with ⟨r, hMem, hMatches⟩
  unfold Driver.chosen firstMatching
  rw [if_pos hOpen]
  apply Option.isSome_iff_exists.mp
  rw [List.find?_isSome]
  exact ⟨r, hMem, decide_eq_true hMatches⟩

/- The request that is chosen gets the frame. -/
theorem getsFrame_pktReceived
    (hReach : deviceMachine.Reach Machine.Free s)
    (hBytes : buffer.bytes frame.length = frame)
    (hSize : size.toNat = frame.length)
    (hLeast : 14 ≤ frame.length)
    (hMost : frame.length ≤ 1514)
    (hChosen : s.chosen buffer bm = some r)
    (hFilter : o.callFilterHook r = true)
    (hCopy : o.copyToBuffer r = true) :
    GetsFrame frame bm r s
      (s.next (.pktReceived buffer size o)) := by
  have hMem := chosen_mem hChosen
  have hNoError :=
    (ReadsWait.of_reach hReach).noError bm r hMem
  have hStory :=
    (dispatchesExactly_of_reach hReach o buffer
      size).story bm r hMem
  rw [if_pos hChosen] at hStory
  unfold Outcome.reading Outcome.endedRequest at hStory
  rw [if_pos hFilter, if_pos hCopy, if_pos hCopy] at hStory
  exact ⟨_, _, hStory, holdsFrame_describePacket hBytes hSize
    hLeast hMost hNoError⟩

end Clients

/-
  A frame that the chip presents is handed on once, with its
  bytes and its length.  Every opener with a matching read
  gets it whole or without its header, if its callbacks
  accept, with its addresses and its type.
-/
theorem received_end_to_end
    {n : NicState}
    {isInBigEndianMode : Bool}
    {frame : List UBYTE}
    (hFrame : PresentsFrame isInBigEndianMode frame n)
    (hLeast : 14 ≤ frame.length)
    (hMost : frame.length ≤ 1514)
    (hCalled : n.iface.onPacketReceived = true) :
    ∃ packet : RxPacket,
      (ksz8851ReceivePacket.runOn n).2.delivered =
          n.delivered ++ [packet] ∧
        packet.2.toNat = frame.length ∧
        packet.1.bytes frame.length = frame ∧
        ∀ s, deviceMachine.Reach Machine.Free s →
          ∀ o, ∀ bm ∈ s.unit.buffMgmt,
            (∃ r ∈ s.lists (.bmRxQueue bm),
              TypeMatches (s.reqs r).packetType
                (frameType frame)) →
            ∃ r ∈ s.lists (.bmRxQueue bm),
              TypeMatches (s.reqs r).packetType
                  (frameType frame) ∧
                (o.callFilterHook r = true →
                  o.copyToBuffer r = true →
                    GetsFrame frame bm r s
                      (s.next (.pktReceived packet.1 packet.2
                        o))) := by
  have hBytes := hFrame.bytes
  have hSize := hFrame.size
  refine ⟨n.packet,
    delivered_ksz8851ReceivePacket (hFrame.verdict hMost)
      hCalled, hSize, hBytes, ?_⟩
  intro s hReach o bm hOpen hPending
  rw [← packetTypeOf_eq hBytes hLeast] at hPending ⊢
  rcases exists_chosen hOpen hPending with ⟨r, hChosen⟩
  refine ⟨r, chosen_mem hChosen, typeMatches_of_chosen hChosen,
    ?_⟩
  intro hFilter hCopy
  exact getsFrame_pktReceived hReach hBytes hSize hLeast hMost
    hChosen hFilter hCopy

/- A frame of fifteen bytes. -/
def shortFrame : List UBYTE :=
  [255#8, 255#8, 255#8, 255#8, 255#8, 255#8,
    2#8, 0#8, 0#8, 0#8, 0#8, 1#8, 0#8, 0#8, 7#8]

/- A chip that presents it in this byte order. -/
def shortFrameNic (isInBigEndianMode : Bool) : NicState :=
  { (arrivedNic 21#16) with
    iface :=
      { (arrivedNic 21#16).iface with
        isInBigEndianMode := isInBigEndianMode }
    chip :=
      { (arrivedNic 21#16).chip with
        rxq := [1#16, 2#16, 3#16] ++
          (portOrder isInBigEndianMode).words
            (fun i => ([9#8, 9#8] ++ shortFrame).getD i 5#8)
            11 } }

theorem presentsFrame_shortFrameNic
    (isInBigEndianMode : Bool) :
    PresentsFrame isInBigEndianMode shortFrame
      (shortFrameNic isInBigEndianMode) where
  mode := rfl
  valid := by
    cases isInBigEndianMode <;> decide +kernel
  count := by
    cases isInBigEndianMode <;> decide +kernel
  queue := by
    refine ⟨[1#16, 2#16, 3#16], _, [9#8, 9#8],
      [5#8, 5#8, 5#8, 5#8], [5#8], rfl, rfl, rfl, rfl, ?_⟩
    cases isInBigEndianMode <;> decide +kernel

theorem received_end_to_end_shortFrame :
    ∃ packet : RxPacket,
      (ksz8851ReceivePacket.runOn
          (shortFrameNic true)).2.delivered =
        (shortFrameNic true).delivered ++ [packet] ∧
      GetsFrame shortFrame 40 9 oneReader
        (oneReader.next
          (.pktReceived packet.1 packet.2 plainOutcome)) := by
  have hReach : deviceMachine.Reach Machine.Free oneReader :=
    Machine.reach_run _
      (Machine.Reach.start (start_loadedDriver _))
      (by decide +kernel)
  have hOnly : oneReader.lists (.bmRxQueue 40) = [9] := by
    decide +kernel
  rcases received_end_to_end
      (presentsFrame_shortFrameNic true) (by decide)
      (by decide) (by decide +kernel) with
    ⟨packet, hDelivered, -, -, hGets⟩
  refine ⟨packet, hDelivered, ?_⟩
  rcases hGets oneReader hReach plainOutcome 40
      (by decide +kernel)
      ⟨9, by decide +kernel, by decide +kernel⟩ with
    ⟨r, hMem, -, hGiven⟩
  rw [hOnly, List.mem_singleton] at hMem
  subst hMem
  exact hGiven rfl rfl

end KszDriver
