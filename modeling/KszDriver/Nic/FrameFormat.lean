import KszDriver.Nic.TxStream

/-
  The format of a frame in the transmit queue: a control word
  and a byte count, both little-endian, the frame itself, and
  bytes up to the next double word.

  Raw frames always have this format.  A frame given in parts
  has it only when its payload happens to end where the next
  double word begins, since the alignment word is never sent.

  Main declarations:
    * `Formatted`
    * `bytes_rawStream`, `bytes_cookedStream`
    * `streamsRight_iff`
    * `not_streamsRight_fullSize`
-/

------------------------------------------------------------
-- The Format
------------------------------------------------------------

namespace KszDriver

/- The bytes of a word in the two orders. -/
def littleEndian (word : UWORD) : List UBYTE :=
  [lowByte word, highByte word]

def bigEndian (word : UWORD) : List UBYTE :=
  [highByte word, lowByte word]

/- How many bytes follow a frame of `length` bytes. -/
def alignment (length : Nat) : Nat :=
  (4 - length % 4) % 4

/- The control word of a frame, with its number. -/
def frameControl (frameId : UWORD) : UWORD :=
  txCtrlTxic ||| BitVec.ofNat 16 (frameId.toNat % 64)

/- The words carry such a frame in the right format, in whole
   double words. -/
def Formatted
    (n : NicState)
    (IsFrame : List UBYTE → Prop)
    (ws : List UWORD) : Prop :=
  ∃ frame align : List UBYTE,
    IsFrame frame ∧
      align.length = alignment frame.length ∧
      (portOrder n.iface.isInBigEndianMode).bytes ws =
        littleEndian (frameControl n.iface.frameId) ++
          (littleEndian (BitVec.ofNat 16 frame.length) ++
            (frame ++ align)) ∧
      2 ∣ ws.length

/- The header of an Ethernet frame. -/
def frameHead (dst src : Memory) (packetType : UWORD) :
    List UBYTE :=
  dst.bytes 6 ++ (src.bytes 6 ++ bigEndian packetType)

/- A frame given in parts, with bytes of any value behind a
   short payload. -/
def CookedFrame
    (dst src : Memory)
    (packetType : UWORD)
    (payload : Memory)
    (payloadLength : Nat)
    (frame : List UBYTE) : Prop :=
  ∃ padding : List UBYTE,
    padding.length = 46 - payloadLength ∧
      frame = frameHead dst src packetType ++
        (payload.bytes payloadLength ++ padding)

/- The words carry a whole frame behind its header, whatever
   follows. -/
def Carries
    (n : NicState)
    (IsFrame : List UBYTE → Prop)
    (ws : List UWORD) : Prop :=
  ∃ frame rest : List UBYTE,
    IsFrame frame ∧
      (portOrder n.iface.isInBigEndianMode).bytes ws =
        littleEndian (frameControl n.iface.frameId) ++
          (littleEndian (BitVec.ofNat 16 frame.length) ++
            (frame ++ rest))

------------------------------------------------------------
-- Bytes of the Streams
------------------------------------------------------------

@[simp] theorem length_littleEndian (word : UWORD) :
    (littleEndian word).length = 2 := rfl

@[simp] theorem length_frameHead
    (dst src : Memory) (packetType : UWORD) :
    (frameHead dst src packetType).length = 14 := by
  simp [frameHead, bigEndian]

theorem controlWord_eq (n : NicState) :
    n.controlWord = frameControl n.iface.frameId := by
  have hMask :
      n.iface.frameId &&& txCtrlTxfid =
        BitVec.ofNat 16 (n.iface.frameId.toNat % 64) := by
    apply BitVec.eq_of_toNat_eq
    have hLess : n.iface.frameId.toNat % 64 < 2 ^ 16 := by
      omega
    rw [BitVec.toNat_and, BitVec.toNat_ofNat,
      Nat.mod_eq_of_lt hLess]
    exact Nat.and_two_pow_sub_one_eq_mod _ 6
  unfold NicState.controlWord frameControl
  rw [hMask]

namespace NicState

theorem bytes_wordsOf
    (n : NicState) (data : Memory) (sizeInWord : Nat) :
    (portOrder n.iface.isInBigEndianMode).bytes
        (n.wordsOf data sizeInWord) =
      data.bytes (2 * sizeInWord) :=
  bytes_words_portOrder _ _ _

/- The header is little-endian in both modes. -/
theorem bytes_header (n : NicState) (byteCount : Nat) :
    (n.header byteCount).bytes 4 =
      littleEndian (frameControl n.iface.frameId) ++
        littleEndian (BitVec.ofNat 16 byteCount) := by
  have hSwap (word : UWORD) :
      highByte (swap word) = lowByte word ∧
        lowByte (swap word) = highByte word :=
    ⟨highByte_wordOf _ _, lowByte_wordOf _ _⟩
  rw [← controlWord_eq]
  show [highByte (swap n.controlWord),
    lowByte (swap n.controlWord),
    highByte (swap (BitVec.ofNat 16 byteCount)),
    lowByte (swap (BitVec.ofNat 16 byteCount))] = _
  rw [(hSwap _).1, (hSwap _).2, (hSwap _).1, (hSwap _).2]
  rfl

/- A raw frame is followed by the memory behind it. -/
theorem bytes_rawStream
    (n : NicState) (buffer : Memory) (length : Nat) :
    (portOrder n.iface.isInBigEndianMode).bytes
        (n.rawStream buffer length) =
      littleEndian (frameControl n.iface.frameId) ++
        (littleEndian (BitVec.ofNat 16 length) ++
          (buffer.bytes length ++
            (buffer.drop length).bytes
              (alignment length))) := by
  have hSize :
      2 * ((length + 3) / 4 * 4 / 2) =
        length + alignment length := by
    unfold alignment
    omega
  unfold rawStream
  rw [WordOrder.bytes_append, bytes_wordsOf, bytes_wordsOf,
    bytes_header, hSize, Memory.bytes_add, List.append_assoc]

/- A frame in parts is followed by at most one byte. -/
theorem bytes_cookedStream
    (n : NicState)
    (dst src : Memory)
    (packetType : UWORD)
    (payload : Memory)
    (payloadLength : Nat) :
    (portOrder n.iface.isInBigEndianMode).bytes
        (n.cookedStream dst src packetType payload
          payloadLength) =
      littleEndian (frameControl n.iface.frameId) ++
        (littleEndian (BitVec.ofNat 16
            (paddedLength payloadLength + ethHeaderSize)) ++
          (frameHead dst src packetType ++
            (payload.bytes (paddedLength payloadLength) ++
              (payload.drop
                (paddedLength payloadLength)).bytes
                (paddedLength payloadLength % 2)))) := by
  have hSize :
      2 * ((paddedLength payloadLength + 1) / 2) =
        paddedLength payloadLength +
          paddedLength payloadLength % 2 := by
    omega
  have hType : (wordMemory packetType).bytes 2 =
      bigEndian packetType := rfl
  unfold cookedStream cookedWords
  simp only [WordOrder.bytes_append, bytes_wordsOf, hSize,
    Memory.bytes_add _ (paddedLength payloadLength)]
  rw [bytes_header, hType]
  simp only [frameHead, List.append_assoc]

end NicState

/- A frame of this length is aligned as it should be. -/
theorem formatted_of_bytes
    {n : NicState}
    {IsFrame : List UBYTE → Prop}
    {ws : List UWORD}
    {frame : List UBYTE}
    (align : List UBYTE)
    (hFrame : IsFrame frame)
    (hAlign : align.length = alignment frame.length)
    (hBytes :
      (portOrder n.iface.isInBigEndianMode).bytes ws =
        littleEndian (frameControl n.iface.frameId) ++
          (littleEndian (BitVec.ofNat 16 frame.length) ++
            (frame ++ align))) :
    Formatted n IsFrame ws := by
  refine ⟨frame, align, hFrame, hAlign, hBytes, ?_⟩
  have hLength := congrArg List.length hBytes
  rw [WordOrder.length_bytes] at hLength
  simp only [List.length_append, length_littleEndian,
    hAlign, alignment] at hLength
  omega

------------------------------------------------------------
-- Raw Frames
------------------------------------------------------------

theorem formatted_rawStream
    (n : NicState) (buffer : Memory) (length : Nat) :
    Formatted n (Eq (buffer.bytes length))
      (n.rawStream buffer length) := by
  apply formatted_of_bytes
    ((buffer.drop length).bytes (alignment length)) rfl
  · rw [Memory.length_bytes, Memory.length_bytes]
  · rw [n.bytes_rawStream, Memory.length_bytes]

theorem carries_rawStream
    (n : NicState) (buffer : Memory) (length : Nat) :
    Carries n (Eq (buffer.bytes length))
      (n.rawStream buffer length) := by
  refine ⟨_, (buffer.drop length).bytes (alignment length),
    rfl, ?_⟩
  rw [n.bytes_rawStream, Memory.length_bytes]

------------------------------------------------------------
-- Frames Given in Parts
------------------------------------------------------------

/- The length of a frame given in parts. -/
theorem length_of_cookedFrame
    {dst src : Memory}
    {packetType : UWORD}
    {payload : Memory}
    {payloadLength : Nat}
    {frame : List UBYTE}
    (hFrame : CookedFrame dst src packetType payload
      payloadLength frame) :
    frame.length =
      paddedLength payloadLength + ethHeaderSize := by
  rcases hFrame with ⟨padding, hPadding, rfl⟩
  simp only [List.length_append, length_frameHead,
    Memory.length_bytes, hPadding, paddedLength,
    ethHeaderSize]
  split <;> omega

/- A short payload is read on to 46 bytes. -/
theorem cookedFrame_padded
    (dst src : Memory)
    (packetType : UWORD)
    (payload : Memory)
    (payloadLength : Nat) :
    CookedFrame dst src packetType payload payloadLength
      (frameHead dst src packetType ++
        payload.bytes (paddedLength payloadLength)) := by
  have hPadded :
      paddedLength payloadLength =
        payloadLength + (46 - payloadLength) := by
    unfold paddedLength
    split <;> omega
  refine ⟨(payload.drop payloadLength).bytes
    (46 - payloadLength), Memory.length_bytes _ _, ?_⟩
  rw [hPadded, Memory.bytes_add]

theorem carries_cookedStream
    (n : NicState)
    (dst src : Memory)
    (packetType : UWORD)
    (payload : Memory)
    (payloadLength : Nat) :
    Carries n
      (CookedFrame dst src packetType payload payloadLength)
      (n.cookedStream dst src packetType payload
        payloadLength) := by
  have hFrame := cookedFrame_padded dst src packetType payload
    payloadLength
  refine ⟨_, (payload.drop (paddedLength payloadLength)).bytes
    (paddedLength payloadLength % 2), hFrame, ?_⟩
  rw [n.bytes_cookedStream, length_of_cookedFrame hFrame,
    List.append_assoc]

/- The payload ends one word or one byte before the next
   double word. -/
def EndsAligned (payloadLength : Nat) : Prop :=
  paddedLength payloadLength % 4 = 1 ∨
    paddedLength payloadLength % 4 = 2

theorem alignment_iff (payloadLength : Nat) :
    alignment (paddedLength payloadLength + ethHeaderSize) =
        paddedLength payloadLength % 2 ↔
      EndsAligned payloadLength := by
  unfold alignment ethHeaderSize EndsAligned
  omega

theorem formatted_cookedStream_iff
    (n : NicState)
    (dst src : Memory)
    (packetType : UWORD)
    (payload : Memory)
    (payloadLength : Nat) :
    Formatted n
        (CookedFrame dst src packetType payload payloadLength)
        (n.cookedStream dst src packetType payload
          payloadLength) ↔
      EndsAligned payloadLength := by
  have hBytes := n.bytes_cookedStream dst src packetType
    payload payloadLength
  constructor
  · rintro ⟨frame, align, hFrame, hAlign, hFormat, -⟩
    have hLength := congrArg List.length (hFormat.symm.trans
      hBytes)
    simp only [List.length_append, length_littleEndian,
      length_frameHead, Memory.length_bytes, hAlign,
      length_of_cookedFrame hFrame] at hLength
    rw [← alignment_iff]
    unfold ethHeaderSize at hLength ⊢
    omega
  · intro hEnds
    have hLength := length_of_cookedFrame
      (cookedFrame_padded dst src packetType payload
        payloadLength)
    apply formatted_of_bytes
      ((payload.drop (paddedLength payloadLength)).bytes
        (paddedLength payloadLength % 2))
      (cookedFrame_padded dst src packetType payload
        payloadLength)
    · rw [Memory.length_bytes, hLength,
        (alignment_iff payloadLength).mpr hEnds]
    · rw [hBytes, hLength, List.append_assoc]

------------------------------------------------------------
-- Both Paths
------------------------------------------------------------

/-
  What the transmit queue is to get from both send paths: the
  format, and for a frame of full size the same frame, with
  the same header, in the same number of words.
-/
structure StreamsRight
    (n : NicState)
    (buffer : Memory)
    (length : Nat)
    (dst src : Memory)
    (packetType : UWORD)
    (payload : Memory)
    (payloadLength : Nat) : Prop where
  raw : ∃ ws,
    NicState.Started ws n
        ((ksz8851SendPacket buffer length).runOn n).2 ∧
      Formatted n (Eq (buffer.bytes length)) ws
  cooked : ∃ ws,
    NicState.Started ws n
        ((ksz8851SendPacketCooked dst src packetType payload
          payloadLength).runOn n).2 ∧
      Formatted n
        (CookedFrame dst src packetType payload payloadLength)
        ws
  same : 46 ≤ payloadLength →
    buffer.bytes length =
      frameHead dst src packetType ++
        payload.bytes payloadLength →
    ∃ ws ws',
      NicState.Started ws n
          ((ksz8851SendPacket buffer length).runOn n).2 ∧
        NicState.Started ws' n
          ((ksz8851SendPacketCooked dst src packetType payload
            payloadLength).runOn n).2 ∧
        ws.length = ws'.length ∧
        ((portOrder n.iface.isInBigEndianMode).bytes ws).take
            (4 + length) =
          ((portOrder n.iface.isInBigEndianMode).bytes ws').take
            (4 + length)

theorem Formatted.mono
    {n : NicState}
    {IsFrame IsFrame' : List UBYTE → Prop}
    {ws : List UWORD}
    (hFormatted : Formatted n IsFrame ws)
    (hFrames : ∀ frame, IsFrame frame → IsFrame' frame) :
    Formatted n IsFrame' ws := by
  rcases hFormatted with ⟨frame, align, hFrame, hRest⟩
  exact ⟨frame, align, hFrames frame hFrame, hRest⟩

/- The header and the frame, without what follows them. -/
theorem take_format
    (control byteCount : UWORD)
    (frame align : List UBYTE) :
    (littleEndian control ++
        (littleEndian byteCount ++ (frame ++ align))).take
        (4 + frame.length) =
      littleEndian control ++
        (littleEndian byteCount ++ frame) := by
  have hSplit :
      littleEndian control ++
          (littleEndian byteCount ++ (frame ++ align)) =
        littleEndian control ++
          (littleEndian byteCount ++ frame) ++ align := by
    simp only [List.append_assoc]
  rw [hSplit]
  apply List.take_left'
  simp only [List.length_append, length_littleEndian]
  omega

/- The format leaves only the alignment bytes open. -/
theorem Formatted.same
    {n : NicState}
    {frame : List UBYTE}
    {ws ws' : List UWORD}
    (hFormatted : Formatted n (Eq frame) ws)
    (hFormatted' : Formatted n (Eq frame) ws') :
    ws.length = ws'.length ∧
      ((portOrder n.iface.isInBigEndianMode).bytes ws).take
          (4 + frame.length) =
        ((portOrder n.iface.isInBigEndianMode).bytes ws').take
          (4 + frame.length) := by
  rcases hFormatted with ⟨_, align, rfl, hAlign, hBytes, -⟩
  rcases hFormatted' with ⟨_, align', rfl, hAlign', hBytes', -⟩
  constructor
  · have hLength := congrArg List.length hBytes
    have hLength' := congrArg List.length hBytes'
    rw [WordOrder.length_bytes] at hLength hLength'
    simp only [List.length_append, hAlign] at hLength
    simp only [List.length_append, hAlign'] at hLength'
    omega
  · rw [hBytes, hBytes', take_format, take_format]

/- A payload of full size is the whole rest of the frame. -/
theorem cookedFrame_of_full
    {dst src : Memory}
    {packetType : UWORD}
    {payload : Memory}
    {payloadLength : Nat}
    {frame : List UBYTE}
    (hFull : 46 ≤ payloadLength)
    (hFrame : CookedFrame dst src packetType payload
      payloadLength frame) :
    frame = frameHead dst src packetType ++
      payload.bytes payloadLength := by
  rcases hFrame with ⟨padding, hPadding, rfl⟩
  have hNone : padding = [] := by
    apply List.eq_nil_of_length_eq_zero
    omega
  rw [hNone, List.append_nil]

/- Only one list of words can have been put into the queue. -/
theorem NicState.Started.unique
    {n n' : NicState}
    {ws ws' : List UWORD}
    (hStarted : Started ws n n')
    (hStarted' : Started ws' n n') :
    ws = ws' := by
  have hFrames := hStarted.frames.symm.trans hStarted'.frames
  simpa using hFrames

theorem streamsRight_iff
    {n : NicState}
    {length payloadLength : Nat}
    (buffer dst src : Memory)
    (packetType : UWORD)
    (payload : Memory)
    (hPayload : payloadLength ≤ 1500)
    (hRaw : n.RawAccepted length)
    (hCooked : n.CookedAccepted payloadLength) :
    StreamsRight n buffer length dst src packetType payload
        payloadLength ↔
      EndsAligned payloadLength := by
  have hSentRaw :=
    (started_ksz8851SendPacket buffer hRaw).2
  have hSentCooked :=
    (started_ksz8851SendPacketCooked dst src packetType
      payload (by omega) hCooked).2
  have hFormat := formatted_cookedStream_iff n dst src
    packetType payload payloadLength
  constructor
  · intro hRight
    rcases hRight.cooked with ⟨ws, hStarted, hFormatted⟩
    rw [hStarted.unique hSentCooked] at hFormatted
    exact hFormat.mp hFormatted
  · intro hEnds
    refine
      ⟨⟨_, hSentRaw, formatted_rawStream n buffer length⟩,
        ⟨_, hSentCooked, hFormat.mpr hEnds⟩, ?_⟩
    intro hFull hSame
    have hSentFull :=
      (hFormat.mpr hEnds).mono (fun frame hFrame =>
        hSame.trans (cookedFrame_of_full hFull hFrame).symm)
    have hBoth :=
      (formatted_rawStream n buffer length).same hSentFull
    rw [Memory.length_bytes] at hBoth
    exact ⟨_, _, hSentRaw, hSentCooked, hBoth⟩

/- A chip in big-endian mode with 8000 bytes of memory. -/
def roomyNic : NicState :=
  offlineNic.setChip (fun c =>
    { c with
      reg := fun offset =>
        if offset = regTxmir then 0x1F40#16 else 0#16 })

/- The shortest frame, raw and given in parts. -/
theorem streamsRight_shortest :
    46 ≤ 1500 ∧ roomyNic.RawAccepted 60 ∧
      roomyNic.CookedAccepted 46 ∧
      (StreamsRight roomyNic (fun _ => 0#8) 60 (fun _ => 0#8)
          (fun _ => 0#8) 0x0800#16 (fun _ => 0#8) 46 ↔
        EndsAligned 46) :=
  ⟨by decide, by decide +kernel, by decide +kernel,
    streamsRight_iff _ _ _ _ _ (by decide) (by decide +kernel)
      (by decide +kernel)⟩

/- The frame of the largest payload lacks the alignment. -/
theorem not_streamsRight_fullSize :
    roomyNic.RawAccepted 1514 ∧ roomyNic.CookedAccepted 1500 ∧
      ¬ StreamsRight roomyNic (fun _ => 0#8) 1514
        (fun _ => 0#8) (fun _ => 0#8) 0x0800#16 (fun _ => 0#8)
        1500 := by
  have hAccepted : roomyNic.CookedAccepted 1500 := by
    decide +kernel
  refine ⟨by decide +kernel, hAccepted, ?_⟩
  intro hRight
  have hSent :=
    (started_ksz8851SendPacketCooked (fun _ => 0#8)
      (fun _ => 0#8) 0x0800#16 (fun _ => 0#8) (by decide)
      hAccepted).2
  rcases hRight.cooked with ⟨ws, hStarted, hFormatted⟩
  rw [hStarted.unique hSent, formatted_cookedStream_iff]
    at hFormatted
  revert hFormatted
  unfold EndsAligned
  decide

end KszDriver
