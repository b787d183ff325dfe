import KszDriver.Device.Transmit

/-
  What pads a short packet.

  A payload of less than 46 bytes is read on to 46.  What is
  read lies behind the payload of the client, or in the send
  buffer where an earlier packet left it.

  Main declarations:
    * `coveredBytes`, `SendsFrame`
    * `sentFrame`
    * `LeaksNothing`
    * `leaksNothing_iff`
    * `not_leaksNothing_short`
-/

------------------------------------------------------------
-- The Bytes on the Wire
------------------------------------------------------------

namespace KszDriver

open Driver

/- The bytes that the byte count in the header covers. -/
def coveredBytes : List UBYTE → List UBYTE
| _ :: _ :: low :: high :: bytes =>
    bytes.take (wordOf high low).toNat
| _ => []

/- The step has the chip transmit this frame. -/
def SendsFrame (s s' : Driver) (frame : List UBYTE) : Prop :=
  ∃ ws, NicState.Started ws s.nic s'.nic ∧
    coveredBytes
      ((portOrder s.nic.iface.isInBigEndianMode).bytes ws) =
      frame

theorem coveredBytes_header
    (control byteCount : UWORD)
    (bytes : List UBYTE) :
    coveredBytes
        (littleEndian control ++
          (littleEndian byteCount ++ bytes)) =
      bytes.take byteCount.toNat := by
  show bytes.take (wordOf (highByte byteCount)
    (lowByte byteCount)).toNat = _
  rw [wordOf_bytes]

/- A frame given in parts is covered up to its padding. -/
theorem coveredBytes_cookedStream
    (n : NicState)
    (dst src : Memory)
    (packetType : UWORD)
    (payload : Memory)
    {payloadLength : Nat}
    (hLength : payloadLength ≤ ethernetMtu) :
    coveredBytes
        ((portOrder n.iface.isInBigEndianMode).bytes
          (n.cookedStream dst src packetType payload
            payloadLength)) =
      frameHead dst src packetType ++
        payload.bytes (paddedLength payloadLength) := by
  have hCount :
      paddedLength payloadLength + ethHeaderSize < 65536 := by
    unfold ethernetMtu at hLength
    unfold paddedLength ethHeaderSize
    split <;> omega
  rw [n.bytes_cookedStream, coveredBytes_header,
    BitVec.toNat_ofNat, Nat.mod_eq_of_lt hCount,
    ← List.append_assoc]
  apply List.take_left'
  rw [List.length_append, length_frameHead,
    Memory.length_bytes, Nat.add_comm]
  rfl

------------------------------------------------------------
-- The Frame That Is Sent
------------------------------------------------------------

/- The frame that a cooked packet becomes. -/
def sentFrame (o : Outcome) (ios2 : APTR) (s : Driver) :
    List UBYTE :=
  let req := writeRequest (s.reqs ios2)
  frameHead req.dstAddr.memory s.unit.stAddr.memory
      req.packetTypeWord ++
    (sentMemory o ios2 s).bytes
      (paddedLength req.dataLength.toNat)

section Frames

variable {o : Outcome} {ios2 : APTR} {s s₁ : Driver}
variable {p : NicM ErrorT}

/- The frame is the same when the packet is readied. -/
theorem sentFrame_readied
    (hReadied : Readied ios2 s s₁) :
    frameHead (s₁.reqs ios2).dstAddr.memory
          s₁.unit.stAddr.memory
          (s₁.reqs ios2).packetTypeWord ++
        (sentMemory o ios2 s₁).bytes
          (paddedLength (s₁.reqs ios2).dataLength.toNat) =
      sentFrame o ios2 s := by
  unfold sentFrame sentMemory
  rw [hReadied.dmaPacketBuffer, hReadied.req, hReadied.unit,
    hReadied.sendBuffer]
  rfl

theorem covered_cooked
    {n : NicState}
    {payloadLength : Nat}
    (dst src : Memory)
    (packetType : UWORD)
    (payload : Memory)
    (hLength : payloadLength ≤ ethernetMtu)
    (hAccepted : n.CookedAccepted payloadLength) :
    ∃ ws, NicState.Started ws n
        ((ksz8851SendPacketCooked dst src packetType payload
          payloadLength).runOn n).2 ∧
      coveredBytes
        ((portOrder n.iface.isInBigEndianMode).bytes ws) =
        frameHead dst src packetType ++
          payload.bytes (paddedLength payloadLength) := by
  have hMost : payloadLength ≤ 131068 := by
    unfold ethernetMtu at hLength
    omega
  exact ⟨_,
    (started_ksz8851SendPacketCooked dst src packetType
      payload hMost hAccepted).2,
    coveredBytes_cookedStream n dst src packetType payload
      hLength⟩

/- What the call puts into the transmit queue. -/
theorem covered_of_sendCall
    (hCooked : ¬ (s.reqs ios2).Raw)
    (hCall : sendCall o ios2 s = some p)
    (hAccepts : LowLevelAccepts (s.reqs ios2) s.nic) :
    ∃ ws, NicState.Started ws s.nic (p.runOn s.nic).2 ∧
      coveredBytes
        ((portOrder s.nic.iface.isInBigEndianMode).bytes ws) =
        frameHead (s.reqs ios2).dstAddr.memory
            s.unit.stAddr.memory
            (s.reqs ios2).packetTypeWord ++
          (sentMemory o ios2 s).bytes
            (paddedLength (s.reqs ios2).dataLength.toNat) := by
  unfold LowLevelAccepts at hAccepts
  rw [if_neg hCooked] at hAccepts
  cases callShape_of_sendCall o ios2 hCall with
  | raw buffer hRaw hSource => exact absurd hRaw hCooked
  | cooked dst src hCooked hShort hDst hSrc =>
      have hHead :
          frameHead dst src (s.reqs ios2).packetTypeWord =
            frameHead (s.reqs ios2).dstAddr.memory
              s.unit.stAddr.memory
              (s.reqs ios2).packetTypeWord := by
        unfold frameHead
        rw [hDst, hSrc]
      rw [← hHead]
      exact covered_cooked _ _ _ _ hShort hAccepts

end Frames

------------------------------------------------------------
-- Two Runs
------------------------------------------------------------

/-
  A cooked packet with these contents is about to be
  submitted to an online unit.  `dst` is where it will be
  sent, and the payload is what lies at the packet buffer of
  the client or what its callback copies.
-/
structure CookedWrite
    (dst src : MacAddr)
    (packetType : ULONG)
    (payload : List UBYTE)
    (o : Outcome)
    (ios2 : APTR)
    (s : Driver) : Prop where
  reach : deviceMachine.Reach Machine.Free s
  online : s.Online
  allowed : (Op.beginIo ios2 o).Allowed s
  write : IsWrite (s.reqs ios2).ioCommand
  cooked : ¬ (s.reqs ios2).Raw
  dst : (writeRequest (s.reqs ios2)).dstAddr = dst
  src : s.unit.stAddr = src
  packetType : (s.reqs ios2).packetType = packetType
  payload :
    (payloadOf o ios2 s).bytes
      (s.reqs ios2).dataLength.toNat = payload

/-
  Two runs that send a cooked packet with the same contents
  send the same frame, whatever happened in them before.
-/
def LeaksNothing (payloadLength : Nat) : Prop :=
  ∀ (dst src : MacAddr) (packetType : ULONG)
    (payload : List UBYTE),
    payload.length = payloadLength →
    ∀ (o o' : Outcome) (ios2 ios2' : APTR) (s s' : Driver),
      CookedWrite dst src packetType payload o ios2 s →
      CookedWrite dst src packetType payload o' ios2' s' →
      ∀ frame frame' : List UBYTE,
        SendsFrame s (s.next (.beginIo ios2 o)) frame →
        SendsFrame s' (s'.next (.beginIo ios2' o')) frame' →
        frame = frame'

theorem NicState.Kept.not_started
    {n n' : NicState}
    {ws : List UWORD}
    (hKept : Kept n n') :
    ¬ Started ws n n' := by
  intro hStarted
  have hFrames := hStarted.frames
  rw [hKept.frames] at hFrames
  simp at hFrames

section Writes

variable {dst src : MacAddr} {packetType : ULONG}
variable {payload : List UBYTE} {o : Outcome} {ios2 : APTR}
variable {s : Driver}

/- The only frame that can come of a cooked packet. -/
theorem CookedWrite.eq_sentFrame
    {frame : List UBYTE}
    (hWrite : CookedWrite dst src packetType payload o ios2 s)
    (hSends : SendsFrame s (s.next (.beginIo ios2 o)) frame) :
    frame = sentFrame o ios2 s := by
  rcases hSends with ⟨ws, hStarted, rfl⟩
  cases writeStep_next hWrite.reach hWrite.online
    hWrite.allowed.2 hWrite.write with
  | tooLong hLong hGivenUp =>
      rw [hGivenUp.nic] at hStarted
      exact absurd hStarted
        (NicState.Kept.not_started ⟨rfl, rfl⟩)
  | sends s₁ hFits hReadied hEnds =>
      rcases hEnds with ⟨p, hCall, hSent⟩ | ⟨-, hGivenUp⟩
      · rw [hSent.nic, ← hReadied.nic] at hStarted
        rw [← hReadied.nic]
        by_cases hAccepts : LowLevelAccepts (s₁.reqs ios2) s₁.nic
        · have hCooked : ¬ (s₁.reqs ios2).Raw := by
            rw [hReadied.req, raw_writeRequest]
            exact hWrite.cooked
          rcases covered_of_sendCall hCooked hCall hAccepts
            with ⟨ws', hStarted', hCovered⟩
          rw [hStarted.unique hStarted', hCovered]
          exact sentFrame_readied hReadied
        · exact absurd hStarted
            (kept_of_not_accepts o ios2 hCall
              hAccepts).2.not_started
      · rw [hGivenUp.nic, ← hReadied.nic] at hStarted
        exact absurd hStarted
          (NicState.Kept.not_started ⟨rfl, rfl⟩)

/- An accepted packet is sent. -/
theorem CookedWrite.sendsFrame
    (hWrite : CookedWrite dst src packetType payload o ios2 s)
    (hOffered : Offered o ios2 s)
    (hAccepted : Accepted ios2 s) :
    SendsFrame s (s.next (.beginIo ios2 o))
      (sentFrame o ios2 s) := by
  cases writeStep_next hWrite.reach hWrite.online
    hWrite.allowed.2 hWrite.write with
  | tooLong hLong hGivenUp => exact absurd hOffered.1 hLong
  | sends s₁ hFits hReadied hEnds =>
      rcases (exists_sendCall_iff_offered hFits hReadied).mpr
        hOffered with ⟨p, hCall⟩
      rcases hEnds with ⟨p', hCall', hSent⟩ | ⟨hNone, -⟩
      · have hCooked : ¬ (s₁.reqs ios2).Raw := by
          rw [hReadied.req, raw_writeRequest]
          exact hWrite.cooked
        rcases covered_of_sendCall hCooked hCall'
          (hReadied.accepts.mpr hAccepted)
          with ⟨ws, hStarted, hCovered⟩
        rw [hReadied.nic] at hStarted hCovered
        refine ⟨ws, ?_, ?_⟩
        · rw [hSent.nic, hReadied.nic]
          exact hStarted
        · rw [hCovered]
          exact sentFrame_readied hReadied
      · rw [hNone] at hCall
        cases hCall

end Writes

/- A payload of full size leaves nothing to be read on. -/
theorem CookedWrite.sentFrame_of_full
    {dst src : MacAddr}
    {packetType : ULONG}
    {payload : List UBYTE}
    {o : Outcome}
    {ios2 : APTR}
    {s : Driver}
    (hWrite : CookedWrite dst src packetType payload o ios2 s)
    (hFull : 46 ≤ payload.length) :
    sentFrame o ios2 s =
      frameHead dst.memory src.memory
        (packetType.setWidth 16) ++ payload := by
  have hPayload := hWrite.payload
  rw [← hPayload, Memory.length_bytes] at hFull
  have hPadded :
      paddedLength (s.reqs ios2).dataLength.toNat =
        (s.reqs ios2).dataLength.toNat :=
    if_neg (Nat.not_lt.mpr hFull)
  rw [← sentMemory_bytes] at hPayload
  show frameHead _ _ _ ++ (sentMemory o ios2 s).bytes
    (paddedLength (s.reqs ios2).dataLength.toNat) = _
  rw [hPadded, hPayload, ← hWrite.dst, ← hWrite.src,
    ← hWrite.packetType]
  rfl

theorem leaksNothing_of_full
    {payloadLength : Nat}
    (hFull : 46 ≤ payloadLength) :
    LeaksNothing payloadLength := by
  intro dst src packetType payload hLength o o' ios2 ios2' s s'
    hWrite hWrite' frame frame' hSends hSends'
  rw [← hLength] at hFull
  rw [hWrite.eq_sentFrame hSends, hWrite'.eq_sentFrame hSends',
    hWrite.sentFrame_of_full hFull,
    hWrite'.sentFrame_of_full hFull]

------------------------------------------------------------
-- A Packet with Something behind It
------------------------------------------------------------

/- An online unit whose opener tells its packet buffers. -/
def dmaOnline : Driver :=
  deviceMachine.run
    (.openDevice 7 0#32 0#32
        { plainOpen 40 with
          tags := some [(s2DmaCopyFromBuff32, 5)] } ::
      submitSteps 8 (plainRequest s2ConfigInterface) ++
        [.serviceMsgPort plainOutcome])
    (loadedDriver (idleRegisters 0x1800#16))

/- A client there wants to send a packet. -/
def dmaPacket (payloadLength : Nat) : Driver :=
  dmaOnline.next (.clientWrite 9
    (plainPacket 0#8 (BitVec.ofNat 32 payloadLength)))

/- A payload of zeros with other bytes behind it. -/
def zerosThen (payloadLength : Nat) (behind : UBYTE) :
    Memory :=
  fun i => if i < payloadLength then 0#8 else behind

/- The client tells the address of such a payload. -/
def tellsBuffer (payloadLength : Nat) (behind : UBYTE) :
    Outcome :=
  { plainOutcome with
    copyFromBufferDma := fun _ =>
      some (zerosThen payloadLength behind) }

theorem reach_dmaOnline :
    deviceMachine.Reach Machine.Free dmaOnline :=
  Machine.reach_run _
    (Machine.Reach.start (start_loadedDriver _))
    (by decide +kernel)

theorem dmaPacketBuffer_dmaPacket
    (payloadLength : Nat) (behind : UBYTE) :
    dmaPacketBuffer (tellsBuffer payloadLength behind) 9
        (dmaPacket payloadLength) =
      some (zerosThen payloadLength behind) := by
  have hTold : (dmaOnline.bms 40).copyFromBufferDma ≠ 0 := by
    decide +kernel
  exact if_pos hTold

theorem dataLength_dmaPacket
    {payloadLength : Nat}
    (hShort : payloadLength < 46) :
    ((dmaPacket payloadLength).reqs 9).dataLength.toNat =
      payloadLength := by
  have hWord : payloadLength < 2 ^ 32 := by
    omega
  exact Nat.mod_eq_of_lt hWord

theorem cookedWrite_dmaPacket
    {payloadLength : Nat}
    (behind : UBYTE)
    (hShort : payloadLength < 46) :
    CookedWrite blankRequest.dstAddr dmaOnline.unit.stAddr
      0x0800#32 (Memory.bytes (fun _ => 0#8) payloadLength)
      (tellsBuffer payloadLength behind) 9
      (dmaPacket payloadLength) where
  reach := by
    have hOwned : dmaOnline.Owned 9 := by
      decide +kernel
    show deviceMachine.Reach Machine.Free
      (deviceMachine.next dmaOnline (.clientWrite 9 _))
    exact Machine.Reach.step reach_dmaOnline hOwned trivial
  online := by
    show dmaOnline.Online
    decide +kernel
  allowed := by
    show dmaOnline.base.unit0 = true ∧ dmaOnline.Owned 9
    decide +kernel
  write := Or.inl rfl
  cooked := by
    show ¬ 0#8 &&& sana2IofRaw ≠ 0#8
    decide
  dst := rfl
  src := rfl
  packetType := rfl
  payload := by
    rw [dataLength_dmaPacket hShort]
    unfold payloadOf
    rw [dmaPacketBuffer_dmaPacket]
    apply Memory.bytes_congr
    intro i hi
    exact if_pos hi

/- The packet with what lies behind it, up to 46 bytes. -/
theorem sendsFrame_dmaPacket
    {payloadLength : Nat}
    (behind : UBYTE)
    (hShort : payloadLength < 46) :
    SendsFrame (dmaPacket payloadLength)
      ((dmaPacket payloadLength).next
        (.beginIo 9 (tellsBuffer payloadLength behind)))
      (frameHead blankRequest.dstAddr.memory
          dmaOnline.unit.stAddr.memory 0x0800#16 ++
        (zerosThen payloadLength behind).bytes 46) := by
  have hLength := dataLength_dmaPacket hShort
  have hCooked : ¬ ((dmaPacket payloadLength).reqs 9).Raw :=
    (cookedWrite_dmaPacket behind hShort).cooked
  have hPadded : paddedLength payloadLength = 46 :=
    if_pos hShort
  have hOffered :
      Offered (tellsBuffer payloadLength behind) 9
        (dmaPacket payloadLength) := by
    have hMtu : dmaOnline.unit.mtu = 1500#32 := by
      decide +kernel
    refine ⟨?_, ?_⟩
    · show _ ≤ dmaOnline.unit.mtu
      rw [hMtu, BitVec.le_def, hLength]
      show payloadLength ≤ 1500
      omega
    · unfold Offers
      rw [if_neg hCooked, hLength, dmaPacketBuffer_dmaPacket]
      refine ⟨?_, Or.inl (by simp)⟩
      unfold ethernetMtu
      omega
  have hAccepted : Accepted 9 (dmaPacket payloadLength) := by
    unfold Accepted LowLevelAccepts
    rw [if_neg hCooked, hLength]
    unfold NicState.CookedAccepted
    rw [hPadded]
    show dmaOnline.nic.TxFits 46
    decide +kernel
  have hSends :=
    (cookedWrite_dmaPacket behind hShort).sendsFrame hOffered
      hAccepted
  unfold sentFrame sentMemory at hSends
  rw [dmaPacketBuffer_dmaPacket] at hSends
  dsimp only at hSends
  rw [show (writeRequest
      ((dmaPacket payloadLength).reqs 9)).dataLength.toNat =
        payloadLength from hLength, hPadded] at hSends
  exact hSends

theorem full_of_leaksNothing
    {payloadLength : Nat}
    (hNothing : LeaksNothing payloadLength) :
    46 ≤ payloadLength := by
  by_contra hNot
  have hShort : payloadLength < 46 := Nat.not_le.mp hNot
  have hSame := hNothing _ _ _ _ (Memory.length_bytes _ _)
    _ _ _ _ _ _ (cookedWrite_dmaPacket 0#8 hShort)
    (cookedWrite_dmaPacket 1#8 hShort) _ _
    (sendsFrame_dmaPacket 0#8 hShort)
    (sendsFrame_dmaPacket 1#8 hShort)
  have hBytes := List.append_cancel_left hSame
  have hByte := congrArg (fun bytes => bytes[payloadLength]?)
    hBytes
  simp [Memory.bytes, zerosThen, hShort] at hByte

/- Packets leak nothing if and only if they need no padding. -/
theorem leaksNothing_iff
    {payloadLength : Nat} :
    LeaksNothing payloadLength ↔ 46 ≤ payloadLength :=
  ⟨full_of_leaksNothing, leaksNothing_of_full⟩

/- A packet of ten bytes leaks what lies behind it. -/
theorem not_leaksNothing_short :
    10 ≤ 1500 ∧ ¬ LeaksNothing 10 := by
  refine ⟨by decide, fun hNothing => ?_⟩
  exact absurd (full_of_leaksNothing hNothing) (by decide)

end KszDriver
