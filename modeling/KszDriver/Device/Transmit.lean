import KszDriver.Device.Sending

/-
  What a client is told about a packet it sends.

  The low level driver may refuse a packet, for its length or
  for lack of memory, and its answer is not looked at.  The
  client is told the truth about all other packets.

  Main declarations:
    * `RequestedFrame`
    * `WriteReports`
    * `Offered`, `Accepted`
    * `writeReports_iff`
    * `not_writeReports_shortRaw`
-/

------------------------------------------------------------
-- The Frame That Is Asked for
------------------------------------------------------------

namespace KszDriver

open Driver

/- Where the payload of a cooked packet comes from. -/
def payloadOf (o : Outcome) (ios2 : APTR) (s : Driver) :
    Memory :=
  match dmaPacketBuffer o ios2 s with
  | some packet => packet
  | none => (o.copyFromBuffer ios2).2

/- The memory that the payload is read from. -/
def sentMemory (o : Outcome) (ios2 : APTR) (s : Driver) :
    Memory :=
  match dmaPacketBuffer o ios2 s with
  | some packet => packet
  | none =>
      (s.sendBuffer.copyInto etherPacketHeadSize
        (o.copyFromBuffer ios2).2
        (s.reqs ios2).dataLength.toNat).drop
          etherPacketHeadSize

/- The frame that a packet with this request is to be. -/
def FrameOf
    (o : Outcome)
    (ios2 : APTR)
    (req : IOSana2Req)
    (s : Driver) : List UBYTE → Prop :=
  if req.Raw then
    Eq ((o.copyFromBuffer ios2).2.bytes req.dataLength.toNat)
  else
    CookedFrame req.dstAddr.memory s.unit.stAddr.memory
      req.packetTypeWord (payloadOf o ios2 s)
      req.dataLength.toNat

/- The frame that a client asks for when it submits. -/
def RequestedFrame
    (o : Outcome) (ios2 : APTR) (s : Driver) :
    List UBYTE → Prop :=
  FrameOf o ios2 (writeRequest (s.reqs ios2)) s

------------------------------------------------------------
-- The Send Buffer
------------------------------------------------------------

theorem Memory.bytes_congr
    {m m' : Memory}
    {n : Nat}
    (hSame : ∀ i, i < n → m i = m' i) :
    m.bytes n = m'.bytes n := by
  apply List.map_congr_left
  intro i hIn
  exact hSame i (List.mem_range.mp hIn)

section Stores

variable (m : Memory) {offset i n : Nat} (source : Memory)

theorem Memory.copyInto_inside
    (hLeast : offset ≤ i)
    (hMost : i < offset + n) :
    m.copyInto offset source n i = source (i - offset) :=
  if_pos ⟨hLeast, hMost⟩

theorem Memory.copyInto_before (hBefore : i < offset) :
    m.copyInto offset source n i = m i :=
  if_neg (fun hInside => Nat.not_le.mpr hBefore hInside.1)

theorem Memory.copyInto_after (hAfter : offset + n ≤ i) :
    m.copyInto offset source n i = m i :=
  if_neg (fun hInside => Nat.not_lt.mpr hAfter hInside.2)

theorem Memory.storeTwo_after
    (first second : UBYTE)
    (hAfter : offset + 2 ≤ i) :
    m.storeTwo offset first second i = m i := by
  unfold Memory.storeTwo
  rw [if_neg (by omega), if_neg (by omega)]

theorem Memory.storeTwo_before
    (first second : UBYTE)
    (hBefore : i < offset) :
    m.storeTwo offset first second i = m i := by
  unfold Memory.storeTwo
  rw [if_neg (by omega), if_neg (by omega)]

/- What was copied is found where it was copied to. -/
theorem Memory.bytes_copyInto :
    ((m.copyInto offset source n).drop offset).bytes n =
      source.bytes n := by
  apply Memory.bytes_congr
  intro i hi
  unfold Memory.drop
  rw [m.copyInto_inside source (by omega) (by omega),
    Nat.add_sub_cancel_left]

theorem Memory.bytes_copyInto_zero :
    (m.copyInto 0 source n).bytes n = source.bytes n := by
  rw [← Memory.drop_zero (m.copyInto 0 source n)]
  exact Memory.bytes_copyInto m source

end Stores

section SendBuffer

variable (o : Outcome) (ios2 : APTR) (s : Driver)

/- The header lies in front of what is copied. -/
theorem cookedBuffer_of_lt
    {i : Nat}
    (hHead : i < 14) :
    cookedBuffer o ios2 s i =
      (storeHeader ios2 s).sendBuffer i :=
  Memory.copyInto_before _ _ hHead

theorem cookedBuffer_dst :
    (cookedBuffer o ios2 s).bytes 6 =
      (s.reqs ios2).dstAddr.memory.bytes 6 := by
  apply Memory.bytes_congr
  intro i hi
  rw [cookedBuffer_of_lt o ios2 s (by omega)]
  unfold storeHeader
  dsimp only
  rw [Memory.storeTwo_before _ _ _ (by omega),
    Memory.copyInto_before _ _ hi,
    Memory.copyInto_inside _ _ (by omega) (by omega),
    Nat.sub_zero]

theorem cookedBuffer_src :
    ((cookedBuffer o ios2 s).drop 6).bytes 6 =
      s.unit.stAddr.memory.bytes 6 := by
  apply Memory.bytes_congr
  intro i hi
  unfold Memory.drop
  rw [cookedBuffer_of_lt o ios2 s (by omega)]
  unfold storeHeader
  dsimp only
  rw [Memory.storeTwo_before _ _ _ (by omega),
    Memory.copyInto_inside _ _ (by omega) (by omega),
    Nat.add_sub_cancel_left]

/- A word is put together from its two bytes. -/
theorem wordOf_bytes (word : UWORD) :
    wordOf (highByte word) (lowByte word) = word := by
  apply BitVec.eq_of_getLsbD_eq
  intro i hi
  by_cases hLow : i < 8
  · simp [wordOf, highByte, lowByte, hLow, hi]
  · have hHigh : 8 + (i - 8) = i := by
      omega
    have hByte : i - 8 < 8 := by
      omega
    simp [wordOf, highByte, lowByte, hLow, hi, hHigh, hByte]

theorem cookedBuffer_type :
    (cookedBuffer o ios2 s).wordAt 12 =
      (s.reqs ios2).packetTypeWord := by
  unfold Memory.wordAt
  rw [cookedBuffer_of_lt o ios2 s (by omega),
    cookedBuffer_of_lt o ios2 s (by omega)]
  exact wordOf_bytes _

/- The header does not reach into the payload. -/
theorem cookedBuffer_drop :
    (cookedBuffer o ios2 s).drop etherPacketHeadSize =
      (s.sendBuffer.copyInto etherPacketHeadSize
        (o.copyFromBuffer ios2).2
        (s.reqs ios2).dataLength.toNat).drop
          etherPacketHeadSize := by
  have hHeader (i : Nat) :
      (storeHeader ios2 s).sendBuffer (14 + i) =
        s.sendBuffer (14 + i) := by
    unfold storeHeader
    dsimp only
    rw [Memory.storeTwo_after _ _ _ (by omega),
      Memory.copyInto_after _ _ (by omega),
      Memory.copyInto_after _ _ (by omega)]
  funext i
  unfold cookedBuffer copyFromBuffer Memory.drop
    Memory.copyInto etherPacketHeadSize
  dsimp only
  split
  · rename_i hInside
    exact (if_pos hInside).symm
  · rename_i hOutside
    exact (hHeader i).trans (if_neg hOutside).symm

/- The payload itself is read as the client has it. -/
theorem sentMemory_bytes :
    (sentMemory o ios2 s).bytes
        (s.reqs ios2).dataLength.toNat =
      (payloadOf o ios2 s).bytes
        (s.reqs ios2).dataLength.toNat := by
  unfold sentMemory payloadOf
  cases dmaPacketBuffer o ios2 s with
  | some packet => rfl
  | none => exact Memory.bytes_copyInto _ _

end SendBuffer

/- A frame depends on the bytes of its parts only. -/
theorem CookedFrame.congr
    {dst dst' src src' payload payload' : Memory}
    {packetType : UWORD}
    {payloadLength : Nat}
    {frame : List UBYTE}
    (hFrame : CookedFrame dst src packetType payload
      payloadLength frame)
    (hDst : dst.bytes 6 = dst'.bytes 6)
    (hSrc : src.bytes 6 = src'.bytes 6)
    (hPayload :
      payload.bytes payloadLength =
        payload'.bytes payloadLength) :
    CookedFrame dst' src' packetType payload' payloadLength
      frame := by
  rcases hFrame with ⟨padding, hPadding, rfl⟩
  refine ⟨padding, hPadding, ?_⟩
  unfold frameHead
  rw [hDst, hSrc, hPayload]

------------------------------------------------------------
-- Offered and Accepted Packets
------------------------------------------------------------

/- A packet comes to a call of the low level driver. -/
def Offers
    (o : Outcome)
    (ios2 : APTR)
    (req : IOSana2Req)
    (s : Driver) : Prop :=
  if req.Raw then
    req.dataLength.toNat > etherPacketHeadSize ∧
      (o.copyFromBuffer ios2).1 = true
  else
    req.dataLength.toNat ≤ ethernetMtu ∧
      (dmaPacketBuffer o ios2 s ≠ none ∨
        (o.copyFromBuffer ios2).1 = true)

/- The low level driver has no reason to refuse it. -/
def LowLevelAccepts (req : IOSana2Req) (n : NicState) : Prop :=
  if req.Raw then n.RawAccepted req.dataLength.toNat
  else n.CookedAccepted req.dataLength.toNat

section Calls

variable (o : Outcome) (ios2 : APTR) {s : Driver}
variable {p : NicM ErrorT}

theorem exists_sendCall_iff :
    (∃ p, sendCall o ios2 s = some p) ↔
      Offers o ios2 (s.reqs ios2) s := by
  unfold sendCall Offers
  dsimp only
  by_cases hRaw : (s.reqs ios2).Raw
  · rw [if_pos hRaw, if_pos hRaw]
    split
    · rename_i hBoth
      exact ⟨fun _ => hBoth, fun _ => ⟨_, rfl⟩⟩
    · rename_i hNot
      exact ⟨fun ⟨p, hCall⟩ => (nomatch hCall),
        fun hBoth => absurd hBoth hNot⟩
  · rw [if_neg hRaw, if_neg hRaw]
    split
    · rename_i hShort
      cases hPacket : dmaPacketBuffer o ios2 s with
      | some packet =>
          exact ⟨fun _ => ⟨hShort, Or.inl (by simp)⟩,
            fun _ => ⟨_, rfl⟩⟩
      | none =>
          by_cases hCopy : (o.copyFromBuffer ios2).1 = true
          · simp [hCopy, hShort]
          · simp [hCopy]
    · rename_i hLong
      exact ⟨fun ⟨p, hCall⟩ => (nomatch hCall),
        fun hBoth => absurd hBoth.1 hLong⟩

/- What an accepted packet comes to. -/
def Transmits
    (p : NicM ErrorT)
    (IsFrame : List UBYTE → Prop)
    (n : NicState) : Prop :=
  (p.runOn n).1 = noError ∧
    ∃ ws, NicState.Started ws n (p.runOn n).2 ∧
      Carries n IsFrame ws

theorem Carries.mono
    {n : NicState}
    {IsFrame IsFrame' : List UBYTE → Prop}
    {ws : List UWORD}
    (hCarries : Carries n IsFrame ws)
    (hFrames : ∀ frame, IsFrame frame → IsFrame' frame) :
    Carries n IsFrame' ws := by
  rcases hCarries with ⟨frame, rest, hFrame, hBytes⟩
  exact ⟨frame, rest, hFrames frame hFrame, hBytes⟩

theorem transmits_raw
    {n : NicState}
    {length : Nat}
    {IsFrame : List UBYTE → Prop}
    (buffer : Memory)
    (hAccepted : n.RawAccepted length)
    (hFrame : IsFrame (buffer.bytes length)) :
    Transmits (ksz8851SendPacket buffer length) IsFrame n := by
  have hSent := started_ksz8851SendPacket buffer hAccepted
  refine ⟨hSent.1, _, hSent.2,
    (carries_rawStream n _ _).mono ?_⟩
  rintro frame rfl
  exact hFrame

theorem transmits_cooked
    {n : NicState}
    {payloadLength : Nat}
    {IsFrame : List UBYTE → Prop}
    (dst src : Memory)
    (packetType : UWORD)
    (payload : Memory)
    (hLength : payloadLength ≤ ethernetMtu)
    (hAccepted : n.CookedAccepted payloadLength)
    (hFrames : ∀ frame,
      CookedFrame dst src packetType payload payloadLength
        frame → IsFrame frame) :
    Transmits
      (ksz8851SendPacketCooked dst src packetType payload
        payloadLength) IsFrame n := by
  have hMost : payloadLength ≤ 131068 := by
    unfold ethernetMtu at hLength
    omega
  have hSent := started_ksz8851SendPacketCooked dst src
    packetType payload hMost hAccepted
  exact ⟨hSent.1, _, hSent.2,
    (carries_cookedStream n dst src packetType payload
      payloadLength).mono hFrames⟩

/-
  The two calls that are made for a packet.  The header of a
  cooked packet is read from the request and the unit or from
  a copy of them in the send buffer.
-/
inductive CallShape
    (o : Outcome) (ios2 : APTR) (s : Driver) :
    NicM ErrorT → Prop where
| raw
    (buffer : Memory)
    (hRaw : (s.reqs ios2).Raw)
    (hSource :
      buffer.bytes (s.reqs ios2).dataLength.toNat =
        (o.copyFromBuffer ios2).2.bytes
          (s.reqs ios2).dataLength.toNat) :
    CallShape o ios2 s
      (ksz8851SendPacket buffer
        (s.reqs ios2).dataLength.toNat)
| cooked
    (dst src : Memory)
    (hCooked : ¬ (s.reqs ios2).Raw)
    (hShort : (s.reqs ios2).dataLength.toNat ≤ ethernetMtu)
    (hDst :
      dst.bytes 6 = (s.reqs ios2).dstAddr.memory.bytes 6)
    (hSrc : src.bytes 6 = s.unit.stAddr.memory.bytes 6) :
    CallShape o ios2 s
      (ksz8851SendPacketCooked dst src
        (s.reqs ios2).packetTypeWord (sentMemory o ios2 s)
        (s.reqs ios2).dataLength.toNat)

theorem callShape_raw (hRaw : (s.reqs ios2).Raw) :
    CallShape o ios2 s
      (ksz8851SendPacket (s.copyFromBuffer o ios2 0).sendBuffer
        (s.reqs ios2).dataLength.toNat) :=
  .raw _ hRaw (Memory.bytes_copyInto_zero _ _)

/- A packet that the client has copied into the buffer. -/
theorem callShape_copied
    (hCooked : ¬ (s.reqs ios2).Raw)
    (hShort : (s.reqs ios2).dataLength.toNat ≤ ethernetMtu)
    (hPacket : dmaPacketBuffer o ios2 s = none) :
    CallShape o ios2 s
      (ksz8851SendPacketCooked (cookedBuffer o ios2 s)
        ((cookedBuffer o ios2 s).drop 6)
        ((cookedBuffer o ios2 s).wordAt 12)
        ((cookedBuffer o ios2 s).drop etherPacketHeadSize)
        (s.reqs ios2).dataLength.toNat) := by
  have hSent :
      sentMemory o ios2 s =
        (cookedBuffer o ios2 s).drop etherPacketHeadSize := by
    unfold sentMemory
    rw [hPacket]
    exact (cookedBuffer_drop o ios2 s).symm
  rw [cookedBuffer_type, ← hSent]
  exact .cooked _ _ hCooked hShort (cookedBuffer_dst o ios2 s)
    (cookedBuffer_src o ios2 s)

theorem callShape_of_sendCall
    (hCall : sendCall o ios2 s = some p) :
    CallShape o ios2 s p := by
  unfold sendCall at hCall
  dsimp only at hCall
  by_cases hRaw : (s.reqs ios2).Raw
  · rw [if_pos hRaw] at hCall
    split at hCall
    · cases hCall
      exact callShape_raw o ios2 hRaw
    · cases hCall
  · rw [if_neg hRaw] at hCall
    split at hCall
    · rename_i hShort
      cases hPacket : dmaPacketBuffer o ios2 s with
      | some packet =>
          have hSent : sentMemory o ios2 s = packet := by
            unfold sentMemory
            rw [hPacket]
          rw [hPacket, ← hSent] at hCall
          cases hCall
          exact .cooked _ _ hRaw hShort rfl rfl
      | none =>
          rw [hPacket] at hCall
          dsimp only at hCall
          split at hCall
          · cases hCall
            exact callShape_copied o ios2 hRaw hShort hPacket
          · cases hCall
    · cases hCall

/- An accepted packet is transmitted as it was asked for. -/
theorem transmits_of_accepts
    (hCall : sendCall o ios2 s = some p)
    (hAccepts : LowLevelAccepts (s.reqs ios2) s.nic) :
    Transmits p (FrameOf o ios2 (s.reqs ios2) s) s.nic := by
  unfold LowLevelAccepts at hAccepts
  unfold FrameOf
  cases callShape_of_sendCall o ios2 hCall with
  | raw buffer hRaw hSource =>
      rw [if_pos hRaw] at hAccepts
      rw [if_pos hRaw, ← hSource]
      exact transmits_raw buffer hAccepts rfl
  | cooked dst src hCooked hShort hDst hSrc =>
      rw [if_neg hCooked] at hAccepts
      rw [if_neg hCooked]
      refine transmits_cooked _ _ _ _ hShort hAccepts
        (fun frame hFrame => ?_)
      exact hFrame.congr hDst hSrc (sentMemory_bytes o ios2 s)

/- A refused packet is not transmitted. -/
theorem kept_of_not_accepts
    (hCall : sendCall o ios2 s = some p)
    (hRefuses : ¬ LowLevelAccepts (s.reqs ios2) s.nic) :
    (p.runOn s.nic).1 ≠ noError ∧
      NicState.Kept s.nic (p.runOn s.nic).2 := by
  unfold LowLevelAccepts at hRefuses
  cases callShape_of_sendCall o ios2 hCall with
  | raw buffer hRaw hSource =>
      rw [if_pos hRaw] at hRefuses
      exact kept_ksz8851SendPacket buffer hRefuses
  | cooked dst src hCooked hShort hDst hSrc =>
      rw [if_neg hCooked] at hRefuses
      exact kept_ksz8851SendPacketCooked _ _ _ _ hRefuses

end Calls

------------------------------------------------------------
-- Reports
------------------------------------------------------------

/- The low level driver refused the packet, or it could not
   be copied. -/
def Failed (ios2 : APTR) (events : List Event) : Prop :=
  (∃ result, .sent ios2 result ∈ events ∧ result ≠ noError) ∨
    .copiedFromBuffer ios2 false ∈ events

/-
  Submitting a write ends the request once: without an error
  only if its whole frame was put into the transmit queue and
  one transmission was started with it, and with an error if
  sending it failed.
-/
def WriteReports
    (o : Outcome) (ios2 : APTR) (s : Driver) : Prop :=
  ∃ events req,
    story ios2 (s.next (.beginIo ios2 o)).log =
        events ++ story ios2 s.log ∧
      terminations ios2 events = [req] ∧
      (req.ioError = 0 →
        ∃ ws, NicState.Started ws s.nic
            (s.next (.beginIo ios2 o)).nic ∧
          Carries s.nic (RequestedFrame o ios2 s) ws) ∧
      (Failed ios2 events → req.ioError ≠ 0)

/- The packet comes to a call of the low level driver. -/
def Offered (o : Outcome) (ios2 : APTR) (s : Driver) : Prop :=
  (s.reqs ios2).dataLength ≤ s.unit.mtu ∧
    Offers o ios2 (s.reqs ios2) s

/- The low level driver has room for it and accepts its
   length. -/
def Accepted (ios2 : APTR) (s : Driver) : Prop :=
  LowLevelAccepts (s.reqs ios2) s.nic

section Readied

variable {o : Outcome} {ios2 : APTR} {s s₁ : Driver}

theorem raw_writeRequest (req : IOSana2Req) :
    (writeRequest req).Raw ↔ req.Raw := by
  have hOther : ~~~iofQuick &&& sana2IofRaw = sana2IofRaw := by
    decide
  unfold IOSana2Req.Raw writeRequest
  rw [BitVec.and_assoc, hOther]

theorem Readied.dmaPacketBuffer
    (hReadied : Readied ios2 s s₁) :
    dmaPacketBuffer o ios2 s₁ = dmaPacketBuffer o ios2 s := by
  unfold KszDriver.dmaPacketBuffer
  rw [hReadied.bms, hReadied.req]
  rfl

theorem Readied.offers
    (hReadied : Readied ios2 s s₁) :
    Offers o ios2 (s₁.reqs ios2) s₁ ↔
      Offers o ios2 (s.reqs ios2) s := by
  have hRaw := raw_writeRequest (s.reqs ios2)
  unfold Offers
  rw [hReadied.dmaPacketBuffer, hReadied.req]
  by_cases hMode : (s.reqs ios2).Raw
  · rw [if_pos hMode, if_pos (hRaw.mpr hMode)]
    exact Iff.rfl
  · rw [if_neg hMode, if_neg (fun h => hMode (hRaw.mp h))]
    exact Iff.rfl

theorem Readied.accepts
    (hReadied : Readied ios2 s s₁) :
    LowLevelAccepts (s₁.reqs ios2) s₁.nic ↔ Accepted ios2 s := by
  have hRaw := raw_writeRequest (s.reqs ios2)
  unfold Accepted LowLevelAccepts
  rw [hReadied.nic, hReadied.req]
  by_cases hMode : (s.reqs ios2).Raw
  · rw [if_pos hMode, if_pos (hRaw.mpr hMode)]
    exact Iff.rfl
  · rw [if_neg hMode, if_neg (fun h => hMode (hRaw.mp h))]
    exact Iff.rfl

theorem Readied.frameOf
    (hReadied : Readied ios2 s s₁) :
    FrameOf o ios2 (s₁.reqs ios2) s₁ =
      RequestedFrame o ios2 s := by
  unfold RequestedFrame FrameOf payloadOf
  rw [hReadied.dmaPacketBuffer, hReadied.req, hReadied.unit]

end Readied

------------------------------------------------------------
-- Each Way a Write Ends
------------------------------------------------------------

section Outcomes

variable {o : Outcome} {ios2 : APTR} {s : Driver}

/- A request that ended in an error tells the truth. -/
theorem writeReports_of_givenUp
    {s₁ : Driver}
    (hStory : story ios2 s₁.log = story ios2 s.log)
    (hGivenUp : GivenUp ios2 s₁ (s.next (.beginIo ios2 o))) :
    WriteReports o ios2 s := by
  rcases hGivenUp.story with
    ⟨req, copies, hError, hCopies, hLog⟩
  refine ⟨.terminated ios2 req :: copies, req, ?_, ?_,
    fun hNone => absurd hNone hError, fun _ => hError⟩
  · rw [hLog, hStory]
    rfl
  · rw [terminations_terminated, if_pos rfl,
      terminations_copied hCopies]

/- The events that end a request after a call. -/
theorem terminations_sent
    {req : IOSana2Req}
    {result : ErrorT}
    {copies : List Event}
    (hCopies : ∀ event ∈ copies,
      event = .copiedFromBuffer ios2 true) :
    terminations ios2
      (.terminated ios2 req :: .sent ios2 result :: copies) =
        [req] := by
  have hNone : terminations ios2 copies = [] :=
    terminations_copied (fun event hMem =>
      ⟨true, hCopies event hMem⟩)
  rw [terminations_terminated, if_pos rfl]
  exact congrArg (List.cons req) hNone

theorem not_failed_sent
    {req : IOSana2Req}
    {copies : List Event}
    (hCopies : ∀ event ∈ copies,
      event = .copiedFromBuffer ios2 true) :
    ¬ Failed ios2
      (.terminated ios2 req :: .sent ios2 noError ::
        copies) := by
  rintro (⟨result, hMem, hResult⟩ | hMem)
  · rcases List.mem_cons.mp hMem with hEvent | hMem
    · cases hEvent
    · rcases List.mem_cons.mp hMem with hEvent | hMem
      · cases hEvent
        exact hResult rfl
      · cases hCopies _ hMem
  · rcases List.mem_cons.mp hMem with hEvent | hMem
    · cases hEvent
    · rcases List.mem_cons.mp hMem with hEvent | hMem
      · cases hEvent
      · cases hCopies _ hMem

/- An accepted packet is reported as sent, and it was. -/
theorem writeReports_of_accepted
    {p : NicM ErrorT}
    {s₁ : Driver}
    (hReadied : Readied ios2 s s₁)
    (hCall : sendCall o ios2 s₁ = some p)
    (hSent : Sent p ios2 (s₁.reqs ios2) s₁
      (s.next (.beginIo ios2 o)))
    (hAccepted : Accepted ios2 s) :
    WriteReports o ios2 s := by
  have hTransmits :=
    transmits_of_accepts o ios2 hCall
      (hReadied.accepts.mpr hAccepted)
  rw [hReadied.frameOf, hReadied.nic] at hTransmits
  rcases hTransmits with ⟨hResult, ws, hStarted, hCarries⟩
  rcases hSent.story with ⟨copies, hCopies, hLog⟩
  have hNic := hSent.nic
  rw [hReadied.nic] at hLog hNic
  rw [hResult, hReadied.story] at hLog
  refine ⟨_, s₁.reqs ios2, hLog, terminations_sent hCopies,
    ?_, ?_⟩
  · intro _
    rw [hNic]
    exact ⟨ws, hStarted, hCarries⟩
  · intro hFailed
    exact absurd hFailed (not_failed_sent hCopies)

/- A refused packet is reported as sent, and it was not. -/
theorem not_writeReports_of_refused
    {p : NicM ErrorT}
    {s₁ : Driver}
    (hReadied : Readied ios2 s s₁)
    (hCall : sendCall o ios2 s₁ = some p)
    (hSent : Sent p ios2 (s₁.reqs ios2) s₁
      (s.next (.beginIo ios2 o)))
    (hRefused : ¬ Accepted ios2 s) :
    ¬ WriteReports o ios2 s := by
  have hKept :=
    kept_of_not_accepts o ios2 hCall
      (fun hAccepts => hRefused (hReadied.accepts.mp hAccepts))
  rcases hSent.story with ⟨copies, hCopies, hLog⟩
  have hNic := hSent.nic
  rw [hReadied.nic] at hNic hKept
  rw [hReadied.story] at hLog
  rintro ⟨events, req, hStory, hEnds, hTruthful, -⟩
  have hEvents :
      events =
        .terminated ios2 (s₁.reqs ios2) ::
          .sent ios2 (p.runOn s₁.nic).1 :: copies :=
    List.append_cancel_right (hStory.symm.trans hLog)
  rw [hEvents, terminations_sent hCopies, hReadied.req]
    at hEnds
  cases hEnds
  rcases hTruthful rfl with ⟨ws, hStarted, -⟩
  have hFrames := hStarted.frames
  rw [hNic, hKept.2.frames] at hFrames
  simp at hFrames

end Outcomes

------------------------------------------------------------
-- Every Write
------------------------------------------------------------

section Writes

variable {o : Outcome} {ios2 : APTR} {s : Driver}

theorem exists_sendCall_iff_offered
    {s₁ : Driver}
    (hFits : (s.reqs ios2).dataLength ≤ s.unit.mtu)
    (hReadied : Readied ios2 s s₁) :
    (∃ p, sendCall o ios2 s₁ = some p) ↔
      Offered o ios2 s := by
  rw [exists_sendCall_iff, hReadied.offers]
  exact (and_iff_right hFits).symm

theorem writeReports_of_accepting
    (hReach : deviceMachine.Reach Machine.Free s)
    (hOnline : s.Online)
    (hAllowed : (Op.beginIo ios2 o).Allowed s)
    (hWrite : IsWrite (s.reqs ios2).ioCommand)
    (hAccepting : Offered o ios2 s → Accepted ios2 s) :
    WriteReports o ios2 s := by
  cases writeStep_next hReach hOnline hAllowed.2 hWrite with
  | tooLong hLong hGivenUp =>
      exact writeReports_of_givenUp rfl hGivenUp
  | sends s₁ hFits hReadied hEnds =>
      rcases hEnds with ⟨p, hCall, hSent⟩ | ⟨-, hGivenUp⟩
      · have hOffered :=
          (exists_sendCall_iff_offered hFits hReadied).mp
            ⟨p, hCall⟩
        exact writeReports_of_accepted hReadied hCall hSent
          (hAccepting hOffered)
      · exact writeReports_of_givenUp hReadied.story hGivenUp

theorem accepted_of_writeReports
    (hReach : deviceMachine.Reach Machine.Free s)
    (hOnline : s.Online)
    (hAllowed : (Op.beginIo ios2 o).Allowed s)
    (hWrite : IsWrite (s.reqs ios2).ioCommand)
    (hReports : WriteReports o ios2 s)
    (hOffered : Offered o ios2 s) :
    Accepted ios2 s := by
  cases writeStep_next hReach hOnline hAllowed.2 hWrite with
  | tooLong hLong hGivenUp => exact absurd hOffered.1 hLong
  | sends s₁ hFits hReadied hEnds =>
      rcases (exists_sendCall_iff_offered hFits hReadied).mpr
        hOffered with ⟨p, hCall⟩
      rcases hEnds with ⟨p', hCall', hSent⟩ | ⟨hNone, -⟩
      · by_contra hRefused
        exact not_writeReports_of_refused hReadied hCall'
          hSent hRefused hReports
      · rw [hNone] at hCall
        cases hCall

/- The client is told the truth if and only if the low level
   driver accepts what it is given. -/
theorem writeReports_iff
    (hReach : deviceMachine.Reach Machine.Free s)
    (hOnline : s.Online)
    (hAllowed : (Op.beginIo ios2 o).Allowed s)
    (hWrite : IsWrite (s.reqs ios2).ioCommand) :
    WriteReports o ios2 s ↔
      (Offered o ios2 s → Accepted ios2 s) :=
  ⟨accepted_of_writeReports hReach hOnline hAllowed hWrite,
    writeReports_of_accepting hReach hOnline hAllowed hWrite⟩

end Writes

instance decidableOffered
    (o : Outcome) (ios2 : APTR) (s : Driver) :
    Decidable (Offered o ios2 s) := by
  unfold Offered Offers
  infer_instance

instance decidableAccepted (ios2 : APTR) (s : Driver) :
    Decidable (Accepted ios2 s) := by
  unfold Accepted LowLevelAccepts
  infer_instance

/- A client of the online unit that wants to send a packet. -/
def wantsToSend (req : IOSana2Req) : Driver :=
  deviceMachine.run (onlineSteps ++ [.clientWrite 9 req])
    (loadedDriver (idleRegisters 0x1800#16))

/- The packet of an opener at 40. -/
def plainPacket (ioFlags : UBYTE) (dataLength : ULONG) :
    IOSana2Req :=
  { plainRequest cmdWrite with
    ioFlags := ioFlags
    packetType := 0x0800#32
    dataLength := dataLength }

theorem writeReports_cooked :
    WriteReports plainOutcome 9
        (wantsToSend (plainPacket 0#8 100#32)) ↔
      (Offered plainOutcome 9
          (wantsToSend (plainPacket 0#8 100#32)) →
        Accepted 9 (wantsToSend (plainPacket 0#8 100#32))) :=
  writeReports_iff
    (Machine.reach_run _
      (Machine.Reach.start (start_loadedDriver _))
      (by decide +kernel))
    (by decide +kernel) (by decide +kernel) (by decide +kernel)

/- A raw packet of 30 bytes is refused, and reported as
   sent. -/
theorem not_writeReports_shortRaw :
    deviceMachine.Reach Machine.Free
        (wantsToSend (plainPacket sana2IofRaw 30#32)) ∧
      (wantsToSend (plainPacket sana2IofRaw 30#32)).Online ∧
      (Op.beginIo 9 plainOutcome).Allowed
        (wantsToSend (plainPacket sana2IofRaw 30#32)) ∧
      IsWrite ((wantsToSend
        (plainPacket sana2IofRaw 30#32)).reqs 9).ioCommand ∧
      ¬ WriteReports plainOutcome 9
        (wantsToSend (plainPacket sana2IofRaw 30#32)) := by
  have hReach :
      deviceMachine.Reach Machine.Free
        (wantsToSend (plainPacket sana2IofRaw 30#32)) :=
    Machine.reach_run _
      (Machine.Reach.start (start_loadedDriver _))
      (by decide +kernel)
  have hOnline :
      (wantsToSend (plainPacket sana2IofRaw 30#32)).Online := by
    decide +kernel
  have hAllowed :
      (Op.beginIo 9 plainOutcome).Allowed
        (wantsToSend (plainPacket sana2IofRaw 30#32)) := by
    decide +kernel
  have hWrite :
      IsWrite ((wantsToSend
        (plainPacket sana2IofRaw 30#32)).reqs 9).ioCommand := by
    decide +kernel
  refine ⟨hReach, hOnline, hAllowed, hWrite, ?_⟩
  intro hReports
  have hAccepted := accepted_of_writeReports hReach hOnline
    hAllowed hWrite hReports (by decide +kernel)
  revert hAccepted
  decide +kernel

end KszDriver
