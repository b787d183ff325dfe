import KszDriver.Device.FixedMtu
import KszDriver.Device.Padding

/-
  The same frame written raw and cooked.

  Lengths are tested in four places, and not all of them
  count the Ethernet header.  A raw frame of up to 45 bytes is
  dropped without an error, and one with more than 1486 bytes
  of payload is refused, where the cooked packet is sent.

  Main declarations:
    * `Transmitted`, `EndsInError`
    * `RawWrite`
    * `sameFate_iff`
    * `not_sameFate_full`
-/

------------------------------------------------------------
-- The Fate of a Packet
------------------------------------------------------------

namespace KszDriver

open Driver

/- Submitting the write starts one transmission, of the frame
   that is asked for. -/
def Transmitted
    (o : Outcome) (ios2 : APTR) (s : Driver) : Prop :=
  ∃ ws, NicState.Started ws s.nic
      (s.next (.beginIo ios2 o)).nic ∧
    Carries s.nic (RequestedFrame o ios2 s) ws

/- Submitting the write ends the request with an error. -/
def EndsInError
    (o : Outcome) (ios2 : APTR) (s : Driver) : Prop :=
  ∃ events req,
    story ios2 (s.next (.beginIo ios2 o)).log =
        events ++ story ios2 s.log ∧
      terminations ios2 events = [req] ∧ req.ioError ≠ 0

/- Two writes are both transmitted, or both in error. -/
def SameFate
    (o o' : Outcome)
    (ios2 ios2' : APTR)
    (s s' : Driver) : Prop :=
  (Transmitted o ios2 s ∧ Transmitted o' ios2' s') ∨
    (EndsInError o ios2 s ∧ EndsInError o' ios2' s')

section Fates

variable {o : Outcome} {ios2 : APTR} {s : Driver}

theorem not_transmitted_of_kept
    (hKept : NicState.Kept s.nic
      (s.next (.beginIo ios2 o)).nic) :
    ¬ Transmitted o ios2 s := by
  rintro ⟨ws, hStarted, -⟩
  exact hKept.not_started hStarted

/- A packet is transmitted exactly if it comes to a call that
   has no reason to refuse it. -/
theorem transmitted_iff
    (hReach : deviceMachine.Reach Machine.Free s)
    (hOnline : s.Online)
    (hAllowed : (Op.beginIo ios2 o).Allowed s)
    (hWrite : IsWrite (s.reqs ios2).ioCommand) :
    Transmitted o ios2 s ↔
      Offered o ios2 s ∧ Accepted ios2 s := by
  cases writeStep_next hReach hOnline hAllowed.2 hWrite with
  | tooLong hLong hGivenUp =>
      refine iff_of_false ?_ (fun hBoth => hLong hBoth.1.1)
      apply not_transmitted_of_kept
      rw [hGivenUp.nic]
      exact ⟨rfl, rfl⟩
  | sends s₁ hFits hReadied hEnds =>
      have hOffered :=
        exists_sendCall_iff_offered (o := o) hFits hReadied
      rcases hEnds with ⟨p, hCall, hSent⟩ | ⟨hNone, hGivenUp⟩
      · have hNic := hSent.nic
        rw [and_iff_right (hOffered.mp ⟨p, hCall⟩)]
        by_cases hAccepts : Accepted ios2 s
        · have hTransmits :=
            transmits_of_accepts o ios2 hCall
              (hReadied.accepts.mpr hAccepts)
          rw [hReadied.frameOf, hReadied.nic] at hTransmits
          rcases hTransmits with
            ⟨-, ws, hStarted, hCarries⟩
          refine iff_of_true ⟨ws, ?_, hCarries⟩ hAccepts
          rw [hNic, hReadied.nic]
          exact hStarted
        · refine iff_of_false ?_ hAccepts
          apply not_transmitted_of_kept
          have hKept := kept_of_not_accepts o ios2 hCall
            (fun hLow => hAccepts (hReadied.accepts.mp hLow))
          rw [hNic, ← hReadied.nic]
          exact hKept.2
      · refine iff_of_false ?_ ?_
        · apply not_transmitted_of_kept
          rw [hGivenUp.nic, hReadied.nic]
          exact ⟨rfl, rfl⟩
        · intro hBoth
          rcases hOffered.mpr hBoth.1 with ⟨p, hCall⟩
          rw [hNone] at hCall
          cases hCall

/- A packet that comes to a call ends without an error, even
   if it is refused there. -/
theorem not_endsInError_of_offered
    (hReach : deviceMachine.Reach Machine.Free s)
    (hOnline : s.Online)
    (hAllowed : (Op.beginIo ios2 o).Allowed s)
    (hWrite : IsWrite (s.reqs ios2).ioCommand)
    (hOffered : Offered o ios2 s) :
    ¬ EndsInError o ios2 s := by
  rintro ⟨events, req, hStory, hEnds, hError⟩
  cases writeStep_next hReach hOnline hAllowed.2 hWrite with
  | tooLong hLong hGivenUp => exact hLong hOffered.1
  | sends s₁ hFits hReadied hEnds' =>
      rcases (exists_sendCall_iff_offered hFits hReadied).mpr
        hOffered with ⟨p, hCall⟩
      rcases hEnds' with ⟨p', hCall', hSent⟩ | ⟨hNone, -⟩
      · rcases hSent.story with ⟨copies, hCopies, hLog⟩
        rw [hReadied.story] at hLog
        have hEvents :
            events =
              .terminated ios2 (s₁.reqs ios2) ::
                .sent ios2 (p'.runOn s₁.nic).1 :: copies :=
          List.append_cancel_right (hStory.symm.trans hLog)
        rw [hEvents, terminations_sent hCopies, hReadied.req]
          at hEnds
        cases hEnds
        exact hError rfl
      · rw [hNone] at hCall
        cases hCall

end Fates

------------------------------------------------------------
-- The Two Writes
------------------------------------------------------------

/-
  A raw packet with this header and payload is about to be
  submitted to an online unit; its bytes can be copied.
-/
structure RawWrite
    (dst src : MacAddr)
    (packetType : ULONG)
    (payload : List UBYTE)
    (o : Outcome)
    (ios2 : APTR)
    (s : Driver) : Prop where
  reach : deviceMachine.Reach Machine.Free s
  online : s.Online
  allowed : (Op.beginIo ios2 o).Allowed s
  write : IsWrite (s.reqs ios2).ioCommand
  raw : (s.reqs ios2).Raw
  copies : (o.copyFromBuffer ios2).1 = true
  frame :
    (o.copyFromBuffer ios2).2.bytes
        (s.reqs ios2).dataLength.toNat =
      frameHead dst.memory src.memory
          (packetType.setWidth 16) ++ payload
  src : s.unit.stAddr = src

/- There is room in the queue for header and payload. -/
def HasRoom (payload : List UBYTE) (s : Driver) : Prop :=
  s.nic.TxFits
    (etherPacketHeadSize + paddedLength payload.length)

/- The bytes of a cooked packet can be got at. -/
def Copies (o : Outcome) (ios2 : APTR) (s : Driver) : Prop :=
  dmaPacketBuffer o ios2 s ≠ none ∨
    (o.copyFromBuffer ios2).1 = true

section Writes

variable {dst src : MacAddr} {packetType : ULONG}
variable {payload : List UBYTE} {o : Outcome} {ios2 : APTR}
variable {s : Driver}

theorem CookedWrite.dataLength
    (hWrite :
      CookedWrite dst src packetType payload o ios2 s) :
    (s.reqs ios2).dataLength.toNat = payload.length := by
  rw [← hWrite.payload, Memory.length_bytes]

theorem RawWrite.dataLength
    (hWrite : RawWrite dst src packetType payload o ios2 s) :
    (s.reqs ios2).dataLength.toNat = 14 + payload.length := by
  have hLength := congrArg List.length hWrite.frame
  rw [Memory.length_bytes, List.length_append,
    length_frameHead] at hLength
  exact hLength

/- A cooked packet is always transmitted. -/
theorem CookedWrite.transmitted
    (hWrite : CookedWrite dst src packetType payload o ios2 s)
    (hLength : payload.length ≤ 1500)
    (hCopies : Copies o ios2 s)
    (hRoom : HasRoom payload s) :
    Transmitted o ios2 s ∧ ¬ EndsInError o ios2 s := by
  have hData := hWrite.dataLength
  have hMtu : s.unit.mtu = 1500#32 :=
    mtu_of_reach hWrite.reach hWrite.allowed.1
  have hOffered : Offered o ios2 s := by
    refine ⟨?_, ?_⟩
    · rw [hMtu, BitVec.le_def, hData]
      exact hLength
    · unfold Offers
      rw [if_neg hWrite.cooked, hData]
      exact ⟨hLength, hCopies⟩
  have hAccepted : Accepted ios2 s := by
    unfold Accepted LowLevelAccepts
    rw [if_neg hWrite.cooked, hData]
    unfold HasRoom NicState.TxFits at hRoom
    unfold NicState.CookedAccepted NicState.TxFits
    omega
  exact
    ⟨(transmitted_iff hWrite.reach hWrite.online
        hWrite.allowed hWrite.write).mpr
          ⟨hOffered, hAccepted⟩,
      not_endsInError_of_offered hWrite.reach hWrite.online
        hWrite.allowed hWrite.write hOffered⟩

/- A raw packet is transmitted if it is neither too short for
   the low level driver nor, with its header, longer than the
   MTU. -/
theorem RawWrite.transmitted_iff
    (hWrite : RawWrite dst src packetType payload o ios2 s)
    (hLength : payload.length ≤ 1500)
    (hRoom : HasRoom payload s) :
    Transmitted o ios2 s ↔
      32 ≤ payload.length ∧ payload.length ≤ 1486 := by
  have hData := hWrite.dataLength
  have hMtu : s.unit.mtu = 1500#32 :=
    mtu_of_reach hWrite.reach hWrite.allowed.1
  have hPadded : payload.length ≤ paddedLength payload.length :=
    by
      unfold paddedLength
      split <;> omega
  rw [KszDriver.transmitted_iff hWrite.reach hWrite.online
    hWrite.allowed hWrite.write]
  unfold Offered Offers Accepted LowLevelAccepts
    NicState.RawAccepted
  unfold HasRoom NicState.TxFits etherPacketHeadSize at hRoom
  rw [if_pos hWrite.raw, if_pos hWrite.raw, hMtu,
    BitVec.le_def, hData]
  unfold NicState.TxFits etherPacketHeadSize ethMaxFrameSize
  simp only [hWrite.copies, and_true, BitVec.toNat_ofNat]
  omega

end Writes

/- The two writes share their fate if and only if the length
   passes all four tests. -/
theorem sameFate_iff
    {dst src : MacAddr}
    {packetType : ULONG}
    {payload : List UBYTE}
    {o o' : Outcome}
    {ios2 ios2' : APTR}
    {s s' : Driver}
    (hLength : payload.length ≤ 1500)
    (hCooked : CookedWrite dst src packetType payload o ios2 s)
    (hCopies : Copies o ios2 s)
    (hRoom : HasRoom payload s)
    (hRaw : RawWrite dst src packetType payload o' ios2' s')
    (hRoom' : HasRoom payload s') :
    SameFate o o' ios2 ios2' s s' ↔
      32 ≤ payload.length ∧ payload.length ≤ 1486 := by
  have hSent := hCooked.transmitted hLength hCopies hRoom
  rw [← hRaw.transmitted_iff hLength hRoom']
  unfold SameFate
  constructor
  · rintro (hBoth | hBoth)
    · exact hBoth.2
    · exact absurd hBoth.1 hSent.2
  · intro hTransmitted
    exact Or.inl ⟨hSent.1, hTransmitted⟩

------------------------------------------------------------
-- A Packet of Full Size
------------------------------------------------------------

/- The unit is online. -/
def onlineUnit : Driver :=
  deviceMachine.run onlineSteps
    (loadedDriver (idleRegisters 0x1800#16))

/- A client wants to send zeros, in a packet of the type 0. -/
def zeroPacket (ioFlags : UBYTE) (dataLength : Nat) :
    Driver :=
  onlineUnit.next (.clientWrite 9
    { plainPacket ioFlags (BitVec.ofNat 32 dataLength) with
      packetType := 0#32 })

def zeros (length : Nat) : List UBYTE :=
  Memory.bytes (fun _ => 0#8) length

theorem reach_zeroPacket
    (ioFlags : UBYTE)
    (dataLength : Nat) :
    deviceMachine.Reach Machine.Free
      (zeroPacket ioFlags dataLength) := by
  have hReach : deviceMachine.Reach Machine.Free onlineUnit :=
    Machine.reach_run _
      (Machine.Reach.start (start_loadedDriver _))
      (by decide +kernel)
  have hOwned : onlineUnit.Owned 9 := by
    decide +kernel
  show deviceMachine.Reach Machine.Free
    (deviceMachine.next onlineUnit (.clientWrite 9 _))
  exact Machine.Reach.step hReach hOwned trivial

theorem online_onlineUnit :
    onlineUnit.Online ∧ onlineUnit.base.unit0 = true ∧
      onlineUnit.Owned 9 := by
  decide +kernel

section ZeroPackets

variable {length : Nat}

theorem dataLength_zeroPacket
    (ioFlags : UBYTE)
    (hLength : length ≤ 1514) :
    ((zeroPacket ioFlags length).reqs 9).dataLength.toNat =
      length := by
  have hWord : length < 2 ^ 32 := by
    omega
  exact Nat.mod_eq_of_lt hWord

theorem cookedWrite_zeroPacket
    (hLength : length ≤ 1500) :
    CookedWrite blankRequest.dstAddr onlineUnit.unit.stAddr
      0#32 (zeros length) plainOutcome 9
      (zeroPacket 0#8 length) where
  reach := reach_zeroPacket 0#8 length
  online := online_onlineUnit.1
  allowed := online_onlineUnit.2
  write := Or.inl rfl
  cooked := by
    show ¬ 0#8 &&& sana2IofRaw ≠ 0#8
    decide
  dst := rfl
  src := rfl
  packetType := rfl
  payload := by
    have hNoBuffer :
        dmaPacketBuffer plainOutcome 9 (zeroPacket 0#8 length) =
          none := by
      unfold dmaPacketBuffer
      split <;> rfl
    rw [dataLength_zeroPacket 0#8 (by omega)]
    unfold payloadOf
    rw [hNoBuffer]
    rfl

theorem rawWrite_zeroPacket
    (hLength : length ≤ 1500) :
    RawWrite blankRequest.dstAddr onlineUnit.unit.stAddr
      0#32 (zeros length) plainOutcome 9
      (zeroPacket sana2IofRaw (14 + length)) where
  reach := reach_zeroPacket sana2IofRaw (14 + length)
  online := online_onlineUnit.1
  allowed := online_onlineUnit.2
  write := Or.inl rfl
  raw := by
    show sana2IofRaw &&& sana2IofRaw ≠ 0#8
    decide
  copies := rfl
  frame := by
    have hHead :
        Memory.bytes (fun _ => 0#8) 14 =
          frameHead blankRequest.dstAddr.memory
            onlineUnit.unit.stAddr.memory 0#16 := by
      decide +kernel
    rw [dataLength_zeroPacket sana2IofRaw (by omega)]
    show Memory.bytes (fun _ => 0#8) (14 + length) = _
    rw [Memory.bytes_add, hHead]
    rfl
  src := rfl

theorem hasRoom_zeroPacket
    (ioFlags : UBYTE)
    (dataLength : Nat)
    (hLength : length ≤ 1500) :
    HasRoom (zeros length) (zeroPacket ioFlags dataLength) := by
  have hRoom : onlineUnit.nic.TxFits 1514 := by
    decide +kernel
  have hPadded : paddedLength length ≤ 1500 := by
    unfold paddedLength
    split <;> omega
  show onlineUnit.nic.TxFits _
  unfold zeros
  rw [Memory.length_bytes]
  unfold NicState.TxFits etherPacketHeadSize at *
  omega

end ZeroPackets

theorem sameFate_iff_zeroPacket :
    SameFate plainOutcome plainOutcome 9 9
        (zeroPacket 0#8 100) (zeroPacket sana2IofRaw 114) ↔
      32 ≤ (zeros 100).length ∧ (zeros 100).length ≤ 1486 :=
  sameFate_iff (by decide +kernel)
    (cookedWrite_zeroPacket (by decide)) (Or.inr rfl)
    (hasRoom_zeroPacket _ _ (by decide))
    (rawWrite_zeroPacket (by decide))
    (hasRoom_zeroPacket _ _ (by decide))

/- A frame of 1514 bytes is sent cooked and refused raw. -/
theorem not_sameFate_full :
    CookedWrite blankRequest.dstAddr onlineUnit.unit.stAddr
        0#32 (zeros 1500) plainOutcome 9
        (zeroPacket 0#8 1500) ∧
      RawWrite blankRequest.dstAddr onlineUnit.unit.stAddr
        0#32 (zeros 1500) plainOutcome 9
        (zeroPacket sana2IofRaw 1514) ∧
      HasRoom (zeros 1500) (zeroPacket 0#8 1500) ∧
      HasRoom (zeros 1500) (zeroPacket sana2IofRaw 1514) ∧
      ¬ SameFate plainOutcome plainOutcome 9 9
        (zeroPacket 0#8 1500)
        (zeroPacket sana2IofRaw 1514) := by
  have hLength : (zeros 1500).length = 1500 :=
    Memory.length_bytes _ _
  have hCooked := cookedWrite_zeroPacket
    (show 1500 ≤ 1500 by decide)
  have hRaw := rawWrite_zeroPacket
    (show 1500 ≤ 1500 by decide)
  have hRoom := hasRoom_zeroPacket 0#8 1500
    (show 1500 ≤ 1500 by decide)
  have hRoom' := hasRoom_zeroPacket sana2IofRaw 1514
    (show 1500 ≤ 1500 by decide)
  have hSent := hCooked.transmitted (le_of_eq hLength)
    (Or.inr rfl) hRoom
  refine ⟨hCooked, hRaw, hRoom, hRoom', ?_⟩
  rintro (hBoth | hBoth)
  · have hShort := (hRaw.transmitted_iff (le_of_eq hLength)
      hRoom').mp hBoth.2
    omega
  · exact hSent.2 hBoth.1

end KszDriver
