import KszDriver.Core.WordStream
import KszDriver.Nic.HandlerRules

/-
  What the send operations put into the transmit queue.

  The chip takes the high byte of a word first in big-endian
  mode and the low byte first in little-endian mode, so that
  in both modes the words carry the bytes as they lie in
  memory.

  Main declarations:
    * `portOrder`
    * `NicState.rawStream`, `NicState.cookedStream`
    * `started_ksz8851SendPacket`
    * `started_ksz8851SendPacketCooked`
-/

------------------------------------------------------------
-- Bytes at the Data Port
------------------------------------------------------------

namespace KszDriver

theorem highByte_wordOf (high low : UBYTE) :
    highByte (wordOf high low) = high := by
  apply BitVec.eq_of_getLsbD_eq
  intro i hi
  have hHigh : 8 + i < 16 := by
    omega
  simp [highByte, wordOf, hHigh]
  omega

theorem lowByte_wordOf (high low : UBYTE) :
    lowByte (wordOf high low) = low := by
  apply BitVec.eq_of_getLsbD_eq
  intro i hi
  simp [lowByte, wordOf, hi]

/- The byte order at the data port. -/
def portOrder (isInBigEndianMode : Bool) :
    WordOrder UWORD UBYTE where
  first := if isInBigEndianMode then highByte else lowByte
  second := if isInBigEndianMode then lowByte else highByte
  join := fun b b' =>
    if isInBigEndianMode then wordOf b b' else wordOf b' b
  first_join := by
    intro b b'
    cases isInBigEndianMode with
    | false => exact lowByte_wordOf b' b
    | true => exact highByte_wordOf b b'
  second_join := by
    intro b b'
    cases isInBigEndianMode with
    | false => exact highByte_wordOf b' b
    | true => exact lowByte_wordOf b b'

/- The write loops put words together in the order in which
   the chip takes them apart. -/
theorem fifoWord_eq
    (isInBigEndianMode : Bool) (data : Memory) (i : Nat) :
    fifoWord isInBigEndianMode data i =
      (portOrder isInBigEndianMode).wordAt data (2 * i) := by
  cases isInBigEndianMode <;> rfl

/- The bytes that the words for `data` carry. -/
theorem bytes_words_portOrder
    (isInBigEndianMode : Bool) (data : Memory) (n : Nat) :
    (portOrder isInBigEndianMode).bytes
        ((portOrder isInBigEndianMode).words data n) =
      data.bytes (2 * n) :=
  WordOrder.bytes_words _ _ _

------------------------------------------------------------
-- Uninterrupted Register Access
------------------------------------------------------------

namespace NicState

/- The register `offset` has been selected and accessed. -/
def access (n : NicState) (offset : UBYTE) : NicState :=
  { n with
    chip :=
      { n.chip with
        cmd := cmdWord n.iface.isInBigEndianMode offset
        armed := false } }

/- The chip changes. -/
def setChip (n : NicState) (f : Chip → Chip) : NicState :=
  { n with chip := f n.chip }

/- Words are appended to the transmit queue. -/
def push (n : NicState) (ws : List UWORD) : NicState :=
  n.setChip (fun c => { c with fifo := c.fifo ++ ws })

/- The data port writes to the transmit queue. -/
def Sending (n : NicState) : Prop :=
  n.chip.armed = false ∧ n.chip.Sda

@[simp] theorem push_nil (n : NicState) : n.push [] = n := by
  simp [push, setChip]

@[simp] theorem push_push
    (n : NicState) (ws ws' : List UWORD) :
    (n.push ws).push ws' = n.push (ws ++ ws') := by
  simp [push, setChip]

theorem Sending.push
    {n : NicState}
    (hSending : n.Sending)
    (ws : List UWORD) :
    (n.push ws).Sending := hSending

end NicState

namespace NicM

variable {α β : Type}

theorem runOn_bind
    (p : NicM α) (f : α → NicM β) (n : NicState) :
    (p >>= f).runOn n =
      (f (p.runOn n).1).runOn (p.runOn n).2 :=
  Program.run_bind p f n

@[simp] theorem runOn_pure (value : α) (n : NicState) :
    (pure value : NicM α).runOn n = (value, n) := rfl

end NicM

@[simp] theorem runOn_ksz8851ReadReg
    (offset : UBYTE) (n : NicState) :
    (ksz8851ReadReg offset).runOn n =
      (n.chip.reg offset, n.access offset) := by
  simp [ksz8851ReadReg, NicM.runOn, getInterface, cmdReg,
    readDataReg, NicOp.exec, Chip.writeCmd, Chip.readData,
    Chip.selected, NicState.access]

/- The latch does not concern the register that is written. -/
theorem Chip.writeReg_disarmed
    (a : UBYTE) (v : UWORD) (c : Chip) :
    { c.writeReg a v with armed := false } =
      { c with armed := false }.writeReg a v := by
  unfold Chip.writeReg
  split
  · rfl
  · split <;> rfl

@[simp] theorem runOn_ksz8851WriteReg
    (offset : UBYTE) (value : UWORD) (n : NicState) :
    (ksz8851WriteReg offset value).runOn n =
      ((), (n.access offset).setChip
        (fun c => c.writeReg offset value)) := by
  simp [ksz8851WriteReg, NicM.runOn, getInterface, cmdReg,
    dataReg, NicOp.exec, Chip.writeCmd, Chip.writeData,
    Chip.selected, NicState.access, NicState.setChip,
    Chip.writeReg_disarmed]

@[simp] theorem runOn_ksz8851SetBit
    (address : UBYTE) (mask : UWORD) (n : NicState) :
    (ksz8851SetBit address mask).runOn n =
      ((), (n.access address).setChip
        (fun c => c.writeReg address
          (c.reg address ||| mask))) := by
  unfold ksz8851SetBit
  rw [NicM.runOn_bind, runOn_ksz8851ReadReg,
    runOn_ksz8851WriteReg]
  rfl

@[simp] theorem runOn_ksz8851ClearBit
    (address : UBYTE) (mask : UWORD) (n : NicState) :
    (ksz8851ClearBit address mask).runOn n =
      ((), (n.access address).setChip
        (fun c => c.writeReg address
          (c.reg address &&& ~~~mask))) := by
  unfold ksz8851ClearBit
  rw [NicM.runOn_bind, runOn_ksz8851ReadReg,
    runOn_ksz8851WriteReg]
  rfl

------------------------------------------------------------
-- Writing to the Queue
------------------------------------------------------------

open NicState

/- A bare write is appended to the queue. -/
theorem runOn_dataReg
    {n : NicState}
    (hSending : n.Sending)
    (w : UWORD) :
    (dataReg w).runOn n = ((), n.push [w]) := by
  simp [dataReg, NicM.runOn, NicOp.exec, Chip.writeData,
    hSending.1, hSending.2, push, setChip]

theorem runOn_writeWords
    (isInBigEndianMode : Bool)
    (data : Memory)
    (sizeInWord i : Nat)
    {n : NicState}
    (hSending : n.Sending) :
    (writeWords isInBigEndianMode data sizeInWord i).runOn n =
      ((), n.push ((List.range' i sizeInWord).map
        (fifoWord isInBigEndianMode data))) := by
  induction sizeInWord generalizing i n with
  | zero => simp [writeWords]
  | succ sizeInWord ih =>
      unfold writeWords
      rw [NicM.runOn_bind, runOn_dataReg hSending,
        ih (i + 1) (hSending.push _), push_push]
      rfl

/- The words of a memory area in the mode of the driver. -/
def NicState.wordsOf
    (n : NicState) (data : Memory) (sizeInWord : Nat) :
    List UWORD :=
  (portOrder n.iface.isInBigEndianMode).words data sizeInWord

/- They are what the write loops send. -/
theorem wordsOf_eq
    (n : NicState)
    (data : Memory)
    (sizeInWord : Nat) :
    n.wordsOf data sizeInWord =
      (List.range' 0 sizeInWord).map
        (fifoWord n.iface.isInBigEndianMode data) := by
  rw [← List.range_eq_range']
  apply List.map_congr_left
  intro i _
  exact (fifoWord_eq _ data i).symm

theorem runOn_writeAll
    (data : Memory)
    {sizeInWord : Nat}
    {n : NicState}
    (hSize : sizeInWord < 65536)
    (hSending : n.Sending) :
    (writeWords n.iface.isInBigEndianMode data
      (BitVec.ofNat 16 sizeInWord).toNat 0).runOn n =
      ((), n.push (n.wordsOf data sizeInWord)) := by
  rw [BitVec.toNat_ofNat, Nat.mod_eq_of_lt hSize, wordsOf_eq]
  exact runOn_writeWords _ data sizeInWord 0 hSending

theorem runOn_getInterface (n : NicState) :
    getInterface.runOn n = (n.iface, n) := rfl

theorem runOn_ksz8851WriteFifo
    (data : Memory)
    {length : Nat}
    {n : NicState}
    (hLength : length ≤ 131068)
    (hSending : n.Sending) :
    (ksz8851WriteFifo data length).runOn n =
      ((), n.push (n.wordsOf data
        ((length + 3) / 4 * 4 / 2))) := by
  have hSize : (length + 3) / 4 * 4 / 2 < 65536 := by
    omega
  unfold ksz8851WriteFifo
  rw [NicM.runOn_bind, runOn_getInterface]
  exact runOn_writeAll data hSize hSending

/- Whatever was written, the same count is returned. -/
theorem runOn_ksz8851WriteFifoWordAlign
    (data : Memory)
    {lengthInBytes : Nat}
    {n : NicState}
    (hLength : lengthInBytes ≤ 131068)
    (hSending : n.Sending) :
    (ksz8851WriteFifoWordAlign data lengthInBytes).runOn n =
      (0xFFFE#16, n.push (n.wordsOf data
        ((lengthInBytes + 1) / 2))) := by
  have hSize : (lengthInBytes + 1) / 2 < 65536 := by
    omega
  unfold ksz8851WriteFifoWordAlign
  rw [NicM.runOn_bind, runOn_getInterface, NicM.runOn_bind,
    runOn_writeAll data hSize hSending]
  rfl

/- The words of a frame given in parts. -/
def NicState.cookedWords
    (n : NicState)
    (header dst src : Memory)
    (packetType : UWORD)
    (payload : Memory)
    (payloadLength : Nat) : List UWORD :=
  n.wordsOf header 2 ++ (n.wordsOf dst 3 ++
    (n.wordsOf src 3 ++ (n.wordsOf (wordMemory packetType) 1 ++
      n.wordsOf payload ((payloadLength + 1) / 2))))

/- No alignment word is ever written. -/
theorem runOn_writeCookedFrame
    (header dst src : Memory)
    (packetType : UWORD)
    (payload : Memory)
    {payloadLength : Nat}
    {n : NicState}
    (hLength : payloadLength ≤ 131068)
    (hSending : n.Sending) :
    (writeCookedFrame header dst src packetType payload
      payloadLength).runOn n =
      ((), n.push (n.cookedWords header dst src packetType
        payload payloadLength)) := by
  unfold writeCookedFrame
  rw [NicM.runOn_bind,
    runOn_ksz8851WriteFifoWordAlign header (by omega)
      hSending, NicM.runOn_bind,
    runOn_ksz8851WriteFifoWordAlign dst (by omega)
      (hSending.push _), NicM.runOn_bind,
    runOn_ksz8851WriteFifoWordAlign src (by omega)
      ((hSending.push _).push _), NicM.runOn_bind,
    runOn_ksz8851WriteFifoWordAlign (wordMemory packetType)
      (by omega) (((hSending.push _).push _).push _),
    NicM.runOn_bind,
    runOn_ksz8851WriteFifoWordAlign payload hLength
      ((((hSending.push _).push _).push _).push _)]
  dsimp only
  rw [if_neg (by decide)]
  simp only [push_push, List.append_assoc]
  rfl

------------------------------------------------------------
-- Transmissions
------------------------------------------------------------

namespace Chip

@[simp] theorem armed_writeReg
    (a : UBYTE) (v : UWORD) (c : Chip) :
    (c.writeReg a v).armed = c.armed := by
  unfold writeReg
  split
  · rfl
  · split <;> rfl

/- Only `TXQCR` starts a transmission. -/
theorem writeReg_of_ne
    {a : UBYTE}
    (hOther : a ≠ regTxqcr)
    (v : UWORD)
    (c : Chip) :
    (c.writeReg a v).fifo = c.fifo ∧
      (c.writeReg a v).frames = c.frames := by
  unfold writeReg
  split
  · exact ⟨rfl, rfl⟩
  · rw [if_neg (fun hBoth => hOther hBoth.1)]
    exact ⟨rfl, rfl⟩

/- Setting `METFE` starts the transmission of the queue. -/
theorem writeReg_metfe (v : UWORD) (c : Chip) :
    (c.writeReg regTxqcr (v ||| txqcrMetfe)).fifo = [] ∧
      (c.writeReg regTxqcr (v ||| txqcrMetfe)).frames =
        c.frames ++ [c.fifo] := by
  have hSet : (v ||| txqcrMetfe) &&& txqcrMetfe ≠ 0#16 := by
    intro hNone
    have hBit := congrArg (fun w => w.getLsbD 0) hNone
    simp [txqcrMetfe] at hBit
  unfold writeReg
  rw [if_neg (by decide), if_pos ⟨rfl, hSet⟩]
  exact ⟨rfl, rfl⟩

/- Setting `SDA` opens the packet queues. -/
theorem sda_writeReg (v : UWORD) (c : Chip) :
    (c.writeReg regRxqcr (v ||| rxqcrSda)).Sda := by
  have hOther : regRxqcr ≠ regIsr := by
    decide
  unfold Sda
  rw [reg_writeReg, Function.update_self, if_neg hOther]
  intro hNone
  have hBit := congrArg (fun w => w.getLsbD 3) hNone
  simp [rxqcrSda] at hBit

end Chip

/- The length of a payload once it was made bigger. -/
def paddedLength (payloadLength : Nat) : Nat :=
  if payloadLength < 46 then 46 else payloadLength

namespace NicState

/- One transmission was started, of these words. -/
structure Started (ws : List UWORD) (n n' : NicState) :
    Prop where
  frames :
    n'.chip.frames = n.chip.frames ++ [n.chip.fifo ++ ws]
  fifo : n'.chip.fifo = []

/- Nothing was put into the queue or started. -/
structure Kept (n n' : NicState) : Prop where
  frames : n'.chip.frames = n.chip.frames
  fifo : n'.chip.fifo = n.chip.fifo

/- Of the chip no queue and no register has changed, and the
   driver's own state has not either. -/
structure Untouched (n n' : NicState) : Prop
    extends Kept n n' where
  reg : n'.chip.reg = n.chip.reg
  iface : n'.iface = n.iface

/- There is memory for a frame, as the send operations check
   it. -/
def TxFits (n : NicState) (length : Nat) : Prop :=
  length + 8 ≤ (n.chip.reg regTxmir &&& txmirTxmaMask).toNat

instance (n : NicState) (length : Nat) :
    Decidable (n.TxFits length) := by
  unfold TxFits
  infer_instance

/- The control word that the next frame gets. -/
def controlWord (n : NicState) : UWORD :=
  txCtrlTxic ||| (n.iface.frameId &&& txCtrlTxfid)

/- The header of the next frame, for `byteCount` bytes. -/
def header (n : NicState) (byteCount : Nat) : Memory :=
  txHeader n.controlWord (BitVec.ofNat 16 byteCount)

/- What `ksz8851SendPacket` puts into the queue. -/
def rawStream
    (n : NicState) (buffer : Memory) (length : Nat) :
    List UWORD :=
  n.wordsOf (n.header length) 2 ++
    n.wordsOf buffer ((length + 3) / 4 * 4 / 2)

/- What `ksz8851SendPacketCooked` puts into the queue. -/
def cookedStream
    (n : NicState)
    (dst src : Memory)
    (packetType : UWORD)
    (payload : Memory)
    (payloadLength : Nat) : List UWORD :=
  n.cookedWords
    (n.header (paddedLength payloadLength + ethHeaderSize))
    dst src packetType payload (paddedLength payloadLength)

end NicState

/- What the send operations do when there is memory. -/
def transmit (write : NicM Unit) : NicM ErrorT := do
  ksz8851SetBit regRxqcr rxqcrSda
  write
  ksz8851ClearBit regRxqcr rxqcrSda
  ksz8851SetBit regTxqcr txqcrMetfe
  enable
  pure noError

namespace NicState

theorem kept_writeReg
    {a : UBYTE}
    (hOther : a ≠ regTxqcr)
    (f : Chip → UWORD)
    (n : NicState) :
    Kept n ((n.access a).setChip
      (fun c => c.writeReg a (f c))) := by
  have hQueue :=
    Chip.writeReg_of_ne hOther (f (n.access a).chip)
      (n.access a).chip
  exact ⟨hQueue.2, hQueue.1⟩

end NicState

theorem started_transmit
    {write : NicM Unit}
    {n : NicState}
    {ws : List UWORD}
    (hWrite : ∀ m : NicState, m.Sending → m.iface = n.iface →
      write.runOn m = ((), m.push ws)) :
    ((transmit write).runOn n).1 = noError ∧
      Started ws n ((transmit write).runOn n).2 := by
  have hOther : regRxqcr ≠ regTxqcr := by
    decide
  have hOpened := kept_writeReg hOther
    (fun c => c.reg regRxqcr ||| rxqcrSda) n
  have hSending :
      ((n.access regRxqcr).setChip (fun c =>
        c.writeReg regRxqcr
          (c.reg regRxqcr ||| rxqcrSda))).Sending :=
    ⟨Chip.armed_writeReg _ _ _, Chip.sda_writeReg _ _⟩
  unfold transmit
  rw [NicM.runOn_bind, runOn_ksz8851SetBit, NicM.runOn_bind,
    hWrite _ hSending rfl, NicM.runOn_bind,
    runOn_ksz8851ClearBit, NicM.runOn_bind,
    runOn_ksz8851SetBit]
  generalize (n.access regRxqcr).setChip (fun c =>
    c.writeReg regRxqcr (c.reg regRxqcr ||| rxqcrSda)) = m
    at hOpened
  have hClosed := kept_writeReg hOther
    (fun c => c.reg regRxqcr &&& ~~~rxqcrSda) (m.push ws)
  dsimp only
  generalize ((m.push ws).access regRxqcr).setChip (fun c =>
    c.writeReg regRxqcr (c.reg regRxqcr &&& ~~~rxqcrSda)) = m'
    at hClosed
  have hMetfe := Chip.writeReg_metfe (m'.chip.reg regTxqcr)
    (m'.access regTxqcr).chip
  refine ⟨rfl, ?_, hMetfe.1⟩
  calc
    _ = m'.chip.frames ++ [m'.chip.fifo] := hMetfe.2
    _ = m.chip.frames ++ [m.chip.fifo ++ ws] := by
      rw [hClosed.frames, hClosed.fifo]
      rfl
    _ = n.chip.frames ++ [n.chip.fifo ++ ws] := by
      rw [hOpened.frames, hOpened.fifo]

------------------------------------------------------------
-- Raw Frames
------------------------------------------------------------

/- A raw frame is sent when its length is valid and there is
   memory for it. -/
def NicState.RawAccepted (n : NicState) (length : Nat) : Prop :=
  46 ≤ length ∧ length ≤ ethMaxFrameSize ∧ n.TxFits length

/- A frame given in parts is sent when there is memory. -/
def NicState.CookedAccepted
    (n : NicState) (payloadLength : Nat) : Prop :=
  n.TxFits (paddedLength payloadLength)

instance (n : NicState) (length : Nat) :
    Decidable (n.RawAccepted length) := by
  unfold NicState.RawAccepted
  infer_instance

instance (n : NicState) (payloadLength : Nat) :
    Decidable (n.CookedAccepted payloadLength) := by
  unfold NicState.CookedAccepted
  infer_instance

/- The state in which the header has been made up. -/
def NicState.readied (n : NicState) : NicState :=
  { (({ n with nest := n.nest + 1 } : NicState).access
      regTxmir) with
    iface :=
      { n.iface with frameId := n.iface.frameId + 1#16 } }

theorem wordsOf_readied
    {n m : NicState}
    (hIface : m.iface = n.readied.iface) :
    m.wordsOf = n.wordsOf := by
  unfold wordsOf
  rw [hIface]
  rfl

/- The control word is made up of the number of the frame. -/
theorem runOn_nextControlWord (n : NicState) :
    nextControlWord.runOn n =
      (n.controlWord,
        { n with
          iface :=
            { n.iface with
              frameId := n.iface.frameId + 1#16 } }) := rfl

/- An accepted raw frame is transmitted. -/
theorem runOn_ksz8851SendPacket
    {length : Nat}
    {n : NicState}
    (buffer : Memory)
    (hAccepted : n.RawAccepted length) :
    (ksz8851SendPacket buffer length).runOn n =
      (transmit (do
        ksz8851WriteFifo (n.header length) 4
        ksz8851WriteFifo buffer length)).runOn n.readied := by
  rcases hAccepted with ⟨hLeast, hMost, hFits⟩
  have hValid : ¬ (length < 46 ∨ length > ethMaxFrameSize) := by
    omega
  have hMemory : ¬ length + 8 >
      ((disable.runOn n).2.chip.reg regTxmir &&&
        txmirTxmaMask).toNat :=
    Nat.not_lt.mpr hFits
  unfold ksz8851SendPacket transmit
  rw [if_neg hValid, NicM.runOn_bind, NicM.runOn_bind,
    runOn_ksz8851ReadReg]
  dsimp only
  rw [if_neg hMemory, NicM.runOn_bind, runOn_nextControlWord]
  simp only [Program.bind_assoc]
  rfl

theorem started_ksz8851SendPacket
    {length : Nat}
    {n : NicState}
    (buffer : Memory)
    (hAccepted : n.RawAccepted length) :
    ((ksz8851SendPacket buffer length).runOn n).1 = noError ∧
      Started (n.rawStream buffer length) n
        ((ksz8851SendPacket buffer length).runOn n).2 := by
  have hMost : length ≤ 131068 := by
    have hFrame := hAccepted.2.1
    unfold ethMaxFrameSize at hFrame
    omega
  rw [runOn_ksz8851SendPacket buffer hAccepted]
  refine (started_transmit (n := n.readied) ?_).imp_right
    (fun hStarted => ⟨hStarted.frames, hStarted.fifo⟩)
  intro m hSending hIface
  rw [NicM.runOn_bind,
    runOn_ksz8851WriteFifo _ (by omega) hSending,
    runOn_ksz8851WriteFifo _ hMost (hSending.push _),
    push_push]
  unfold rawStream
  rw [← wordsOf_readied hIface]
  rfl

theorem errorFailure_ne : errorFailure ≠ noError := by
  decide

/- A refused raw frame leaves everything as it is. -/
theorem untouched_ksz8851SendPacket
    {length : Nat}
    {n : NicState}
    (buffer : Memory)
    (hRefused : ¬ n.RawAccepted length) :
    ((ksz8851SendPacket buffer length).runOn n).1 ≠ noError ∧
      Untouched n
        ((ksz8851SendPacket buffer length).runOn n).2 := by
  unfold ksz8851SendPacket
  by_cases hInvalid : length < 46 ∨ length > ethMaxFrameSize
  · have hError : errorInvalidLength ≠ noError := by
      decide
    rw [if_pos hInvalid]
    exact ⟨hError, ⟨rfl, rfl⟩, rfl, rfl⟩
  · have hMemory : length + 8 >
        ((disable.runOn n).2.chip.reg regTxmir &&&
          txmirTxmaMask).toNat := by
      by_contra hFits
      apply hRefused
      refine ⟨?_, ?_, Nat.not_lt.mp hFits⟩
      · omega
      · omega
    rw [if_neg hInvalid, NicM.runOn_bind, NicM.runOn_bind,
      runOn_ksz8851ReadReg]
    dsimp only
    rw [if_pos hMemory]
    exact ⟨errorFailure_ne, ⟨rfl, rfl⟩, rfl, rfl⟩

theorem kept_ksz8851SendPacket
    {length : Nat}
    {n : NicState}
    (buffer : Memory)
    (hRefused : ¬ n.RawAccepted length) :
    ((ksz8851SendPacket buffer length).runOn n).1 ≠ noError ∧
      Kept n
        ((ksz8851SendPacket buffer length).runOn n).2 :=
  (untouched_ksz8851SendPacket buffer hRefused).imp_right
    Untouched.toKept

------------------------------------------------------------
-- Frames Given in Parts
------------------------------------------------------------

theorem padded_eq (payloadLength : Nat) :
    (if payloadLength < 46 then 46 else payloadLength) =
      paddedLength payloadLength := rfl

theorem runOn_ksz8851SendPacketCooked
    {payloadLength : Nat}
    {n : NicState}
    (dst src : Memory)
    (packetType : UWORD)
    (payload : Memory)
    (hAccepted : n.CookedAccepted payloadLength) :
    (ksz8851SendPacketCooked dst src packetType payload
      payloadLength).runOn n =
      (transmit (writeCookedFrame
        (n.header (paddedLength payloadLength + ethHeaderSize))
        dst src packetType payload
        (paddedLength payloadLength))).runOn n.readied := by
  have hMemory : ¬ paddedLength payloadLength + 8 >
      ((disable.runOn n).2.chip.reg regTxmir &&&
        txmirTxmaMask).toNat :=
    Nat.not_lt.mpr hAccepted
  unfold ksz8851SendPacketCooked transmit
  rw [NicM.runOn_bind, NicM.runOn_bind,
    runOn_ksz8851ReadReg]
  dsimp only
  rw [padded_eq, if_neg hMemory, NicM.runOn_bind,
    runOn_nextControlWord]
  rfl

theorem started_ksz8851SendPacketCooked
    {payloadLength : Nat}
    {n : NicState}
    (dst src : Memory)
    (packetType : UWORD)
    (payload : Memory)
    (hLength : payloadLength ≤ 131068)
    (hAccepted : n.CookedAccepted payloadLength) :
    ((ksz8851SendPacketCooked dst src packetType payload
        payloadLength).runOn n).1 = noError ∧
      Started (n.cookedStream dst src packetType payload
          payloadLength) n
        ((ksz8851SendPacketCooked dst src packetType payload
          payloadLength).runOn n).2 := by
  have hMost : paddedLength payloadLength ≤ 131068 := by
    unfold paddedLength
    split <;> omega
  rw [runOn_ksz8851SendPacketCooked dst src packetType payload
    hAccepted]
  refine (started_transmit (n := n.readied) ?_).imp_right
    (fun hStarted => ⟨hStarted.frames, hStarted.fifo⟩)
  intro m hSending hIface
  rw [runOn_writeCookedFrame _ dst src packetType payload
    hMost hSending]
  unfold cookedStream cookedWords
  rw [wordsOf_readied hIface]

theorem untouched_ksz8851SendPacketCooked
    {payloadLength : Nat}
    {n : NicState}
    (dst src : Memory)
    (packetType : UWORD)
    (payload : Memory)
    (hRefused : ¬ n.CookedAccepted payloadLength) :
    ((ksz8851SendPacketCooked dst src packetType payload
        payloadLength).runOn n).1 ≠ noError ∧
      Untouched n
        ((ksz8851SendPacketCooked dst src packetType payload
          payloadLength).runOn n).2 := by
  have hMemory : paddedLength payloadLength + 8 >
      ((disable.runOn n).2.chip.reg regTxmir &&&
        txmirTxmaMask).toNat :=
    Nat.not_le.mp hRefused
  unfold ksz8851SendPacketCooked
  rw [NicM.runOn_bind, NicM.runOn_bind,
    runOn_ksz8851ReadReg]
  dsimp only
  rw [padded_eq, if_pos hMemory]
  exact ⟨errorFailure_ne, ⟨rfl, rfl⟩, rfl, rfl⟩

theorem kept_ksz8851SendPacketCooked
    {payloadLength : Nat}
    {n : NicState}
    (dst src : Memory)
    (packetType : UWORD)
    (payload : Memory)
    (hRefused : ¬ n.CookedAccepted payloadLength) :
    ((ksz8851SendPacketCooked dst src packetType payload
        payloadLength).runOn n).1 ≠ noError ∧
      Kept n
        ((ksz8851SendPacketCooked dst src packetType payload
          payloadLength).runOn n).2 :=
  (untouched_ksz8851SendPacketCooked dst src packetType
    payload hRefused).imp_right Untouched.toKept

end KszDriver
