import KszDriver.Nic.Chip

/-
  Register and FIFO access of the low level driver, and its
  interrupt installation (`ksz8851.c`, `isr.c`).

  Key definitions include:
    * `ksz8851ReadReg`, `ksz8851WriteReg`
    * `ksz8851SetBit`, `ksz8851ClearBit`
    * `ksz8851WriteFifo`, `ksz8851WriteFifoWordAlign`
    * `ksz8851ReadFifo`
    * `installInterruptHandler`
-/

------------------------------------------------------------
-- Registers
------------------------------------------------------------

namespace KszDriver

/-
  The command word for a register: its address and the byte
  enables of its word, which the two endian modes place on
  opposite halves of the bus.
-/
def cmdWord (isInBigEndianMode : Bool) (offset : UBYTE) :
    UWORD :=
  offset.setWidth 16 |||
    (if offset &&& 2#8 ≠ 0#8 then
      if isInBigEndianMode then cmdB0 ||| cmdB1
      else cmdB2 ||| cmdB3
    else
      if isInBigEndianMode then cmdB2 ||| cmdB3
      else cmdB0 ||| cmdB1)

def ksz8851ReadReg (offset : UBYTE) : NicM UWORD := do
  let context ← getInterface
  cmdReg (cmdWord context.isInBigEndianMode offset)
  readDataReg

def ksz8851WriteReg
    (offset : UBYTE) (value : UWORD) : NicM Unit := do
  let context ← getInterface
  cmdReg (cmdWord context.isInBigEndianMode offset)
  dataReg value

def ksz8851SetBit
    (address : UBYTE) (mask : UWORD) : NicM Unit := do
  let value ← ksz8851ReadReg address
  ksz8851WriteReg address (value ||| mask)

def ksz8851ClearBit
    (address : UBYTE) (mask : UWORD) : NicM Unit := do
  let value ← ksz8851ReadReg address
  ksz8851WriteReg address (value &&& ~~~mask)

------------------------------------------------------------
-- Packet Queues
------------------------------------------------------------

/-
  The `i`th word that the write loops send: in big-endian
  mode read as a word, in little-endian mode put together
  from two bytes, the first one low.
-/
def fifoWord
    (isInBigEndianMode : Bool)
    (data : Memory)
    (i : Nat) : UWORD :=
  if isInBigEndianMode then data.wordAt (2 * i)
  else wordOf (data (2 * i + 1)) (data (2 * i))

/- `while (sizeInWord--) KSZ8851_DATA_REG = ...` -/
def writeWords
    (isInBigEndianMode : Bool)
    (data : Memory) : Nat → Nat → NicM Unit
| 0, _ => pure ()
| sizeInWord + 1, i => do
    dataReg (fifoWord isInBigEndianMode data i)
    writeWords isInBigEndianMode data sizeInWord (i + 1)

/-
  Word-aligned writing.  The loop leaves `sizeInWord` at
  `0 - 1`, and the value returned is computed from that.
-/
def ksz8851WriteFifoWordAlign
    (data : Memory) (lengthInBytes : Nat) : NicM UWORD := do
  let context ← getInterface
  let sizeInWord := BitVec.ofNat 16 ((lengthInBytes + 1) / 2)
  writeWords context.isInBigEndianMode data
    sizeInWord.toNat 0
  let sizeInWord : UWORD := 0#16 - 1#16
  pure (sizeInWord <<< 1 &&& ~~~1#16)

/- Writing a buffer, rounded up to whole double words. -/
def ksz8851WriteFifo
    (data : Memory) (length : Nat) : NicM Unit := do
  let context ← getInterface
  let sizeInWord :=
    BitVec.ofNat 16 ((length + 3) / 4 * 4 / 2)
  writeWords context.isInBigEndianMode data
    sizeInWord.toNat 0

/- Store two bytes. -/
def Memory.storeTwo
    (m : Memory) (i : Nat) (first second : UBYTE) : Memory :=
  fun j =>
    if j = i then first
    else if j = i + 1 then second
    else m j

/- `while (sizeInWord--) ... = KSZ8851_DATA_REG` -/
def readWords
    (isInBigEndianMode : Bool) :
    Nat → Nat → Memory → NicM Memory
| 0, _, data => pure data
| sizeInWord + 1, i, data => do
    let value ← readDataReg
    let data :=
      if isInBigEndianMode then
        data.storeTwo (2 * i) (highByte value) (lowByte value)
      else
        data.storeTwo (2 * i) (lowByte value) (highByte value)
    readWords isInBigEndianMode sizeInWord (i + 1) data

/- Reading into the receive buffer, in whole double words. -/
def ksz8851ReadFifo (length : Nat) : NicM Unit := do
  let context ← getInterface
  let sizeInWord :=
    BitVec.ofNat 16 ((length + 3) / 4 * 4 / 2)
  let data ← readWords context.isInBigEndianMode
    sizeInWord.toNat 0 context.rxData
  setInterface (fun iface => { iface with rxData := data })

/- Swaps the bytes of a word: 0x1234 becomes 0x3412. -/
def swap (value : UWORD) : UWORD :=
  wordOf (lowByte value) (highByte value)

------------------------------------------------------------
-- Interrupt Server
------------------------------------------------------------

/- Link the interrupt server and get its signal. -/
def installInterruptHandler : NicM Bool := do
  let context ← getInterface
  if context.signalTask then
    pure true
  else
    setInterface (fun iface =>
      { iface with signalTask := true })
    let sigNumber ← allocSignal
    setInterface (fun iface =>
      { iface with sigNumber := sigNumber })
    if sigNumber = -1 then
      setInterface (fun iface =>
        { iface with signalTask := false })
      pure false
    else
      addIntServer
      pure true

/- Unlink the interrupt server and free its signal. -/
def uninstallInterruptHandler : NicM Unit := do
  let context ← getInterface
  if context.signalTask then
    remIntServer
    setInterface (fun iface =>
      { iface with signalTask := false })
    freeSignal
    setInterface (fun iface => { iface with sigNumber := -1 })
  else
    pure ()

end KszDriver
