import KszDriver.Nic.Access

/-
  The operations of the low level driver (`ksz8851.c`) and
  the interrupt server (`isr.c`).

  Key definitions include:
    * `ksz8851Init`, `ksz8851SoftReset`
    * `ksz8851Online`, `ksz8851Offline`
    * `ksz8851IrqHandler`, `isr`
    * `ksz8851ReceivePacket`, `ksz8851EventHandler`
    * `ksz8851SendPacket`, `ksz8851SendPacketCooked`
    * `ksz8851SendPacketPossible`
    * `ksz8851SetMulticastFilter`
-/

------------------------------------------------------------
-- Going Online and Offline
------------------------------------------------------------

namespace KszDriver

/- All flags that going online acknowledges. -/
def onlineIsrMask : UWORD :=
  isrLcis ||| isrTxis ||| isrRxis ||| isrRxois |||
    isrTxpsis ||| isrRxpsis ||| isrTxsais ||| isrRxwfdis |||
    isrRxmpdis ||| isrLdis ||| isrEdis ||| isrSpibeis

/- The interrupt sources that going online enables. -/
def onlineIerMask : UWORD :=
  ierLcie ||| ierRxie ||| ierRxoie

def ksz8851Online : NicM Unit := do
  let _ ← installInterruptHandler
  disable
  ksz8851SetBit regIsr onlineIsrMask
  ksz8851SetBit regIer onlineIerMask
  ksz8851SetBit regTxcr txcrTxe
  ksz8851SetBit regRxcr1 rxcr1Rxe
  enable

def ksz8851Offline : NicM Unit := do
  disable
  ksz8851WriteReg regIer 0#16
  ksz8851ClearBit regTxcr txcrTxe
  ksz8851ClearBit regRxcr1 rxcr1Rxe
  enable
  uninstallInterruptHandler

------------------------------------------------------------
-- Initialization
------------------------------------------------------------

def ksz8851SwitchEndianessMode (bigEndian : Bool) :
    NicM Unit := do
  let value ← ksz8851ReadReg regRxfdpr
  let value := if bigEndian then value ||| rxfdprEms else value
  ksz8851WriteReg regRxfdpr value
  setInterface (fun iface =>
    { iface with isInBigEndianMode := bigEndian })

def ksz8851DetectNICEndiness : NicM ErrorT := do
  let cider ← ksz8851ReadReg regCider
  if cider ≠ revA3Id then
    setInterface (fun iface =>
      { iface with isInBigEndianMode := !iface.isInBigEndianMode })
    let cider ← ksz8851ReadReg regCider
    if cider ≠ revA3Id then pure noChipFound
    else pure noError
  else pure noError

/-
  Reset the chip.  The detection result is an error code
  whose value for success is zero, and the source negates it.
-/
def ksz8851SoftReset (resetOperation : UWORD) :
    NicM Unit := do
  let result ← ksz8851DetectNICEndiness
  if result = 0 then pure ()
  else
    let oldisr ← ksz8851ReadReg regIsr
    ksz8851WriteReg regIsr 0x0000#16
    ksz8851WriteReg regGrr resetOperation
    delay 25
    ksz8851WriteReg regGrr 0#16
    delay 10
    let result ← ksz8851DetectNICEndiness
    if result = 0 then pure ()
    else ksz8851WriteReg regIsr oldisr

/- Pulse the global reset in the given endian mode. -/
def resetInMode (bigEndian : Bool) : NicM Unit := do
  setInterface (fun iface =>
    { iface with isInBigEndianMode := bigEndian })
  ksz8851WriteReg regGrr grrGlobalSoftRst
  ksz8851WriteReg regGrr grrNoReset

/- `do { ... } while (tries--)` -/
def detectLoop : Nat → NicM Unit
| 0 => do
    let result ← ksz8851DetectNICEndiness
    if result = noError then pure ()
    else
      resetInMode false
      resetInMode true
| tries + 1 => do
    let result ← ksz8851DetectNICEndiness
    if result = noError then pure ()
    else
      resetInMode false
      resetInMode true
      detectLoop tries

/- The register set-up of `ksz8851Init`. -/
def configureRegisters : NicM Unit := do
  ksz8851WriteReg regTxcr (txcrTxfce ||| txcrTxpe ||| txcrTxce)
  ksz8851WriteReg regTxfdpr txfdprTxfpai
  ksz8851WriteReg regRxcr1
    (rxcr1Rxpafma ||| rxcr1Rxfce ||| rxcr1Rxbe |||
      rxcr1Rxme ||| rxcr1Rxue)
  ksz8851WriteReg regRxcr2
    (rxcr2Srdbl2 ||| rxcr2Iuffp ||| rxcr2Rxiufcez)
  ksz8851WriteReg regRxqcr
    (rxqcrRxfcte ||| rxqcrAdrfe ||| rxqcrRxiphtoe)
  let context ← getInterface
  ksz8851WriteReg regRxfdpr
    (if context.isInBigEndianMode then
      rxfdprRxfpai ||| rxfdprEms else rxfdprRxfpai)
  ksz8851WriteReg regRxfctr 1#16
  ksz8851ClearBit regP1cr p1crForceDuplex
  ksz8851SetBit regP1cr p1crRestartAn

def ksz8851Init : NicM ErrorT := do
  disable
  detectLoop 2
  ksz8851SoftReset grrQmuModuleSoftRst
  let cider ← ksz8851ReadReg regCider
  if cider ≠ revA3Id then
    enable
    pure errorWrongIdentifier
  else
    ksz8851SwitchEndianessMode true
    setInterface (fun iface => { iface with frameId := 0#16 })
    let allocated ← memPoolAlloc
    setInterface (fun iface =>
      { iface with rxBuffer := allocated })
    if allocated then
      configureRegisters
      enable
      pure noError
    else
      enable
      pure errorOutOfMemory

/- Sets the station address; `htons` keeps the byte order. -/
def ksz8851SetNetworkAddress (addr : MacAddr) :
    NicM Unit := do
  disable
  ksz8851WriteReg regMarh (addr.memory.wordAt 0)
  ksz8851WriteReg regMarm (addr.memory.wordAt 2)
  ksz8851WriteReg regMarl (addr.memory.wordAt 4)
  enable

/- The built-in default station address. -/
def ksz8851GetStationAddress : MacAddr :=
  ![0x02#8, 0x34#8, 0x56#8, 0x78#8, 0x9a#8, 0xbc#8]

------------------------------------------------------------
-- Interrupts
------------------------------------------------------------

/- Clear an enable bit when its status bit is pending. -/
def maskPending
    (isr : UWORD) (status enableBit ier : UWORD) : UWORD :=
  if isr &&& status ≠ 0#16 then ier &&& ~~~enableBit else ier

def ksz8851IrqHandler : NicM Bool := do
  let isr ← ksz8851ReadReg regIsr
  let ier ← ksz8851ReadReg regIer
  if isr &&& ier = 0#16 then pure false
  else
    ksz8851WriteReg regIer 0#16
    let ier := maskPending isr isrLcis ierLcie ier
    Program.onlyIf (isr &&& isrTxis ≠ 0#16)
      (ksz8851WriteReg regIsr isrTxis)
    let ier := maskPending isr isrTxis ierTxie ier
    let ier := maskPending isr isrRxis ierRxie ier
    let ier := maskPending isr isrRxois ierRxoie ier
    Program.onlyIf (isr &&& isrLdis ≠ 0#16)
      (ksz8851SetBit regPmecr (2#16 <<< 2))
    let ier := maskPending isr isrLdis ierLdie ier
    ksz8851WriteReg regIer ier
    pure (decide (isr &&&
      (isrLcis ||| isrTxis ||| isrRxis ||| isrRxois |||
        isrLdis) ≠ 0#16))

/- The Amiga interrupt server. -/
def isr : NicM UBYTE := do
  let context ← getInterface
  if context.intDisabledCounter ≠ 0#8 then pure 0#8
  else
    let handled ← ksz8851IrqHandler
    if handled then
      signal
      setInterface (fun iface =>
        { iface with signalCounter := iface.signalCounter + 1 })
      pure 1#8
    else pure 0#8

------------------------------------------------------------
-- Receiving
------------------------------------------------------------

/- The status bits of a frame that is in error. -/
def errorFrameMask : UWORD :=
  rxfhsrRxmr ||| rxfhsrRxftl ||| rxfhsrRxrf ||| rxfhsrRxce |||
    rxfhsrRxudpfcs ||| rxfhsrRxtcpfcs ||| rxfhsrRxipfcs |||
    rxfhsrRxicmpfcs

/-
  Receive one frame.  Interrupts are enabled while the frame
  is delivered; its length is computed in sixteen bits.
-/
def ksz8851ReceivePacket : NicM ErrorT := do
  let frameStatus ← ksz8851ReadReg regRxfhsr
  if frameStatus &&& rxfhsrRxfv = 0#16 then
    Program.onlyIf (frameStatus &&& errorFrameMask ≠ 0#16)
      (ksz8851SetBit regRxqcr rxqcrRrxef)
    pure errorInvalidPacket
  else
    let rxfhbcr ← ksz8851ReadReg regRxfhbcr
    let rxPktLength := rxfhbcr &&& rxfhbcrRxbcMask
    if rxPktLength ≠ 0#16 ∧
        rxPktLength.toNat ≤ ethMaxFrameSize + 4 then
      let context ← getInterface
      ksz8851WriteReg regRxfdpr
        (if context.isInBigEndianMode then
          rxfdprRxfpai ||| rxfdprEms else rxfdprRxfpai)
      ksz8851SetBit regRxqcr rxqcrSda
      let _ ← readDataReg
      let _ ← readDataReg
      let _ ← readDataReg
      ksz8851ReadFifo rxPktLength.toNat
      ksz8851ClearBit regRxqcr rxqcrSda
      enable
      let interface ← getInterface
      Program.onlyIf interface.onPacketReceived
        (onPacketReceived (interface.rxData.drop 2)
          (rxPktLength - 2#16 - 4#16))
      disable
      pure noError
    else
      ksz8851SetBit regRxqcr rxqcrRrxef
      pure errorInvalidPacket

/- `while (frameCount > 0)` -/
def receiveLoop : Nat → NicM Unit
| 0 => pure ()
| frameCount + 1 => do
    let _ ← ksz8851ReceivePacket
    receiveLoop frameCount

/- What a changed `P1SR` says about the link. -/
def NetInterface.updateLink
    (status : UWORD)
    (iface : NetInterface) : NetInterface :=
  if status &&& p1srLinkGood ≠ 0#16 then
    { iface with
      linkSpeed :=
        if status &&& p1srOperationSpeed ≠ 0#16 then 100
        else 10
      duplexMode :=
        if status &&& p1srOperationDuplex ≠ 0#16 then 1
        else 2
      linkState := true }
  else { iface with linkState := false }

/- Calls the link change function where there is one. -/
def notifyLinkChange : NicM Unit := do
  let interface ← getInterface
  Program.onlyIf interface.linkChangeFunction
    linkChangeFunction

/-
  The link branch of the event handler.  It returns the new
  value of the variable `status`, which from here on holds
  `P1SR`, and the enable mask.
-/
def handleLinkChange (status : UWORD) :
    NicM (UWORD × UWORD) := do
  if status &&& isrLcis ≠ 0#16 then
    ksz8851WriteReg regIsr isrLcis
    let status ← ksz8851ReadReg regP1sr
    setInterface (fun iface => iface.updateLink status)
    notifyLinkChange
    pure (status, ierLcie)
  else pure (status, 0#16)

/- The receive branch of the event handler. -/
def handleReceive (status enableMask : UWORD) :
    NicM UWORD := do
  if status &&& isrRxis ≠ 0#16 then
    ksz8851WriteReg regIsr isrRxis
    let rxfctr ← ksz8851ReadReg regRxfctr
    receiveLoop (highByte rxfctr).toNat
    pure (enableMask ||| ierRxie)
  else pure enableMask

/- The overrun branch of the event handler. -/
def handleOverrun (status enableMask : UWORD) :
    NicM UWORD := do
  if status &&& isrRxois ≠ 0#16 then
    setInterface (fun iface =>
      { iface with rxOverrun := iface.rxOverrun + 1 })
    ksz8851SetBit regIsr isrRxois
    pure (enableMask ||| ierRxoie)
  else pure enableMask

/- The wake-up branch of the event handler. -/
def handleWakeup (status enableMask : UWORD) :
    NicM UWORD := do
  if status &&& ierLdie ≠ 0#16 then
    notifyLinkChange
    pure (enableMask ||| ierLdie)
  else pure enableMask

/-
  The event handler of the unit task.  Its branches share
  the variable `status`.
-/
def ksz8851EventHandler : NicM Bool := do
  disable
  let status ← ksz8851ReadReg regIsr
  let (status, enableMask) ← handleLinkChange status
  let enableMask ← handleReceive status enableMask
  let enableMask ← handleOverrun status enableMask
  let enableMask ← handleWakeup status enableMask
  let enableMask :=
    if status &&& ierTxie ≠ 0#16 then enableMask ||| ierTxie
    else enableMask
  ksz8851SetBit regIer enableMask
  enable
  pure false

------------------------------------------------------------
-- Sending
------------------------------------------------------------

/-
  The transmit header in memory.  Its two words hold swapped
  values and are stored big-endian.
-/
def txHeader (controlWord byteCount : UWORD) : Memory :=
  fun i =>
    match i with
    | 0 => highByte (swap controlWord)
    | 1 => lowByte (swap controlWord)
    | 2 => highByte (swap byteCount)
    | 3 => lowByte (swap byteCount)
    | _ => 0#8

/- `TX_CTRL_TXIC | (context->frameId++ & TX_CTRL_TXFID)` -/
def nextControlWord : NicM UWORD := do
  let context ← getInterface
  setInterface (fun iface =>
    { iface with frameId := iface.frameId + 1#16 })
  pure (txCtrlTxic ||| (context.frameId &&& txCtrlTxfid))

def ksz8851SendPacket (buffer : Memory) (length : Nat) :
    NicM ErrorT := do
  if length < 46 ∨ length > ethMaxFrameSize then
    pure errorInvalidLength
  else
    disable
    let txmir ← ksz8851ReadReg regTxmir
    let n := txmir &&& txmirTxmaMask
    if length + 8 > n.toNat then
      enable
      pure errorFailure
    else
      let controlWord ← nextControlWord
      let header := txHeader controlWord (BitVec.ofNat 16 length)
      ksz8851SetBit regRxqcr rxqcrSda
      ksz8851WriteFifo header 4
      ksz8851WriteFifo buffer length
      ksz8851ClearBit regRxqcr rxqcrSda
      ksz8851SetBit regTxqcr txqcrMetfe
      enable
      pure noError

/- A word variable in memory. -/
def wordMemory (word : UWORD) : Memory :=
  fun i => if i = 0 then highByte word else lowByte word

/- Write header, addresses, type and payload. -/
def writeCookedFrame
    (header dst src : Memory)
    (packetType : UWORD)
    (payload : Memory)
    (payloadLength : Nat) : NicM Unit := do
  let _ ← ksz8851WriteFifoWordAlign header 4
  let _ ← ksz8851WriteFifoWordAlign dst 6
  let _ ← ksz8851WriteFifoWordAlign src 6
  let _ ← ksz8851WriteFifoWordAlign (wordMemory packetType) 2
  let realSend ←
    ksz8851WriteFifoWordAlign payload payloadLength
  let realSend := realSend.toNat + ethHeaderSize
  if realSend &&& 3 ≠ 0 then
    dataReg 0#16

/-
  Send a frame given in parts.  A short payload is read on
  to 46 bytes.  The callers pass at most 1500 bytes, so the
  sums stay far below the range of `size_t`.
-/
def ksz8851SendPacketCooked
    (dst src : Memory)
    (packetType : UWORD)
    (payload : Memory)
    (payloadLength : Nat) : NicM ErrorT := do
  let payloadLength :=
    if payloadLength < 46 then 46 else payloadLength
  disable
  let txmir ← ksz8851ReadReg regTxmir
  let n := txmir &&& txmirTxmaMask
  if payloadLength + 8 > n.toNat then
    enable
    pure errorFailure
  else
    let controlWord ← nextControlWord
    let header := txHeader controlWord
      (BitVec.ofNat 16 (payloadLength + ethHeaderSize))
    ksz8851SetBit regRxqcr rxqcrSda
    writeCookedFrame header dst src packetType payload
      payloadLength
    ksz8851ClearBit regRxqcr rxqcrSda
    ksz8851SetBit regTxqcr txqcrMetfe
    enable
    pure noError

/-
  `ksz8851SendPacketPossible`.  The sum is computed in an
  `int`, and all bits of the register take part in it.
-/
def ksz8851SendPacketPossible (packetSize : UWORD) :
    NicM Bool := do
  let txmir ← ksz8851ReadReg regTxmir
  pure (decide (txmir.toNat + 8 ≤ packetSize.toNat))

------------------------------------------------------------
-- Multicast Filter
------------------------------------------------------------

/- One step of the CRC, for bit `j` of a byte. -/
def crcBit (byte : UBYTE) (crc : ULONG) (j : Nat) : ULONG :=
  if (crc >>> 31 ^^^ (byte >>> j).setWidth 32) &&& 1#32 ≠ 0#32
  then crc <<< 1 ^^^ 0x04C11DB7#32
  else crc <<< 1

def ksz8851CalcCrc (data : Memory) (length : Nat) : ULONG :=
  (List.range length).foldl
    (fun crc i => (List.range 8).foldl (crcBit (data i)) crc)
    0xFFFFFFFF#32

structure MacFilterEntry where
  addr : MacAddr
  refCount : UWORD

/- Set the bit of a valid entry in the hash table; the index
   is a number below 64. -/
def hashEntry
    (hashTable : Fin 4 → UWORD) (entry : MacFilterEntry) :
    Fin 4 → UWORD :=
  if entry.refCount > 0#16 then
    let crc := ksz8851CalcCrc entry.addr.memory 6
    let k := (crc >>> 26 &&& 0x3F#32).toNat
    let word := Fin.ofNat 4 (k / 16)
    Function.update hashTable word
      (hashTable word ||| 1#16 <<< (k % 16))
  else hashTable

def ksz8851SetMulticastFilter (filter : List MacFilterEntry) :
    NicM ErrorT := do
  let hashTable := filter.foldl hashEntry (fun _ => 0#16)
  ksz8851WriteReg regMahtr0 (hashTable 0)
  ksz8851WriteReg regMahtr1 (hashTable 1)
  ksz8851WriteReg regMahtr2 (hashTable 2)
  ksz8851WriteReg regMahtr3 (hashTable 3)
  pure noError

------------------------------------------------------------
-- Service Tool
------------------------------------------------------------

/- `switchEndianessMode` of the service tool (`main.c`), which
   repeats the body of the driver's own function. -/
def switchEndianessMode (bigEndian : Bool) : NicM Unit :=
  ksz8851SwitchEndianessMode bigEndian

end KszDriver
