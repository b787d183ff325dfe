import KszDriver.Device.Exec

/-
  The command handlers of the device driver and the drain of
  the transmit queue (`device.c`).

  Key definitions include:
    * `sendAllPackets`
    * `devCmdWritePacket`, `devCmdReadPacket`
    * `devCmdReadOrphan`, `devCmdOnEvent`
    * `devCmdFlush`, `devCmdOnline`, `devCmdOffline`
    * `performIo`
-/

------------------------------------------------------------
-- Sending
------------------------------------------------------------

namespace KszDriver

/-
  A raw packet, of which `ksz8851SendPacket` decides whether
  it is sent.  Its result is not looked at.
-/
def sendRaw (o : Outcome) (ios2 : APTR) (s : Driver) :
    Driver :=
  let length := (s.reqs ios2).dataLength.toNat
  if length > etherPacketHeadSize then
    let s := s.copyFromBuffer o ios2 0
    if (o.copyFromBuffer ios2).1 then
      s.runSend ios2 (ksz8851SendPacket s.sendBuffer length)
    else
      s.setErrorOnRequest ios2 s2errNoResources
        s2werrBuffError
  else
    s.setErrorOnRequest ios2 s2errMtuExceeded s2werrBuffError

/- The type of a packet, as stored into sixteen bits. -/
def IOSana2Req.packetTypeWord (q : IOSana2Req) : UWORD :=
  q.packetType.setWidth 16

/- The addresses and the type, stored into `sendBuffer`. -/
def storeHeader (ios2 : APTR) (s : Driver) : Driver :=
  let req := s.reqs ios2
  { s with
    sendBuffer :=
      ((s.sendBuffer.copyInto 0 req.dstAddr.memory 6).copyInto
        6 s.unit.stAddr.memory 6).storeTwo 12
          (highByte req.packetTypeWord)
          (lowByte req.packetTypeWord) }

/- The packet buffer that the client tells, if it does. -/
def dmaPacketBuffer (o : Outcome) (ios2 : APTR) (s : Driver) :
    Option Memory :=
  if (s.bms (s.reqs ios2).bufferManagement).copyFromBufferDma
      ≠ 0
  then o.copyFromBufferDma ios2
  else none

/- A cooked packet that is copied into `sendBuffer`. -/
def sendCopied (o : Outcome) (ios2 : APTR) (s : Driver) :
    Driver :=
  let length := (s.reqs ios2).dataLength.toNat
  let s := (storeHeader ios2 s).copyFromBuffer o ios2
    etherPacketHeadSize
  if (o.copyFromBuffer ios2).1 then
    s.runSend ios2
      (ksz8851SendPacketCooked s.sendBuffer
        (s.sendBuffer.drop 6)
        (s.sendBuffer.wordAt 12)
        (s.sendBuffer.drop etherPacketHeadSize) length)
  else
    s.setErrorOnRequest ios2 s2errNoResources s2werrBuffError

/-
  A cooked packet, taken from the buffer of the client where
  it tells one, and through `sendBuffer` otherwise.
-/
def sendCooked (o : Outcome) (ios2 : APTR) (s : Driver) :
    Driver :=
  let req := s.reqs ios2
  if req.dataLength.toNat ≤ ethernetMtu then
    match dmaPacketBuffer o ios2 s with
    | some packet =>
        s.runSend ios2
          (ksz8851SendPacketCooked req.dstAddr.memory
            s.unit.stAddr.memory req.packetTypeWord packet
            req.dataLength.toNat)
    | none => sendCopied o ios2 s
  else
    s.setErrorOnRequest ios2 s2errMtuExceeded s2werrBuffError

/- The body of the loop of `sendAllPackets`. -/
def sendOne (o : Outcome) (ios2 : APTR) (s : Driver) :
    Driver :=
  let s :=
    if (s.reqs ios2).Raw then sendRaw o ios2 s
    else sendCooked o ios2 s
  let s :=
    if (s.reqs ios2).wireError ≠ 0#32 then
      s.doEvent s2eventBuff
    else s
  s.termIo ios2

/-
  `while ((ios2 = GetMsg(eu_Tx)) != NULL)`.  The messages
  are those in the port, since sending puts none into it.
-/
def sendLoop (o : Outcome) : List APTR → Driver → Driver
| [], s => s
| ios2 :: rest, s =>
    sendLoop o rest (sendOne o ios2 (s.remove ios2))

def sendAllPackets (o : Outcome) (s : Driver) : Driver :=
  sendLoop o (s.lists .euTx) s

def devCmdWritePacket
    (o : Outcome) (ios2 : APTR) (s : Driver) : Driver :=
  if s.Online then
    if (s.reqs ios2).dataLength ≤ s.unit.mtu then
      let s := s.setReq ios2 (fun req =>
        { req with
          ioFlags := req.ioFlags &&& ~~~iofQuick
          lnType := ntMessage })
      sendAllPackets o (s.putMsg .euTx ios2)
    else
      (s.termWithError ios2 s2errMtuExceeded
        s2werrGenericError).doEvent s2eventTx
  else
    s.termWithError ios2 s2errOutOfService s2werrUnitOffline

------------------------------------------------------------
-- Read Requests and Events
------------------------------------------------------------

/- Mark a request as pending and append it to a list. -/
def queuePending
    (head : ListHead) (ios2 : APTR) (s : Driver) : Driver :=
  (s.setReq ios2
    (fun req => { req with lnType := ntMessage })).addTail
      head ios2

def devCmdReadPacket (ios2 : APTR) (s : Driver) : Driver :=
  let bm := (s.reqs ios2).bufferManagement
  if s.Online then
    if bm ∈ s.unit.buffMgmt then
      queuePending (.bmRxQueue bm) ios2 s
    else
      s.termWithError ios2 s2errBadArgument s2werrGenericError
  else
    s.termWithError ios2 s2errOutOfService s2werrUnitOffline

def devCmdReadOrphan (ios2 : APTR) (s : Driver) : Driver :=
  if s.Online then queuePending .euReadOrphan ios2 s
  else
    s.termWithError ios2 s2errOutOfService s2werrUnitOffline

/- The event that the request waits for holds already. -/
def AlreadyHolds (wireError : ULONG) (s : Driver) : Prop :=
  (wireError &&& s2eventOnline ≠ 0#32 ∧ s.Online) ∨
    (wireError &&& s2eventOffline ≠ 0#32 ∧ ¬ s.Online)

instance (wireError : ULONG) (s : Driver) :
    Decidable (AlreadyHolds wireError s) := by
  unfold AlreadyHolds
  infer_instance

def devCmdOnEvent (ios2 : APTR) (s : Driver) : Driver :=
  if AlreadyHolds (s.reqs ios2).wireError s then
    (s.setReq ios2 (fun req =>
      { req with
        ioError := 0
        wireError :=
          req.wireError &&&
            (s2eventOnline ||| s2eventOffline) })).termIo ios2
  else s.addTail .euEvents ios2

------------------------------------------------------------
-- Flush, Online and Offline
------------------------------------------------------------

/- The loop of `DevCmdFlush` over the openers. -/
def flushReadQueues : List APTR → Driver → Driver
| [], s => s
| bm :: rest, s =>
    flushReadQueues rest (s.abortReqList (.bmRxQueue bm))

/- What `DevCmdFlush` does before it replies. -/
def flushRequests (s : Driver) : Driver :=
  ((flushReadQueues s.unit.buffMgmt s).abortReqList
    .euTx).abortReqList .euEvents

def devCmdFlush (ios2 : Option APTR) (s : Driver) : Driver :=
  let s := flushRequests s
  match ios2 with
  | some ios2 => s.termIo ios2
  | none => s

/- The steps of going online when the unit is offline. -/
def goOnline (s : Driver) : Driver :=
  let s := s.runNic (setInterface
    (fun iface => { iface with onPacketReceived := true }))
  let s := s.runNic ksz8851Init
  let s := s.runNic ksz8851Online
  let s := s.setUnit (fun u =>
    { u with
      lowLevelDriverSignalNumber := s.nic.iface.sigNumber
      state := u.state ||| etherufOnline })
  s.doEvent s2eventOnline

def devCmdOnline (ios2 : APTR) (s : Driver) : Driver :=
  if s.Configured then
    if s.Online then s.termIo ios2
    else (goOnline s).termIo ios2
  else
    s.termWithError ios2 s2errBadState s2werrNotConfigured

/- The steps of going offline when the unit is online. -/
def goOffline (s : Driver) : Driver :=
  let s := s.setUnit (fun u =>
    { u with state := u.state &&& ~~~etherufOnline })
  let s := s.doEvent s2eventOffline
  let s := devCmdFlush none s
  s.runNic ksz8851Offline

def devCmdOffline
    (ios2 : Option APTR) (s : Driver) : Driver :=
  let s := if s.Online then goOffline s else s
  match ios2 with
  | some ios2 => s.termIo ios2
  | none => s

------------------------------------------------------------
-- Configuration and Queries
------------------------------------------------------------

def devCmdConfigInterface
    (ios2 : APTR) (s : Driver) : Driver :=
  if s.Configured then
    s.termWithError ios2 s2errBadState s2werrIsConfigured
  else
    let s := s.setUnit (fun u =>
      { u with stAddr := (s.reqs ios2).srcAddr })
    let s := s.runNic (ksz8851SetNetworkAddress s.unit.stAddr)
    let s := s.setUnit (fun u =>
      { u with state := u.state ||| etherufConfig })
    devCmdOnline ios2 s

def devCmdGetStationAddress
    (ios2 : APTR) (s : Driver) : Driver :=
  (s.setReq ios2 (fun req =>
    { req with
      srcAddr := s.unit.stAddr
      dstAddr := s.unit.stAddr })).termIo ios2

/- `sizeof(struct Sana2DeviceQuery)` -/
def sizeofDeviceQuery : ULONG := 30#32

/- What the driver supplies to a device query. -/
def fillDeviceQuery
    (mtu : ULONG) (query : Sana2DeviceQuery) :
    Sana2DeviceQuery :=
  { query with
    addrFieldSize := 48#16
    mtu := mtu
    bps := 10000000#32
    hardwareType := 1#32
    sizeSupplied := sizeofDeviceQuery }

def devCmdDeviceQuery (ios2 : APTR) (s : Driver) : Driver :=
  let statData := (s.reqs ios2).statData
  if statData ≠ 0 then
    if (s.queries statData).sizeAvailable ≥ sizeofDeviceQuery
    then
      (s.setQuery statData
        (fillDeviceQuery s.unit.mtu)).termIo ios2
    else
      s.termWithError ios2 s2errBadArgument s2werrGenericError
  else
    s.termWithError ios2 s2errBadArgument s2werrNullPointer

/-
  The statistics commands check the pointer of the client.
  What they store through it is not read by the driver.
-/
def devCmdStats (ios2 : APTR) (s : Driver) : Driver :=
  if (s.reqs ios2).statData ≠ 0 then s.termIo ios2
  else
    s.termWithError ios2 s2errBadArgument s2werrNullPointer

def devCmdGlobStats (ios2 : APTR) (s : Driver) : Driver :=
  devCmdStats ios2 s

def devCmdGetSpecialStats (ios2 : APTR) (s : Driver) :
    Driver :=
  devCmdStats ios2 s

/- The first four bytes of an address, as a pointer. -/
def MacAddr.pointer (addr : MacAddr) : APTR :=
  (wordOf (addr 0) (addr 1)).toNat * 65536 +
    (wordOf (addr 2) (addr 3)).toNat

/-
  The request seen as a standard one: its length is the
  packet type, its data pointer the start of the source
  address, and the actual count the wire error.
-/
def devCmdNsDeviceQuery (ios2 : APTR) (s : Driver) :
    Driver :=
  let nsdqr := (s.reqs ios2).srcAddr.pointer
  let s :=
    if nsdqr ≠ 0 ∧ (s.reqs ios2).packetType ≥ 16#32 then
      s.setQuery nsdqr
        (fun query => { query with sizeAvailable := 16#32 })
    else s
  (s.setReq ios2 (fun req =>
    { req with
      wireError := (s.queries nsdqr).sizeAvailable })).termIo
        ios2

------------------------------------------------------------
-- Tracked Types
------------------------------------------------------------

def devCmdTrackType
    (o : Outcome) (ios2 : APTR) (s : Driver) : Driver :=
  let packetType := (s.reqs ios2).packetType
  if packetType ∈ s.unit.track then
    s.termWithError ios2 s2errBadState s2werrAlreadyTracked
  else if o.allocMem then
    (s.setUnit (fun u =>
      { u with
        track := u.track ++ [packetType]
        ipTrack :=
          if packetType = 2048#32 then true
          else u.ipTrack })).termIo ios2
  else s.termIo ios2

/- A type that is not tracked ends in an error; the loop
   then stands at the end of the list. -/
def devCmdUnTrackType (ios2 : APTR) (s : Driver) : Driver :=
  let packetType := (s.reqs ios2).packetType
  if packetType ∈ s.unit.track then
    (s.setUnit (fun u =>
      { u with
        track := u.track.erase packetType
        ipTrack :=
          if packetType = 2048#32 then false
          else u.ipTrack })).termIo ios2
  else
    s.termWithError ios2 s2errBadState s2werrNotTracked

------------------------------------------------------------
-- Dispatch
------------------------------------------------------------

/- A command that the driver does not support. -/
def notSupported (ios2 : APTR) (s : Driver) : Driver :=
  s.termWithError ios2 s2errNotSupported s2werrGenericError

/- `S2_BROADCAST` sets the destination first. -/
def broadcastPacket
    (o : Outcome) (ios2 : APTR) (s : Driver) : Driver :=
  devCmdWritePacket o ios2 (s.setReq ios2
    (fun req => { req with dstAddr := broadcastAddress }))

/- The switch of `PerformIO`. -/
def dispatch
    (o : Outcome)
    (command : UWORD)
    (ios2 : APTR)
    (s : Driver) : Driver :=
  if command = cmdWrite then devCmdWritePacket o ios2 s
  else if command = cmdRead then devCmdReadPacket ios2 s
  else if command = s2Broadcast then broadcastPacket o ios2 s
  else if command = s2Multicast then
    devCmdWritePacket o ios2 s
  else if command = cmdFlush then devCmdFlush (some ios2) s
  else if command = s2OnEvent then devCmdOnEvent ios2 s
  else if command = s2Online then devCmdOnline ios2 s
  else if command = s2Offline then
    devCmdOffline (some ios2) s
  else if command = s2DeviceQuery then
    devCmdDeviceQuery ios2 s
  else if command = s2GetStationAddress then
    devCmdGetStationAddress ios2 s
  else if command = s2ConfigInterface then
    devCmdConfigInterface ios2 s
  else if command = s2ReadOrphan then devCmdReadOrphan ios2 s
  else if command = s2GetGlobalStats then
    devCmdGlobStats ios2 s
  else if command = s2TrackType then devCmdTrackType o ios2 s
  else if command = s2UntrackType then
    devCmdUnTrackType ios2 s
  else if command = s2GetSpecialStats then
    devCmdGetSpecialStats ios2 s
  else if command = nscmdDeviceQuery then
    devCmdNsDeviceQuery ios2 s
  else notSupported ios2 s

section Dispatched

variable (o : Outcome) (ios2 : APTR) (s : Driver)

/- What some commands are dispatched to. -/
theorem dispatch_cmdRead :
    dispatch o cmdRead ios2 s = devCmdReadPacket ios2 s := rfl

theorem dispatch_s2ReadOrphan :
    dispatch o s2ReadOrphan ios2 s =
      devCmdReadOrphan ios2 s := rfl

theorem dispatch_cmdFlush :
    dispatch o cmdFlush ios2 s =
      devCmdFlush (some ios2) s := rfl

theorem dispatch_s2Online :
    dispatch o s2Online ios2 s = devCmdOnline ios2 s := rfl

theorem dispatch_s2Offline :
    dispatch o s2Offline ios2 s =
      devCmdOffline (some ios2) s := rfl

theorem dispatch_s2ConfigInterface :
    dispatch o s2ConfigInterface ios2 s =
      devCmdConfigInterface ios2 s := rfl

end Dispatched

def performIo
    (o : Outcome) (ios2 : APTR) (s : Driver) : Driver :=
  dispatch o (s.reqs ios2).ioCommand ios2
    (s.setReq ios2 (fun req => { req with ioError := 0 }))

end KszDriver
