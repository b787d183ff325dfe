import KszDriver.Core.Ledger
import KszDriver.Nic.LowLevel

/-
  The data of the device driver (`device.h`, `sana2.h`):
  requests, buffer management, the unit and the device base,
  and the memory they live in.

  Requests and buffer managements are known by their
  addresses; a list is known by its list head.  `log` is a
  history of what the driver did, newest event first.

  Key definitions include:
    * `IOSana2Req`
    * `ListHead`
    * `DeviceDriverUnit`, `DeviceBase`
    * `Event`
    * `Driver`
-/

------------------------------------------------------------
-- Commands, Flags and Errors
------------------------------------------------------------

namespace KszDriver

/- An address; zero is `NULL`. -/
abbrev APTR := Nat

/- The commands of `exec/io.h`, `sana2.h` and `newstyle.h`. -/
def cmdRead : UWORD := 2#16
def cmdWrite : UWORD := 3#16
def cmdFlush : UWORD := 8#16
def s2DeviceQuery : UWORD := 9#16
def s2GetStationAddress : UWORD := 10#16
def s2ConfigInterface : UWORD := 11#16
def s2Multicast : UWORD := 16#16
def s2Broadcast : UWORD := 17#16
def s2TrackType : UWORD := 18#16
def s2UntrackType : UWORD := 19#16
def s2GetTypeStats : UWORD := 20#16
def s2GetSpecialStats : UWORD := 21#16
def s2GetGlobalStats : UWORD := 22#16
def s2OnEvent : UWORD := 23#16
def s2ReadOrphan : UWORD := 24#16
def s2Online : UWORD := 25#16
def s2Offline : UWORD := 26#16
def nscmdDeviceQuery : UWORD := 0x4000#16

/- Node types of a message. -/
def ntMessage : UBYTE := 5#8
def ntReplyMsg : UBYTE := 7#8

/- Flags of a request. -/
def iofQuick : UBYTE := 0x01#8
def sana2IofMcast : UBYTE := 0x20#8
def sana2IofBcast : UBYTE := 0x40#8
def sana2IofRaw : UBYTE := 0x80#8

/- Flags of `OpenDevice`. -/
def sana2OpfMine : ULONG := 0x01#32
def sana2OpfProm : ULONG := 0x02#32

/- Flags of a library. -/
def libfChanged : UBYTE := 0x02#8
def libfSumUsed : UBYTE := 0x04#8
def libfDelExp : UBYTE := 0x08#8

/- The state bits of the driver. -/
def etherufConfig : ULONG := 0x01#32
def etherufOnline : ULONG := 0x02#32
def etherufExclusive : ULONG := 0x04#32
def etherufLoopback : ULONG := 0x08#32
def etherufPromisc : ULONG := 0x10#32

/- Values of `io_Error`. -/
def ioerrOpenFail : Int := -1
def ioerrAborted : Int := -2
def s2errNoError : Int := 0
def s2errNoResources : Int := 1
def s2errBadArgument : Int := 3
def s2errBadState : Int := 4
def s2errMtuExceeded : Int := 6
def s2errNotSupported : Int := 8
def s2errSoftware : Int := 9
def s2errOutOfService : Int := 10

/- Values of `ios2_WireError`. -/
def s2werrGenericError : ULONG := 0#32
def s2werrNotConfigured : ULONG := 1#32
def s2werrUnitOffline : ULONG := 3#32
def s2werrAlreadyTracked : ULONG := 4#32
def s2werrNotTracked : ULONG := 5#32
def s2werrBuffError : ULONG := 6#32
def s2werrIsConfigured : ULONG := 15#32
def s2werrNullPointer : ULONG := 16#32

/- Events that `S2_ONEVENT` waits for. -/
def s2eventTx : ULONG := 0x02#32
def s2eventOnline : ULONG := 0x08#32
def s2eventOffline : ULONG := 0x10#32
def s2eventBuff : ULONG := 0x20#32

/- Buffer management tags. -/
def s2Dummy : ULONG := 0x800B0000#32
def s2CopyToBuff : ULONG := s2Dummy + 1#32
def s2CopyFromBuff : ULONG := s2Dummy + 2#32
def s2PacketFilter : ULONG := s2Dummy + 3#32
def s2CopyToBuff16 : ULONG := s2Dummy + 4#32
def s2CopyFromBuff16 : ULONG := s2Dummy + 5#32
def s2DmaCopyToBuff32 : ULONG := s2Dummy + 8#32
def s2DmaCopyFromBuff32 : ULONG := s2Dummy + 9#32

/- The number of units, and the largest payload. -/
def edMaxUnits : ULONG := 1#32
def ethernetMtu : Nat := 1500
def etherPacketHeadSize : Nat := 14

def broadcastAddress : MacAddr := fun _ => 0xFF#8

------------------------------------------------------------
-- Requests and Lists
------------------------------------------------------------

/-
  A request.  `ioDevice` and `ioUnit` are `none` where the
  pointer is -1, and the number of the unit otherwise.
-/
structure IOSana2Req where
  lnType : UBYTE
  mnReplyPort : APTR
  ioDevice : Option APTR
  ioUnit : Option UBYTE
  ioCommand : UWORD
  ioFlags : UBYTE
  ioError : Int
  wireError : ULONG
  packetType : ULONG
  srcAddr : MacAddr
  dstAddr : MacAddr
  dataLength : ULONG
  data : APTR
  statData : APTR
  bufferManagement : APTR

namespace IOSana2Req

/- `io_Flags & IOF_QUICK` -/
def Quick (q : IOSana2Req) : Prop :=
  q.ioFlags &&& iofQuick ≠ 0#8

/- `io_Flags & SANA2IOF_RAW` -/
def Raw (q : IOSana2Req) : Prop :=
  q.ioFlags &&& sana2IofRaw ≠ 0#8

instance (q : IOSana2Req) : Decidable q.Quick := by
  unfold Quick
  infer_instance

instance (q : IOSana2Req) : Decidable q.Raw := by
  unfold Raw
  infer_instance

end IOSana2Req

/- The lists that requests wait in. -/
inductive ListHead where
| unitMsgPort
| bmRxQueue (bm : APTR)
| euReadOrphan
| euEvents
| euTx
deriving DecidableEq, Repr

/- What `TermIO` does with a request. -/
inductive TermBranch where
| noReply
| replyMsg
| alert
deriving DecidableEq, Repr

/- The branch that `TermIO` takes. -/
def IOSana2Req.termBranch (q : IOSana2Req) : TermBranch :=
  if q.Quick then .noReply
  else if q.mnReplyPort ≠ 0 then .replyMsg
  else .alert

------------------------------------------------------------
-- Units, Device and Openers
------------------------------------------------------------

/-
  The callbacks of an opener.  Its read queue is the list
  with the head `bmRxQueue`.
-/
structure BufferManagement where
  copyFromBuffer : APTR
  copyToBuffer : APTR
  copyFromBufferDma : APTR
  copyToBufferDma : APTR
  packetFilterHook : APTR

/-
  The unit.  `buffMgmt` is the list of the openers' buffer
  managements, and `track` that of the tracked types.
-/
structure DeviceDriverUnit where
  unitOpenCnt : UWORD
  stAddr : MacAddr
  mtu : ULONG
  state : ULONG
  track : List ULONG
  ipTrack : Bool
  buffMgmt : List APTR
  lowLevelDriverSignalNumber : Int

/-
  The device base and the variables of the module.  `unit0`
  says whether `ed_Units[0]` is set, `glob` whether
  `globEtherDevice` is, `removed` whether the base has been
  removed, and `librariesOpen` whether the libraries that
  `__initlibraries` opened are still open.
-/
structure DeviceBase where
  libFlags : UBYTE
  libOpenCnt : UWORD
  segList : Nat
  unit0 : Bool
  glob : Bool
  removed : Bool
  librariesOpen : Bool

/- The fields of a device query that the driver accesses. -/
structure Sana2DeviceQuery where
  sizeAvailable : ULONG
  sizeSupplied : ULONG
  addrFieldSize : UWORD
  mtu : ULONG
  bps : ULONG
  hardwareType : ULONG

------------------------------------------------------------
-- History
------------------------------------------------------------

/-
  What the driver did.  `terminated` shows the request as
  `TermIO` was called on it; `offered` the list that the
  request was offered a packet from and whether the packet
  was accepted; `sent` the result of the low level send.
-/
inductive Event where
| submitted (ios2 : APTR)
| queued (ios2 : APTR) (head : ListHead)
| terminated (ios2 : APTR) (req : IOSana2Req)
| fired (events : ULONG)
| offered (head : ListHead) (ios2 : APTR) (accepted : Bool)
| copiedToBuffer (ios2 : APTR) (bytes : List UBYTE)
| copiedFromBuffer (ios2 : APTR) (copied : Bool)
| sent (ios2 : APTR) (result : ErrorT)

/- The part of the history that a ledger of requests keeps. -/
def Event.entry : Event → Option (Ledger.Entry APTR)
| .submitted ios2 => some (.taken ios2)
| .terminated ios2 _ => some (.back ios2)
| _ => none

/- The ledger of the requests. -/
def ledger (log : List Event) : List (Ledger.Entry APTR) :=
  log.filterMap Event.entry

/- A request is submitted and not yet terminated. -/
def Outstanding (ios2 : APTR) (log : List Event) : Prop :=
  Ledger.IsOut ios2 (ledger log)

instance (ios2 : APTR) (log : List Event) :
    Decidable (Outstanding ios2 log) := by
  unfold Outstanding
  infer_instance

/- A request was queued since it was last submitted. -/
def Queued (ios2 : APTR) : List Event → Prop
| [] => False
| .submitted other :: log => other ≠ ios2 ∧ Queued ios2 log
| .queued other _ :: log => other = ios2 ∨ Queued ios2 log
| .terminated other _ :: log =>
    other ≠ ios2 ∧ Queued ios2 log
| _ :: log => Queued ios2 log

/- How a request was terminated, newest termination first. -/
def terminations (ios2 : APTR) : List Event → List IOSana2Req
| [] => []
| .terminated other req :: log =>
    if other = ios2 then req :: terminations ios2 log
    else terminations ios2 log
| _ :: log => terminations ios2 log

------------------------------------------------------------
-- The Driver
------------------------------------------------------------

/- The memory of the driver and of its clients. -/
structure Driver where
  reqs : APTR → IOSana2Req
  lists : ListHead → List APTR
  log : List Event
  base : DeviceBase
  unit : DeviceDriverUnit
  bms : APTR → BufferManagement
  queries : APTR → Sana2DeviceQuery
  sendBuffer : Memory
  nic : NicState

/- The unit is online. -/
def Driver.Online (s : Driver) : Prop :=
  s.unit.state &&& etherufOnline ≠ 0#32

/- The unit is configured. -/
def Driver.Configured (s : Driver) : Prop :=
  s.unit.state &&& etherufConfig ≠ 0#32

instance (s : Driver) : Decidable s.Online := by
  unfold Driver.Online
  infer_instance

instance (s : Driver) : Decidable s.Configured := by
  unfold Driver.Configured
  infer_instance

/-
  The outcomes of what one step calls: the callbacks of the
  openers, by the request they are called for, and memory
  allocation.
-/
structure Outcome where
  copyFromBufferDma : APTR → Option Memory
  copyFromBuffer : APTR → Bool × Memory
  callFilterHook : APTR → Bool
  copyToBuffer : APTR → Bool
  allocMem : Bool

end KszDriver
