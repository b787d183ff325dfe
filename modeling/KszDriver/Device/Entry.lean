import KszDriver.Device.Receive

/-
  The entry points of the device (`device.c`): initialising,
  opening, closing and expunging it, beginning and aborting
  a request, and the unit process.

  Key definitions include:
    * `deviceInit`
    * `deviceOpen`, `initUnitProcess`
    * `deviceClose`, `expungeUnit`
    * `deviceExpunge`
    * `deviceBeginIo`, `deviceAbortIo`
    * `serviceMsgPort`
-/

------------------------------------------------------------
-- Initialisation
------------------------------------------------------------

namespace KszDriver

/- `DeviceInit`, for a base that Exec has just made. -/
def deviceInit (segList : Nat) (s : Driver) : Driver :=
  s.setBase (fun _ =>
    { libFlags := libfChanged ||| libfSumUsed
      libOpenCnt := 0#16
      segList := segList
      unit0 := false
      glob := true
      removed := false
      librariesOpen := true })

------------------------------------------------------------
-- Opening
------------------------------------------------------------

/-
  What an open depends on: the stack, the memory for unit
  and buffer management (zero for none), the reply port and
  the process, and the address in the configuration file.
-/
structure OpenEnv where
  stackOk : Bool
  unitMem : Bool
  replyPort : Bool
  process : Bool
  bm : APTR
  configAddr : MacAddr
  tags : Option (List (ULONG × APTR))

/- `FindTagItem` -/
def findTagItem (tag : ULONG) (tags : List (ULONG × APTR)) :
    Option APTR :=
  (tags.find? (fun item => item.1 = tag)).map Prod.snd

/- The address of the dummy hook, which is not `NULL`, and of
   its field `h_Entry`, which comes after a node. -/
def edDummyPfHook : APTR := 1
def edDummyPfHookEntry : APTR := edDummyPfHook + 8

/- The callbacks that a tag list selects. -/
def selectCallbacks (tags : List (ULONG × APTR)) :
    BufferManagement where
  copyToBuffer :=
    (findTagItem s2CopyToBuff16 tags).getD
      ((findTagItem s2CopyToBuff tags).getD 0)
  copyFromBuffer :=
    (findTagItem s2CopyFromBuff16 tags).getD
      ((findTagItem s2CopyFromBuff tags).getD 0)
  packetFilterHook := (findTagItem s2PacketFilter tags).getD 0
  copyFromBufferDma :=
    (findTagItem s2DmaCopyFromBuff32 tags).getD 0
  copyToBufferDma :=
    (findTagItem s2DmaCopyToBuff32 tags).getD 0

/- Callbacks that were not given are replaced by dummies; for
   the copy functions that is where the field is. -/
def BufferManagement.withDummies (b : BufferManagement) :
    BufferManagement :=
  { b with
    packetFilterHook :=
      if b.packetFilterHook = 0 then edDummyPfHook
      else b.packetFilterHook
    copyToBuffer :=
      if b.copyToBuffer = 0 then edDummyPfHookEntry
      else b.copyToBuffer
    copyFromBuffer :=
      if b.copyFromBuffer = 0 then edDummyPfHookEntry
      else b.copyFromBuffer }

/- The buffer management of a new opener. -/
def newBufferManagement
    (tags : Option (List (ULONG × APTR))) :
    BufferManagement :=
  (selectCallbacks (tags.getD [])).withDummies

/- `ReadConfig`, which sets the station address. -/
def readConfig (addr : MacAddr) (s : Driver) : Driver :=
  s.setUnit (fun u => { u with stAddr := addr })

/- A fresh unit structure. -/
def newUnit : DeviceDriverUnit where
  unitOpenCnt := 0#16
  stAddr := ksz8851GetStationAddress
  mtu := 1500#32
  state := 0#32
  track := []
  ipTrack := false
  buffMgmt := []
  lowLevelDriverSignalNumber := 0

/- The lists of a new unit; those of the openers are in
   memory of their own. -/
def newLists (lists : ListHead → List APTR) :
    ListHead → List APTR
| .bmRxQueue bm => lists (.bmRxQueue bm)
| _ => []

/-
  `InitUnitProcess`.  The new process sets up the port for
  writes and reads the configuration before it replies.  A
  process that was not started leaves no unit.
-/
def initUnitProcess (env : OpenEnv) (s : Driver) : Driver :=
  if s.base.unit0 then s
  else if env.unitMem ∧ env.replyPort ∧ env.process then
    let s :=
      { s with lists := newLists s.lists, unit := newUnit }
    (readConfig env.configAddr s).setBase
      (fun b => { b with unit0 := true })
  else s

/- The opener is entered into the unit and the request. -/
def addOpener
    (ios2 : APTR)
    (env : OpenEnv)
    (s : Driver) : Driver :=
  let s :=
    { s with
      bms := Function.update s.bms env.bm
        (newBufferManagement env.tags)
      lists :=
        Function.update s.lists (.bmRxQueue env.bm) [] }
  let s := s.setUnit (fun u =>
    { u with
      buffMgmt := u.buffMgmt ++ [env.bm]
      unitOpenCnt := u.unitOpenCnt + 1#16 })
  let s := s.setBase (fun b =>
    { b with
      libOpenCnt := b.libOpenCnt + 1#16
      libFlags := b.libFlags &&& ~~~libfDelExp })
  s.setReq ios2 (fun req =>
    { req with
      bufferManagement := env.bm
      ioError := s2errNoError
      lnType := ntReplyMsg
      ioUnit := some 0#8
      ioDevice := some 1 })

/- What a failed open leaves in the request. -/
def openFailed (ios2 : APTR) (s : Driver) : Driver :=
  s.setReq ios2 (fun req =>
    { req with
      ioError := ioerrOpenFail
      ioUnit := none
      ioDevice := none })

/- Set bits of `lib_Flags` for a mode that is asked for. -/
def setMode
    (wanted : Prop) [Decidable wanted]
    (flags : ULONG)
    (s : Driver) : Driver :=
  s.setBase (fun b =>
    { b with
      libFlags :=
        if wanted then b.libFlags ||| flags.setWidth 8
        else b.libFlags })

/- Count the open in progress up and down again. -/
def countOpen (step : UWORD) (s : Driver) : Driver :=
  s.setBase (fun b =>
    { b with libOpenCnt := b.libOpenCnt + step })

/- Probe the chip, start the unit and add the opener. -/
def probeAndOpen
    (ios2 : APTR)
    (env : OpenEnv)
    (s : Driver) : Driver :=
  let result :=
    (ksz8851DetectNICEndiness.runOn s.nic).1
  let s := s.runNic ksz8851DetectNICEndiness
  if result = noError then
    let s := initUnitProcess env s
    if s.base.unit0 ∧ env.bm ≠ 0 then addOpener ios2 env s
    else openFailed ios2 s
  else openFailed ios2 s

/- The checks of the open flags; promiscuous mode comes only
   with exclusive access. -/
def openWithFlags
    (ios2 : APTR)
    (s2flags : ULONG)
    (env : OpenEnv)
    (s : Driver) : Driver :=
  let mine := s2flags &&& sana2OpfMine ≠ 0#32
  let prom := s2flags &&& sana2OpfProm ≠ 0#32
  if mine ∧ s.base.libOpenCnt > 1#16 then openFailed ios2 s
  else
    let s := setMode mine etherufExclusive s
    if prom ∧ ¬ mine then openFailed ios2 s
    else
      probeAndOpen ios2 env (setMode prom etherufPromisc s)

def deviceOpen
    (ios2 : APTR)
    (s2unit s2flags : ULONG)
    (env : OpenEnv)
    (s : Driver) : Driver :=
  let s := countOpen 1#16 s
  let s :=
    if ¬ env.stackOk then openFailed ios2 s
    else if s2unit < edMaxUnits then
      openWithFlags ios2 s2flags env s
    else openFailed ios2 s
  countOpen (0#16 - 1#16) s

------------------------------------------------------------
-- Closing and Expunging
------------------------------------------------------------

/- `ksz8851DumpReg` reads the registers one by one. -/
def dumpRegisters : Nat → UBYTE → NicM Unit
| 0, _ => pure ()
| count + 1, i => do
    let _ ← ksz8851ReadReg i
    dumpRegisters count (i + 2#8)

/- `deinit` of the low level driver. -/
def ksz8851Deinit : NicM Unit := do
  ksz8851Offline
  dumpRegisters 128 0#8

/-
  `ExpungeUnit` with the shutdown of the unit process.  The
  unit structure is freed with its lists as they are.
-/
def expungeUnit (s : Driver) : Driver :=
  if s.base.unit0 then
    let s := s.setUnit (fun u =>
      { u with state := u.state &&& ~~~etherufOnline })
    (s.runNic ksz8851Deinit).setBase
      (fun b => { b with unit0 := false })
  else s

/-
  `DeviceExpunge`.  The libraries are closed on every path.
-/
def deviceExpunge (s : Driver) : Nat × Driver :=
  let result :=
    if s.base.libOpenCnt ≠ 0#16 then
      (0, s.setBase (fun b =>
        { b with libFlags := b.libFlags ||| libfDelExp }))
    else
      (s.base.segList, s.setBase (fun b =>
        { b with removed := true, glob := false }))
  (result.1, result.2.setBase
    (fun b => { b with librariesOpen := false }))

/- Abort the reads of an opener and free its buffer
   management, if it is in the list. -/
def freeOpener
    (ios2 : APTR) (s : Driver) : Driver :=
  let bm := (s.reqs ios2).bufferManagement
  if bm ≠ 0 then
    let s := s.abortReqList (.bmRxQueue bm)
    if bm ∈ s.unit.buffMgmt then
      (s.setUnit (fun u =>
        { u with buffMgmt := u.buffMgmt.erase bm })).setReq
          ios2 (fun req => { req with bufferManagement := 0 })
    else s
  else s

/- Leave exclusive, loopback and promiscuous mode. -/
def resetModes (flags : UBYTE) : UBYTE :=
  flags &&& ~~~(etherufExclusive.setWidth 8) &&&
    ~~~(etherufLoopback.setWidth 8) &&&
    ~~~(etherufPromisc.setWidth 8)

/- `DeviceClose` of a valid request, up to the counters. -/
def closeUnit (ios2 : APTR) (s : Driver) : Driver :=
  let s := freeOpener ios2 s
  let s := s.setBase (fun b =>
    { b with libFlags := resetModes b.libFlags })
  let s := s.setReq ios2
    (fun req => { req with ioDevice := none, ioUnit := none })
  let s := s.setUnit (fun u =>
    { u with unitOpenCnt := u.unitOpenCnt - 1#16 })
  let s :=
    if s.unit.unitOpenCnt = 0#16 then expungeUnit s else s
  s.setBase (fun b =>
    { b with libOpenCnt := b.libOpenCnt - 1#16 })

/- A delayed expunge takes place after the close. -/
def delayedExpunge (s : Driver) : Nat × Driver :=
  if s.base.libFlags &&& libfDelExp ≠ 0#8 then
    let result := deviceExpunge s
    (result.1,
      result.2.setBase (fun b => { b with glob := false }))
  else (0, s)

def deviceClose (ios2 : APTR) (s : Driver) : Nat × Driver :=
  if (s.reqs ios2).ioDevice ≠ none ∧
      (s.reqs ios2).ioUnit ≠ none then
    delayedExpunge (closeUnit ios2 s)
  else (0, s)

------------------------------------------------------------
-- Beginning and Aborting Requests
------------------------------------------------------------

/- The commands that the caller's task performs. -/
def performNow : ULONG :=
  1#32 <<< cmdWrite.toNat ||| 1#32 <<< cmdRead.toNat |||
    1#32 <<< s2Broadcast.toNat |||
    1#32 <<< s2ReadOrphan.toNat |||
    1#32 <<< s2Multicast.toNat

/- A command is performed at once.  A shift by more than the
   width of the mask counts as zero. -/
def PerformedNow (command : UWORD) : Prop :=
  1#32 <<< command.toNat &&& performNow ≠ 0#32 ∨
    command ≥ nscmdDeviceQuery

instance (command : UWORD) :
    Decidable (PerformedNow command) := by
  unfold PerformedNow
  infer_instance

def deviceBeginIo
    (o : Outcome) (ios2 : APTR) (s : Driver) : Driver :=
  let s := s.record (.submitted ios2)
  if PerformedNow (s.reqs ios2).ioCommand then
    performIo o ios2 s
  else
    let s := s.setReq ios2 (fun req =>
      { req with
        lnType := ntMessage
        ioFlags := req.ioFlags &&& ~~~iofQuick })
    s.putMsg .unitMsgPort ios2

/- The list that `DeviceAbortIO` searches for a request. -/
def abortList (req : IOSana2Req) : Option ListHead :=
  if req.ioCommand = cmdRead then
    some (.bmRxQueue req.bufferManagement)
  else if req.ioCommand = s2Broadcast then some .euTx
  else if req.ioCommand = cmdWrite then some .euTx
  else if req.ioCommand = s2OnEvent then some .euEvents
  else if req.ioCommand = s2ReadOrphan then
    some .euReadOrphan
  else none

def deviceAbortIo (ios2 : APTR) (s : Driver) : Int × Driver :=
  if (s.reqs ios2).lnType = ntMessage then
    match abortList (s.reqs ios2) with
    | some head => s.abortRequestAndRemove head ios2
    | none => (s2errSoftware, s)
  else (s2errNoError, s)

/- The unit process takes the next message from its port. -/
def serviceMsgPort (o : Outcome) (s : Driver) : Driver :=
  match s.lists .unitMsgPort with
  | [] => s
  | ios2 :: _ => performIo o ios2 (s.remove ios2)

end KszDriver
