import KszDriver.Core.Machine
import KszDriver.Device.Entry

/-
  The device as a machine: the calls of Exec and of the
  clients, the work of the unit process, and what the
  hardware and the clients change on their own.

  A client works on a request only while it owns it.

  Key definitions include:
    * `Op`
    * `Op.Allowed`
    * `Driver.next`
    * `deviceMachine`
-/

namespace KszDriver

/-
  One step.  Commands, deliveries and entry points are taken
  as atomic.
-/
inductive Op where
| openDevice (ios2 : APTR) (s2unit s2flags : ULONG)
    (env : OpenEnv)
| close (ios2 : APTR)
| expunge
| beginIo (ios2 : APTR) (o : Outcome)
| abortIo (ios2 : APTR)
| serviceMsgPort (o : Outcome)
| pktReceived (buffer : Memory) (size : UWORD) (o : Outcome)
| doEvent (events : ULONG)
| configChanged (addr : MacAddr)
| clientWrite (ios2 : APTR) (req : IOSana2Req)
| hardware (regs : UBYTE → UWORD)

/- The registers of the chip change. -/
def setRegisters (regs : UBYTE → UWORD) (s : Driver) :
    Driver :=
  { s with
    nic :=
      { s.nic with chip := { s.nic.chip with reg := regs } } }

/- What a step does. -/
def Driver.next (s : Driver) : Op → Driver
| .openDevice ios2 s2unit s2flags env =>
    deviceOpen ios2 s2unit s2flags env s
| .close ios2 => (deviceClose ios2 s).2
| .expunge => (deviceExpunge s).2
| .beginIo ios2 o => deviceBeginIo o ios2 s
| .abortIo ios2 => (deviceAbortIo ios2 s).2
| .serviceMsgPort o => serviceMsgPort o s
| .pktReceived buffer size o => onPktReceived o buffer size s
| .doEvent events => s.doEvent events
| .configChanged addr => readConfig addr s
| .clientWrite ios2 req => s.setReq ios2 (fun _ => req)
| .hardware regs => setRegisters regs s

/- The client has not submitted the request. -/
def Driver.Owned (s : Driver) (ios2 : APTR) : Prop :=
  ¬ Outstanding ios2 s.log

/- The request is a handle that was opened and not closed. -/
def Driver.OpenHandle (s : Driver) (ios2 : APTR) : Prop :=
  (s.reqs ios2).ioDevice ≠ none ∧
    (s.reqs ios2).ioUnit ≠ none ∧
    (s.reqs ios2).bufferManagement ∈ s.unit.buffMgmt

instance (s : Driver) (ios2 : APTR) :
    Decidable (s.Owned ios2) := by
  unfold Driver.Owned
  infer_instance

instance (s : Driver) (ios2 : APTR) :
    Decidable (s.OpenHandle ios2) := by
  unfold Driver.OpenHandle
  infer_instance

/-
  What Exec and the clients keep to: the device is called
  while it is there, its unit while it is up, a request is
  submitted, closed and written to by its owner, and memory
  that is allocated is not in use.
-/
def Op.Allowed (s : Driver) : Op → Prop
| .openDevice ios2 _ _ env =>
    s.base.removed = false ∧ s.Owned ios2 ∧
      (env.bm ≠ 0 → env.bm ∉ s.unit.buffMgmt)
| .close ios2 =>
    s.base.removed = false ∧ s.Owned ios2 ∧
      ((s.reqs ios2).ioUnit = none ∨ s.OpenHandle ios2)
| .expunge => s.base.removed = false
| .beginIo ios2 _ => s.base.unit0 = true ∧ s.Owned ios2
| .abortIo _ => s.base.unit0 = true
| .serviceMsgPort _ => s.base.unit0 = true
| .pktReceived _ _ _ => s.base.unit0 = true
| .doEvent _ => s.base.unit0 = true
| .configChanged _ => s.base.unit0 = true
| .clientWrite ios2 _ => s.Owned ios2
| .hardware _ => True

instance (s : Driver) (op : Op) :
    Decidable (op.Allowed s) := by
  cases op <;> unfold Op.Allowed <;> infer_instance

/- The device has just been loaded. -/
def Driver.Start (s : Driver) : Prop :=
  s.log = [] ∧ (∀ head, s.lists head = []) ∧
    s.unit.buffMgmt = [] ∧ s.base.unit0 = false ∧
    ∃ segList : Nat, ∃ loaded : Driver,
      segList ≠ 0 ∧ s = deviceInit segList loaded

/- All runs of the device. -/
def deviceMachine : Machine Driver Op where
  Start := Driver.Start
  Allowed := fun s op => op.Allowed s
  next := Driver.next

instance decidableDeviceRuns
    (C : Driver → Op → Prop)
    [hGuard : ∀ s op, Decidable (C s op)]
    (ops : List Op)
    (s : Driver) :
    Decidable (deviceMachine.Runs C ops s) :=
  Machine.decidableRuns deviceMachine C
    (fun s op => inferInstanceAs (Decidable (op.Allowed s)))
    hGuard ops s

instance (s : Driver) (op : Op) :
    Decidable (Machine.Free s op) :=
  isTrue trivial

------------------------------------------------------------
-- A Loaded Device
------------------------------------------------------------

/- A request that no field of has been set. -/
def blankRequest : IOSana2Req where
  lnType := 0#8
  mnReplyPort := 0
  ioDevice := none
  ioUnit := none
  ioCommand := 0#16
  ioFlags := 0#8
  ioError := 0
  wireError := 0#32
  packetType := 0#32
  srcAddr := fun _ => 0#8
  dstAddr := fun _ => 0#8
  dataLength := 0#32
  data := 0
  statData := 0
  bufferManagement := 0

/- The device just after it was loaded; the registers of the
   chip read as `regs`. -/
def loadedDriver (regs : UBYTE → UWORD) : Driver :=
  deviceInit 1
    { reqs := fun _ => blankRequest
      lists := fun _ => []
      log := []
      base :=
        { libFlags := 0#8
          libOpenCnt := 0#16
          segList := 0
          unit0 := false
          glob := false
          removed := false
          librariesOpen := false }
      unit := newUnit
      bms := fun _ => newBufferManagement none
      queries := fun _ =>
        { sizeAvailable := 0#32
          sizeSupplied := 0#32
          addrFieldSize := 0#16
          mtu := 0#32
          bps := 0#32
          hardwareType := 0#32 }
      sendBuffer := fun _ => 0#8
      nic :=
        { offlineNic with
          chip := { offlineChip with reg := regs } } }

theorem start_loadedDriver (regs : UBYTE → UWORD) :
    (loadedDriver regs).Start :=
  ⟨rfl, fun _ => rfl, rfl, rfl, 1, _, Nat.one_ne_zero, rfl⟩

/- Registers with the identity and `txmir` bytes of memory for
   packets to be sent. -/
def idleRegisters (txmir : UWORD) (offset : UBYTE) : UWORD :=
  if offset = regCider then revA3Id
  else if offset = regTxmir then txmir
  else 0#16

/- An open that finds what it needs; the buffer management is
   at `bm`. -/
def plainOpen (bm : APTR) : OpenEnv where
  stackOk := true
  unitMem := true
  replyPort := true
  process := true
  bm := bm
  configAddr := ksz8851GetStationAddress
  tags := none

/- Callbacks that all succeed, without a pointer for DMA. -/
def plainOutcome : Outcome where
  copyFromBufferDma := fun _ => none
  copyFromBuffer := fun _ => (true, fun _ => 0#8)
  callFilterHook := fun _ => true
  copyToBuffer := fun _ => true
  allocMem := true

/- A request of the opener at 40. -/
def plainRequest (command : UWORD) : IOSana2Req :=
  { blankRequest with
    mnReplyPort := 3
    ioCommand := command
    bufferManagement := 40 }

/- A client writes and submits a request. -/
def submitSteps (ios2 : APTR) (req : IOSana2Req) : List Op :=
  [.clientWrite ios2 req, .beginIo ios2 plainOutcome]

/- The steps that open the unit and bring it online. -/
def onlineSteps : List Op :=
  .openDevice 7 0#32 0#32 (plainOpen 40) ::
    submitSteps 8 (plainRequest s2ConfigInterface) ++
      [.serviceMsgPort plainOutcome]

end KszDriver
