import KszDriver.Device.TaskSignals
import KszDriver.Device.Tuning
import KszDriver.Device.UnitPort

/-
  The service loop of the unit process (`DevProcEntry` in
  `device.c`), step by step, while the clients, the interrupt
  server and the chip go on.

  The process sleeps until it has a signal.  It then looks at
  the low level driver, at its port and at the configuration
  file, if the signal for it was among those it received.
  Between two of its steps anybody else may run.

  Main declarations:
    * `UnitProcess`, `Place`
    * `UnitProcess.work`
    * `ProcessInput`, `processMachine`
-/

------------------------------------------------------------
-- Signals
------------------------------------------------------------

namespace KszDriver

/- The number of a signal that a task can allocate. -/
def IsUserSignal (number : Int) : Prop :=
  16 ≤ number ∧ number < 32

instance (number : Int) : Decidable (IsUserSignal number) := by
  unfold IsUserSignal
  infer_instance

/-
  The signals that the process has allocated for its port and
  for the notification about the configuration file.
-/
structure ProcessSignals where
  mpSigBit : Int
  configFileNotifySigBit : Int
  isUserSignal :
    IsUserSignal mpSigBit ∧ IsUserSignal configFileNotifySigBit
  apart : mpSigBit ≠ configFileNotifySigBit

/- A signal that the process can have besides these. -/
def ProcessSignals.Spare
    (bits : ProcessSignals) (number : Int) : Prop :=
  IsUserSignal number ∧ number ≠ bits.mpSigBit ∧
    number ≠ bits.configFileNotifySigBit

instance (bits : ProcessSignals) (number : Int) :
    Decidable (bits.Spare number) := by
  unfold ProcessSignals.Spare
  infer_instance

------------------------------------------------------------
-- The Process
------------------------------------------------------------

/- Where the process is in its loop, with the signals that it
   received when it woke. -/
inductive Place where
| waiting
| lowLevel (receivedSignals : ULONG)
| ioRequests (receivedSignals : ULONG)
| configFile (receivedSignals : ULONG)
| left
deriving DecidableEq

/-
  The process and what it shares with others.  `sigRecvd` are
  the signals that the task has and did not receive yet, and
  `configAddr` is the address in the configuration file.

  The rest is history: interrupts that the server signalled
  and changes of the file that nobody looked at, and the
  requests that were put into the port and those that were
  performed, first one first.
-/
structure UnitProcess where
  driver : Driver
  sigRecvd : ULONG
  place : Place
  configAddr : MacAddr
  alarms : Nat
  changes : Nat
  put : List APTR
  performed : List APTR

/- `onPacketReceived` is called for every frame. -/
def deliverFrames :
    (Nat → Outcome) → List (Memory × UWORD) →
      Driver → Driver
| _, [], s => s
| o, (buffer, size) :: frames, s =>
    deliverFrames (fun k => o (k + 1)) frames
      (onPktReceived (o 0) buffer size s)

/- `processEvents` with the packets that it delivers. -/
def processEvents (o : Nat → Outcome) (s : Driver) : Driver :=
  let s' := s.runNic ksz8851EventHandler
  deliverFrames o
    (s'.nic.delivered.drop s.nic.delivered.length) s'

namespace UnitProcess

/- The server of the low level driver is linked. -/
def Linked (p : UnitProcess) : Prop :=
  p.driver.nic.iface.signalTask = true

instance (p : UnitProcess) : Decidable p.Linked := by
  unfold Linked
  infer_instance

/- `Signal` -/
def signal (mask : ULONG) (p : UnitProcess) : UnitProcess :=
  { p with sigRecvd := p.sigRecvd ||| mask }

/-
  What `AllocSignal` and `FreeSignal` do to the task: a signal
  is clear when it was allocated, and an interrupt does not
  count any more when there is no signal for it.
-/
def tuned
    (p : UnitProcess) (driver : Driver) : UnitProcess :=
  { p with
    driver := driver
    sigRecvd :=
      if ¬ p.Linked ∧ driver.nic.iface.signalTask then
        p.sigRecvd &&&
          ~~~signalMask driver.nic.iface.sigNumber
      else p.sigRecvd
    alarms :=
      if driver.nic.iface.signalTask then p.alarms else 0 }

/- `receivedSignals = Wait(0xffffffff)`, and the test for the
   end.  The process sleeps on while it has no signal. -/
def wait (p : UnitProcess) : UnitProcess :=
  if p.sigRecvd = 0#32 then p
  else
    { p with
      sigRecvd := 0#32
      place :=
        if p.sigRecvd &&& sigbreakfCtrlF ≠ 0#32 then .left
        else .lowLevel p.sigRecvd }

/- The branch for the low level driver. -/
def lowLevelWork
    (o : Nat → Outcome)
    (receivedSignals : ULONG)
    (p : UnitProcess) : UnitProcess :=
  if Signalled receivedSignals
      p.driver.unit.lowLevelDriverSignalNumber then
    { p with
      driver := processEvents o p.driver
      alarms := 0
      place := .ioRequests receivedSignals }
  else { p with place := .ioRequests receivedSignals }

/- The branch for requests.  Each turn of its loop is a step,
   and the loop ends when `GetMsg` finds no message. -/
def ioRequestWork
    (bits : ProcessSignals)
    (o : Nat → Outcome)
    (receivedSignals : ULONG)
    (p : UnitProcess) : UnitProcess :=
  if Signalled receivedSignals bits.mpSigBit then
    match p.driver.lists .unitMsgPort with
    | [] => { p with place := .configFile receivedSignals }
    | ios2 :: _ =>
        { p.tuned (serviceMsgPort (o 0) p.driver) with
          performed := p.performed ++ [ios2] }
  else { p with place := .configFile receivedSignals }

/- The branch for the configuration file. -/
def configFileWork
    (bits : ProcessSignals)
    (receivedSignals : ULONG)
    (p : UnitProcess) : UnitProcess :=
  if Signalled receivedSignals bits.configFileNotifySigBit then
    { p with
      driver := readConfig p.configAddr p.driver
      changes := 0
      place := .waiting }
  else { p with place := .waiting }

/- A step of the process.  The outcomes are those of what the
   step calls, in the order of the calls. -/
def work
    (bits : ProcessSignals)
    (o : Nat → Outcome)
    (p : UnitProcess) : UnitProcess :=
  match p.place with
  | .waiting => p.wait
  | .lowLevel receivedSignals =>
      p.lowLevelWork o receivedSignals
  | .ioRequests receivedSignals =>
      p.ioRequestWork bits o receivedSignals
  | .configFile receivedSignals =>
      p.configFileWork bits receivedSignals
  | .left => p

/- A call of a client or of Exec.  `PutMsg` signals. -/
def client
    (bits : ProcessSignals)
    (op : Op)
    (p : UnitProcess) : UnitProcess :=
  let p' :=
    { p with
      driver := p.driver.next op
      put := p.put ++ p.driver.puts op }
  if p.driver.puts op = [] then p'
  else p'.signal (signalMask bits.mpSigBit)

/- The interrupt server runs, and signals if it says so. -/
def interrupt (p : UnitProcess) : UnitProcess :=
  let result := (isr.runOn p.driver.nic).1
  let p' := { p with driver := p.driver.runNic isr }
  if result = 1#8 then
    { p'.signal (signalMask p.driver.nic.iface.sigNumber) with
      alarms := p.alarms + 1 }
  else p'

/- The configuration file is written, and DOS notifies. -/
def fileWritten
    (bits : ProcessSignals)
    (addr : MacAddr)
    (p : UnitProcess) : UnitProcess :=
  { p.signal (signalMask bits.configFileNotifySigBit) with
    configAddr := addr
    changes := p.changes + 1 }

end UnitProcess

------------------------------------------------------------
-- The Machine
------------------------------------------------------------

/- What may come next: a step of the process, or something
   that others do meanwhile. -/
inductive ProcessInput where
| work (o : Nat → Outcome)
| client (op : Op)
| interrupt
| interfere (n : NicState)
| signals (mask : ULONG)
| fileWritten (addr : MacAddr)

/- A call that clients and Exec make while the unit goes on.
   The last close ends the process first. -/
def Op.ByClient (s : Driver) : Op → Prop
| .close ios2 => ¬ ClosesUnit ios2 s
| .openDevice _ _ _ _ | .expunge | .beginIo _ _ | .abortIo _
| .clientWrite _ _ => True
| _ => False

instance (s : Driver) : (op : Op) → Decidable (op.ByClient s)
| .close ios2 => inferInstanceAs (Decidable (¬ ClosesUnit ios2 s))
| .openDevice _ _ _ _ | .expunge | .beginIo _ _ | .abortIo _
| .clientWrite _ _ => isTrue trivial
| .serviceMsgPort _ | .pktReceived _ _ _ | .doEvent _
| .configChanged _ | .hardware _ => isFalse id

namespace UnitProcess

def next
    (bits : ProcessSignals)
    (p : UnitProcess) : ProcessInput → UnitProcess
| .work o => p.work bits o
| .client op => p.client bits op
| .interrupt => p.interrupt
| .interfere n => { p with driver := p.driver.setNic n }
| .signals mask => p.signal mask
| .fileWritten addr => p.fileWritten bits addr

/- `AllocSignal` finds a signal that is not in use, or none. -/
def Allocates (bits : ProcessSignals) (n : NicState) : Prop :=
  n.freeSignal = -1 ∨ bits.Spare n.freeSignal

instance (bits : ProcessSignals) (n : NicState) :
    Decidable (Allocates bits n) := by
  unfold Allocates
  infer_instance

/- The server runs only while it is linked; what interferes
   keeps the footing. -/
def Allowed
    (bits : ProcessSignals)
    (p : UnitProcess) : ProcessInput → Prop
| .client op => op.ByClient p.driver ∧ op.Allowed p.driver
| .interrupt => 0 < p.driver.nic.servers
| .interfere n =>
    Interferes p.driver.nic n ∧ Allocates bits n
| _ => True

/-
  The process enters its loop: the driver has just opened the
  unit, after whatever has happened before.
-/
def Start (bits : ProcessSignals) (p : UnitProcess) : Prop :=
  (∃ st : Station, ∃ ios2 s2unit s2flags env,
    stationMachine.Reach Machine.Free st ∧
      Op.Allowed st.driver
        (.openDevice ios2 s2unit s2flags env) ∧
      st.driver.base.unit0 = false ∧
      p.driver = deviceOpen ios2 s2unit s2flags env
        st.driver) ∧
    p.driver.base.unit0 = true ∧
    Allocates bits p.driver.nic ∧
    p.place = .waiting ∧ p.alarms = 0 ∧ p.changes = 0 ∧
    p.put = [] ∧ p.performed = []

end UnitProcess

/- All runs of the service loop. -/
def processMachine (bits : ProcessSignals) :
    Machine UnitProcess ProcessInput where
  Start := UnitProcess.Start bits
  Allowed := UnitProcess.Allowed bits
  next := UnitProcess.next bits

instance decidableProcessAllowed
    (bits : ProcessSignals)
    (p : UnitProcess)
    (i : ProcessInput) :
    Decidable (p.Allowed bits i) := by
  cases i <;> unfold UnitProcess.Allowed
  case interfere =>
    unfold Interferes
    infer_instance
  all_goals infer_instance

instance decidableProcessRuns
    (bits : ProcessSignals)
    (C : UnitProcess → ProcessInput → Prop)
    [hGuard : ∀ p i, Decidable (C p i)]
    (inputs : List ProcessInput)
    (p : UnitProcess) :
    Decidable ((processMachine bits).Runs C inputs p) :=
  Machine.decidableRuns (processMachine bits) C
    (fun p i => inferInstanceAs (Decidable (p.Allowed bits i)))
    hGuard inputs p

instance decidableProcessFree
    (p : UnitProcess) (i : ProcessInput) :
    Decidable (Machine.Free p i) :=
  isTrue trivial

------------------------------------------------------------
-- A Process That Has Just Started
------------------------------------------------------------

def firstSignals : ProcessSignals where
  mpSigBit := 16
  configFileNotifySigBit := 17
  isUserSignal := by decide
  apart := by decide

/- The unit has just been opened; the next signal that can be
   allocated is `freeSignal`. -/
def openedProcess (freeSignal : Int) : UnitProcess where
  driver :=
    deviceOpen 7 0#32 0#32 (plainOpen 40)
      ((loadedDriver (idleRegisters 0x1800#16)).setNic
        { offlineNic with
          chip :=
            { offlineChip with reg := idleRegisters 0x1800#16 }
          freeSignal := freeSignal })
  sigRecvd := 0#32
  place := .waiting
  configAddr := ksz8851GetStationAddress
  alarms := 0
  changes := 0
  put := []
  performed := []

theorem start_openedProcess :
    (openedProcess 19).Start firstSignals := by
  have hLoaded :
      stationMachine.Reach Machine.Free
        (loadedStation (idleRegisters 0x1800#16)) :=
    Machine.Reach.start (start_loadedStation _)
  have hStep : stationMachine.Allowed
      (loadedStation (idleRegisters 0x1800#16))
      (.interfere
        { offlineNic with
          chip :=
            { offlineChip with reg := idleRegisters 0x1800#16 }
          freeSignal := 19 }) := rfl
  refine ⟨⟨_, 7, 0#32, 0#32, plainOpen 40,
    hLoaded.step hStep trivial, ?_, rfl, rfl⟩, ?_, ?_, rfl, rfl,
    rfl, rfl, rfl⟩
  · decide +kernel
  · decide +kernel
  · decide +kernel

end KszDriver
