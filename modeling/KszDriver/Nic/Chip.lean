import KszDriver.Core.Program
import KszDriver.Nic.Registers

/-
  The KSZ8851 behind its two host-bus ports, the state that
  the low level driver shares with its interrupt handler,
  and the operations the driver performs on both.

  A command write selects a register; the data-port access
  that follows it reads or writes that register.  A bare
  data-port access, one without a command write of its own,
  goes to the packet queues while `RXQCR.SDA` is set.

  Key definitions include:
    * `Chip`
    * `NetInterface`
    * `NicState`
    * `NicOp`
    * `NicOp.exec`
    * `NicM`
-/

------------------------------------------------------------
-- The Chip
------------------------------------------------------------

namespace KszDriver

/-
  The chip as seen from the host bus.  `fifo` holds the
  words written to the transmit queue since the last start
  of a transmission, and `frames` what the transmissions
  were started with.  `rxq` holds the words the receive
  queue presents.
-/
structure Chip where
  reg : UBYTE → UWORD
  cmd : UWORD
  armed : Bool
  fifo : List UWORD
  frames : List (List UWORD)
  rxq : List UWORD

namespace Chip

/- The register that the command port has selected. -/
def selected (c : Chip) : UBYTE :=
  c.cmd.setWidth 8

/- Bare data-port accesses go to the packet queues. -/
def Sda (c : Chip) : Prop :=
  c.reg regRxqcr &&& rxqcrSda ≠ 0#16

instance (c : Chip) : Decidable c.Sda := by
  unfold Sda
  infer_instance

/-
  A register write.  `ISR` bits are cleared by writing 1,
  and setting `TXQCR.METFE` starts the transmission of what
  the transmit queue holds.
-/
def writeReg
    (a : UBYTE)
    (v : UWORD)
    (c : Chip) : Chip :=
  if a = regIsr then
    { c with
      reg := Function.update c.reg a (c.reg a &&& ~~~v) }
  else if a = regTxqcr ∧ v &&& txqcrMetfe ≠ 0#16 then
    { c with
      reg := Function.update c.reg a v
      frames := c.frames ++ [c.fifo]
      fifo := [] }
  else
    { c with reg := Function.update c.reg a v }

/- A write to the command port. -/
def writeCmd (v : UWORD) (c : Chip) : Chip :=
  { c with cmd := v, armed := true }

/- A write to the data port. -/
def writeData (v : UWORD) (c : Chip) : Chip :=
  if c.armed then
    { c.writeReg c.selected v with armed := false }
  else if c.Sda then
    { c with fifo := c.fifo ++ [v] }
  else c

/- A read from the data port. -/
def readData (c : Chip) : UWORD × Chip :=
  if c.armed then
    (c.reg c.selected, { c with armed := false })
  else if c.Sda then
    (c.rxq.headD 0#16, { c with rxq := c.rxq.tail })
  else (0#16, c)

/- Which register a register write changes, and to what. -/
theorem reg_writeReg
    (a : UBYTE) (v : UWORD) (c : Chip) :
    (c.writeReg a v).reg =
      Function.update c.reg a
        (if a = regIsr then c.reg a &&& ~~~v else v) := by
  unfold writeReg
  by_cases hIsr : a = regIsr
  · simp only [if_pos hIsr]
  · simp only [if_neg hIsr]
    split <;> rfl

/- Reading the data port changes no register. -/
@[simp] theorem reg_readData (c : Chip) :
    c.readData.2.reg = c.reg := by
  unfold readData
  split
  · rfl
  · split <;> rfl

/- An armed write goes to the selected register. -/
theorem reg_writeData_of_armed
    (v : UWORD)
    {c : Chip}
    (hArmed : c.armed = true) :
    (c.writeData v).reg = (c.writeReg c.selected v).reg := by
  unfold writeData
  rw [if_pos hArmed]

end Chip

------------------------------------------------------------
-- Driver State
------------------------------------------------------------

/-
  The fields of `NetInterface` and of its private
  `Ksz8851Context`.  `signalTask` and `rxBuffer` say whether
  the pointer is set, and `rxData` what the buffer holds.
-/
structure NetInterface where
  onPacketReceived : Bool
  linkChangeFunction : Bool
  linkSpeed : Nat
  duplexMode : Nat
  linkState : Bool
  rxBuffer : Bool
  rxData : Memory
  signalTask : Bool
  sigNumber : Int
  signalCounter : Nat
  rxOverrun : Nat
  isInBigEndianMode : Bool
  frameId : UWORD
  intDisabledCounter : UBYTE

/-
  The chip, the driver's own state and what the operating
  system keeps for it: the Disable nest count, whether the
  driver's signal is pending at the unit task, how often the
  interrupt server is linked, what `AllocSignal` and
  `AllocVec` will answer, and the packets (buffer and size)
  and link changes handed to the upper layer.
-/
structure NicState where
  chip : Chip
  iface : NetInterface
  nest : Nat
  signaled : Bool
  servers : Nat
  freeSignal : Int
  freeMemory : Bool
  delivered : List (Memory × UWORD)
  linkChanges : Nat

------------------------------------------------------------
-- Operations
------------------------------------------------------------

/- What the low level driver does to the outside. -/
inductive NicOp where
| cmdReg (v : UWORD)
| dataReg (v : UWORD)
| readDataReg
| disable
| enable
| getInterface
| setInterface (f : NetInterface → NetInterface)
| onPacketReceived (buffer : Memory) (size : UWORD)
| linkChangeFunction
| signal
| allocSignal
| freeSignal
| addIntServer
| remIntServer
| memPoolAlloc
| delay (ticks : Nat)

namespace NicOp

/- The answers to the operations. -/
abbrev Ret : NicOp → Type
| .readDataReg => UWORD
| .getInterface => NetInterface
| .allocSignal => Int
| .memPoolAlloc => Bool
| _ => Unit

/- The effect of an operation and its answer. -/
def exec : (op : NicOp) → NicState → op.Ret × NicState
| .cmdReg v, n => ((), { n with chip := n.chip.writeCmd v })
| .dataReg v, n =>
    ((), { n with chip := n.chip.writeData v })
| .readDataReg, n =>
    (n.chip.readData.1,
      { n with chip := n.chip.readData.2 })
| .disable, n => ((), { n with nest := n.nest + 1 })
| .enable, n => ((), { n with nest := n.nest - 1 })
| .getInterface, n => (n.iface, n)
| .setInterface f, n => ((), { n with iface := f n.iface })
| .onPacketReceived buffer size, n =>
    ((), { n with
      delivered := n.delivered ++ [(buffer, size)] })
| .linkChangeFunction, n =>
    ((), { n with linkChanges := n.linkChanges + 1 })
| .signal, n => ((), { n with signaled := true })
| .allocSignal, n => (n.freeSignal, n)
| .freeSignal, n => ((), { n with signaled := false })
| .addIntServer, n =>
    ((), { n with servers := n.servers + 1 })
| .remIntServer, n =>
    ((), { n with servers := n.servers - 1 })
| .memPoolAlloc, n => (n.freeMemory, n)
| .delay _, n => ((), n)

end NicOp

/- Programs of the low level driver. -/
abbrev NicM (α : Type) := Program NicOp NicOp.Ret α

/- An uninterrupted run of a low level operation. -/
def NicM.runOn {α : Type} (p : NicM α) (n : NicState) :
    α × NicState :=
  Program.run NicOp.exec p n

------------------------------------------------------------
-- Operations as Programs
------------------------------------------------------------

/- `KSZ8851_CMD_REG = v` -/
def cmdReg (v : UWORD) : NicM Unit :=
  Program.perform (NicOp.cmdReg v)

/- `KSZ8851_DATA_REG = v` -/
def dataReg (v : UWORD) : NicM Unit :=
  Program.perform (NicOp.dataReg v)

/- Reading `KSZ8851_DATA_REG`. -/
def readDataReg : NicM UWORD :=
  Program.perform NicOp.readDataReg

def disable : NicM Unit :=
  Program.perform NicOp.disable

def enable : NicM Unit :=
  Program.perform NicOp.enable

def getInterface : NicM NetInterface :=
  Program.perform NicOp.getInterface

def setInterface
    (f : NetInterface → NetInterface) : NicM Unit :=
  Program.perform (NicOp.setInterface f)

/- Calling `interface->onPacketReceived`. -/
def onPacketReceived (buffer : Memory) (size : UWORD) :
    NicM Unit :=
  Program.perform (NicOp.onPacketReceived buffer size)

/- Calling `interface->linkChangeFunction`. -/
def linkChangeFunction : NicM Unit :=
  Program.perform NicOp.linkChangeFunction

/- `Signal(context->signalTask, 1 << context->sigNumber)` -/
def signal : NicM Unit :=
  Program.perform NicOp.signal

def allocSignal : NicM Int :=
  Program.perform NicOp.allocSignal

def freeSignal : NicM Unit :=
  Program.perform NicOp.freeSignal

def addIntServer : NicM Unit :=
  Program.perform NicOp.addIntServer

def remIntServer : NicM Unit :=
  Program.perform NicOp.remIntServer

def memPoolAlloc : NicM Bool :=
  Program.perform NicOp.memPoolAlloc

def delay (ticks : Nat) : NicM Unit :=
  Program.perform (NicOp.delay ticks)

------------------------------------------------------------
-- Before the First Access
------------------------------------------------------------

/- A chip and a driver that nothing has happened to. -/
def offlineInterface : NetInterface where
  onPacketReceived := false
  linkChangeFunction := false
  linkSpeed := 0
  duplexMode := 0
  linkState := false
  rxBuffer := false
  rxData := fun _ => 0#8
  signalTask := false
  sigNumber := -1
  signalCounter := 0
  rxOverrun := 0
  isInBigEndianMode := true
  frameId := 0#16
  intDisabledCounter := 0#8

def offlineChip : Chip where
  reg := fun _ => 0#16
  cmd := 0#16
  armed := false
  fifo := []
  frames := []
  rxq := []

def offlineNic : NicState where
  chip := offlineChip
  iface := offlineInterface
  nest := 0
  signaled := false
  servers := 0
  freeSignal := 5
  freeMemory := true
  delivered := []
  linkChanges := 0

end KszDriver
