import KszDriver.Core.Recording
import KszDriver.Nic.HandlerRules

/-
  The protocol of the host bus.  A bare access to the data
  port, one without a command write of its own, goes to the
  packet queues, which are open while the bit `SDA` of the
  register `RXQCR` is set.

  A monitor beside the state notes what happens on the bus,
  and says at every operation whether it conforms to the
  protocol.  Between any two operations everything may change
  that the monitor does not see.

  Main declarations:
    * `BusEvent`, `BusMonitor.next`
    * `NicOp.Conforms`
    * `Drives`
    * `drives_readReg`, `drives_writeReg`
-/

------------------------------------------------------------
-- Events
------------------------------------------------------------

namespace KszDriver

/- What happens on the bus. -/
inductive BusEvent where
| readReg (offset : UBYTE)
| writeReg (offset : UBYTE) (v : UWORD)
| bareRead
| bareWrite
| disable
| enable
deriving DecidableEq

/- The event is an access to the register. -/
def BusEvent.Accesses (a : UBYTE) : BusEvent → Prop
| .readReg offset => offset = a
| .writeReg offset _ => offset = a
| _ => False

/- The value for `RXFDPR` sets the frame pointer to zero: it
   has no other bits than the flags. -/
def ResetsPointer (v : UWORD) : Prop :=
  v &&& ~~~(rxfdprRxfpai ||| rxfdprEms) = 0#16

instance (v : UWORD) : Decidable (ResetsPointer v) := by
  unfold ResetsPointer
  infer_instance

/- The value for `RXQCR` has `SDA` set. -/
def OpensQueues (v : UWORD) : Prop :=
  v &&& rxqcrSda ≠ 0#16

instance (v : UWORD) : Decidable (OpensQueues v) := by
  unfold OpensQueues
  infer_instance

/- The value for `TXQCR` starts a transmission. -/
def StartsSending (v : UWORD) : Prop :=
  v &&& txqcrMetfe ≠ 0#16

instance (v : UWORD) : Decidable (StartsSending v) := by
  unfold StartsSending
  infer_instance

------------------------------------------------------------
-- The Monitor
------------------------------------------------------------

/- What the packet queues have been used for since they were
   opened. -/
inductive Transfer where
| unused
| transmit
| receive
deriving DecidableEq

/-
  What the monitor keeps.  It is `primed` after the frame
  pointer was reset, until another register than `RXQCR` is
  accessed or the queues are closed; `owed` from the end of
  a transmit window until the transmission is started; and
  `enabled` after interrupts were enabled in the middle of an
  operation.
-/
structure BusMonitor where
  transfer : Transfer
  primed : Bool
  owed : Bool
  enabled : Bool
deriving DecidableEq

namespace BusMonitor

def fresh : BusMonitor where
  transfer := .unused
  primed := false
  owed := false
  enabled := false

/- An operation begins. -/
def begun (m : BusMonitor) : BusMonitor :=
  { m with enabled := false }

/- The queues, which were open if `sda`, are opened. -/
def opened (sda : Bool) (m : BusMonitor) : BusMonitor :=
  if sda then m else { m with transfer := .unused }

/- They are closed. -/
def closed (sda : Bool) (m : BusMonitor) : BusMonitor :=
  { m with
    primed := false
    owed := m.owed || (sda && m.transfer == .transmit) }

/- A write to another register than `RXQCR`. -/
def written
    (offset : UBYTE) (v : UWORD) (m : BusMonitor) :
    BusMonitor :=
  { m with
    primed := decide (offset = regRxfdpr ∧ ResetsPointer v)
    owed := m.owed &&
      !decide (offset = regTxqcr ∧ StartsSending v) }

/- The monitor after an event. -/
def next (sda : Bool) (m : BusMonitor) :
    BusEvent → BusMonitor
| .readReg offset =>
    if offset = regRxqcr then m
    else { m with primed := false }
| .writeReg offset v =>
    if offset = regRxqcr then
      if OpensQueues v then m.opened sda else m.closed sda
    else m.written offset v
| .bareRead => { m with transfer := .receive }
| .bareWrite => { m with transfer := .transmit }
| .disable => { m with enabled := false }
| .enable => { m with enabled := true }

end BusMonitor

------------------------------------------------------------
-- The Protocol
------------------------------------------------------------

/- What the protocol speaks of: the register that the next
   data access goes to if one is armed, the bit `SDA`, and
   the monitor. -/
structure BusView where
  selected : UBYTE
  armed : Bool
  sda : Bool
  monitor : BusMonitor
deriving DecidableEq

/- The event that an operation causes. -/
def NicOp.busEvent (w : BusView) : NicOp → Option BusEvent
| .dataReg v =>
    if w.armed then some (.writeReg w.selected v)
    else some .bareWrite
| .readDataReg =>
    if w.armed then some (.readReg w.selected)
    else some .bareRead
| .disable => some .disable
| .enable => some .enable
| _ => none

/-
  An event conforms to the protocol.

  Bare accesses find the queues open, and while they are open
  no register but `RXQCR` is accessed.  A window is for words
  in one direction.  One for receiving follows upon a reset
  of the frame pointer.  A transmission is started once after
  each window for transmitting, and before the next window.
-/
structure BusEvent.Conforms
    (e : BusEvent) (w : BusView) : Prop where
  bare : e = .bareRead ∨ e = .bareWrite → w.sda = true
  alone :
    w.sda = true → ∀ a, e.Accesses a → a = regRxqcr
  transmits :
    e = .bareWrite → w.monitor.transfer ≠ .receive
  receives :
    e = .bareRead → w.monitor.transfer ≠ .transmit
  primed : e = .bareRead → w.monitor.primed = true
  starts : ∀ v, e = .writeReg regTxqcr v →
    StartsSending v → w.monitor.owed = true
  opens : ∀ v, e = .writeReg regRxqcr v →
    OpensQueues v → w.monitor.owed = false

/- An operation conforms: its event does, and the queues are
   closed if interrupts have been enabled. -/
structure NicOp.Conforms (op : NicOp) (w : BusView) :
    Prop where
  enabled : w.monitor.enabled = true → w.sda = false
  event : ∀ e, op.busEvent w = some e → e.Conforms w

------------------------------------------------------------
-- The Monitored State
------------------------------------------------------------

/- The low level driver with the monitor beside it. -/
abbrev BusState := NicState × BusMonitor

namespace BusState

def view (p : BusState) : BusView where
  selected := p.1.chip.selected
  armed := p.1.chip.armed
  sda := decide p.1.chip.Sda
  monitor := p.2

/- What the monitor makes of an operation. -/
def note (op : NicOp) (n : NicState) (m : BusMonitor) :
    BusMonitor :=
  match op.busEvent (view (n, m)) with
  | some e => m.next (decide n.chip.Sda) e
  | none => m

/- The effect of an operation that the monitor notes. -/
def exec : (op : NicOp) → BusState → op.Ret × BusState :=
  Program.recorded NicOp.exec note

/- The hardware, or an interrupt, may change all that the
   protocol does not speak of. -/
def Drifts (p p' : BusState) : Prop :=
  p'.view = p.view

/- However the state drifts, every operation conforms to the
   protocol, and the program ends in `Q`. -/
def Follows {α : Type} (p : BusState) (program : NicM α)
    (Q : α → BusState → Prop) : Prop :=
  Program.Guarded exec Drifts
    (fun op p' => op.Conforms p'.view) Q program p

end BusState

/- The same, told by the view alone. -/
def Drives {α : Type} (w : BusView) (program : NicM α)
    (Q : α → BusView → Prop) : Prop :=
  Program.Walks BusState.exec BusState.view
    NicOp.Conforms Q program w

theorem Drives.follows
    {α : Type}
    {p : BusState}
    {program : NicM α}
    {Q : α → BusView → Prop}
    (hDrives : Drives p.view program Q) :
    p.Follows program (fun value p' => Q value p'.view) :=
  Program.Walks.guarded (R := BusState.Drifts)
    (fun _ _ hDrifts => hDrifts) hDrives

------------------------------------------------------------
-- Operations without Events
------------------------------------------------------------

section Rules

variable {α β : Type} {w : BusView}

open Program (Walks)

/- The queues are closed while interrupts are enabled. -/
def BusView.Calm (w : BusView) : Prop :=
  w.monitor.enabled = true → w.sda = false

/- The operation does not show on the bus. -/
def NicOp.Silent : NicOp → Prop
| .cmdReg _ | .dataReg _ | .readDataReg | .disable
| .enable => False
| _ => True

theorem drives_silent
    (op : NicOp)
    (hSilent : op.Silent)
    (hCalm : w.Calm) :
    Drives w (Program.perform op) (fun _ w' => w' = w) := by
  have hNone : op.busEvent w = none := by
    cases op <;> first | rfl | exact hSilent.elim
  refine Walks.perform ⟨hCalm, ?_⟩ ?_
  · intro e hEvent
    rw [hNone] at hEvent
    cases hEvent
  · rintro p rfl
    cases op <;> first | rfl | exact hSilent.elim

theorem drives_disable (hCalm : w.Calm) :
    Drives w disable (fun _ w' =>
      w' = { w with
        monitor := { w.monitor with enabled := false } }) := by
  refine Walks.perform ⟨hCalm, ?_⟩ ?_
  · rintro e hEvent
    cases hEvent
    constructor <;> simp [BusEvent.Accesses]
  · rintro p rfl
    rfl

theorem drives_enable (hCalm : w.Calm) :
    Drives w enable (fun _ w' =>
      w' = { w with
        monitor := { w.monitor with enabled := true } }) := by
  refine Walks.perform ⟨hCalm, ?_⟩ ?_
  · rintro e hEvent
    cases hEvent
    constructor <;> simp [BusEvent.Accesses]
  · rintro p rfl
    rfl

------------------------------------------------------------
-- Registers
------------------------------------------------------------

/- The view after a register was read. -/
def BusView.read (offset : UBYTE) (w : BusView) : BusView where
  selected := offset
  armed := false
  sda := w.sda
  monitor := w.monitor.next w.sda (.readReg offset)

/- The view after a register was written. -/
def BusView.write (offset : UBYTE) (v : UWORD) (w : BusView) :
    BusView where
  selected := offset
  armed := false
  sda :=
    if offset = regRxqcr then decide (OpensQueues v)
    else w.sda
  monitor := w.monitor.next w.sda (.writeReg offset v)

namespace BusState

/- The monitor notes the event of an operation. -/
theorem note_of_event
    (op : NicOp)
    {p : BusState}
    {e : BusEvent}
    (hEvent : op.busEvent p.view = some e) :
    note op p.1 p.2 = p.2.next p.view.sda e := by
  have hSame : view (p.1, p.2) = p.view := rfl
  unfold note
  rw [hSame, hEvent]
  rfl

/- An armed read. -/
theorem exec_readDataReg
    {p : BusState}
    (hArmed : p.1.chip.armed = true) :
    (exec .readDataReg p).1 =
        p.1.chip.reg p.1.chip.selected ∧
      (exec .readDataReg p).2.view =
        p.view.read p.1.chip.selected := by
  have hRead : p.1.chip.readData =
      (p.1.chip.reg p.1.chip.selected,
        { p.1.chip with armed := false }) := by
    unfold Chip.readData
    rw [if_pos hArmed]
  have hNote := note_of_event .readDataReg (p := p)
    (if_pos hArmed)
  have hExec : exec .readDataReg p =
      (p.1.chip.readData.1,
        ({ p.1 with chip := p.1.chip.readData.2 },
          note .readDataReg p.1 p.2)) := rfl
  rw [hExec, hRead, hNote]
  exact ⟨rfl, rfl⟩

/- The queues after a register was written. -/
theorem sda_writeReg
    (offset : UBYTE) (v : UWORD) (c : Chip) :
    (c.writeReg offset v).Sda ↔
      if offset = regRxqcr then OpensQueues v else c.Sda := by
  unfold Chip.Sda
  rw [Chip.reg_writeReg]
  by_cases hRxqcr : offset = regRxqcr
  · rw [hRxqcr, if_pos rfl, Function.update_self,
      if_neg (by decide)]
    rfl
  · rw [if_neg hRxqcr, Function.update_of_ne (Ne.symm hRxqcr)]

/- An armed write. -/
theorem exec_dataReg
    {p : BusState}
    (v : UWORD)
    (hArmed : p.1.chip.armed = true) :
    (exec (.dataReg v) p).2.view =
      p.view.write p.1.chip.selected v := by
  have hWrite : p.1.chip.writeData v =
      { p.1.chip.writeReg p.1.chip.selected v with
        armed := false } := by
    unfold Chip.writeData
    rw [if_pos hArmed]
  have hNote := note_of_event (.dataReg v) (p := p)
    (if_pos hArmed)
  have hSelected :
      (p.1.chip.writeReg p.1.chip.selected v).selected =
        p.1.chip.selected := by
    unfold Chip.writeReg
    split
    · rfl
    · split <;> rfl
  have hSda :
      decide (p.1.chip.writeReg p.1.chip.selected v).Sda =
        if p.1.chip.selected = regRxqcr then
          decide (OpensQueues v)
        else decide p.1.chip.Sda := by
    simp only [sda_writeReg]
    split <;> rfl
  have hExec : exec (.dataReg v) p =
      ((), ({ p.1 with chip := p.1.chip.writeData v },
        note (.dataReg v) p.1 p.2)) := rfl
  rw [hExec, hWrite, hNote]
  exact congrArg₂ (fun a sda => BusView.mk a false sda _)
    hSelected hSda

/- A bare write. -/
theorem exec_bareWrite
    {p : BusState}
    (v : UWORD)
    (hArmed : p.1.chip.armed = false) :
    (exec (.dataReg v) p).2.view =
      { p.view with
        monitor := { p.2 with transfer := .transmit } } := by
  have hNote := note_of_event (.dataReg v) (p := p)
    (if_neg (by simp [view, hArmed]))
  have hExec : exec (.dataReg v) p =
      ((), ({ p.1 with chip := p.1.chip.writeData v },
        note (.dataReg v) p.1 p.2)) := rfl
  rw [hExec, hNote]
  unfold Chip.writeData
  rw [if_neg (by simp [hArmed])]
  split
  · rfl
  · rfl

/- A bare read. -/
theorem exec_bareRead
    {p : BusState}
    (hArmed : p.1.chip.armed = false) :
    (exec .readDataReg p).2.view =
      { p.view with
        monitor := { p.2 with transfer := .receive } } := by
  have hNote := note_of_event .readDataReg (p := p)
    (if_neg (by simp [view, hArmed]))
  have hExec : exec .readDataReg p =
      (p.1.chip.readData.1,
        ({ p.1 with chip := p.1.chip.readData.2 },
          note .readDataReg p.1 p.2)) := rfl
  rw [hExec, hNote]
  unfold Chip.readData
  rw [if_neg (by simp [hArmed])]
  split
  · rfl
  · rfl

end BusState

/- Selecting a register is no event. -/
theorem drives_select
    (offset : UBYTE)
    {program : NicM α}
    {Q : α → BusView → Prop}
    (hCalm : w.Calm)
    (hAccess :
      Drives { w with selected := offset, armed := true }
        program Q) :
    Drives w
      (do
        let context ← getInterface
        cmdReg (cmdWord context.isInBigEndianMode offset)
        program) Q := by
  refine (drives_silent .getInterface trivial
    hCalm).bind ?_
  intro context w' hSame
  rw [hSame]
  have hSelect :
      Drives w
        (cmdReg (cmdWord context.isInBigEndianMode offset))
        (fun _ w' => w' =
          { w with selected := offset, armed := true }) := by
    refine Walks.perform ⟨hCalm, nofun⟩ ?_
    rintro p rfl
    have hSelected :
        (cmdWord context.isInBigEndianMode
          offset).setWidth 8 = offset := selected_cmdWord _ _
    exact congrArg (fun a => BusView.mk a true _ _) hSelected
  refine hSelect.bind ?_
  rintro _ _ rfl
  exact hAccess

theorem drives_readReg
    (offset : UBYTE)
    (hCalm : w.Calm)
    (hAlone : w.sda = true → offset = regRxqcr) :
    Drives w (ksz8851ReadReg offset) (fun v w' =>
      w' = w.read offset ∧
        (offset = regRxqcr →
          decide (OpensQueues v) = w.sda)) := by
  apply drives_select offset hCalm
  refine Walks.perform ⟨hCalm, ?_⟩ ?_
  · intro e hEvent
    cases hEvent
    constructor <;> simp [BusEvent.Accesses]
    exact hAlone
  · rintro p hView
    have hSelected : p.1.chip.selected = offset :=
      congrArg BusView.selected hView
    have hExec :=
      BusState.exec_readDataReg (p := p)
        (congrArg BusView.armed hView)
    rw [hSelected, hView] at hExec
    refine ⟨hExec.2, ?_⟩
    rintro rfl
    rw [hExec.1]
    exact congrArg BusView.sda hView

theorem drives_writeReg
    (offset : UBYTE)
    (v : UWORD)
    (hCalm : w.Calm)
    (hAlone : w.sda = true → offset = regRxqcr)
    (hStarts : offset = regTxqcr → StartsSending v →
      w.monitor.owed = true)
    (hOpens : offset = regRxqcr → OpensQueues v →
      w.monitor.owed = false) :
    Drives w (ksz8851WriteReg offset v) (fun _ w' =>
      w' = w.write offset v) := by
  apply drives_select offset hCalm
  refine Walks.perform ⟨hCalm, ?_⟩ ?_
  · intro e hEvent
    cases hEvent
    constructor <;> simp [BusEvent.Accesses]
    · exact hAlone
    · exact hStarts
    · exact hOpens
  · intro p hView
    have hSelected : p.1.chip.selected = offset :=
      congrArg BusView.selected hView
    have hExec :=
      BusState.exec_dataReg (p := p) v
        (congrArg BusView.armed hView)
    rw [hSelected, hView] at hExec
    exact hExec

------------------------------------------------------------
-- Packet Queues
------------------------------------------------------------

/- A word for the transmit queue. -/
theorem drives_bareWrite
    (v : UWORD)
    (hCalm : w.Calm)
    (hArmed : w.armed = false)
    (hOpen : w.sda = true)
    (hTransfer : w.monitor.transfer ≠ .receive) :
    Drives w (dataReg v) (fun _ w' =>
      w' = { w with
        monitor := { w.monitor with
          transfer := .transmit } }) := by
  have hBare : (NicOp.dataReg v).busEvent w =
      some .bareWrite := if_neg (by simp [hArmed])
  refine Walks.perform ⟨hCalm, ?_⟩ ?_
  · intro e hEvent
    rw [hBare] at hEvent
    cases hEvent
    constructor <;> simp [BusEvent.Accesses, hOpen, hTransfer]
  · rintro p rfl
    exact BusState.exec_bareWrite v hArmed

/- A word from the receive queue. -/
theorem drives_bareRead
    (hCalm : w.Calm)
    (hArmed : w.armed = false)
    (hOpen : w.sda = true)
    (hTransfer : w.monitor.transfer ≠ .transmit)
    (hPrimed : w.monitor.primed = true) :
    Drives w readDataReg (fun _ w' =>
      w' = { w with
        monitor := { w.monitor with
          transfer := .receive } }) := by
  have hBare : NicOp.readDataReg.busEvent w =
      some .bareRead := if_neg (by simp [hArmed])
  refine Walks.perform ⟨hCalm, ?_⟩ ?_
  · intro e hEvent
    rw [hBare] at hEvent
    cases hEvent
    constructor <;>
      simp [BusEvent.Accesses, hOpen, hTransfer, hPrimed]
  · rintro p rfl
    exact BusState.exec_bareRead hArmed

end Rules

end KszDriver
