import KszDriver.Core.Machine
import KszDriver.Nic.LowLevel

/-
  The interrupt server and the unit task sharing the chip:
  one step is one operation of one of them, or the hardware
  changing registers in between.

  The interrupt server runs when the interrupt line is
  asserted and the Disable nest count is zero, and then to
  its end; the unit task runs the event handler whenever its
  driver signal is pending.  `Host.acked` is a history
  variable: what the present call of the event handler has
  written to `ISR` so far.

  Key definitions include:
    * `Source`
    * `Host`, `Host.exec`
    * `System`, `System.next`
    * `interruptMachine`
    * `KeepsSources`
-/

------------------------------------------------------------
-- Interrupt Sources
------------------------------------------------------------

namespace KszDriver

/- The sources that going online enables. -/
inductive Source where
| link
| receive
| overrun
deriving DecidableEq, Repr

/- The bit of a source in `ISR` and in `IER`. -/
def Source.bit : Source → Nat
| .link => 15
| .receive => 13
| .overrun => 11

/- What holds of all sources, one by one. -/
theorem Source.forall_iff (p : Source → Prop) :
    (∀ src, p src) ↔ p .link ∧ p .receive ∧ p .overrun := by
  constructor
  · intro hAll
    exact ⟨hAll _, hAll _, hAll _⟩
  · rintro ⟨hLink, hReceive, hOverrun⟩ src
    cases src with
    | link => exact hLink
    | receive => exact hReceive
    | overrun => exact hOverrun

instance (p : Source → Prop) [DecidablePred p] :
    Decidable (∀ src, p src) :=
  decidable_of_iff _ (Source.forall_iff p).symm

/- A word has the bit of a source set. -/
def Source.In (src : Source) (word : UWORD) : Prop :=
  word.getLsbD src.bit = true

instance (src : Source) (word : UWORD) :
    Decidable (src.In word) := by
  unfold Source.In
  infer_instance

------------------------------------------------------------
-- Shared State
------------------------------------------------------------

/- The driver state with the history of acknowledgements. -/
structure Host where
  nic : NicState
  acked : UWORD

namespace Host

/- The present value of a register. -/
def reg (h : Host) (a : UBYTE) : UWORD :=
  h.nic.chip.reg a

/- The next data-port access goes to register `a`. -/
def Accesses (h : Host) (a : UBYTE) : Prop :=
  h.nic.chip.armed = true ∧ h.nic.chip.selected = a

instance (h : Host) (a : UBYTE) :
    Decidable (h.Accesses a) := by
  unfold Accesses
  infer_instance

/- The acknowledgements after an operation of the task. -/
def ackedAfter (h : Host) : NicOp → UWORD
| .dataReg v =>
    if h.Accesses regIsr then h.acked ||| v else h.acked
| _ => h.acked

/-
  The effect of an operation.  The history is that of the
  task alone.
-/
def exec
    (byTask : Bool)
    (op : NicOp)
    (h : Host) : op.Ret × Host :=
  ((op.exec h.nic).1,
    { nic := (op.exec h.nic).2
      acked := if byTask then h.ackedAfter op else h.acked })

/- The interrupt line of the chip. -/
def LineAsserted (h : Host) : Prop :=
  h.reg regIsr &&& h.reg regIer ≠ 0#16

instance (h : Host) : Decidable h.LineAsserted := by
  unfold LineAsserted
  infer_instance

/-
  The hardware sets bits of `ISR` and gives all registers but
  `ISR` and `IER` new values.
-/
def disturb
    (bits : UWORD)
    (values : UBYTE → UWORD)
    (h : Host) : Host :=
  { h with
    nic :=
      { h.nic with
        chip :=
          { h.nic.chip with
            reg := fun a =>
              if a = regIsr then h.reg a ||| bits
              else if a = regIer then h.reg a
              else values a } } }

end Host

------------------------------------------------------------
-- The System
------------------------------------------------------------

/- What the unit task is doing. -/
inductive Task where
| goingOnline (rest : NicM Unit)
| waiting
| handling (rest : NicM Bool)

/- The unit task waits for a signal. -/
def Task.waits : Task → Bool
| .waiting => true
| _ => false

/- The host, the unit task and the running server, if any. -/
structure System where
  host : Host
  task : Task
  irq : Option (NicM UBYTE)

/- The steps of the system. -/
inductive Action where
| hardware (bits : UWORD) (values : UBYTE → UWORD)
| interrupt
| serve
| wake
| work

namespace System

/- The interrupt server may be entered. -/
def Interruptible (s : System) : Prop :=
  s.irq.isNone = true ∧ s.host.nic.nest = 0 ∧
    0 < s.host.nic.servers ∧ s.host.LineAsserted

instance (s : System) : Decidable s.Interruptible := by
  unfold Interruptible
  infer_instance

/- One operation of the interrupt server, or its return. -/
def serve (s : System) : System :=
  match s.irq with
  | none => s
  | some (.done _) => { s with irq := none }
  | some (.step op next) =>
      { s with
        host := (s.host.exec false op).2
        irq := some (next (s.host.exec false op).1) }

/- One operation of the unit task, or the end of its work. -/
def work (s : System) : System :=
  match s.task with
  | .waiting => s
  | .goingOnline (.done _) => { s with task := .waiting }
  | .goingOnline (.step op next) =>
      { s with
        host := (s.host.exec true op).2
        task := .goingOnline (next (s.host.exec true op).1) }
  | .handling (.done _) => { s with task := .waiting }
  | .handling (.step op next) =>
      { s with
        host := (s.host.exec true op).2
        task := .handling (next (s.host.exec true op).1) }

/- The unit task takes its driver signal. -/
def wake (s : System) : System :=
  match s.task with
  | .waiting =>
      if s.host.nic.signaled then
        { s with
          host :=
            { nic := { s.host.nic with signaled := false }
              acked := 0#16 }
          task := .handling ksz8851EventHandler }
      else s
  | _ => s

/- A step; the task stands still while the server runs. -/
def next (s : System) : Action → System
| .hardware bits values =>
    { s with host := s.host.disturb bits values }
| .interrupt =>
    if s.Interruptible then { s with irq := some isr } else s
| .serve => s.serve
| .wake => if s.irq.isNone then s.wake else s
| .work => if s.irq.isNone then s.work else s

/- `ksz8851Online` is about to run, with `IER` at zero. -/
def Start (s : System) : Prop :=
  s.task = .goingOnline ksz8851Online ∧ s.irq = none ∧
    s.host.nic.nest = 0 ∧ s.host.reg regIer = 0#16

/-
  The interface is online, no handler is executing and the
  driver signal is not pending.
-/
def Quiet (s : System) : Prop :=
  s.task.waits = true ∧ s.irq.isNone = true ∧
    s.host.nic.signaled = false

instance (s : System) : Decidable s.Quiet := by
  unfold Quiet
  infer_instance

end System

/- The hardware sets no bits but those of the sources. -/
def Action.SetsSources : Action → Prop
| .hardware bits _ => bits &&& ~~~onlineIerMask = 0#16
| _ => True

instance decidableSetsSources :
    (a : Action) → Decidable a.SetsSources
| .hardware bits _ =>
    inferInstanceAs (Decidable
      (bits &&& ~~~onlineIerMask = 0#16))
| .interrupt | .serve | .wake | .work => isTrue trivial

/- Going online and then handling the interrupts of the
   sources for ever. -/
def interruptMachine : Machine System Action where
  Start := System.Start
  Allowed := fun _ a => a.SetsSources
  next := System.next

------------------------------------------------------------
-- When No Source Is Lost
------------------------------------------------------------

/-
  A link change overwrites the status with `P1SR`.  The
  value read must not show the wake-up or transmit bit, and
  it must show the bit of every other source that is masked,
  unless a signal is pending that brings the handler back.
-/
def LinkReadOk (h : Host) : Prop :=
  h.reg regP1sr &&& (ierLdie ||| ierTxie) = 0#16 ∧
    ∀ src, src ≠ Source.link →
      src.In (h.reg regIer) ∨ h.nic.signaled = true ∨
        src.In (h.reg regP1sr)

/-
  Acknowledging an overrun writes back the whole `ISR`.  The
  word written must not clear a source that is masked and
  that this call has not acknowledged before.
-/
def OverrunAckOk (word : UWORD) (h : Host) : Prop :=
  Source.overrun.In word →
    ∀ src, src ≠ Source.overrun → src.In word →
      src.In (h.reg regIer) ∨ src.In h.acked

/- An operation of the event handler loses no source. -/
def KeepsSources : NicOp → Host → Prop
| .readDataReg, h => h.Accesses regP1sr → LinkReadOk h
| .dataReg word, h =>
    h.Accesses regIsr → OverrunAckOk word h
| _, _ => True

instance (h : Host) : Decidable (LinkReadOk h) := by
  unfold LinkReadOk
  infer_instance

instance (word : UWORD) (h : Host) :
    Decidable (OverrunAckOk word h) := by
  unfold OverrunAckOk
  infer_instance

instance (op : NicOp) (h : Host) :
    Decidable (KeepsSources op h) := by
  cases op <;> unfold KeepsSources <;> infer_instance

/- A step at which the event handler loses no source. -/
def StepKeepsSources (s : System) (a : Action) : Prop :=
  match a, s.irq, s.task with
  | .work, none, .handling (.step op _) =>
      KeepsSources op s.host
  | _, _, _ => True

instance (s : System) (a : Action) :
    Decidable (StepKeepsSources s a) := by
  unfold StepKeepsSources
  split <;> infer_instance

instance (s : System) (a : Action) :
    Decidable (Machine.Free s a) :=
  isTrue trivial

instance decidableInterruptRuns
    (C : System → Action → Prop)
    [hGuard : ∀ s a, Decidable (C s a)]
    (actions : List Action)
    (s : System) :
    Decidable (interruptMachine.Runs C actions s) :=
  interruptMachine.decidableRuns C
    (fun _ a => decidableSetsSources a) hGuard actions s

end KszDriver
