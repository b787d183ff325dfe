import KszDriver.Nic.SourceBits

/-
  What one call of the event handler has to answer for.

  A `Watch` beside the shared state remembers which events
  the call has not serviced yet and which bits of `ISR` its
  writes have cleared.  The call services a link change by
  reading `P1SR`, received frames by reading their number in
  `RXFCTR`, and an overrun by counting it.  There is no
  service of the other bits in the event handler;
  transmissions are the interrupt server's, which
  acknowledges them itself.

  Key definitions include:
    * `StatusBit`
    * `Watch`, `Watch.after`, `Watch.afterServer`
    * `Watched`, `Watched.Precise`
    * `WatchedSystem`, `watchMachine`
    * `StepAcknowledges`
-/

------------------------------------------------------------
-- Status Bits
------------------------------------------------------------

namespace KszDriver

/- A bit of `ISR`.  The hardware may set any of them. -/
abbrev StatusBit := Fin 16

instance (p : StatusBit → Prop) [DecidablePred p] :
    Decidable (∀ bit, p bit) :=
  Nat.decidableForallFin p

namespace StatusBit

def link : StatusBit := ⟨15, by decide⟩
def transmit : StatusBit := ⟨14, by decide⟩
def receive : StatusBit := ⟨13, by decide⟩
def overrun : StatusBit := ⟨11, by decide⟩

/- A word has the bit set. -/
def In (bit : StatusBit) (word : UWORD) : Prop :=
  word.getLsbD bit.val = true

instance (bit : StatusBit) (word : UWORD) :
    Decidable (bit.In word) := by
  unfold StatusBit.In
  infer_instance

variable (bit : StatusBit) (v w : UWORD)

theorem in_or_iff :
    bit.In (v ||| w) ↔ bit.In v ∨ bit.In w := by
  simp [In]

theorem in_and_iff :
    bit.In (v &&& w) ↔ bit.In v ∧ bit.In w := by
  simp [In]

theorem in_and_not_iff :
    bit.In (v &&& ~~~w) ↔ bit.In v ∧ ¬ bit.In w := by
  simp [In, bit.isLt]

theorem not_in_zero : ¬ bit.In 0#16 := by
  simp [In]

variable {bit}

theorem eq_link_of_in (hIn : bit.In isrLcis) :
    bit = link := by
  revert bit
  decide

theorem eq_receive_of_in (hIn : bit.In isrRxis) :
    bit = receive := by
  revert bit
  decide

end StatusBit

------------------------------------------------------------
-- The Watch
------------------------------------------------------------

/-
  `status` is the interrupt status that the call has read and
  `due` the bits with an event that nobody has serviced.
  `cleared` are the bits that the call's writes have cleared,
  and `owed` those of them with an event that it has not
  serviced since.  `doomed` are the bits that its overrun branch
  is going to write back.
-/
structure Watch where
  status : UWORD
  due : UWORD
  cleared : UWORD
  owed : UWORD
  doomed : UWORD

namespace Watch

/- At the start of a call, all that is pending is due. -/
def opened (isr : UWORD) : Watch where
  status := 0#16
  due := isr
  cleared := 0#16
  owed := 0#16
  doomed := 0#16

/- The hardware sets bits. -/
def noticed (bits : UWORD) (w : Watch) : Watch :=
  { w with due := w.due ||| bits }

/- The event of this flag has been serviced. -/
def serviced (flag : UWORD) (w : Watch) : Watch :=
  { w with
    due := w.due &&& ~~~flag
    owed := w.owed &&& ~~~flag }

/- The interrupt server has written to `ISR`: it services
   transmissions, and nothing else. -/
def yielded (word : UWORD) (w : Watch) : Watch :=
  { w with due := w.due &&& ~~~(word &&& isrTxis) }

/- `ISR` has been read: by the overrun branch once it has
   counted an overrun, and as the status before. -/
def readIsr (isr : UWORD) (w : Watch) : Watch :=
  if StatusBit.overrun.In w.doomed then
    { w with doomed := isr ||| isrRxois }
  else { w with status := isr }

/- A word has been written to `ISR`. -/
def wroteIsr (word isr : UWORD) (w : Watch) : Watch :=
  { w with
    cleared := w.cleared ||| (word &&& isr)
    owed := w.owed ||| (word &&& isr &&& w.due)
    doomed := 0#16 }

/- The watch after an operation of the unit task. -/
def after (op : NicOp) (h : Host) (w : Watch) : Watch :=
  match op with
  | .readDataReg =>
      if h.Accesses regIsr then w.readIsr (h.reg regIsr)
      else if h.Accesses regP1sr then w.serviced isrLcis
      else if h.Accesses regRxfctr then w.serviced isrRxis
      else w
  | .dataReg word =>
      if h.Accesses regIsr then
        w.wroteIsr word (h.reg regIsr)
      else w
  | .setInterface f =>
      if (f h.nic.iface).rxOverrun = h.nic.iface.rxOverrun
      then w
      else { w.serviced isrRxois with doomed := isrRxois }
  | _ => w

/- The watch after an operation of the interrupt server. -/
def afterServer (op : NicOp) (h : Host) (w : Watch) : Watch :=
  match op with
  | .dataReg word =>
      if h.Accesses regIsr then w.yielded word else w
  | _ => w

end Watch

------------------------------------------------------------
-- The Watched System
------------------------------------------------------------

/- The shared state under watch. -/
structure Watched where
  host : Host
  watch : Watch

namespace Watched

/- The effect of an operation of the task or the server. -/
def exec
    (byTask : Bool)
    (op : NicOp)
    (t : Watched) : op.Ret × Watched :=
  ((t.host.exec byTask op).1,
    { host := (t.host.exec byTask op).2
      watch :=
        if byTask then t.watch.after op t.host
        else t.watch.afterServer op t.host })

/-
  The acknowledgements of the call were precise: what it has
  cleared it has seen in its status read and serviced, and
  what has not been serviced is still pending.
-/
structure Precise (t : Watched) : Prop where
  cleared : ∀ bit : StatusBit, bit.In t.watch.cleared →
    bit.In t.watch.status ∧ ¬ bit.In t.watch.owed
  pending : ∀ bit : StatusBit, bit.In t.watch.due →
    bit.In (t.host.reg regIsr)

end Watched

/- The unit task is done with a call of the event handler. -/
def Task.returned : Task → Bool
| .handling (.done _) => true
| _ => false

/- The system with a watch on the unit task. -/
structure WatchedSystem where
  sys : System
  watch : Watch

namespace WatchedSystem

def watched (s : WatchedSystem) : Watched where
  host := s.sys.host
  watch := s.watch

/- The unit task is about to take its driver signal. -/
def Wakes (s : WatchedSystem) : Prop :=
  s.sys.irq.isNone = true ∧ s.sys.task.waits = true ∧
    s.sys.host.nic.signaled = true

instance (s : WatchedSystem) : Decidable s.Wakes := by
  unfold Wakes
  infer_instance

/- The watch after a step of the system. -/
def watchAfter (s : WatchedSystem) : Action → Watch
| .hardware bits _ => s.watch.noticed bits
| .interrupt => s.watch
| .serve =>
    match s.sys.irq with
    | some (.step op _) => s.watch.afterServer op s.sys.host
    | _ => s.watch
| .wake =>
    if s.Wakes then .opened (s.sys.host.reg regIsr)
    else s.watch
| .work =>
    match s.sys.irq, s.sys.task with
    | none, .goingOnline (.step op _) =>
        s.watch.after op s.sys.host
    | none, .handling (.step op _) =>
        s.watch.after op s.sys.host
    | _, _ => s.watch

/- A step of the system as before, with the watch. -/
def next (s : WatchedSystem) (a : Action) : WatchedSystem where
  sys := s.sys.next a
  watch := s.watchAfter a

/- `ksz8851Online` is about to run. -/
def Start (s : WatchedSystem) : Prop :=
  s.sys.Start ∧ s.watch = .opened 0#16

/- The event handler has returned to the unit task. -/
def Returned (s : WatchedSystem) : Prop :=
  s.sys.irq.isNone = true ∧ s.sys.task.returned = true

instance (s : WatchedSystem) : Decidable s.Returned := by
  unfold Returned
  infer_instance

end WatchedSystem

/- The interrupt machine under watch. -/
def watchMachine : Machine WatchedSystem Action where
  Start := WatchedSystem.Start
  Allowed := Machine.Free
  next := WatchedSystem.next

------------------------------------------------------------
-- When Acknowledgements Are Precise
------------------------------------------------------------

/-
  The overrun branch reads `ISR` and is going to write back
  all it reads.  Whatever is pending then must have been seen
  and serviced.
-/
def OverrunReadOk (t : Watched) : Prop :=
  StatusBit.overrun.In t.watch.doomed →
    ∀ bit : StatusBit, bit.In (t.host.reg regIsr) →
      bit.In t.watch.status ∧ ¬ bit.In t.watch.due

/-
  After a link change the handler decides by `P1SR` whether
  to acknowledge received frames.  If it does and there are
  any, they must have been seen in the status.
-/
def ReceiveAckOk (word : UWORD) (t : Watched) : Prop :=
  StatusBit.link.In t.watch.status →
    StatusBit.receive.In word →
      StatusBit.receive.In (t.host.reg regIsr) →
        StatusBit.receive.In t.watch.status

/- An operation of the event handler at which no precision
   is lost. -/
def Acknowledges : NicOp → Watched → Prop
| .readDataReg, t => t.host.Accesses regIsr → OverrunReadOk t
| .dataReg word, t =>
    t.host.Accesses regIsr → ReceiveAckOk word t
| _, _ => True

/-
  Nor is it lost at a step of the hardware, unless it sets a
  bit that the overrun branch is going to write back.
-/
def StepAcknowledges (s : WatchedSystem) (a : Action) : Prop :=
  match a, s.sys.irq, s.sys.task with
  | .hardware bits _, _, _ =>
      ∀ bit : StatusBit, bit.In bits → ¬ bit.In s.watch.doomed
  | .work, none, .handling (.step op _) =>
      Acknowledges op s.watched
  | _, _, _ => True

instance (t : Watched) : Decidable (OverrunReadOk t) := by
  unfold OverrunReadOk
  infer_instance

instance (word : UWORD) (t : Watched) :
    Decidable (ReceiveAckOk word t) := by
  unfold ReceiveAckOk
  infer_instance

instance decidableAcknowledges :
    (op : NicOp) → (t : Watched) →
      Decidable (Acknowledges op t)
| .readDataReg, t =>
    inferInstanceAs (Decidable
      (t.host.Accesses regIsr → OverrunReadOk t))
| .dataReg word, t =>
    inferInstanceAs (Decidable
      (t.host.Accesses regIsr → ReceiveAckOk word t))
| .cmdReg _, _ | .disable, _ | .enable, _ => isTrue trivial
| .getInterface, _ | .setInterface _, _ => isTrue trivial
| .onPacketReceived _ _, _ => isTrue trivial
| .linkChangeFunction, _ | .signal, _ => isTrue trivial
| .allocSignal, _ | .freeSignal, _ => isTrue trivial
| .addIntServer, _ | .remIntServer, _ => isTrue trivial
| .memPoolAlloc, _ | .delay _, _ => isTrue trivial

instance decidableStepAcknowledges :
    (s : WatchedSystem) → (a : Action) →
      Decidable (StepAcknowledges s a)
| s, .hardware bits _ =>
    inferInstanceAs (Decidable
      (∀ bit : StatusBit, bit.In bits →
        ¬ bit.In s.watch.doomed))
| ⟨⟨host, .handling (.step op rest), none⟩, watch⟩, .work =>
    decidableAcknowledges op
      (WatchedSystem.watched
        ⟨⟨host, .handling (.step op rest), none⟩, watch⟩)
| ⟨⟨_, .handling (.done _), none⟩, _⟩, .work =>
    isTrue trivial
| ⟨⟨_, .waiting, none⟩, _⟩, .work => isTrue trivial
| ⟨⟨_, .goingOnline _, none⟩, _⟩, .work => isTrue trivial
| ⟨⟨_, _, some _⟩, _⟩, .work => isTrue trivial
| _, .interrupt | _, .serve | _, .wake => isTrue trivial

instance (actions : List Action) (s : WatchedSystem) :
    Decidable (watchMachine.Runs StepAcknowledges
      actions s) :=
  watchMachine.decidableRuns StepAcknowledges
    (fun _ _ => isTrue trivial) decidableStepAcknowledges
    actions s

end KszDriver
