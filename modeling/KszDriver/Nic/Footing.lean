import KszDriver.Core.Discipline
import KszDriver.Nic.LowLevel

/-
  The discipline of the low level driver: it touches the chip
  while interrupts are disabled or no interrupt server is
  linked, and it enables them as often as it disables them.

  The footing of the driver is the part of the state that the
  interrupt server leaves alone and the discipline rests on.

  Main declarations:
    * `Footing`, `Footing.Grounded`
    * `Goes`
    * `treads_init`, `treads_online`, `goes_offline`
    * `goes_eventHandler`, `goes_sendPacketCooked`
-/

------------------------------------------------------------
-- Footing
------------------------------------------------------------

namespace KszDriver

/- How often interrupts are disabled and the server is linked,
   and the fields that tell about the server and the memory of
   the driver. -/
structure Footing where
  nest : Nat
  servers : Nat
  signalTask : Bool
  sigNumber : Int
  rxBuffer : Bool
deriving DecidableEq

def NicState.footing (n : NicState) : Footing where
  nest := n.nest
  servers := n.servers
  signalTask := n.iface.signalTask
  sigNumber := n.iface.sigNumber
  rxBuffer := n.iface.rxBuffer

/- An access to `KSZ8851_CMD_REG` or `KSZ8851_DATA_REG`. -/
def NicOp.Touches : NicOp → Prop
| .cmdReg _ => True
| .dataReg _ => True
| .readDataReg => True
| _ => False

namespace Footing

/- The interrupt server cannot come in between. -/
def Quiet (w : Footing) : Prop :=
  0 < w.nest ∨ w.servers = 0

instance (w : Footing) : Decidable w.Quiet := by
  unfold Quiet
  infer_instance

/- The server is linked once, or not at all, and the driver
   knows. -/
def Grounded (w : Footing) : Prop :=
  w.servers = if w.signalTask then 1 else 0

/- Interrupts are disabled once more. -/
def disabled (w : Footing) : Footing :=
  { w with nest := w.nest + 1 }

theorem quiet_disabled (w : Footing) : w.disabled.Quiet :=
  Or.inl (Nat.succ_pos w.nest)

end Footing

/- The rule for a single operation. -/
def Disciplined (op : NicOp) (w : Footing) : Prop :=
  op.Touches → w.Quiet

/- A program keeps to the rule from the footing `w` on. -/
def Treads
    {α : Type}
    (w : Footing)
    (p : NicM α)
    (Q : α → Footing → Prop) : Prop :=
  Program.Walks NicOp.exec NicState.footing Disciplined Q p w

/- It does, and ends on the footing `w'`. -/
def Goes
    {α : Type}
    (w w' : Footing)
    (p : NicM α) : Prop :=
  Treads w p (fun _ w'' => w'' = w')

------------------------------------------------------------
-- Single Operations
------------------------------------------------------------

section Operations

variable {α β : Type} {w w' w'' : Footing}

theorem treads_pure
    {Q : α → Footing → Prop}
    {value : α}
    (hGoal : Q value w) :
    Treads w (pure value : NicM α) Q := by
  unfold Treads
  exact Program.Walks.pure hGoal

theorem Treads.bind
    {Q : α → Footing → Prop}
    {Q' : β → Footing → Prop}
    {p : NicM α}
    {f : α → NicM β}
    (hFirst : Treads w p Q)
    (hRest : ∀ a v, Q a v → Treads v (f a) Q') :
    Treads w (p >>= f) Q' := by
  unfold Treads at hFirst hRest ⊢
  exact Program.Walks.bind hFirst hRest

theorem Treads.ite
    {c : Prop} [Decidable c]
    {Q : α → Footing → Prop}
    {p q : NicM α}
    (hThen : c → Treads w p Q)
    (hElse : ¬ c → Treads w q Q) :
    Treads w (if c then p else q) Q := by
  unfold Treads at hThen hElse ⊢
  exact Program.Walks.ite hThen hElse

theorem treads_perform
    {op : NicOp}
    {Q : op.Ret → Footing → Prop}
    (hMeets : op.Touches → w.Quiet)
    (hGoal : ∀ n : NicState, n.footing = w →
      Q (NicOp.exec op n).1 (NicOp.exec op n).2.footing) :
    Treads w (Program.perform op : NicM op.Ret) Q := by
  unfold Treads
  exact Program.Walks.perform hMeets hGoal

/- The first part ends on a footing that is known. -/
theorem Goes.then
    {Q : β → Footing → Prop}
    {p : NicM α}
    {f : α → NicM β}
    (hFirst : Goes w w' p)
    (hRest : ∀ a, Treads w' (f a) Q) :
    Treads w (p >>= f) Q := by
  apply Treads.bind hFirst
  intro a v hEnd
  rw [hEnd]
  exact hRest a

theorem goes_pure (value : α) :
    Goes w w (pure value : NicM α) :=
  treads_pure rfl

theorem Goes.bind
    {p : NicM α}
    {f : α → NicM β}
    (hFirst : Goes w w' p)
    (hRest : ∀ a, Goes w' w'' (f a)) :
    Goes w w'' (p >>= f) :=
  hFirst.then hRest

theorem Goes.ite
    {c : Prop} [Decidable c]
    {p q : NicM α}
    (hThen : Goes w w' p)
    (hElse : Goes w w' q) :
    Goes w w' (if c then p else q) :=
  Treads.ite (fun _ => hThen) (fun _ => hElse)

theorem goes_onlyIf
    {c : Prop} [Decidable c]
    {p : NicM Unit}
    (hProgram : Goes w w p) :
    Goes w w (Program.onlyIf c p) :=
  Goes.ite hProgram (goes_pure ())

/- Operations that do not touch the chip. -/
theorem goes_perform
    {op : NicOp}
    (hMeets : op.Touches → w.Quiet)
    (hSame : ∀ n, (NicOp.exec op n).2.footing = n.footing) :
    Goes w w (Program.perform op : NicM op.Ret) := by
  apply treads_perform hMeets
  intro n hSeen
  rw [hSame, hSeen]

/- Operations that do not concern the footing at all. -/
theorem goes_inside
    {op : NicOp}
    (hInside : ¬ op.Touches)
    (hSame : ∀ n, (NicOp.exec op n).2.footing = n.footing) :
    Goes w w (Program.perform op : NicM op.Ret) :=
  goes_perform (fun hTouches => absurd hTouches hInside) hSame

theorem goes_getInterface : Goes w w getInterface := by
  apply goes_inside
  · exact id
  · exact fun _ => rfl

theorem goes_setInterface
    {f : NetInterface → NetInterface}
    (hSignalTask : ∀ i, (f i).signalTask = i.signalTask)
    (hSigNumber : ∀ i, (f i).sigNumber = i.sigNumber)
    (hRxBuffer : ∀ i, (f i).rxBuffer = i.rxBuffer) :
    Goes w w (setInterface f) := by
  apply goes_inside
  · exact id
  · intro n
    unfold NicState.footing NicOp.exec
    dsimp only
    rw [hSignalTask, hSigNumber, hRxBuffer]

theorem goes_disable : Goes w w.disabled disable := by
  apply treads_perform
  · exact False.elim
  · intro n hSeen
    rw [← hSeen]
    rfl

theorem goes_enable : Goes w.disabled w enable := by
  apply treads_perform
  · exact False.elim
  · intro n hSeen
    rw [NicState.footing, Footing.disabled,
      Footing.mk.injEq] at hSeen
    rcases hSeen with
      ⟨hNest, hServers, hTask, hNumber, hBuffer⟩
    show Footing.mk (n.nest - 1) n.servers
      n.iface.signalTask n.iface.sigNumber
        n.iface.rxBuffer = w
    rw [hNest, hServers, hTask, hNumber, hBuffer,
      Nat.add_sub_cancel]

theorem goes_delay (ticks : Nat) :
    Goes w w (delay ticks) := by
  apply goes_inside
  · exact id
  · exact fun _ => rfl

theorem goes_onPacketReceived
    (buffer : Memory) (size : UWORD) :
    Goes w w (onPacketReceived buffer size) := by
  apply goes_inside
  · exact id
  · exact fun _ => rfl

theorem goes_linkChangeFunction :
    Goes w w linkChangeFunction := by
  apply goes_inside
  · exact id
  · exact fun _ => rfl

------------------------------------------------------------
-- Register and Queue Access
------------------------------------------------------------

theorem goes_cmdReg
    (hQuiet : w.Quiet) (v : UWORD) : Goes w w (cmdReg v) :=
  goes_perform (fun _ => hQuiet) (fun _ => rfl)

theorem goes_dataReg
    (hQuiet : w.Quiet) (v : UWORD) : Goes w w (dataReg v) :=
  goes_perform (fun _ => hQuiet) (fun _ => rfl)

theorem goes_readDataReg (hQuiet : w.Quiet) :
    Goes w w readDataReg :=
  goes_perform (fun _ => hQuiet) (fun _ => rfl)

theorem goes_readReg
    (hQuiet : w.Quiet) (offset : UBYTE) :
    Goes w w (ksz8851ReadReg offset) :=
  goes_getInterface.bind (fun _ =>
    (goes_cmdReg hQuiet _).bind (fun _ =>
      goes_readDataReg hQuiet))

theorem goes_writeReg
    (hQuiet : w.Quiet) (offset : UBYTE) (value : UWORD) :
    Goes w w (ksz8851WriteReg offset value) :=
  goes_getInterface.bind (fun _ =>
    (goes_cmdReg hQuiet _).bind (fun _ =>
      goes_dataReg hQuiet value))

theorem goes_setBit
    (hQuiet : w.Quiet) (address : UBYTE) (mask : UWORD) :
    Goes w w (ksz8851SetBit address mask) :=
  (goes_readReg hQuiet address).bind (fun _ =>
    goes_writeReg hQuiet address _)

theorem goes_clearBit
    (hQuiet : w.Quiet) (address : UBYTE) (mask : UWORD) :
    Goes w w (ksz8851ClearBit address mask) :=
  (goes_readReg hQuiet address).bind (fun _ =>
    goes_writeReg hQuiet address _)

theorem goes_writeWords
    (hQuiet : w.Quiet)
    (mode : Bool)
    (data : Memory)
    (count i : Nat) :
    Goes w w (writeWords mode data count i) := by
  induction count generalizing i with
  | zero => exact goes_pure ()
  | succ count ih =>
      exact (goes_dataReg hQuiet _).bind (fun _ => ih (i + 1))

theorem goes_writeFifo
    (hQuiet : w.Quiet) (data : Memory) (length : Nat) :
    Goes w w (ksz8851WriteFifo data length) :=
  goes_getInterface.bind (fun _ =>
    goes_writeWords hQuiet _ data _ 0)

theorem goes_writeFifoWordAlign
    (hQuiet : w.Quiet) (data : Memory) (length : Nat) :
    Goes w w (ksz8851WriteFifoWordAlign data length) :=
  goes_getInterface.bind (fun _ =>
    (goes_writeWords hQuiet _ data _ 0).bind (fun _ =>
      goes_pure _))

theorem goes_readWords
    (hQuiet : w.Quiet)
    (mode : Bool)
    (count i : Nat)
    (data : Memory) :
    Goes w w (readWords mode count i data) := by
  induction count generalizing i data with
  | zero => exact goes_pure data
  | succ count ih =>
      exact (goes_readDataReg hQuiet).bind (fun _ =>
        ih (i + 1) _)

theorem goes_readFifo
    (hQuiet : w.Quiet) (length : Nat) :
    Goes w w (ksz8851ReadFifo length) :=
  goes_getInterface.bind (fun _ =>
    (goes_readWords hQuiet _ _ 0 _).bind (fun _ =>
      goes_setInterface (fun _ => rfl) (fun _ => rfl)
        (fun _ => rfl)))

------------------------------------------------------------
-- Initialization
------------------------------------------------------------

/- Detection does not itself disable interrupts. -/
theorem goes_detectNICEndiness (hQuiet : w.Quiet) :
    Goes w w ksz8851DetectNICEndiness :=
  (goes_readReg hQuiet regCider).bind (fun _ =>
    Goes.ite
      ((goes_setInterface (fun _ => rfl) (fun _ => rfl)
        (fun _ => rfl)).bind (fun _ =>
          (goes_readReg hQuiet regCider).bind (fun _ =>
            Goes.ite (goes_pure _) (goes_pure _))))
      (goes_pure _))

theorem goes_resetInMode
    (hQuiet : w.Quiet) (bigEndian : Bool) :
    Goes w w (resetInMode bigEndian) :=
  (goes_setInterface (fun _ => rfl) (fun _ => rfl)
    (fun _ => rfl)).bind (fun _ =>
      (goes_writeReg hQuiet regGrr _).bind (fun _ =>
        goes_writeReg hQuiet regGrr _))

theorem goes_detectLoop
    (hQuiet : w.Quiet) (tries : Nat) :
    Goes w w (detectLoop tries) := by
  induction tries with
  | zero =>
      exact (goes_detectNICEndiness hQuiet).bind (fun _ =>
        Goes.ite (goes_pure ())
          ((goes_resetInMode hQuiet false).bind (fun _ =>
            goes_resetInMode hQuiet true)))
  | succ tries ih =>
      exact (goes_detectNICEndiness hQuiet).bind (fun _ =>
        Goes.ite (goes_pure ())
          ((goes_resetInMode hQuiet false).bind (fun _ =>
            (goes_resetInMode hQuiet true).bind (fun _ =>
              ih))))

theorem goes_softReset
    (hQuiet : w.Quiet) (resetOperation : UWORD) :
    Goes w w (ksz8851SoftReset resetOperation) := by
  unfold ksz8851SoftReset
  refine (goes_detectNICEndiness hQuiet).bind fun _ => ?_
  refine Goes.ite (goes_pure ()) ?_
  refine (goes_readReg hQuiet regIsr).bind fun _ => ?_
  refine (goes_writeReg hQuiet regIsr _).bind fun _ => ?_
  refine (goes_writeReg hQuiet regGrr _).bind fun _ => ?_
  refine (goes_delay 25).bind fun _ => ?_
  refine (goes_writeReg hQuiet regGrr _).bind fun _ => ?_
  refine (goes_delay 10).bind fun _ => ?_
  refine (goes_detectNICEndiness hQuiet).bind fun _ => ?_
  exact Goes.ite (goes_pure ()) (goes_writeReg hQuiet regIsr _)

theorem goes_switchEndianessMode
    (hQuiet : w.Quiet) (bigEndian : Bool) :
    Goes w w (ksz8851SwitchEndianessMode bigEndian) :=
  (goes_readReg hQuiet regRxfdpr).bind (fun _ =>
    (goes_writeReg hQuiet regRxfdpr _).bind (fun _ =>
      goes_setInterface (fun _ => rfl) (fun _ => rfl)
        (fun _ => rfl)))

theorem goes_configureRegisters (hQuiet : w.Quiet) :
    Goes w w configureRegisters := by
  unfold configureRegisters
  refine (goes_writeReg hQuiet regTxcr _).bind fun _ => ?_
  refine (goes_writeReg hQuiet regTxfdpr _).bind fun _ => ?_
  refine (goes_writeReg hQuiet regRxcr1 _).bind fun _ => ?_
  refine (goes_writeReg hQuiet regRxcr2 _).bind fun _ => ?_
  refine (goes_writeReg hQuiet regRxqcr _).bind fun _ => ?_
  refine goes_getInterface.bind fun _ => ?_
  refine (goes_writeReg hQuiet regRxfdpr _).bind fun _ => ?_
  refine (goes_writeReg hQuiet regRxfctr _).bind fun _ => ?_
  refine (goes_clearBit hQuiet regP1cr _).bind fun _ => ?_
  exact goes_setBit hQuiet regP1cr _

namespace Footing

/- The receive buffer was allocated, or was not. -/
def allocated (w : Footing) (rxBuffer : Bool) : Footing :=
  { w with rxBuffer := rxBuffer }

/- The interrupt server is unlinked. -/
def unlinked (w : Footing) : Footing :=
  if w.signalTask then
    { w with
      servers := w.servers - 1
      signalTask := false
      sigNumber := -1 }
  else w

/- The interrupt server is linked with a signal. -/
def linked (w : Footing) (sigNumber : Int) : Footing :=
  { w with
    servers := w.servers + 1
    signalTask := true
    sigNumber := sigNumber }

end Footing

theorem goes_setRxBuffer (allocated : Bool) :
    Goes w (w.allocated allocated)
      (setInterface (fun iface =>
        { iface with rxBuffer := allocated })) := by
  apply treads_perform
  · exact False.elim
  · intro n hSeen
    rw [← hSeen]
    rfl

/- Success means that the receive buffer is there. -/
theorem treads_init :
    Treads w ksz8851Init (fun result w' =>
      ∃ rxBuffer, w' = w.allocated rxBuffer ∧
        (result = noError → rxBuffer = true)) := by
  have hQuiet := w.quiet_disabled
  unfold ksz8851Init
  refine goes_disable.then fun _ => ?_
  refine (goes_detectLoop hQuiet 2).then fun _ => ?_
  refine (goes_softReset hQuiet _).then fun _ => ?_
  refine (goes_readReg hQuiet regCider).then fun cider => ?_
  apply Treads.ite
  · intro _
    refine goes_enable.then fun _ => ?_
    apply treads_pure
    refine ⟨w.rxBuffer, rfl, ?_⟩
    intro hSuccess
    cases hSuccess
  · intro _
    refine (goes_switchEndianessMode hQuiet true).then
      fun _ => ?_
    refine Goes.then (goes_setInterface (fun _ => rfl)
      (fun _ => rfl) (fun _ => rfl)) fun _ => ?_
    have hAlloc : Goes w.disabled w.disabled memPoolAlloc := by
      apply goes_inside
      · exact id
      · exact fun _ => rfl
    refine hAlloc.then fun allocated => ?_
    refine (goes_setRxBuffer allocated).then fun _ => ?_
    have hEnable :
        Goes (w.disabled.allocated allocated)
          (w.allocated allocated) enable :=
      goes_enable
    have hQuiet' : (w.disabled.allocated allocated).Quiet :=
      hQuiet
    apply Treads.ite
    · intro hAllocated
      refine (goes_configureRegisters hQuiet').then
        fun _ => ?_
      refine hEnable.then fun _ => ?_
      exact treads_pure ⟨allocated, rfl, fun _ => hAllocated⟩
    · intro _
      refine hEnable.then fun _ => ?_
      apply treads_pure
      refine ⟨allocated, rfl, ?_⟩
      intro hSuccess
      cases hSuccess

theorem goes_setNetworkAddress (addr : MacAddr) :
    Goes w w (ksz8851SetNetworkAddress addr) := by
  have hQuiet := w.quiet_disabled
  unfold ksz8851SetNetworkAddress
  refine goes_disable.bind fun _ => ?_
  refine (goes_writeReg hQuiet regMarh _).bind fun _ => ?_
  refine (goes_writeReg hQuiet regMarm _).bind fun _ => ?_
  refine (goes_writeReg hQuiet regMarl _).bind fun _ => ?_
  exact goes_enable

------------------------------------------------------------
-- Going Online and Offline
------------------------------------------------------------

/- The interrupt server is linked, or there is no signal. -/
inductive Installs (w : Footing) : Footing → Prop where
| already (hTask : w.signalTask = true) : Installs w w
| noSignal (hTask : w.signalTask = false) :
    Installs w { w with sigNumber := -1 }
| links
    (hTask : w.signalTask = false)
    (sigNumber : Int)
    (hSignal : sigNumber ≠ -1) :
    Installs w (w.linked sigNumber)

/- Storing a field of the interface that belongs to the
   footing. -/
theorem treads_setInterface
    {f : NetInterface → NetInterface}
    {Q : Unit → Footing → Prop}
    (hGoal : ∀ n : NicState, n.footing = w →
      Q () { n with iface := f n.iface }.footing) :
    Treads w (setInterface f) Q := by
  apply treads_perform
  · exact False.elim
  · exact hGoal

theorem treads_installInterruptHandler :
    Treads w installInterruptHandler
      (fun _ w' => Installs w w') := by
  have hGet :
      Treads w getInterface (fun context w' =>
        w' = w ∧ context.signalTask = w.signalTask) := by
    apply treads_perform
    · exact False.elim
    · intro n hSeen
      exact ⟨hSeen, congrArg Footing.signalTask hSeen⟩
  unfold installInterruptHandler
  refine hGet.bind fun context v hContext => ?_
  rcases hContext with ⟨hSame, hTask⟩
  subst hSame
  apply Treads.ite
  · intro hInstalled
    exact treads_pure (.already (hTask ▸ hInstalled))
  · intro hNot
    have hNone : v.signalTask = false := by
      rw [← hTask]
      simpa using hNot
    have hMarked :
        Goes v { v with signalTask := true }
          (setInterface (fun iface =>
            { iface with signalTask := true })) := by
      apply treads_setInterface
      intro n hSeen
      rw [← hSeen]
      rfl
    refine hMarked.then fun _ => ?_
    have hAlloc :
        Goes { v with signalTask := true }
          { v with signalTask := true } allocSignal := by
      apply goes_inside
      · exact id
      · exact fun _ => rfl
    refine hAlloc.then fun sigNumber => ?_
    have hStored :
        Goes { v with signalTask := true }
          { v with
            signalTask := true, sigNumber := sigNumber }
          (setInterface (fun iface =>
            { iface with sigNumber := sigNumber })) := by
      apply treads_setInterface
      intro n hSeen
      have hMarked := congrArg
        (fun u : Footing => { u with sigNumber := sigNumber })
        hSeen
      exact hMarked
    refine hStored.then fun _ => ?_
    apply Treads.ite
    · intro hFailed
      have hCleared :
          ({ v with sigNumber := -1 } : Footing) =
            { v with signalTask := false, sigNumber := -1 } := by
        rw [← hNone]
      have hBack :
          Goes
            { v with
              signalTask := true, sigNumber := sigNumber }
            { v with sigNumber := -1 }
            (setInterface (fun iface =>
              { iface with signalTask := false })) := by
        apply treads_setInterface
        intro n hSeen
        have hBack := congrArg
          (fun u : Footing => { u with signalTask := false })
          hSeen
        rw [hFailed] at hBack
        rw [hCleared]
        exact hBack
      refine hBack.then fun _ => ?_
      exact treads_pure (.noSignal hNone)
    · intro hSignal
      have hLinked :
          Goes
            { v with
              signalTask := true, sigNumber := sigNumber }
            (v.linked sigNumber) addIntServer := by
        apply treads_perform
        · exact False.elim
        · intro n hSeen
          have hAdded := congrArg
            (fun u : Footing =>
              { u with servers := u.servers + 1 }) hSeen
          exact hAdded
      refine hLinked.then fun _ => ?_
      exact treads_pure (.links hNone sigNumber hSignal)

/- The rest of going online is done under `Disable`. -/
theorem goes_enableInterrupts :
    Goes w w (do
      disable
      ksz8851SetBit regIsr onlineIsrMask
      ksz8851SetBit regIer onlineIerMask
      ksz8851SetBit regTxcr txcrTxe
      ksz8851SetBit regRxcr1 rxcr1Rxe
      enable) := by
  have hQuiet := w.quiet_disabled
  refine goes_disable.bind fun _ => ?_
  refine (goes_setBit hQuiet regIsr _).bind fun _ => ?_
  refine (goes_setBit hQuiet regIer _).bind fun _ => ?_
  refine (goes_setBit hQuiet regTxcr _).bind fun _ => ?_
  refine (goes_setBit hQuiet regRxcr1 _).bind fun _ => ?_
  exact goes_enable

theorem treads_online :
    Treads w ksz8851Online (fun _ w' => Installs w w') := by
  unfold ksz8851Online
  refine treads_installInterruptHandler.bind
    fun _ v hInstalls => ?_
  apply Program.Walks.mono (goes_enableInterrupts (w := v))
  intro _ v' hEnd
  rw [hEnd]
  exact hInstalls

theorem goes_uninstallInterruptHandler :
    Goes w w.unlinked uninstallInterruptHandler := by
  have hGet :
      Treads w getInterface (fun context w' =>
        w' = w ∧ context.signalTask = w.signalTask) := by
    apply treads_perform
    · exact False.elim
    · intro n hSeen
      exact ⟨hSeen, congrArg Footing.signalTask hSeen⟩
  unfold uninstallInterruptHandler
  refine hGet.bind fun context v hContext => ?_
  rcases hContext with ⟨hSame, hTask⟩
  subst hSame
  rw [hTask]
  unfold Footing.unlinked
  by_cases hInstalled : v.signalTask = true
  · rw [if_pos hInstalled, if_pos hInstalled]
    have hRemoved :
        Goes v { v with servers := v.servers - 1 }
          remIntServer := by
      apply treads_perform
      · exact False.elim
      · intro n hSeen
        rw [← hSeen]
        rfl
    have hMarked :
        Goes { v with servers := v.servers - 1 }
          { v with
            servers := v.servers - 1, signalTask := false }
          (setInterface (fun iface =>
            { iface with signalTask := false })) := by
      apply treads_setInterface
      intro n hSeen
      exact congrArg
        (fun u : Footing => { u with signalTask := false })
        hSeen
    have hFreed (u : Footing) : Goes u u freeSignal := by
      apply goes_inside
      · exact id
      · exact fun _ => rfl
    refine hRemoved.bind fun _ => ?_
    refine hMarked.bind fun _ => ?_
    refine (hFreed _).bind fun _ => ?_
    apply treads_setInterface
    intro n hSeen
    exact congrArg
      (fun u : Footing => { u with sigNumber := -1 }) hSeen
  · rw [if_neg hInstalled, if_neg hInstalled]
    exact goes_pure ()

theorem goes_offline :
    Goes w w.unlinked ksz8851Offline := by
  have hQuiet := w.quiet_disabled
  unfold ksz8851Offline
  refine goes_disable.bind fun _ => ?_
  refine (goes_writeReg hQuiet regIer _).bind fun _ => ?_
  refine (goes_clearBit hQuiet regTxcr _).bind fun _ => ?_
  refine (goes_clearBit hQuiet regRxcr1 _).bind fun _ => ?_
  refine goes_enable.bind fun _ => ?_
  exact goes_uninstallInterruptHandler

------------------------------------------------------------
-- Sending
------------------------------------------------------------

theorem goes_nextControlWord : Goes w w nextControlWord :=
  goes_getInterface.bind (fun _ =>
    Goes.bind (goes_setInterface (fun _ => rfl) (fun _ => rfl)
      (fun _ => rfl)) (fun _ => goes_pure _))

theorem goes_sendPacket (buffer : Memory) (length : Nat) :
    Goes w w (ksz8851SendPacket buffer length) := by
  have hQuiet := w.quiet_disabled
  unfold ksz8851SendPacket
  refine Goes.ite (goes_pure _) ?_
  refine goes_disable.bind fun _ => ?_
  refine (goes_readReg hQuiet regTxmir).bind fun txmir => ?_
  refine Goes.ite ?_ ?_
  · exact goes_enable.bind fun _ => goes_pure _
  refine goes_nextControlWord.bind fun _ => ?_
  refine (goes_setBit hQuiet regRxqcr _).bind fun _ => ?_
  refine (goes_writeFifo hQuiet _ 4).bind fun _ => ?_
  refine (goes_writeFifo hQuiet buffer _).bind fun _ => ?_
  refine (goes_clearBit hQuiet regRxqcr _).bind fun _ => ?_
  refine (goes_setBit hQuiet regTxqcr _).bind fun _ => ?_
  exact goes_enable.bind fun _ => goes_pure _

theorem goes_writeCookedFrame
    (hQuiet : w.Quiet)
    (header dst src : Memory)
    (packetType : UWORD)
    (payload : Memory)
    (payloadLength : Nat) :
    Goes w w (writeCookedFrame header dst src packetType
      payload payloadLength) := by
  have hAlign (data : Memory) (length : Nat) :=
    goes_writeFifoWordAlign hQuiet data length
  unfold writeCookedFrame
  refine (hAlign header 4).bind fun _ => ?_
  refine (hAlign dst 6).bind fun _ => ?_
  refine (hAlign src 6).bind fun _ => ?_
  refine (hAlign _ 2).bind fun _ => ?_
  refine (hAlign payload _).bind fun realSend => ?_
  exact Goes.ite (goes_dataReg hQuiet _) (goes_pure ())

theorem goes_sendPacketCooked
    (dst src : Memory)
    (packetType : UWORD)
    (payload : Memory)
    (payloadLength : Nat) :
    Goes w w (ksz8851SendPacketCooked dst src packetType
      payload payloadLength) := by
  have hQuiet := w.quiet_disabled
  unfold ksz8851SendPacketCooked
  refine goes_disable.bind fun _ => ?_
  refine (goes_readReg hQuiet regTxmir).bind fun txmir => ?_
  refine Goes.ite ?_ ?_
  · exact goes_enable.bind fun _ => goes_pure _
  refine goes_nextControlWord.bind fun _ => ?_
  refine (goes_setBit hQuiet regRxqcr _).bind fun _ => ?_
  refine (goes_writeCookedFrame hQuiet _ dst src packetType
    payload _).bind fun _ => ?_
  refine (goes_clearBit hQuiet regRxqcr _).bind fun _ => ?_
  refine (goes_setBit hQuiet regTxqcr _).bind fun _ => ?_
  exact goes_enable.bind fun _ => goes_pure _

------------------------------------------------------------
-- Receiving
------------------------------------------------------------

/- Interrupts are enabled while a packet is delivered, and the
   chip is not touched then. -/
theorem goes_receivePacket :
    Goes w.disabled w.disabled ksz8851ReceivePacket := by
  have hQuiet := w.quiet_disabled
  unfold ksz8851ReceivePacket
  refine (goes_readReg hQuiet regRxfhsr).bind
    fun frameStatus => ?_
  refine Goes.ite ?_ ?_
  · refine (goes_onlyIf
      (goes_setBit hQuiet regRxqcr _)).bind fun _ => ?_
    exact goes_pure _
  refine (goes_readReg hQuiet regRxfhbcr).bind
    fun rxfhbcr => ?_
  refine Goes.ite ?_ ?_
  · refine goes_getInterface.bind fun _ => ?_
    refine (goes_writeReg hQuiet regRxfdpr _).bind fun _ => ?_
    refine (goes_setBit hQuiet regRxqcr _).bind fun _ => ?_
    refine (goes_readDataReg hQuiet).bind fun _ => ?_
    refine (goes_readDataReg hQuiet).bind fun _ => ?_
    refine (goes_readDataReg hQuiet).bind fun _ => ?_
    refine (goes_readFifo hQuiet _).bind fun _ => ?_
    refine (goes_clearBit hQuiet regRxqcr _).bind fun _ => ?_
    refine goes_enable.bind fun _ => ?_
    refine goes_getInterface.bind fun _ => ?_
    refine (goes_onlyIf (goes_onPacketReceived _ _)).bind
      fun _ => ?_
    refine goes_disable.bind fun _ => ?_
    exact goes_pure _
  · refine (goes_setBit hQuiet regRxqcr _).bind fun _ => ?_
    exact goes_pure _

theorem goes_receiveLoop (frameCount : Nat) :
    Goes w.disabled w.disabled (receiveLoop frameCount) := by
  induction frameCount with
  | zero => exact goes_pure ()
  | succ frameCount ih =>
      exact goes_receivePacket.bind (fun _ => ih)

theorem goes_notifyLinkChange :
    Goes w w notifyLinkChange :=
  goes_getInterface.bind (fun _ =>
    goes_onlyIf goes_linkChangeFunction)

theorem goes_handleLinkChange
    (hQuiet : w.Quiet) (status : UWORD) :
    Goes w w (handleLinkChange status) := by
  have hUpdate (status : UWORD) :
      Goes w w (setInterface (fun iface =>
        iface.updateLink status)) := by
    apply goes_setInterface
    all_goals
      intro iface
      unfold NetInterface.updateLink
      split <;> rfl
  unfold handleLinkChange
  refine Goes.ite ?_ (goes_pure _)
  refine (goes_writeReg hQuiet regIsr _).bind fun _ => ?_
  refine (goes_readReg hQuiet regP1sr).bind fun status => ?_
  refine (hUpdate status).bind fun _ => ?_
  refine goes_notifyLinkChange.bind fun _ => ?_
  exact goes_pure _

theorem goes_handleReceive (status enableMask : UWORD) :
    Goes w.disabled w.disabled
      (handleReceive status enableMask) := by
  have hQuiet := w.quiet_disabled
  unfold handleReceive
  refine Goes.ite ?_ (goes_pure _)
  refine (goes_writeReg hQuiet regIsr _).bind fun _ => ?_
  refine (goes_readReg hQuiet regRxfctr).bind fun _ => ?_
  refine (goes_receiveLoop _).bind fun _ => ?_
  exact goes_pure _

theorem goes_handleOverrun
    (hQuiet : w.Quiet) (status enableMask : UWORD) :
    Goes w w (handleOverrun status enableMask) := by
  unfold handleOverrun
  refine Goes.ite ?_ (goes_pure _)
  refine Goes.bind (goes_setInterface (fun _ => rfl)
    (fun _ => rfl) (fun _ => rfl)) fun _ => ?_
  refine (goes_setBit hQuiet regIsr _).bind fun _ => ?_
  exact goes_pure _

theorem goes_handleWakeup (status enableMask : UWORD) :
    Goes w w (handleWakeup status enableMask) := by
  unfold handleWakeup
  refine Goes.ite ?_ (goes_pure _)
  exact goes_notifyLinkChange.bind fun _ => goes_pure _

theorem goes_eventHandler :
    Goes w w ksz8851EventHandler := by
  have hQuiet := w.quiet_disabled
  unfold ksz8851EventHandler
  refine goes_disable.bind fun _ => ?_
  refine (goes_readReg hQuiet regIsr).bind fun status => ?_
  refine (goes_handleLinkChange hQuiet status).bind
    fun linked => ?_
  refine (goes_handleReceive linked.1 linked.2).bind
    fun _ => ?_
  refine (goes_handleOverrun hQuiet linked.1 _).bind
    fun _ => ?_
  refine (goes_handleWakeup linked.1 _).bind fun _ => ?_
  refine (goes_setBit hQuiet regIer _).bind fun _ => ?_
  exact goes_enable.bind fun _ => goes_pure _

end Operations

end KszDriver
