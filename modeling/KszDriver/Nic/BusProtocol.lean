import KszDriver.Nic.BringUp
import KszDriver.Nic.BusMonitor

/-
  The operations of the low level driver keep to the protocol
  of the host bus, in every sequence.

  Main declarations:
    * `Moves`
    * `moves_ksz8851SendPacket`, `moves_ksz8851ReceivePacket`
    * `BusCall`, `ConformsAlong`
    * `conformsAlong_calls`
-/

------------------------------------------------------------
-- Phases
------------------------------------------------------------

namespace KszDriver

namespace BusView

/- The queues are closed, and nothing is left to start. -/
structure Idle (enabled : Bool) (w : BusView) : Prop where
  sda : w.sda = false
  owed : w.monitor.owed = false
  enabled : w.monitor.enabled = enabled

/- The queues are open, and have been used as `transfer`
   says. -/
structure Window (transfer : Transfer) (w : BusView) :
    Prop where
  armed : w.armed = false
  sda : w.sda = true
  owed : w.monitor.owed = false
  enabled : w.monitor.enabled = false
  transfer : w.monitor.transfer = transfer

/- As when an operation ends, with interrupts enabled or
   not. -/
def AtRest (w : BusView) : Prop :=
  w.sda = false ∧ w.monitor.owed = false

/- The frame pointer has just been reset. -/
def Primed (w : BusView) : Prop :=
  w.Idle false ∧ w.monitor.primed = true

/- The queues are open for receiving. -/
def Receiving (w : BusView) : Prop :=
  (∃ transfer, w.Window transfer ∧ transfer ≠ .transmit) ∧
    w.monitor.primed = true

/- A transmission has to be started. -/
structure Owing (w : BusView) : Prop where
  sda : w.sda = false
  owed : w.monitor.owed = true
  enabled : w.monitor.enabled = false

theorem calm_of_closed
    {w : BusView}
    (hClosed : w.sda = false) :
    w.Calm := fun _ => hClosed

theorem Idle.atRest
    {enabled : Bool}
    {w : BusView}
    (hIdle : w.Idle enabled) :
    w.AtRest :=
  ⟨hIdle.sda, hIdle.owed⟩

theorem Window.calm
    {transfer : Transfer}
    {w : BusView}
    (hWindow : w.Window transfer) :
    w.Calm := by
  intro hEnabled
  rw [hWindow.enabled] at hEnabled
  cases hEnabled

/- What a read of a register leaves. -/
section Read

variable (offset : UBYTE) (w : BusView)

@[simp] theorem sda_read :
    (w.read offset).sda = w.sda := rfl

@[simp] theorem monitor_read_rxqcr :
    (w.read regRxqcr).monitor = w.monitor := rfl

@[simp] theorem owed_read :
    (w.read offset).monitor.owed = w.monitor.owed := by
  unfold read BusMonitor.next
  dsimp only
  split <;> rfl

@[simp] theorem enabled_read :
    (w.read offset).monitor.enabled = w.monitor.enabled := by
  unfold read BusMonitor.next
  dsimp only
  split <;> rfl

end Read

/- What a write to another register than `RXQCR` leaves. -/
theorem write_of_ne
    {offset : UBYTE}
    (hOther : offset ≠ regRxqcr)
    (v : UWORD)
    (w : BusView) :
    w.write offset v =
      { selected := offset
        armed := false
        sda := w.sda
        monitor := w.monitor.written offset v } := by
  unfold write BusMonitor.next
  rw [if_neg hOther]
  simp only [if_neg hOther]

/- A write to `RXQCR`. -/
theorem write_rxqcr (v : UWORD) (w : BusView) :
    w.write regRxqcr v =
      { selected := regRxqcr
        armed := false
        sda := decide (OpensQueues v)
        monitor :=
          if OpensQueues v then w.monitor.opened w.sda
          else w.monitor.closed w.sda } := by
  unfold write BusMonitor.next
  simp only [if_pos]

end BusView

------------------------------------------------------------
-- Moving from Phase to Phase
------------------------------------------------------------

/- From every view that meets `P` the program keeps to the
   protocol, and ends in one that meets `Q`. -/
def Moves {α : Type} (P Q : BusView → Prop)
    (program : NicM α) : Prop :=
  ∀ w, P w → Drives w program (fun _ w' => Q w')

open BusView

section Rules

variable {α β : Type} {P Q R : BusView → Prop}

namespace Moves

theorem pure (value : α) : Moves P P (pure value) :=
  fun _ hView => hView

theorem bind
    {p : NicM α}
    {f : α → NicM β}
    (hFirst : Moves P Q p)
    (hRest : ∀ a, Moves Q R (f a)) :
    Moves P R (p >>= f) :=
  fun w hView => (hFirst w hView).bind (hRest ·)

theorem ite
    {c : Prop} [Decidable c]
    {p q : NicM α}
    (hThen : Moves P Q p)
    (hElse : Moves P Q q) :
    Moves P Q (if c then p else q) :=
  fun w hView => Program.Walks.ite
    (fun _ => hThen w hView) (fun _ => hElse w hView)

theorem onlyIf
    {c : Prop} [Decidable c]
    {p : NicM Unit}
    (hThen : Moves P P p) :
    Moves P P (Program.onlyIf c p) :=
  hThen.ite (pure ())

/- The last phase may be weakened. -/
theorem weaken
    {p : NicM α}
    (hMoves : Moves P Q p)
    (hWeaker : ∀ w, Q w → R w) :
    Moves P R p :=
  fun w hView => (hMoves w hView).mono (fun _ => hWeaker)

end Moves

theorem moves_silent
    (op : NicOp)
    (hSilent : op.Silent)
    (hCalm : ∀ w, P w → w.Calm) :
    Moves P P (Program.perform op) := by
  intro w hView
  apply (drives_silent op hSilent (hCalm w hView)).mono
  rintro _ w' rfl
  exact hView

end Rules

------------------------------------------------------------
-- Closed Queues
------------------------------------------------------------

section Idle

variable {enabled : Bool}

theorem idle_silent
    (op : NicOp)
    (hSilent : op.Silent) :
    Moves (Idle enabled) (Idle enabled)
      (Program.perform op) :=
  moves_silent op hSilent (fun _ hIdle => calm_of_closed hIdle.sda)

theorem idle_getInterface :
    Moves (Idle enabled) (Idle enabled) getInterface :=
  idle_silent .getInterface trivial

theorem idle_setInterface (f : NetInterface → NetInterface) :
    Moves (Idle enabled) (Idle enabled) (setInterface f) :=
  idle_silent (.setInterface f) trivial

theorem idle_disable :
    Moves (Idle enabled) (Idle false) disable := by
  intro w hIdle
  apply (drives_disable (calm_of_closed hIdle.sda)).mono
  rintro _ w' rfl
  exact ⟨hIdle.sda, hIdle.owed, rfl⟩

theorem idle_enable :
    Moves (Idle enabled) (Idle true) enable := by
  intro w hIdle
  apply (drives_enable (calm_of_closed hIdle.sda)).mono
  rintro _ w' rfl
  exact ⟨hIdle.sda, hIdle.owed, rfl⟩

theorem idle_readReg (offset : UBYTE) :
    Moves (Idle enabled) (Idle enabled)
      (ksz8851ReadReg offset) := by
  intro w hIdle
  have hRead := drives_readReg offset
    (calm_of_closed hIdle.sda) (by simp [hIdle.sda])
  apply hRead.mono
  rintro v w' ⟨rfl, -⟩
  exact ⟨hIdle.sda, (owed_read offset w).trans hIdle.owed,
    (enabled_read offset w).trans hIdle.enabled⟩

/- These registers have no part in the protocol, as far as
   writing to them goes. -/
theorem idle_writeReg
    {offset : UBYTE}
    (hRxqcr : offset ≠ regRxqcr)
    (hTxqcr : offset ≠ regTxqcr)
    (v : UWORD) :
    Moves (Idle enabled) (Idle enabled)
      (ksz8851WriteReg offset v) := by
  intro w hIdle
  have hWrite := drives_writeReg offset v
    (calm_of_closed hIdle.sda) (by simp [hIdle.sda])
    (fun hOffset => absurd hOffset hTxqcr)
    (fun hOffset => absurd hOffset hRxqcr)
  apply hWrite.mono
  rintro _ w' rfl
  rw [write_of_ne hRxqcr]
  exact ⟨hIdle.sda, by simp [BusMonitor.written, hIdle.owed],
    hIdle.enabled⟩

theorem idle_setBit
    {offset : UBYTE}
    (hRxqcr : offset ≠ regRxqcr)
    (hTxqcr : offset ≠ regTxqcr)
    (mask : UWORD) :
    Moves (Idle enabled) (Idle enabled)
      (ksz8851SetBit offset mask) :=
  (idle_readReg offset).bind
    (fun _ => idle_writeReg hRxqcr hTxqcr _)

theorem idle_clearBit
    {offset : UBYTE}
    (hRxqcr : offset ≠ regRxqcr)
    (hTxqcr : offset ≠ regTxqcr)
    (mask : UWORD) :
    Moves (Idle enabled) (Idle enabled)
      (ksz8851ClearBit offset mask) :=
  (idle_readReg offset).bind
    (fun _ => idle_writeReg hRxqcr hTxqcr _)

end Idle

------------------------------------------------------------
-- Windows
------------------------------------------------------------

/- `SDA` decides whether a value opens the queues. -/
theorem opensQueues_set (v : UWORD) :
    OpensQueues (v ||| rxqcrSda) := by
  intro hNone
  have hBit := congrArg (fun w => w.getLsbD 3) hNone
  simp [rxqcrSda] at hBit

theorem not_opensQueues_clear (v : UWORD) :
    ¬ OpensQueues (v &&& ~~~rxqcrSda) := by
  have hNone : ~~~rxqcrSda &&& rxqcrSda = 0#16 := by decide
  unfold OpensQueues
  rw [BitVec.and_assoc, hNone, BitVec.and_zero]
  exact fun hNe => hNe rfl

theorem opensQueues_release (v : UWORD) :
    OpensQueues (v ||| rxqcrRrxef) ↔ OpensQueues v := by
  have hNone : rxqcrRrxef &&& rxqcrSda = 0#16 := by decide
  unfold OpensQueues
  rw [BitVec.and_or_distrib_right, hNone, BitVec.or_zero]

/- Changing `RXQCR`, with the queues open or not. -/
theorem drives_rxqcr
    {w : BusView}
    (f : UWORD → UWORD)
    (hCalm : w.Calm)
    (hOpens : ∀ v, decide (OpensQueues v) = w.sda →
      OpensQueues (f v) → w.monitor.owed = false) :
    Drives w
      (do
        let value ← ksz8851ReadReg regRxqcr
        ksz8851WriteReg regRxqcr (f value))
      (fun _ w' => ∃ v, decide (OpensQueues v) = w.sda ∧
        w' = w.write regRxqcr (f v)) := by
  refine (drives_readReg regRxqcr hCalm (fun _ => rfl)).bind ?_
  rintro v w' ⟨rfl, hValue⟩
  have hWrite := drives_writeReg (w := w.read regRxqcr)
    regRxqcr (f v) hCalm (fun _ => rfl)
    (fun hOther => absurd hOther (by decide))
    (fun _ => hOpens v (hValue rfl))
  apply hWrite.mono
  rintro _ w' rfl
  exact ⟨v, hValue rfl, rfl⟩

/- Releasing a frame leaves the queues closed. -/
theorem idle_releaseFrame
    {enabled : Bool} :
    Moves (Idle enabled) (Idle enabled)
      (ksz8851SetBit regRxqcr rxqcrRrxef) := by
  intro w hIdle
  apply (drives_rxqcr (fun v => v ||| rxqcrRrxef)
    (calm_of_closed hIdle.sda) (fun _ _ _ => hIdle.owed)).mono
  rintro _ w' ⟨v, hValue, rfl⟩
  have hClosed : ¬ OpensQueues (v ||| rxqcrRrxef) := by
    rw [opensQueues_release]
    simpa [hIdle.sda] using hValue
  rw [write_rxqcr, if_neg hClosed, decide_eq_false hClosed]
  exact ⟨rfl, by simp [BusMonitor.closed, hIdle.sda, hIdle.owed],
    hIdle.enabled⟩

/- The queues are opened.  Whether the frame pointer was
   reset remains known. -/
theorem drives_open
    {w : BusView}
    (hIdle : w.Idle false) :
    Drives w (ksz8851SetBit regRxqcr rxqcrSda) (fun _ w' =>
      w'.Window .unused ∧
        w'.monitor.primed = w.monitor.primed) := by
  apply (drives_rxqcr (fun v => v ||| rxqcrSda)
    (calm_of_closed hIdle.sda) (fun _ _ _ => hIdle.owed)).mono
  rintro _ w' ⟨v, -, rfl⟩
  have hOpens := opensQueues_set v
  rw [write_rxqcr, if_pos hOpens, decide_eq_true hOpens,
    hIdle.sda]
  exact ⟨⟨rfl, rfl, hIdle.owed, hIdle.enabled, rfl⟩, rfl⟩

/- They are closed. -/
theorem drives_close
    {w : BusView}
    {transfer : Transfer}
    (hWindow : w.Window transfer) :
    Drives w (ksz8851ClearBit regRxqcr rxqcrSda) (fun _ w' =>
      w'.sda = false ∧
        w'.monitor.owed = (transfer == .transmit) ∧
          w'.monitor.enabled = false) := by
  apply (drives_rxqcr (fun v => v &&& ~~~rxqcrSda)
    hWindow.calm (fun _ _ _ => hWindow.owed)).mono
  rintro _ w' ⟨v, -, rfl⟩
  have hCloses := not_opensQueues_clear v
  rw [write_rxqcr, if_neg hCloses, decide_eq_false hCloses]
  refine ⟨rfl, ?_, hWindow.enabled⟩
  simp [BusMonitor.closed, hWindow.owed, hWindow.sda,
    hWindow.transfer]

------------------------------------------------------------
-- Transmitting
------------------------------------------------------------

theorem transmit_open :
    Moves (Idle false) (Window .unused)
      (ksz8851SetBit regRxqcr rxqcrSda) := by
  intro w hIdle
  exact (drives_open hIdle).mono (fun _ _ hOpened => hOpened.1)

theorem transmit_close :
    Moves (Window .transmit) Owing
      (ksz8851ClearBit regRxqcr rxqcrSda) := by
  intro w hWindow
  apply (drives_close hWindow).mono
  rintro _ w' ⟨hSda, hOwed, hEnabled⟩
  exact ⟨hSda, hOwed, hEnabled⟩

/- The transmission that is owed is started. -/
theorem transmit_start :
    Moves Owing (Idle false)
      (ksz8851SetBit regTxqcr txqcrMetfe) := by
  intro w hOwing
  have hOther : regTxqcr ≠ regRxqcr := by decide
  have hCalm := calm_of_closed hOwing.sda
  refine (drives_readReg regTxqcr hCalm
    (by simp [hOwing.sda])).bind ?_
  rintro v w' ⟨rfl, -⟩
  have hStarts : StartsSending (v ||| txqcrMetfe) := by
    intro hNone
    have hBit := congrArg (fun w => w.getLsbD 0) hNone
    simp [txqcrMetfe] at hBit
  have hWrite := drives_writeReg (w := w.read regTxqcr)
    regTxqcr (v ||| txqcrMetfe) hCalm
    (by simp [hOwing.sda])
    (fun _ _ => (owed_read regTxqcr w).trans hOwing.owed)
    (fun hOffset => absurd hOffset hOther)
  apply hWrite.mono
  rintro _ w' rfl
  rw [write_of_ne hOther]
  exact ⟨hOwing.sda, by simp [BusMonitor.written, hStarts],
    (enabled_read regTxqcr w).trans hOwing.enabled⟩

/- A word makes the window one for transmitting. -/
theorem transmit_dataReg
    {transfer : Transfer}
    (hTransfer : transfer ≠ .receive)
    (v : UWORD) :
    Moves (Window transfer) (Window .transmit) (dataReg v) := by
  intro w hWindow
  have hWrite := drives_bareWrite v hWindow.calm
    hWindow.armed hWindow.sda
    (by rw [hWindow.transfer]; exact hTransfer)
  apply hWrite.mono
  rintro _ w' rfl
  exact ⟨hWindow.armed, hWindow.sda, hWindow.owed,
    hWindow.enabled, rfl⟩

theorem transmit_getInterface
    {transfer : Transfer} :
    Moves (Window transfer) (Window transfer) getInterface :=
  moves_silent .getInterface trivial
    (fun _ hWindow => hWindow.calm)

/- Nothing, or more words. -/
theorem transmit_writeWords
    (isInBigEndianMode : Bool)
    (data : Memory)
    (sizeInWord i : Nat) :
    Moves (Window .transmit) (Window .transmit)
      (writeWords isInBigEndianMode data sizeInWord i) := by
  induction sizeInWord generalizing i with
  | zero => exact Moves.pure ()
  | succ sizeInWord ih =>
      exact (transmit_dataReg (by decide) _).bind
        (fun _ => ih (i + 1))

/- The first words. -/
theorem transmit_firstWords
    (isInBigEndianMode : Bool)
    (data : Memory)
    (sizeInWord i : Nat) :
    Moves (Window .unused) (Window .transmit)
      (writeWords isInBigEndianMode data (sizeInWord + 1)
        i) :=
  (transmit_dataReg (by decide) _).bind
    (fun _ => transmit_writeWords _ data sizeInWord (i + 1))

theorem transmit_writeFifo (data : Memory) (length : Nat) :
    Moves (Window .transmit) (Window .transmit)
      (ksz8851WriteFifo data length) :=
  transmit_getInterface.bind
    (fun _ => transmit_writeWords _ data _ 0)

/- The header has two words. -/
theorem transmit_header (header : Memory) :
    Moves (Window .unused) (Window .transmit)
      (ksz8851WriteFifo header 4) :=
  transmit_getInterface.bind
    (fun _ => transmit_firstWords _ header 1 0)

theorem transmit_writeFifoWordAlign
    (data : Memory) (lengthInBytes : Nat) :
    Moves (Window .transmit) (Window .transmit)
      (ksz8851WriteFifoWordAlign data lengthInBytes) :=
  transmit_getInterface.bind (fun _ =>
    (transmit_writeWords _ data _ 0).bind
      (fun _ => Moves.pure _))

theorem transmit_headerWordAlign (header : Memory) :
    Moves (Window .unused) (Window .transmit)
      (ksz8851WriteFifoWordAlign header 4) :=
  transmit_getInterface.bind (fun _ =>
    (transmit_firstWords _ header 1 0).bind
      (fun _ => Moves.pure _))

theorem transmit_cookedFrame
    (header dst src : Memory)
    (packetType : UWORD)
    (payload : Memory)
    (payloadLength : Nat) :
    Moves (Window .unused) (Window .transmit)
      (writeCookedFrame header dst src packetType payload
        payloadLength) := by
  unfold writeCookedFrame
  refine (transmit_headerWordAlign header).bind fun _ => ?_
  refine (transmit_writeFifoWordAlign dst 6).bind fun _ => ?_
  refine (transmit_writeFifoWordAlign src 6).bind fun _ => ?_
  refine (transmit_writeFifoWordAlign _ 2).bind fun _ => ?_
  refine (transmit_writeFifoWordAlign payload _).bind
    fun _ => ?_
  exact Moves.ite (transmit_dataReg (by decide) _)
    (Moves.pure ())

------------------------------------------------------------
-- Receiving
------------------------------------------------------------

/- The frame pointer is reset. -/
theorem receive_resetPointer
    {v : UWORD}
    (hResets : ResetsPointer v) :
    Moves (Idle false) Primed
      (ksz8851WriteReg regRxfdpr v) := by
  intro w hIdle
  have hOther : regRxfdpr ≠ regRxqcr := by decide
  have hWrite := drives_writeReg regRxfdpr v
    (calm_of_closed hIdle.sda) (by simp [hIdle.sda])
    (fun hOffset => absurd hOffset (by decide))
    (fun hOffset => absurd hOffset hOther)
  apply hWrite.mono
  rintro _ w' rfl
  rw [write_of_ne hOther]
  refine ⟨⟨hIdle.sda, ?_, hIdle.enabled⟩, ?_⟩
  · simp [BusMonitor.written, hIdle.owed]
  · simp [BusMonitor.written, hResets]

theorem receive_open :
    Moves Primed Receiving
      (ksz8851SetBit regRxqcr rxqcrSda) := by
  rintro w ⟨hIdle, hPrimed⟩
  apply (drives_open hIdle).mono
  rintro _ w' ⟨hWindow, hSame⟩
  exact ⟨⟨_, hWindow, by decide⟩, hSame.trans hPrimed⟩

theorem receive_close :
    Moves Receiving (Idle false)
      (ksz8851ClearBit regRxqcr rxqcrSda) := by
  rintro w ⟨⟨transfer, hWindow, hTransfer⟩, -⟩
  apply (drives_close hWindow).mono
  rintro _ w' ⟨hSda, hOwed, hEnabled⟩
  exact ⟨hSda, by simp [hOwed, hTransfer], hEnabled⟩

theorem receive_silent
    (op : NicOp)
    (hSilent : op.Silent) :
    Moves Receiving Receiving (Program.perform op) :=
  moves_silent op hSilent (fun _ hReceiving =>
    hReceiving.1.elim (fun _ hOpen => hOpen.1.calm))

/- A word makes the window one for receiving. -/
theorem receive_readDataReg :
    Moves Receiving Receiving readDataReg := by
  rintro w ⟨⟨transfer, hWindow, hTransfer⟩, hPrimed⟩
  have hRead := drives_bareRead hWindow.calm hWindow.armed
    hWindow.sda (by rw [hWindow.transfer]; exact hTransfer)
    hPrimed
  apply hRead.mono
  rintro _ w' rfl
  refine ⟨⟨.receive, ?_, by decide⟩, hPrimed⟩
  exact ⟨hWindow.armed, hWindow.sda, hWindow.owed,
    hWindow.enabled, rfl⟩

theorem receive_readWords
    (isInBigEndianMode : Bool)
    (sizeInWord i : Nat)
    (data : Memory) :
    Moves Receiving Receiving
      (readWords isInBigEndianMode sizeInWord i data) := by
  induction sizeInWord generalizing i data with
  | zero => exact Moves.pure data
  | succ sizeInWord ih =>
      exact receive_readDataReg.bind (fun _ => ih _ _)

theorem receive_readFifo (length : Nat) :
    Moves Receiving Receiving (ksz8851ReadFifo length) := by
  have hGet : Moves Receiving Receiving getInterface :=
    receive_silent .getInterface trivial
  have hSet (f : NetInterface → NetInterface) :
      Moves Receiving Receiving (setInterface f) :=
    receive_silent (.setInterface f) trivial
  unfold ksz8851ReadFifo
  refine hGet.bind fun _ => ?_
  exact (receive_readWords _ _ 0 _).bind (fun _ => hSet _)

------------------------------------------------------------
-- Operations
------------------------------------------------------------

/- Interrupts are enabled while the frame is delivered. -/
theorem moves_ksz8851ReceivePacket :
    Moves (Idle false) (Idle false) ksz8851ReceivePacket := by
  have hDeliver (buffer : Memory) (size : UWORD) :
      Moves (Idle true) (Idle true)
        (onPacketReceived buffer size) :=
    idle_silent (.onPacketReceived buffer size) trivial
  have hResets (isInBigEndianMode : Bool) :
      ResetsPointer
        (if isInBigEndianMode then rxfdprRxfpai ||| rxfdprEms
          else rxfdprRxfpai) := by
    cases isInBigEndianMode <;> decide
  unfold ksz8851ReceivePacket
  refine (idle_readReg regRxfhsr).bind fun frameStatus => ?_
  refine Moves.ite ?_ ?_
  · exact idle_releaseFrame.onlyIf.bind
      (fun _ => Moves.pure _)
  refine (idle_readReg regRxfhbcr).bind fun rxfhbcr => ?_
  refine Moves.ite ?_ ?_
  · refine idle_getInterface.bind fun context => ?_
    refine (receive_resetPointer (hResets _)).bind
      fun _ => ?_
    refine receive_open.bind fun _ => ?_
    refine receive_readDataReg.bind fun _ => ?_
    refine receive_readDataReg.bind fun _ => ?_
    refine receive_readDataReg.bind fun _ => ?_
    refine (receive_readFifo _).bind fun _ => ?_
    refine receive_close.bind fun _ => ?_
    refine idle_enable.bind fun _ => ?_
    refine idle_getInterface.bind fun interface => ?_
    refine (hDeliver _ _).onlyIf.bind fun _ => ?_
    exact idle_disable.bind (fun _ => Moves.pure _)
  · exact idle_releaseFrame.bind (fun _ => Moves.pure _)

theorem moves_receiveLoop (frameCount : Nat) :
    Moves (Idle false) (Idle false) (receiveLoop frameCount) := by
  induction frameCount with
  | zero => exact Moves.pure ()
  | succ frameCount ih =>
      exact moves_ksz8851ReceivePacket.bind (fun _ => ih)

theorem moves_notifyLinkChange
    {enabled : Bool} :
    Moves (Idle enabled) (Idle enabled) notifyLinkChange :=
  idle_getInterface.bind (fun _ =>
    (idle_silent .linkChangeFunction trivial).onlyIf)

theorem moves_handleLinkChange (status : UWORD) :
    Moves (Idle false) (Idle false)
      (handleLinkChange status) := by
  refine Moves.ite ?_ (Moves.pure _)
  refine (idle_writeReg (by decide) (by decide) _).bind
    fun _ => ?_
  refine (idle_readReg regP1sr).bind fun _ => ?_
  refine (idle_setInterface _).bind fun _ => ?_
  exact moves_notifyLinkChange.bind (fun _ => Moves.pure _)

theorem moves_handleReceive (status enableMask : UWORD) :
    Moves (Idle false) (Idle false)
      (handleReceive status enableMask) := by
  refine Moves.ite ?_ (Moves.pure _)
  refine (idle_writeReg (by decide) (by decide) _).bind
    fun _ => ?_
  refine (idle_readReg regRxfctr).bind fun _ => ?_
  exact (moves_receiveLoop _).bind (fun _ => Moves.pure _)

theorem moves_handleOverrun (status enableMask : UWORD) :
    Moves (Idle false) (Idle false)
      (handleOverrun status enableMask) := by
  refine Moves.ite ?_ (Moves.pure _)
  refine (idle_setInterface _).bind fun _ => ?_
  exact (idle_setBit (by decide) (by decide) _).bind
    (fun _ => Moves.pure _)

theorem moves_handleWakeup (status enableMask : UWORD) :
    Moves (Idle false) (Idle false)
      (handleWakeup status enableMask) :=
  Moves.ite
    (moves_notifyLinkChange.bind (fun _ => Moves.pure _))
    (Moves.pure _)

theorem moves_ksz8851EventHandler :
    Moves (Idle false) (Idle true) ksz8851EventHandler := by
  unfold ksz8851EventHandler
  refine idle_disable.bind fun _ => ?_
  refine (idle_readReg regIsr).bind fun status => ?_
  refine (moves_handleLinkChange status).bind
    fun handled => ?_
  refine (moves_handleReceive _ _).bind fun _ => ?_
  refine (moves_handleOverrun _ _).bind fun _ => ?_
  refine (moves_handleWakeup _ _).bind fun _ => ?_
  refine (idle_setBit (by decide) (by decide) _).bind
    fun _ => ?_
  exact idle_enable.bind (fun _ => Moves.pure _)

theorem moves_ksz8851IrqHandler :
    Moves (Idle false) (Idle false) ksz8851IrqHandler := by
  unfold ksz8851IrqHandler
  refine (idle_readReg regIsr).bind fun isr => ?_
  refine (idle_readReg regIer).bind fun ier => ?_
  refine Moves.ite (Moves.pure _) ?_
  refine (idle_writeReg (by decide) (by decide) _).bind
    fun _ => ?_
  refine (Moves.onlyIf
    (idle_writeReg (by decide) (by decide) _)).bind
      fun _ => ?_
  refine (Moves.onlyIf
    (idle_setBit (by decide) (by decide) _)).bind fun _ => ?_
  refine (idle_writeReg (by decide) (by decide) _).bind
    fun _ => ?_
  exact Moves.pure _

theorem moves_nextControlWord :
    Moves (Idle false) (Idle false) nextControlWord :=
  idle_getInterface.bind (fun _ =>
    (idle_setInterface _).bind (fun _ => Moves.pure _))

theorem moves_ksz8851SendPacket
    (buffer : Memory) (length : Nat) :
    Moves (Idle false) AtRest
      (ksz8851SendPacket buffer length) := by
  unfold ksz8851SendPacket
  refine Moves.ite ?_ ?_
  · exact (Moves.pure _).weaken (fun _ => Idle.atRest)
  apply Moves.weaken (Q := Idle true) ?_
    (fun _ => Idle.atRest)
  refine idle_disable.bind fun _ => ?_
  refine (idle_readReg regTxmir).bind fun txmir => ?_
  refine Moves.ite ?_ ?_
  · exact idle_enable.bind (fun _ => Moves.pure _)
  refine moves_nextControlWord.bind fun controlWord => ?_
  refine transmit_open.bind fun _ => ?_
  refine (transmit_header _).bind fun _ => ?_
  refine (transmit_writeFifo buffer length).bind fun _ => ?_
  refine transmit_close.bind fun _ => ?_
  refine transmit_start.bind fun _ => ?_
  exact idle_enable.bind (fun _ => Moves.pure _)

theorem moves_ksz8851SendPacketCooked
    (dst src : Memory)
    (packetType : UWORD)
    (payload : Memory)
    (payloadLength : Nat) :
    Moves (Idle false) (Idle true)
      (ksz8851SendPacketCooked dst src packetType payload
        payloadLength) := by
  unfold ksz8851SendPacketCooked
  refine idle_disable.bind fun _ => ?_
  refine (idle_readReg regTxmir).bind fun txmir => ?_
  refine Moves.ite ?_ ?_
  · exact idle_enable.bind (fun _ => Moves.pure _)
  refine moves_nextControlWord.bind fun controlWord => ?_
  refine transmit_open.bind fun _ => ?_
  refine (transmit_cookedFrame _ _ _ _ _ _).bind fun _ => ?_
  refine transmit_close.bind fun _ => ?_
  refine transmit_start.bind fun _ => ?_
  exact idle_enable.bind (fun _ => Moves.pure _)

theorem moves_ksz8851Online :
    Moves (Idle false) (Idle true) ksz8851Online := by
  have hInstall :
      Moves (Idle false) (Idle false)
        installInterruptHandler := by
    refine idle_getInterface.bind fun _ => ?_
    refine Moves.ite (Moves.pure true) ?_
    refine (idle_setInterface _).bind fun _ => ?_
    refine (idle_silent .allocSignal trivial).bind
      fun _ => ?_
    refine (idle_setInterface _).bind fun _ => ?_
    refine Moves.ite ?_ ?_
    · exact (idle_setInterface _).bind
        (fun _ => Moves.pure _)
    · exact (idle_silent .addIntServer trivial).bind
        (fun _ => Moves.pure _)
  unfold ksz8851Online
  refine hInstall.bind fun _ => ?_
  refine idle_disable.bind fun _ => ?_
  refine (idle_setBit (by decide) (by decide) _).bind
    fun _ => ?_
  refine (idle_setBit (by decide) (by decide) _).bind
    fun _ => ?_
  refine (idle_setBit (by decide) (by decide) _).bind
    fun _ => ?_
  refine (idle_setBit (by decide) (by decide) _).bind
    fun _ => ?_
  exact idle_enable

theorem moves_ksz8851Offline :
    Moves (Idle false) (Idle true) ksz8851Offline := by
  have hUninstall :
      Moves (Idle true) (Idle true)
        uninstallInterruptHandler := by
    refine idle_getInterface.bind fun _ => ?_
    refine Moves.ite ?_ (Moves.pure _)
    refine (idle_silent .remIntServer trivial).bind
      fun _ => ?_
    refine (idle_setInterface _).bind fun _ => ?_
    refine (idle_silent .freeSignal trivial).bind
      fun _ => ?_
    exact idle_setInterface _
  unfold ksz8851Offline
  refine idle_disable.bind fun _ => ?_
  refine (idle_writeReg (by decide) (by decide) _).bind
    fun _ => ?_
  refine (idle_clearBit (by decide) (by decide) _).bind
    fun _ => ?_
  refine (idle_clearBit (by decide) (by decide) _).bind
    fun _ => ?_
  exact idle_enable.bind (fun _ => hUninstall)

theorem moves_ksz8851SetMulticastFilter
    (filter : List MacFilterEntry) :
    Moves (Idle false) (Idle false)
      (ksz8851SetMulticastFilter filter) := by
  unfold ksz8851SetMulticastFilter
  refine (idle_writeReg (by decide) (by decide) _).bind
    fun _ => ?_
  refine (idle_writeReg (by decide) (by decide) _).bind
    fun _ => ?_
  refine (idle_writeReg (by decide) (by decide) _).bind
    fun _ => ?_
  refine (idle_writeReg (by decide) (by decide) _).bind
    fun _ => ?_
  exact Moves.pure _

theorem moves_ksz8851SetNetworkAddress (addr : MacAddr) :
    Moves (Idle false) (Idle true)
      (ksz8851SetNetworkAddress addr) := by
  unfold ksz8851SetNetworkAddress
  refine idle_disable.bind fun _ => ?_
  refine (idle_writeReg (by decide) (by decide) _).bind
    fun _ => ?_
  refine (idle_writeReg (by decide) (by decide) _).bind
    fun _ => ?_
  refine (idle_writeReg (by decide) (by decide) _).bind
    fun _ => ?_
  exact idle_enable

------------------------------------------------------------
-- Runs
------------------------------------------------------------

/- The operations that share the bus. -/
inductive BusCall where
| sendPacket (buffer : Memory) (length : Nat)
| sendPacketCooked
    (dst src : Memory) (packetType : UWORD)
    (payload : Memory) (payloadLength : Nat)
| receivePacket
| eventHandler
| irqHandler
| online
| offline
| setMulticastFilter (filter : List MacFilterEntry)
| setNetworkAddress (addr : MacAddr)

/- The result of the operation is dropped. -/
def BusCall.program : BusCall → NicM Unit
| sendPacket buffer length => do
    let _ ← ksz8851SendPacket buffer length
| sendPacketCooked dst src packetType payload
    payloadLength => do
    let _ ← ksz8851SendPacketCooked dst src packetType payload
      payloadLength
| receivePacket => do
    let _ ← ksz8851ReceivePacket
| eventHandler => do
    let _ ← ksz8851EventHandler
| irqHandler => do
    let _ ← ksz8851IrqHandler
| online => ksz8851Online
| offline => ksz8851Offline
| setMulticastFilter filter => do
    let _ ← ksz8851SetMulticastFilter filter
| setNetworkAddress addr => ksz8851SetNetworkAddress addr

/- One operation, from wherever another may have begun. -/
theorem moves_program (c : BusCall) :
    Moves (Idle false) AtRest c.program := by
  have hDropped
      {α : Type} {Q : BusView → Prop} {p : NicM α}
      (hMoves : Moves (Idle false) Q p)
      (hRest : ∀ w, Q w → w.AtRest) :
      Moves (Idle false) AtRest (do let _ ← p) :=
    (hMoves.weaken hRest).bind (fun _ => Moves.pure ())
  cases c with
  | sendPacket buffer length =>
      exact hDropped (moves_ksz8851SendPacket buffer length)
        (fun _ hRest => hRest)
  | sendPacketCooked dst src packetType payload
      payloadLength =>
      exact hDropped (moves_ksz8851SendPacketCooked _ _ _ _ _)
        (fun _ => Idle.atRest)
  | receivePacket =>
      exact hDropped moves_ksz8851ReceivePacket
        (fun _ => Idle.atRest)
  | eventHandler =>
      exact hDropped moves_ksz8851EventHandler
        (fun _ => Idle.atRest)
  | irqHandler =>
      exact hDropped moves_ksz8851IrqHandler
        (fun _ => Idle.atRest)
  | online =>
      exact moves_ksz8851Online.weaken (fun _ => Idle.atRest)
  | offline =>
      exact moves_ksz8851Offline.weaken (fun _ => Idle.atRest)
  | setMulticastFilter filter =>
      exact hDropped (moves_ksz8851SetMulticastFilter filter)
        (fun _ => Idle.atRest)
  | setNetworkAddress addr =>
      exact (moves_ksz8851SetNetworkAddress addr).weaken
        (fun _ => Idle.atRest)

/-
  The operations, performed one after the other, keep to the
  protocol, and at the end of each the queues are closed and
  no transmission is owed.
-/
def ConformsAlong : List BusCall → BusState → Prop
| [], _ => True
| c :: cs, p =>
    BusState.Follows (p.1, p.2.begun) c.program (fun _ p' =>
      ¬ p'.1.chip.Sda ∧ p'.2.owed = false ∧
        ConformsAlong cs p')

theorem conformsAlong_of_atRest
    (cs : List BusCall)
    {p : BusState}
    (hRest : p.view.AtRest) :
    ConformsAlong cs p := by
  induction cs generalizing p with
  | nil => trivial
  | cons c cs ih =>
      have hIdle : (BusState.view (p.1, p.2.begun)).Idle false :=
        ⟨hRest.1, hRest.2, rfl⟩
      apply (moves_program c _ hIdle).follows.mono
      intro _ p' hEnd
      exact ⟨of_decide_eq_false hEnd.1, hEnd.2, ih hEnd⟩

------------------------------------------------------------
-- After the Bring-Up
------------------------------------------------------------

/- The program does not open the queues. -/
def NicM.StaysClosed {α : Type} (p : NicM α) : Prop :=
  ∀ n, ¬ n.chip.Sda → ¬ (p.runOn n).2.chip.Sda

section StaysClosed

variable {α β : Type}

theorem NicM.StaysClosed.bind
    {p : NicM α}
    {f : α → NicM β}
    (hFirst : p.StaysClosed)
    (hRest : ∀ a, (f a).StaysClosed) :
    (p >>= f).StaysClosed := by
  intro n hClosed
  rw [NicM.runOn_bind]
  exact hRest _ _ (hFirst n hClosed)

theorem closed_readReg (offset : UBYTE) :
    (ksz8851ReadReg offset).StaysClosed := by
  intro n hClosed
  rw [runOn_ksz8851ReadReg]
  exact hClosed

theorem closed_writeReg
    {offset : UBYTE}
    (hOther : offset ≠ regRxqcr)
    (v : UWORD) :
    (ksz8851WriteReg offset v).StaysClosed := by
  intro n hClosed
  rw [runOn_ksz8851WriteReg]
  intro hOpen
  have hSda := (BusState.sda_writeReg offset v
    (n.access offset).chip).mp hOpen
  rw [if_neg hOther] at hSda
  exact hClosed hSda

/- A write to `RXQCR` itself decides. -/
theorem closed_writeRxqcr
    {v : UWORD}
    (hCloses : ¬ OpensQueues v)
    (n : NicState) :
    ¬ ((ksz8851WriteReg regRxqcr v).runOn n).2.chip.Sda := by
  rw [runOn_ksz8851WriteReg]
  intro hOpen
  have hSda := (BusState.sda_writeReg regRxqcr v
    (n.access regRxqcr).chip).mp hOpen
  rw [if_pos rfl] at hSda
  exact hCloses hSda

end StaysClosed

/- The register set-up leaves the queues closed. -/
theorem closed_configureRegisters (n : NicState) :
    ¬ (configureRegisters.runOn n).2.chip.Sda := by
  have hSetBit (mask : UWORD) :
      (ksz8851SetBit regP1cr mask).StaysClosed :=
    (closed_readReg _).bind (fun _ =>
      closed_writeReg (by decide) _)
  have hClearBit (mask : UWORD) :
      (ksz8851ClearBit regP1cr mask).StaysClosed :=
    (closed_readReg _).bind (fun _ =>
      closed_writeReg (by decide) _)
  have hGet : getInterface.StaysClosed := fun _ hClosed =>
    hClosed
  unfold configureRegisters
  rw [NicM.runOn_bind, NicM.runOn_bind, NicM.runOn_bind,
    NicM.runOn_bind, NicM.runOn_bind]
  refine NicM.StaysClosed.bind hGet ?_ _
    (closed_writeRxqcr (by decide) _)
  intro context
  refine (closed_writeReg (by decide) _).bind fun _ => ?_
  refine (closed_writeReg (by decide) _).bind fun _ => ?_
  exact (hClearBit _).bind (fun _ => hSetBit _)

/- Bringing the driver up, where it succeeds, leaves the
   queues closed. -/
theorem closed_ksz8851Init (n : NicState) :
    (ksz8851Init.runOn n).1 = noError →
      ¬ (ksz8851Init.runOn n).2.chip.Sda := by
  have hEnable : enable.StaysClosed := fun _ hClosed =>
    hClosed
  have hPure : (pure noError : NicM ErrorT).StaysClosed :=
    fun _ hClosed => hClosed
  unfold ksz8851Init
  rw [NicM.runOn_bind, NicM.runOn_bind, NicM.runOn_bind,
    NicM.runOn_bind]
  generalize ((ksz8851ReadReg regCider).runOn _) = found
  by_cases hFound : found.1 ≠ revA3Id
  · rw [if_pos hFound, result_then]
    exact fun hSuccess => absurd hSuccess (by decide)
  · rw [if_neg hFound, NicM.runOn_bind, NicM.runOn_bind,
      NicM.runOn_bind, NicM.runOn_bind]
    generalize memPoolAlloc.runOn _ = allocated
    cases allocated.1 with
    | true =>
        rw [if_pos rfl, NicM.runOn_bind]
        intro _
        exact hEnable.bind (fun _ => hPure) _
          (closed_configureRegisters _)
    | false =>
        rw [if_neg (by decide), result_then]
        exact fun hSuccess => absurd hSuccess (by decide)

------------------------------------------------------------
-- Every Run
------------------------------------------------------------

/-
  The bus protocol.  The operations may come in any order and
  number, with any arguments, on any chip whose queues are
  closed, as they are after the bring-up.
-/
theorem conformsAlong_calls :
    (∀ n : NicState,
      (ksz8851Init.runOn n).1 = noError →
        ¬ (ksz8851Init.runOn n).2.chip.Sda) ∧
      ∀ (cs : List BusCall) (n : NicState),
        ¬ n.chip.Sda →
          ConformsAlong cs (n, BusMonitor.fresh) := by
  refine ⟨closed_ksz8851Init, ?_⟩
  intro cs n hClosed
  apply conformsAlong_of_atRest
  exact ⟨decide_eq_false hClosed, rfl⟩

/- A chip that answers, used in both directions. -/
theorem conformsAlong_calls_answering :
    let n := (ksz8851Init.runOn
      { offlineNic with
        chip :=
          { offlineChip with reg := fun _ => revA3Id } }).2
    ConformsAlong
      [.online, .sendPacket (fun _ => 0#8) 64, .eventHandler,
        .offline] (n, BusMonitor.fresh) := by
  intro n
  apply conformsAlong_calls.2
  apply conformsAlong_calls.1
  exact (init_succeeds_iff _).mpr ⟨rfl, rfl⟩

end KszDriver
