import KszDriver.Nic.EndianRules

/-
  The driver always knows the endian mode of the chip: what
  detecting, initialising and switching do to the mode, and
  that nothing else changes it.

  Main declarations:
    * `leads_detectNICEndiness`
    * `leads_switchEndianessMode`
    * `leads_init`
    * `EndianOp`, `endian_agrees`
-/

------------------------------------------------------------
-- Online and Offline, Addresses
------------------------------------------------------------

namespace KszDriver

section Keeps

variable {bus : BusLogic} {w : Setting}
variable (hReady : w.Ready)
include hReady

omit hReady in
theorem keeps_installInterruptHandler :
    Keeps bus w installInterruptHandler := by
  have hAlloc : Keeps bus w allocSignal :=
    keeps_quiet (fun _ => rfl)
  have hLink : Keeps bus w addIntServer :=
    keeps_quiet (fun _ => rfl)
  unfold installInterruptHandler
  refine keeps_getInterface.bind fun _ => ?_
  refine Keeps.ite (Keeps.pure true) ?_
  refine Keeps.bind (keeps_setInterface (fun _ => rfl))
    fun _ => ?_
  refine hAlloc.bind fun _ => ?_
  refine Keeps.bind (keeps_setInterface (fun _ => rfl))
    fun _ => ?_
  refine Keeps.ite ?_ ?_
  · exact Keeps.bind (keeps_setInterface (fun _ => rfl))
      fun _ => Keeps.pure _
  · exact hLink.bind fun _ => Keeps.pure _

omit hReady in
theorem keeps_uninstallInterruptHandler :
    Keeps bus w uninstallInterruptHandler := by
  have hRemove : Keeps bus w remIntServer :=
    keeps_quiet (fun _ => rfl)
  have hFree : Keeps bus w freeSignal :=
    keeps_quiet (fun _ => rfl)
  unfold uninstallInterruptHandler
  refine keeps_getInterface.bind fun _ => ?_
  refine Keeps.ite ?_ (Keeps.pure ())
  refine hRemove.bind fun _ => ?_
  refine Keeps.bind (keeps_setInterface (fun _ => rfl))
    fun _ => ?_
  refine hFree.bind fun _ => ?_
  exact keeps_setInterface (fun _ => rfl)

theorem keeps_online : Keeps bus w ksz8851Online := by
  have hSet {offset : UBYTE} (hPlain : Plain offset)
      (mask : UWORD) :
      Keeps bus w (ksz8851SetBit offset mask) :=
    keeps_setBit hReady mask hPlain
  unfold ksz8851Online
  refine keeps_installInterruptHandler.bind fun _ => ?_
  refine keeps_disable.bind fun _ => ?_
  refine (hSet (by decide) _).bind fun _ => ?_
  refine (hSet (by decide) _).bind fun _ => ?_
  refine (hSet (by decide) _).bind fun _ => ?_
  refine (hSet (by decide) _).bind fun _ => ?_
  exact keeps_enable

theorem keeps_offline : Keeps bus w ksz8851Offline := by
  have hClear {offset : UBYTE} (hPlain : Plain offset)
      (mask : UWORD) :
      Keeps bus w (ksz8851ClearBit offset mask) :=
    keeps_clearBit hReady mask hPlain
  unfold ksz8851Offline
  refine keeps_disable.bind fun _ => ?_
  refine (keeps_writeReg hReady _ (by decide)).bind
    fun _ => ?_
  refine (hClear (by decide) _).bind fun _ => ?_
  refine (hClear (by decide) _).bind fun _ => ?_
  refine keeps_enable.bind fun _ => ?_
  exact keeps_uninstallInterruptHandler

theorem keeps_setNetworkAddress (addr : MacAddr) :
    Keeps bus w (ksz8851SetNetworkAddress addr) := by
  have hWrite {offset : UBYTE} (hPlain : Plain offset)
      (v : UWORD) : Keeps bus w (ksz8851WriteReg offset v) :=
    keeps_writeReg hReady v hPlain
  unfold ksz8851SetNetworkAddress
  refine keeps_disable.bind fun _ => ?_
  refine (hWrite (by decide) _).bind fun _ => ?_
  refine (hWrite (by decide) _).bind fun _ => ?_
  refine (hWrite (by decide) _).bind fun _ => ?_
  exact keeps_enable

theorem keeps_setMulticastFilter
    (filter : List MacFilterEntry) :
    Keeps bus w (ksz8851SetMulticastFilter filter) := by
  have hWrite {offset : UBYTE} (hPlain : Plain offset)
      (v : UWORD) : Keeps bus w (ksz8851WriteReg offset v) :=
    keeps_writeReg hReady v hPlain
  unfold ksz8851SetMulticastFilter
  refine (hWrite (by decide) _).bind fun _ => ?_
  refine (hWrite (by decide) _).bind fun _ => ?_
  refine (hWrite (by decide) _).bind fun _ => ?_
  refine (hWrite (by decide) _).bind fun _ => ?_
  exact Keeps.pure noError

------------------------------------------------------------
-- Interrupts and Events
------------------------------------------------------------

theorem keeps_irqHandler :
    Keeps bus w ksz8851IrqHandler := by
  have hWrite {offset : UBYTE} (hPlain : Plain offset)
      (v : UWORD) : Keeps bus w (ksz8851WriteReg offset v) :=
    keeps_writeReg hReady v hPlain
  unfold ksz8851IrqHandler
  refine (keeps_readReg hReady regIsr).bind fun isr => ?_
  refine (keeps_readReg hReady regIer).bind fun ier => ?_
  refine Keeps.ite (Keeps.pure false) ?_
  refine (hWrite (by decide) _).bind fun _ => ?_
  refine (Keeps.onlyIf (hWrite (by decide) _)).bind
    fun _ => ?_
  refine (Keeps.onlyIf
    (keeps_setBit hReady _ (by decide))).bind fun _ => ?_
  refine (hWrite (by decide) _).bind fun _ => ?_
  exact Keeps.pure _

theorem keeps_isr : Keeps bus w isr := by
  have hSignal : Keeps bus w signal :=
    keeps_quiet (fun _ => rfl)
  unfold isr
  refine keeps_getInterface.bind fun _ => ?_
  refine Keeps.ite (Keeps.pure _) ?_
  refine (keeps_irqHandler hReady).bind fun _ => ?_
  refine Keeps.ite ?_ (Keeps.pure _)
  refine hSignal.bind fun _ => ?_
  refine Keeps.bind (keeps_setInterface (fun _ => rfl))
    fun _ => ?_
  exact Keeps.pure _

omit hReady in
theorem keeps_notifyLinkChange :
    Keeps bus w notifyLinkChange := by
  have hCall : Keeps bus w linkChangeFunction :=
    keeps_quiet (fun _ => rfl)
  exact keeps_getInterface.bind (fun _ => hCall.onlyIf)

theorem keeps_handleLinkChange (status : UWORD) :
    Keeps bus w (handleLinkChange status) := by
  have hUpdate (status : UWORD) :
      Keeps bus w (setInterface (fun iface =>
        iface.updateLink status)) := by
    apply keeps_setInterface
    intro iface
    unfold NetInterface.updateLink
    split <;> rfl
  unfold handleLinkChange
  refine Keeps.ite ?_ (Keeps.pure _)
  refine (keeps_writeReg hReady _ (by decide)).bind
    fun _ => ?_
  refine (keeps_readReg hReady regP1sr).bind fun status => ?_
  refine (hUpdate status).bind fun _ => ?_
  refine keeps_notifyLinkChange.bind fun _ => ?_
  exact Keeps.pure _

omit hReady in
/- The value for the read pointer that keeps a mode. -/
theorem modeAfter_readPointer (bus : BusLogic)
    (bigEndian believed : Bool) :
    bus.modeAfter regRxfdpr
      (if believed then rxfdprRxfpai ||| rxfdprEms
        else rxfdprRxfpai) bigEndian = believed := by
  unfold BusLogic.modeAfter
  rw [if_pos rfl]
  cases believed with
  | true => decide
  | false => decide

theorem keeps_readPointer
    {context : NetInterface}
    (hBelieved : context.isInBigEndianMode = w.believed) :
    Keeps bus w (ksz8851WriteReg regRxfdpr
      (if context.isInBigEndianMode then
        rxfdprRxfpai ||| rxfdprEms else rxfdprRxfpai)) := by
  apply (leads_writeReg _ hReady.agrees (by decide)).conseq
  rintro _ w' rfl
  rw [modeAfter_readPointer bus w.bigEndian, hBelieved]
  rcases hReady with ⟨hAgrees, -, hArmed⟩
  rw [← hArmed]
  exact congrArg (fun mode => { w with bigEndian := mode })
    hAgrees.symm

theorem keeps_receivePacket :
    Keeps bus w ksz8851ReceivePacket := by
  have hSet (mask : UWORD) :
      Keeps bus w (ksz8851SetBit regRxqcr mask) :=
    keeps_setBit hReady mask (by decide)
  have hDeliver (buffer : Memory) (size : UWORD) :
      Keeps bus w (onPacketReceived buffer size) :=
    keeps_quiet (fun _ => rfl)
  unfold ksz8851ReceivePacket
  refine (keeps_readReg hReady regRxfhsr).bind
    fun frameStatus => ?_
  refine Keeps.ite ?_ ?_
  · exact (hSet _).onlyIf.bind fun _ => Keeps.pure _
  refine (keeps_readReg hReady regRxfhbcr).bind
    fun rxfhbcr => ?_
  refine Keeps.ite ?_ ?_
  · apply Leads.bind leads_getInterface
    rintro context w' ⟨hBelieved, rfl⟩
    refine (keeps_readPointer hReady hBelieved).bind
      fun _ => ?_
    refine (hSet _).bind fun _ => ?_
    refine (keeps_readDataReg hReady).bind fun _ => ?_
    refine (keeps_readDataReg hReady).bind fun _ => ?_
    refine (keeps_readDataReg hReady).bind fun _ => ?_
    refine (keeps_readFifo hReady _).bind fun _ => ?_
    refine (keeps_clearBit hReady _ (by decide)).bind
      fun _ => ?_
    refine keeps_enable.bind fun _ => ?_
    refine keeps_getInterface.bind fun _ => ?_
    refine (hDeliver _ _).onlyIf.bind fun _ => ?_
    exact keeps_disable.bind fun _ => Keeps.pure _
  · exact (hSet _).bind fun _ => Keeps.pure _

theorem keeps_receiveLoop (frameCount : Nat) :
    Keeps bus w (receiveLoop frameCount) := by
  induction frameCount with
  | zero => exact Keeps.pure ()
  | succ frameCount ih =>
      exact (keeps_receivePacket hReady).bind (fun _ => ih)

theorem keeps_eventHandler :
    Keeps bus w ksz8851EventHandler := by
  have hReceive (status enableMask : UWORD) :
      Keeps bus w (handleReceive status enableMask) := by
    refine Keeps.ite ?_ (Keeps.pure _)
    refine (keeps_writeReg hReady _ (by decide)).bind
      fun _ => ?_
    refine (keeps_readReg hReady regRxfctr).bind fun _ => ?_
    exact (keeps_receiveLoop hReady _).bind
      fun _ => Keeps.pure _
  have hOverrun (status enableMask : UWORD) :
      Keeps bus w (handleOverrun status enableMask) := by
    refine Keeps.ite ?_ (Keeps.pure _)
    refine Keeps.bind (keeps_setInterface (fun _ => rfl))
      fun _ => ?_
    exact (keeps_setBit hReady _ (by decide)).bind
      fun _ => Keeps.pure _
  have hWakeup (status enableMask : UWORD) :
      Keeps bus w (handleWakeup status enableMask) :=
    Keeps.ite (keeps_notifyLinkChange.bind
      (fun _ => Keeps.pure _)) (Keeps.pure _)
  unfold ksz8851EventHandler
  refine keeps_disable.bind fun _ => ?_
  refine (keeps_readReg hReady regIsr).bind fun status => ?_
  refine (keeps_handleLinkChange hReady status).bind
    fun linked => ?_
  refine (hReceive linked.1 linked.2).bind fun _ => ?_
  refine (hOverrun linked.1 _).bind fun _ => ?_
  refine (hWakeup linked.1 _).bind fun _ => ?_
  refine (keeps_setBit hReady _ (by decide)).bind fun _ => ?_
  exact keeps_enable.bind fun _ => Keeps.pure _

------------------------------------------------------------
-- Sending
------------------------------------------------------------

omit hReady in
theorem keeps_nextControlWord :
    Keeps bus w nextControlWord :=
  keeps_getInterface.bind (fun _ =>
    Keeps.bind (keeps_setInterface (fun _ => rfl))
      (fun _ => Keeps.pure _))

theorem keeps_sendPacket (buffer : Memory) (length : Nat) :
    Keeps bus w (ksz8851SendPacket buffer length) := by
  unfold ksz8851SendPacket
  refine Keeps.ite (Keeps.pure _) ?_
  refine keeps_disable.bind fun _ => ?_
  refine (keeps_readReg hReady regTxmir).bind fun txmir => ?_
  refine Keeps.ite ?_ ?_
  · exact keeps_enable.bind fun _ => Keeps.pure _
  refine keeps_nextControlWord.bind fun _ => ?_
  refine (keeps_setBit hReady _ (by decide)).bind fun _ => ?_
  refine (keeps_writeFifo hReady _ 4).bind fun _ => ?_
  refine (keeps_writeFifo hReady buffer _).bind fun _ => ?_
  refine (keeps_clearBit hReady _ (by decide)).bind
    fun _ => ?_
  refine (keeps_setBit hReady _ (by decide)).bind fun _ => ?_
  exact keeps_enable.bind fun _ => Keeps.pure _

theorem keeps_sendPacketCooked
    (dst src : Memory)
    (packetType : UWORD)
    (payload : Memory)
    (payloadLength : Nat) :
    Keeps bus w (ksz8851SendPacketCooked dst src packetType
      payload payloadLength) := by
  have hFrame (header : Memory) (length : Nat) :
      Keeps bus w (writeCookedFrame header dst src packetType
        payload length) := by
    have hAlign (data : Memory) (count : Nat) :
        Keeps bus w (ksz8851WriteFifoWordAlign data count) :=
      keeps_writeFifoWordAlign hReady data count
    unfold writeCookedFrame
    refine (hAlign header 4).bind fun _ => ?_
    refine (hAlign dst 6).bind fun _ => ?_
    refine (hAlign src 6).bind fun _ => ?_
    refine (hAlign _ 2).bind fun _ => ?_
    refine (hAlign payload _).bind fun realSend => ?_
    exact Keeps.ite (keeps_dataReg hReady _) (Keeps.pure ())
  unfold ksz8851SendPacketCooked
  refine keeps_disable.bind fun _ => ?_
  refine (keeps_readReg hReady regTxmir).bind fun txmir => ?_
  refine Keeps.ite ?_ ?_
  · exact keeps_enable.bind fun _ => Keeps.pure _
  refine keeps_nextControlWord.bind fun _ => ?_
  refine (keeps_setBit hReady _ (by decide)).bind fun _ => ?_
  refine (hFrame _ _).bind fun _ => ?_
  refine (keeps_clearBit hReady _ (by decide)).bind
    fun _ => ?_
  refine (keeps_setBit hReady _ (by decide)).bind fun _ => ?_
  exact keeps_enable.bind fun _ => Keeps.pure _

end Keeps

------------------------------------------------------------
-- Detection and Switching
------------------------------------------------------------

section Modes

variable {bus : BusLogic} {w : Setting}

/- Detection makes the driver believe what is the case. -/
theorem leads_detectNICEndiness
    (hCider : w.cider = revA3Id) :
    Leads bus w ksz8851DetectNICEndiness (fun result w' =>
      result = noError ∧
        w' =
          { w with
            armed := false, believed := w.bigEndian }) := by
  unfold ksz8851DetectNICEndiness
  apply (leads_readReg regCider).bind
  rintro cider w' ⟨rfl, hShows, -⟩
  have hFound := hShows rfl
  by_cases hAgree : w.bigEndian = w.believed
  · rw [if_neg (not_not_intro (hFound.mpr ⟨hAgree, hCider⟩)),
      hAgree]
    exact Leads.pure ⟨rfl, rfl⟩
  · rw [if_pos (fun hId => hAgree (hFound.mp hId).1)]
    have hToggle : (!w.believed) = w.bigEndian := by
      cases hBig : w.bigEndian <;>
        cases hBelieved : w.believed <;> simp_all
    have hToggled :
        Leads bus { w with armed := false }
          (setInterface (fun iface =>
            { iface with
              isInBigEndianMode := !iface.isInBigEndianMode }))
          (fun _ w' =>
            w' =
              { w with
                armed := false
                believed := w.bigEndian }) := by
      apply Leads.perform
      intro e hState
      have hNew := congrArg (fun w : Setting =>
        { w with believed := !w.believed }) hState
      exact hNew.trans (congrArg (fun believed : Bool =>
        { w with armed := false, believed := believed })
          hToggle)
    apply hToggled.bind
    rintro _ w' rfl
    apply (leads_readReg regCider).bind
    rintro again w' ⟨rfl, hAgain, -⟩
    rw [if_neg (not_not_intro
      ((hAgain rfl).mpr ⟨rfl, hCider⟩))]
    exact Leads.pure ⟨rfl, rfl⟩

/- Probing a chip that is ready. -/
theorem leads_detect_ready (hReady : w.Ready) :
    Leads bus w ksz8851DetectNICEndiness (fun result w' =>
      result = noError ∧ w' = w) := by
  apply (leads_detectNICEndiness hReady.cider).conseq
  rintro result w' ⟨hResult, rfl⟩
  refine ⟨hResult, ?_⟩
  rcases hReady with ⟨hAgrees, -, hArmed⟩
  rw [← hArmed]
  exact congrArg (fun mode => { w with believed := mode })
    hAgrees

/- The reset is left at once when the chip was found. -/
theorem keeps_softReset
    (hReady : w.Ready) (resetOperation : UWORD) :
    Keeps bus w (ksz8851SoftReset resetOperation) := by
  unfold ksz8851SoftReset
  apply Leads.bind (leads_detect_ready hReady)
  rintro result w' ⟨rfl, rfl⟩
  rw [if_pos (show noError = 0 from rfl)]
  exact Keeps.pure ()

/- The mode bit reads as zero, so that it is written as it
   is asked for. -/
theorem leads_switchEndianessMode
    (hReady : w.Ready) (bigEndian : Bool) :
    Leads bus w (ksz8851SwitchEndianessMode bigEndian)
      (fun _ w' =>
        w' =
          { w with
            bigEndian := bigEndian
            believed := bigEndian }) := by
  unfold ksz8851SwitchEndianessMode
  apply (leads_readReg regRxfdpr).bind
  rintro value w' ⟨rfl, -, hShows⟩
  have hClear := hShows rfl hReady.agrees
  have hBit :
      bus.modeAfter regRxfdpr
        (if bigEndian then value ||| rxfdprEms else value)
        w.bigEndian = bigEndian := by
    unfold BusLogic.modeAfter
    rw [if_pos rfl]
    cases bigEndian with
    | true =>
        rw [if_pos rfl, BitVec.and_or_distrib_right, hClear]
        decide
    | false =>
        rw [if_neg Bool.false_ne_true, hClear]
        decide
  have hMiddle :
      ({ w with armed := false } : Setting).Ready :=
    ⟨hReady.agrees, hReady.cider, rfl⟩
  apply (leads_writeReg _ hMiddle.agrees (by decide)).bind
  rintro _ w' rfl
  apply Leads.perform
  intro e hState
  have hNew := congrArg (fun w : Setting =>
    { w with believed := bigEndian }) hState
  refine Eq.trans ?_ (hNew.trans ?_)
  · rfl
  · rw [hBit, ← hReady.armed]

------------------------------------------------------------
-- Initialization
------------------------------------------------------------

theorem keeps_configureRegisters (hReady : w.Ready) :
    Keeps bus w configureRegisters := by
  have hWrite {offset : UBYTE} (hPlain : Plain offset)
      (v : UWORD) : Keeps bus w (ksz8851WriteReg offset v) :=
    keeps_writeReg hReady v hPlain
  unfold configureRegisters
  refine (hWrite (by decide) _).bind fun _ => ?_
  refine (hWrite (by decide) _).bind fun _ => ?_
  refine (hWrite (by decide) _).bind fun _ => ?_
  refine (hWrite (by decide) _).bind fun _ => ?_
  refine (hWrite (by decide) _).bind fun _ => ?_
  apply Leads.bind leads_getInterface
  rintro context w' ⟨hBelieved, rfl⟩
  refine (keeps_readPointer hReady hBelieved).bind
    fun _ => ?_
  refine (hWrite (by decide) _).bind fun _ => ?_
  refine (keeps_clearBit hReady _ (by decide)).bind
    fun _ => ?_
  exact keeps_setBit hReady _ (by decide)

/- From any modes, initialising a chip that answers leaves it
   and the driver big endian. -/
theorem leads_init (hCider : w.cider = revA3Id) :
    Leads bus w ksz8851Init (fun result w' =>
      w' =
        { w with
          armed := false, bigEndian := true
          believed := true } ∧
        (w.freeMemory = true → result = noError)) := by
  have hFound :
      Leads bus w (detectLoop 2) (fun _ w' =>
        w' =
          { w with
            armed := false
            believed := w.bigEndian }) := by
    unfold detectLoop
    apply (leads_detectNICEndiness hCider).bind
    rintro result w' ⟨rfl, rfl⟩
    rw [if_pos rfl]
    exact Leads.pure rfl
  have hReady :
      ({ w with
        armed := false
        believed := w.bigEndian } : Setting).Ready :=
    ⟨rfl, hCider, rfl⟩
  have hBig :
      ({ w with
        armed := false, bigEndian := true
        believed := true } : Setting).Ready :=
    ⟨rfl, hCider, rfl⟩
  have hAlloc :
      Leads bus
        { w with
          armed := false, bigEndian := true
          believed := true }
        memPoolAlloc (fun allocated w' =>
          w' =
            { w with
              armed := false, bigEndian := true
              believed := true } ∧
            allocated = w.freeMemory) := by
    apply Leads.perform .memPoolAlloc
    intro e hState
    exact ⟨hState, congrArg Setting.freeMemory hState⟩
  unfold ksz8851Init
  refine keeps_disable.then fun _ => ?_
  apply hFound.bind
  rintro _ w' rfl
  refine (keeps_softReset hReady _).then fun _ => ?_
  apply (leads_readReg regCider).bind
  rintro cider w' ⟨rfl, hShows, -⟩
  rw [if_neg (not_not_intro
    ((hShows rfl).mpr ⟨rfl, hCider⟩))]
  apply (leads_switchEndianessMode hReady true).bind
  rintro _ w' rfl
  refine Keeps.then (keeps_setInterface (fun _ => rfl))
    fun _ => ?_
  apply hAlloc.bind
  rintro allocated w' ⟨rfl, hAllocated⟩
  refine Keeps.then (keeps_setInterface (fun _ => rfl))
    fun _ => ?_
  apply Leads.ite
  · intro _
    refine (keeps_configureRegisters hBig).then fun _ => ?_
    refine keeps_enable.then fun _ => ?_
    exact Leads.pure ⟨rfl, fun _ => rfl⟩
  · intro hNone
    refine keeps_enable.then fun _ => ?_
    refine Leads.pure ⟨rfl, fun hMemory => ?_⟩
    exact absurd (hAllocated.trans hMemory) hNone

end Modes

------------------------------------------------------------
-- Sequences of Operations
------------------------------------------------------------

/- The operations of the low level driver and its tool. -/
inductive EndianOp where
| init
| send (buffer : Memory) (length : Nat)
| sendCooked (dst src : Memory) (packetType : UWORD)
    (payload : Memory) (payloadLength : Nat)
| receive
| interrupt
| event
| online
| offline
| reset (resetOperation : UWORD)
| probe
| multicastFilter (filter : List MacFilterEntry)
| stationAddress (addr : MacAddr)
| switchEndianess (bigEndian : Bool)

/- The results do not matter to what follows. -/
def EndianOp.program : EndianOp → NicM Unit
| .init => do let _ ← ksz8851Init
| .send buffer length => do
    let _ ← ksz8851SendPacket buffer length
| .sendCooked dst src packetType payload payloadLength => do
    let _ ← ksz8851SendPacketCooked dst src packetType
      payload payloadLength
| .receive => do let _ ← ksz8851ReceivePacket
| .interrupt => do let _ ← isr
| .event => do let _ ← ksz8851EventHandler
| .online => ksz8851Online
| .offline => ksz8851Offline
| .reset resetOperation => ksz8851SoftReset resetOperation
| .probe => do let _ ← ksz8851DetectNICEndiness
| .multicastFilter filter => do
    let _ ← ksz8851SetMulticastFilter filter
| .stationAddress addr => ksz8851SetNetworkAddress addr
| .switchEndianess bigEndian => switchEndianessMode bigEndian

def endianProgram : List EndianOp → NicM Unit
| [] => pure ()
| op :: ops => do
    op.program
    endianProgram ops

section Sequences

variable {bus : BusLogic} {w : Setting}

theorem Keeps.ready
    {p : NicM Unit}
    (hReady : w.Ready)
    (hKeeps : Keeps bus w p) :
    Leads bus w p (fun _ w' => w'.Ready) := by
  apply Leads.conseq hKeeps
  rintro _ w' rfl
  exact hReady

/- Every operation leaves a ready chip ready. -/
theorem leads_program (hReady : w.Ready) (op : EndianOp) :
    Leads bus w op.program (fun _ w' => w'.Ready) := by
  have hDiscard {α : Type} {p : NicM α}
      (hKeeps : Keeps bus w p) :
      Leads bus w (do let _ ← p)
        (fun _ w' => w'.Ready) :=
    hKeeps.then (fun _ => Leads.pure hReady)
  cases op with
  | init =>
      apply (leads_init hReady.cider).bind
      rintro result w' ⟨rfl, -⟩
      exact Leads.pure ⟨rfl, hReady.cider, rfl⟩
  | send buffer length =>
      exact hDiscard (keeps_sendPacket hReady buffer length)
  | sendCooked dst src packetType payload payloadLength =>
      exact hDiscard (keeps_sendPacketCooked hReady dst src
        packetType payload payloadLength)
  | receive => exact hDiscard (keeps_receivePacket hReady)
  | interrupt => exact hDiscard (keeps_isr hReady)
  | event => exact hDiscard (keeps_eventHandler hReady)
  | online => exact (keeps_online hReady).ready hReady
  | offline => exact (keeps_offline hReady).ready hReady
  | reset resetOperation =>
      exact (keeps_softReset hReady _).ready hReady
  | probe =>
      apply (leads_detect_ready hReady).bind
      rintro result w' ⟨-, rfl⟩
      exact Leads.pure hReady
  | multicastFilter filter =>
      exact hDiscard (keeps_setMulticastFilter hReady filter)
  | stationAddress addr =>
      exact (keeps_setNetworkAddress hReady addr).ready hReady
  | switchEndianess bigEndian =>
      apply (leads_switchEndianessMode hReady
        bigEndian).conseq
      rintro _ w' rfl
      exact ⟨rfl, hReady.cider, hReady.armed⟩

theorem leads_endianProgram
    (hReady : w.Ready) (ops : List EndianOp) :
    Leads bus w (endianProgram ops)
      (fun _ w' => w'.Ready) := by
  induction ops generalizing w with
  | nil => exact Leads.pure hReady
  | cons op ops ih =>
      apply (leads_program hReady op).bind
      intro _ w' hNext
      exact ih hNext

end Sequences

/-
  Initialising a chip that answers leaves chip and driver
  big endian, and after any operations that follow they
  agree, whatever the registers do in between.
-/
theorem endian_agrees
    (bus : BusLogic)
    (ops : List EndianOp)
    {e : EndianNic}
    (hAnswers : e.Answers)
    (hMemory : e.nic.freeMemory = true) :
    Program.Safe (EndianNic.exec bus) Changes Anything
        (fun result e' =>
          result = noError ∧ e'.bigEndian = true ∧
            e'.nic.iface.isInBigEndianMode = true)
        ksz8851Init e ∧
      Program.Safe (EndianNic.exec bus) Changes Anything
        (fun _ e' => e'.Agrees)
        (do
          let _ ← ksz8851Init
          endianProgram ops) e := by
  have hCider : e.setting.cider = revA3Id := hAnswers
  have hInit := @leads_init bus e.setting hCider
  constructor
  · apply (hInit e rfl).mono
    rintro result e' ⟨hSetting, hResult⟩
    exact ⟨hResult hMemory,
      congrArg Setting.bigEndian hSetting,
      congrArg Setting.believed hSetting⟩
  · have hAll :
        Leads bus e.setting
          (do
            let _ ← ksz8851Init
            endianProgram ops)
          (fun _ w' => w'.Ready) := by
      apply hInit.bind
      rintro result w' ⟨rfl, -⟩
      have hReady :
          ({ e.setting with
            armed := false, bigEndian := true
            believed := true } : Setting).Ready :=
        ⟨rfl, hCider, rfl⟩
      exact leads_endianProgram hReady ops
    apply (hAll e rfl).mono
    intro _ e' hReady
    exact hReady.agrees

/- A chip in little-endian mode that answers wrong accesses
   with zero and ignores them otherwise. -/
def plainBus : BusLogic where
  defaultMode := false
  strayRead := fun _ _ => 0#16
  strayWrite := fun _ e =>
    { e with
      nic :=
        { e.nic with
          chip := { e.nic.chip with armed := false } } }
  strayIdentity := fun _ => by decide

/- A chip that answers, behind a driver that is wrong about
   its mode. -/
def littleEndianNic : EndianNic where
  nic :=
    { offlineNic with
      chip :=
        { offlineChip with reg := fun _ => revA3Id } }
  bigEndian := false

theorem endian_agrees_littleEndianNic :
    Program.Safe (EndianNic.exec plainBus) Changes Anything
        (fun result e' =>
          result = noError ∧ e'.bigEndian = true ∧
            e'.nic.iface.isInBigEndianMode = true)
        ksz8851Init littleEndianNic ∧
      Program.Safe (EndianNic.exec plainBus) Changes Anything
        (fun _ e' => e'.Agrees)
        (do
          let _ ← ksz8851Init
          endianProgram
            [.online, .event, .switchEndianess false, .probe,
              .reset grrGlobalSoftRst])
        littleEndianNic :=
  endian_agrees plainBus _ rfl rfl

end KszDriver
