import KszDriver.Core.Recording
import KszDriver.Nic.LowLevel

/-
  Low level operations that allocate and free nothing and
  leave the interrupt server alone.

  Main declarations:
    * `NicOp.Plain`, `NicM.Plain`
    * `plain_ksz8851DetectNICEndiness`
    * `plain_configureRegisters`
    * `plain_ksz8851SendPacket`
    * `plain_ksz8851SendPacketCooked`
-/

------------------------------------------------------------
-- Plain Operations
------------------------------------------------------------

namespace KszDriver

/- The operation concerns neither memory nor signals nor the
   interrupt server. -/
def NicOp.Plain : NicOp → Prop
| .setInterface f => ∀ iface, (f iface).signalTask =
    iface.signalTask
| .allocSignal | .freeSignal | .addIntServer | .remIntServer
| .memPoolAlloc => False
| _ => True

/- The program consists of such operations. -/
def NicM.Plain {α : Type} (p : NicM α) : Prop :=
  Program.Only NicOp.Plain p

section Rules

variable {α β : Type}

theorem plain_pure (value : α) :
    NicM.Plain (pure value : NicM α) :=
  Program.Only.pure value

theorem plain_perform
    {op : NicOp}
    (hPlain : op.Plain) :
    NicM.Plain (Program.perform op : NicM op.Ret) :=
  Program.Only.perform hPlain

theorem NicM.Plain.bind
    {p : NicM α}
    {f : α → NicM β}
    (hFirst : p.Plain)
    (hRest : ∀ a, (f a).Plain) :
    NicM.Plain (p >>= f) :=
  Program.Only.bind hFirst hRest

theorem NicM.Plain.ite
    {c : Prop} [Decidable c]
    {p q : NicM α}
    (hThen : p.Plain)
    (hElse : q.Plain) :
    NicM.Plain (if c then p else q) :=
  Program.Only.ite hThen hElse

end Rules

------------------------------------------------------------
-- Accesses
------------------------------------------------------------

theorem plain_getInterface : NicM.Plain getInterface :=
  plain_perform trivial

theorem plain_setInterface
    {f : NetInterface → NetInterface}
    (hTask : ∀ iface, (f iface).signalTask =
      iface.signalTask) :
    NicM.Plain (setInterface f) :=
  plain_perform hTask

theorem plain_cmdReg (v : UWORD) : NicM.Plain (cmdReg v) :=
  plain_perform trivial

theorem plain_dataReg (v : UWORD) : NicM.Plain (dataReg v) :=
  plain_perform trivial

theorem plain_readDataReg : NicM.Plain readDataReg :=
  plain_perform trivial

theorem plain_disable : NicM.Plain disable :=
  plain_perform trivial

theorem plain_enable : NicM.Plain enable :=
  plain_perform trivial

theorem plain_delay (ticks : Nat) :
    NicM.Plain (delay ticks) :=
  plain_perform trivial

theorem plain_ksz8851ReadReg (offset : UBYTE) :
    NicM.Plain (ksz8851ReadReg offset) :=
  plain_getInterface.bind (fun _ =>
    (plain_cmdReg _).bind (fun _ => plain_readDataReg))

theorem plain_ksz8851WriteReg
    (offset : UBYTE) (value : UWORD) :
    NicM.Plain (ksz8851WriteReg offset value) :=
  plain_getInterface.bind (fun _ =>
    (plain_cmdReg _).bind (fun _ => plain_dataReg value))

theorem plain_ksz8851SetBit
    (address : UBYTE) (mask : UWORD) :
    NicM.Plain (ksz8851SetBit address mask) :=
  (plain_ksz8851ReadReg address).bind (fun _ =>
    plain_ksz8851WriteReg address _)

theorem plain_ksz8851ClearBit
    (address : UBYTE) (mask : UWORD) :
    NicM.Plain (ksz8851ClearBit address mask) :=
  (plain_ksz8851ReadReg address).bind (fun _ =>
    plain_ksz8851WriteReg address _)

theorem plain_writeWords
    (isInBigEndianMode : Bool)
    (data : Memory)
    (sizeInWord i : Nat) :
    NicM.Plain
      (writeWords isInBigEndianMode data sizeInWord i) := by
  induction sizeInWord generalizing i with
  | zero => exact plain_pure ()
  | succ sizeInWord ih =>
      exact (plain_dataReg _).bind (fun _ => ih (i + 1))

theorem plain_ksz8851WriteFifo
    (data : Memory) (length : Nat) :
    NicM.Plain (ksz8851WriteFifo data length) :=
  plain_getInterface.bind (fun _ =>
    plain_writeWords _ data _ 0)

theorem plain_ksz8851WriteFifoWordAlign
    (data : Memory) (lengthInBytes : Nat) :
    NicM.Plain
      (ksz8851WriteFifoWordAlign data lengthInBytes) :=
  plain_getInterface.bind (fun _ =>
    (plain_writeWords _ data _ 0).bind
      (fun _ => plain_pure _))

------------------------------------------------------------
-- Bringing the Chip Up
------------------------------------------------------------

theorem plain_ksz8851DetectNICEndiness :
    NicM.Plain ksz8851DetectNICEndiness :=
  (plain_ksz8851ReadReg regCider).bind (fun _ =>
    NicM.Plain.ite
      ((plain_setInterface (fun _ => rfl)).bind (fun _ =>
        (plain_ksz8851ReadReg regCider).bind (fun _ =>
          NicM.Plain.ite (plain_pure _) (plain_pure _))))
      (plain_pure _))

theorem plain_resetInMode (bigEndian : Bool) :
    NicM.Plain (resetInMode bigEndian) :=
  (plain_setInterface (fun _ => rfl)).bind (fun _ =>
    (plain_ksz8851WriteReg _ _).bind (fun _ =>
      plain_ksz8851WriteReg _ _))

theorem plain_detectLoop (tries : Nat) :
    NicM.Plain (detectLoop tries) := by
  induction tries with
  | zero =>
      exact plain_ksz8851DetectNICEndiness.bind (fun _ =>
        NicM.Plain.ite (plain_pure ())
          ((plain_resetInMode false).bind (fun _ =>
            plain_resetInMode true)))
  | succ tries ih =>
      exact plain_ksz8851DetectNICEndiness.bind (fun _ =>
        NicM.Plain.ite (plain_pure ())
          ((plain_resetInMode false).bind (fun _ =>
            (plain_resetInMode true).bind (fun _ => ih))))

theorem plain_ksz8851SoftReset (resetOperation : UWORD) :
    NicM.Plain (ksz8851SoftReset resetOperation) := by
  unfold ksz8851SoftReset
  refine plain_ksz8851DetectNICEndiness.bind fun _ => ?_
  refine NicM.Plain.ite (plain_pure ()) ?_
  refine (plain_ksz8851ReadReg regIsr).bind fun _ => ?_
  refine (plain_ksz8851WriteReg _ _).bind fun _ => ?_
  refine (plain_ksz8851WriteReg _ _).bind fun _ => ?_
  refine (plain_delay 25).bind fun _ => ?_
  refine (plain_ksz8851WriteReg _ _).bind fun _ => ?_
  refine (plain_delay 10).bind fun _ => ?_
  refine plain_ksz8851DetectNICEndiness.bind fun _ => ?_
  exact NicM.Plain.ite (plain_pure ())
    (plain_ksz8851WriteReg _ _)

theorem plain_ksz8851SwitchEndianessMode (bigEndian : Bool) :
    NicM.Plain (ksz8851SwitchEndianessMode bigEndian) :=
  (plain_ksz8851ReadReg regRxfdpr).bind (fun _ =>
    (plain_ksz8851WriteReg _ _).bind (fun _ =>
      plain_setInterface (fun _ => rfl)))

theorem plain_configureRegisters :
    NicM.Plain configureRegisters := by
  unfold configureRegisters
  refine (plain_ksz8851WriteReg _ _).bind fun _ => ?_
  refine (plain_ksz8851WriteReg _ _).bind fun _ => ?_
  refine (plain_ksz8851WriteReg _ _).bind fun _ => ?_
  refine (plain_ksz8851WriteReg _ _).bind fun _ => ?_
  refine (plain_ksz8851WriteReg _ _).bind fun _ => ?_
  refine plain_getInterface.bind fun _ => ?_
  refine (plain_ksz8851WriteReg _ _).bind fun _ => ?_
  refine (plain_ksz8851WriteReg _ _).bind fun _ => ?_
  refine (plain_ksz8851ClearBit _ _).bind fun _ => ?_
  exact plain_ksz8851SetBit _ _

theorem plain_ksz8851SetNetworkAddress (addr : MacAddr) :
    NicM.Plain (ksz8851SetNetworkAddress addr) := by
  unfold ksz8851SetNetworkAddress
  refine plain_disable.bind fun _ => ?_
  refine (plain_ksz8851WriteReg _ _).bind fun _ => ?_
  refine (plain_ksz8851WriteReg _ _).bind fun _ => ?_
  refine (plain_ksz8851WriteReg _ _).bind fun _ => ?_
  exact plain_enable

------------------------------------------------------------
-- Sending
------------------------------------------------------------

theorem plain_nextControlWord : NicM.Plain nextControlWord :=
  plain_getInterface.bind (fun _ =>
    (plain_setInterface (fun _ => rfl)).bind
      (fun _ => plain_pure _))

theorem plain_ksz8851SendPacket
    (buffer : Memory) (length : Nat) :
    NicM.Plain (ksz8851SendPacket buffer length) := by
  unfold ksz8851SendPacket
  refine NicM.Plain.ite (plain_pure _) ?_
  refine plain_disable.bind fun _ => ?_
  refine (plain_ksz8851ReadReg regTxmir).bind fun _ => ?_
  refine NicM.Plain.ite ?_ ?_
  · exact plain_enable.bind fun _ => plain_pure _
  refine plain_nextControlWord.bind fun _ => ?_
  refine (plain_ksz8851SetBit _ _).bind fun _ => ?_
  refine (plain_ksz8851WriteFifo _ 4).bind fun _ => ?_
  refine (plain_ksz8851WriteFifo buffer _).bind fun _ => ?_
  refine (plain_ksz8851ClearBit _ _).bind fun _ => ?_
  refine (plain_ksz8851SetBit _ _).bind fun _ => ?_
  exact plain_enable.bind fun _ => plain_pure _

theorem plain_writeCookedFrame
    (header dst src : Memory)
    (packetType : UWORD)
    (payload : Memory)
    (payloadLength : Nat) :
    NicM.Plain (writeCookedFrame header dst src packetType
      payload payloadLength) := by
  unfold writeCookedFrame
  refine (plain_ksz8851WriteFifoWordAlign _ 4).bind
    fun _ => ?_
  refine (plain_ksz8851WriteFifoWordAlign _ 6).bind
    fun _ => ?_
  refine (plain_ksz8851WriteFifoWordAlign _ 6).bind
    fun _ => ?_
  refine (plain_ksz8851WriteFifoWordAlign _ 2).bind
    fun _ => ?_
  refine (plain_ksz8851WriteFifoWordAlign _ _).bind
    fun _ => ?_
  exact NicM.Plain.ite (plain_dataReg _) (plain_pure ())

theorem plain_ksz8851SendPacketCooked
    (dst src : Memory)
    (packetType : UWORD)
    (payload : Memory)
    (payloadLength : Nat) :
    NicM.Plain (ksz8851SendPacketCooked dst src packetType
      payload payloadLength) := by
  unfold ksz8851SendPacketCooked
  dsimp only
  refine plain_disable.bind fun _ => ?_
  refine (plain_ksz8851ReadReg regTxmir).bind fun _ => ?_
  refine NicM.Plain.ite ?_ ?_
  · exact plain_enable.bind fun _ => plain_pure _
  refine plain_nextControlWord.bind fun _ => ?_
  refine (plain_ksz8851SetBit _ _).bind fun _ => ?_
  refine (plain_writeCookedFrame _ dst src _ _ _).bind
    fun _ => ?_
  refine (plain_ksz8851ClearBit _ _).bind fun _ => ?_
  refine (plain_ksz8851SetBit _ _).bind fun _ => ?_
  exact plain_enable.bind fun _ => plain_pure _

end KszDriver
