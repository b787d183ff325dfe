import KszDriver.Nic.BusProtocol
import KszDriver.Nic.FrameFormat

/-
  What the chip is told to transmit over a whole run of the
  low level driver.

  A frame is transmitted when it is accepted, once, behind
  all frames accepted before it, and with the next number.
  No other operation of the driver transmits anything.

  Main declarations:
    * `NicState.txView`, `NicM.Silent`
    * `BusCall.acceptedFrame`, `acceptedFrames`
    * `silent_program`
    * `transmitted_calls`
-/

------------------------------------------------------------
-- What Transmissions Depend On
------------------------------------------------------------

namespace KszDriver

/- The words that were put into the queue, the frames that
   were started, the number of the next frame, and the order
   of the bytes. -/
structure TxView where
  fifo : List UWORD
  frames : List (List UWORD)
  frameId : UWORD
  isInBigEndianMode : Bool

def NicState.txView (n : NicState) : TxView where
  fifo := n.chip.fifo
  frames := n.chip.frames
  frameId := n.iface.frameId
  isInBigEndianMode := n.iface.isInBigEndianMode

/- The program puts nothing into the transmit queue and starts
   nothing. -/
def NicM.Silent {α : Type} (p : NicM α) : Prop :=
  ∀ n, (p.runOn n).2.txView = n.txView

section Rules

variable {α β : Type}

theorem silent_pure (value : α) :
    NicM.Silent (pure value : NicM α) :=
  fun _ => rfl

theorem NicM.Silent.bind
    {p : NicM α}
    {f : α → NicM β}
    (hFirst : p.Silent)
    (hRest : ∀ a, (f a).Silent) :
    NicM.Silent (p >>= f) := by
  intro n
  rw [NicM.runOn_bind, hRest, hFirst]

theorem NicM.Silent.ite
    {c : Prop} [Decidable c]
    {p q : NicM α}
    (hThen : p.Silent)
    (hElse : q.Silent) :
    NicM.Silent (if c then p else q) := by
  split
  · exact hThen
  · exact hElse

theorem NicM.Silent.onlyIf
    {c : Prop} [Decidable c]
    {p : NicM Unit}
    (hThen : p.Silent) :
    NicM.Silent (Program.onlyIf c p) :=
  hThen.ite (silent_pure ())

theorem silent_getInterface : NicM.Silent getInterface :=
  fun _ => rfl

theorem silent_setInterface
    {f : NetInterface → NetInterface}
    (hFrame : ∀ iface, (f iface).frameId = iface.frameId)
    (hMode : ∀ iface, (f iface).isInBigEndianMode =
      iface.isInBigEndianMode) :
    NicM.Silent (setInterface f) := by
  intro n
  show TxView.mk _ _ (f n.iface).frameId
    (f n.iface).isInBigEndianMode = _
  rw [hFrame, hMode]
  rfl

theorem silent_disable : NicM.Silent disable :=
  fun _ => rfl

theorem silent_enable : NicM.Silent enable :=
  fun _ => rfl

/- Reading takes from the receive queue at most. -/
theorem silent_readDataReg : NicM.Silent readDataReg := by
  intro n
  show TxView.mk n.chip.readData.2.fifo
    n.chip.readData.2.frames _ _ = _
  unfold Chip.readData
  split
  · rfl
  · split <;> rfl

theorem silent_ksz8851ReadReg (offset : UBYTE) :
    NicM.Silent (ksz8851ReadReg offset) := by
  intro n
  rw [runOn_ksz8851ReadReg]
  rfl

/- Only `TXQCR` starts a transmission. -/
theorem silent_ksz8851WriteReg
    {offset : UBYTE}
    (hOther : offset ≠ regTxqcr)
    (value : UWORD) :
    NicM.Silent (ksz8851WriteReg offset value) := by
  intro n
  rw [runOn_ksz8851WriteReg]
  have hQueue := Chip.writeReg_of_ne hOther value
    (n.access offset).chip
  show TxView.mk ((n.access offset).chip.writeReg offset
      value).fifo ((n.access offset).chip.writeReg offset
        value).frames _ _ = _
  rw [hQueue.1, hQueue.2]
  rfl

theorem silent_ksz8851SetBit
    {address : UBYTE}
    (hOther : address ≠ regTxqcr)
    (mask : UWORD) :
    NicM.Silent (ksz8851SetBit address mask) :=
  (silent_ksz8851ReadReg _).bind (fun _ =>
    silent_ksz8851WriteReg hOther _)

theorem silent_ksz8851ClearBit
    {address : UBYTE}
    (hOther : address ≠ regTxqcr)
    (mask : UWORD) :
    NicM.Silent (ksz8851ClearBit address mask) :=
  (silent_ksz8851ReadReg _).bind (fun _ =>
    silent_ksz8851WriteReg hOther _)

theorem silent_readWords
    (isInBigEndianMode : Bool)
    (sizeInWord i : Nat)
    (data : Memory) :
    NicM.Silent
      (readWords isInBigEndianMode sizeInWord i data) := by
  induction sizeInWord generalizing i data with
  | zero => exact silent_pure _
  | succ sizeInWord ih =>
      exact silent_readDataReg.bind (fun _ => ih (i + 1) _)

theorem silent_ksz8851ReadFifo (length : Nat) :
    NicM.Silent (ksz8851ReadFifo length) :=
  silent_getInterface.bind (fun _ =>
    (silent_readWords _ _ _ _).bind (fun _ =>
      silent_setInterface (fun _ => rfl) (fun _ => rfl)))

end Rules

------------------------------------------------------------
-- Receiving and Interrupts
------------------------------------------------------------

theorem silent_ksz8851ReceivePacket :
    NicM.Silent ksz8851ReceivePacket := by
  have hFlush :
      NicM.Silent (ksz8851SetBit regRxqcr rxqcrRrxef) :=
    silent_ksz8851SetBit (by decide) _
  unfold ksz8851ReceivePacket
  refine (silent_ksz8851ReadReg _).bind fun _ => ?_
  refine NicM.Silent.ite
    (hFlush.onlyIf.bind fun _ => silent_pure _) ?_
  refine (silent_ksz8851ReadReg _).bind fun _ => ?_
  refine NicM.Silent.ite ?_
    (hFlush.bind fun _ => silent_pure _)
  refine silent_getInterface.bind fun _ => ?_
  refine (silent_ksz8851WriteReg (by decide) _).bind
    fun _ => ?_
  refine (silent_ksz8851SetBit (by decide) _).bind
    fun _ => ?_
  refine silent_readDataReg.bind fun _ => ?_
  refine silent_readDataReg.bind fun _ => ?_
  refine silent_readDataReg.bind fun _ => ?_
  refine (silent_ksz8851ReadFifo _).bind fun _ => ?_
  refine (silent_ksz8851ClearBit (by decide) _).bind
    fun _ => ?_
  refine silent_enable.bind fun _ => ?_
  refine silent_getInterface.bind fun _ => ?_
  refine NicM.Silent.bind (NicM.Silent.onlyIf
    (fun _ => rfl)) fun _ => ?_
  exact silent_disable.bind (fun _ => silent_pure _)

theorem silent_receiveLoop (frameCount : Nat) :
    NicM.Silent (receiveLoop frameCount) := by
  induction frameCount with
  | zero => exact silent_pure _
  | succ frameCount ih =>
      exact silent_ksz8851ReceivePacket.bind (fun _ => ih)

theorem silent_notifyLinkChange :
    NicM.Silent notifyLinkChange :=
  silent_getInterface.bind (fun _ =>
    NicM.Silent.onlyIf (fun _ => rfl))

theorem frameId_updateLink
    (status : UWORD) (iface : NetInterface) :
    (iface.updateLink status).frameId = iface.frameId ∧
      (iface.updateLink status).isInBigEndianMode =
        iface.isInBigEndianMode := by
  unfold NetInterface.updateLink
  split <;> exact ⟨rfl, rfl⟩

theorem silent_ksz8851EventHandler :
    NicM.Silent ksz8851EventHandler := by
  have hLink (status : UWORD) :
      NicM.Silent (handleLinkChange status) := by
    unfold handleLinkChange
    refine NicM.Silent.ite ?_ (silent_pure _)
    refine (silent_ksz8851WriteReg (by decide) _).bind
      fun _ => ?_
    refine (silent_ksz8851ReadReg _).bind fun _ => ?_
    refine (silent_setInterface
      (fun iface => (frameId_updateLink _ iface).1)
      (fun iface => (frameId_updateLink _ iface).2)).bind
      fun _ => ?_
    exact silent_notifyLinkChange.bind
      (fun _ => silent_pure _)
  have hReceive (status enableMask : UWORD) :
      NicM.Silent (handleReceive status enableMask) := by
    unfold handleReceive
    refine NicM.Silent.ite ?_ (silent_pure _)
    refine (silent_ksz8851WriteReg (by decide) _).bind
      fun _ => ?_
    refine (silent_ksz8851ReadReg _).bind fun _ => ?_
    exact (silent_receiveLoop _).bind (fun _ => silent_pure _)
  have hOverrun (status enableMask : UWORD) :
      NicM.Silent (handleOverrun status enableMask) := by
    unfold handleOverrun
    refine NicM.Silent.ite ?_ (silent_pure _)
    refine NicM.Silent.bind (fun _ => rfl) fun _ => ?_
    exact (silent_ksz8851SetBit (by decide) _).bind
      (fun _ => silent_pure _)
  have hWakeup (status enableMask : UWORD) :
      NicM.Silent (handleWakeup status enableMask) :=
    (silent_notifyLinkChange.bind
      (fun _ => silent_pure _)).ite (silent_pure _)
  unfold ksz8851EventHandler
  refine silent_disable.bind fun _ => ?_
  refine (silent_ksz8851ReadReg _).bind fun _ => ?_
  refine (hLink _).bind fun _ => ?_
  refine (hReceive _ _).bind fun _ => ?_
  refine (hOverrun _ _).bind fun _ => ?_
  refine (hWakeup _ _).bind fun _ => ?_
  refine (silent_ksz8851SetBit (by decide) _).bind
    fun _ => ?_
  exact silent_enable.bind (fun _ => silent_pure _)

theorem silent_ksz8851IrqHandler :
    NicM.Silent ksz8851IrqHandler := by
  unfold ksz8851IrqHandler
  refine (silent_ksz8851ReadReg _).bind fun _ => ?_
  refine (silent_ksz8851ReadReg _).bind fun _ => ?_
  refine NicM.Silent.ite (silent_pure _) ?_
  refine (silent_ksz8851WriteReg (by decide) _).bind
    fun _ => ?_
  refine (NicM.Silent.onlyIf
    (silent_ksz8851WriteReg (by decide) _)).bind fun _ => ?_
  refine (NicM.Silent.onlyIf
    (silent_ksz8851SetBit (by decide) _)).bind fun _ => ?_
  exact (silent_ksz8851WriteReg (by decide) _).bind
    (fun _ => silent_pure _)

------------------------------------------------------------
-- Going Online and Offline
------------------------------------------------------------

theorem silent_ksz8851Online :
    NicM.Silent ksz8851Online := by
  have hInstall : NicM.Silent installInterruptHandler := by
    unfold installInterruptHandler
    refine silent_getInterface.bind fun _ => ?_
    refine NicM.Silent.ite (silent_pure _) ?_
    refine NicM.Silent.bind (fun _ => rfl) fun _ => ?_
    refine NicM.Silent.bind (fun _ => rfl) fun _ => ?_
    refine NicM.Silent.bind (fun _ => rfl) fun _ => ?_
    refine NicM.Silent.ite ?_ ?_
    · exact NicM.Silent.bind (fun _ => rfl)
        (fun _ => silent_pure _)
    · exact NicM.Silent.bind (fun _ => rfl)
        (fun _ => silent_pure _)
  unfold ksz8851Online
  refine hInstall.bind fun _ => ?_
  refine silent_disable.bind fun _ => ?_
  refine (silent_ksz8851SetBit (by decide) _).bind
    fun _ => ?_
  refine (silent_ksz8851SetBit (by decide) _).bind
    fun _ => ?_
  refine (silent_ksz8851SetBit (by decide) _).bind
    fun _ => ?_
  exact (silent_ksz8851SetBit (by decide) _).bind
    (fun _ => silent_enable)

theorem silent_ksz8851Offline :
    NicM.Silent ksz8851Offline := by
  have hUninstall : NicM.Silent uninstallInterruptHandler := by
    unfold uninstallInterruptHandler
    refine silent_getInterface.bind fun _ => ?_
    refine NicM.Silent.ite ?_ (silent_pure _)
    refine NicM.Silent.bind (fun _ => rfl) fun _ => ?_
    refine NicM.Silent.bind (fun _ => rfl) fun _ => ?_
    refine NicM.Silent.bind (fun _ => rfl) fun _ => ?_
    exact silent_setInterface (fun _ => rfl) (fun _ => rfl)
  unfold ksz8851Offline
  refine silent_disable.bind fun _ => ?_
  refine (silent_ksz8851WriteReg (by decide) _).bind
    fun _ => ?_
  refine (silent_ksz8851ClearBit (by decide) _).bind
    fun _ => ?_
  refine (silent_ksz8851ClearBit (by decide) _).bind
    fun _ => ?_
  exact silent_enable.bind (fun _ => hUninstall)

------------------------------------------------------------
-- Filter and Address
------------------------------------------------------------

theorem silent_ksz8851SetMulticastFilter
    (filter : List MacFilterEntry) :
    NicM.Silent (ksz8851SetMulticastFilter filter) := by
  unfold ksz8851SetMulticastFilter
  refine (silent_ksz8851WriteReg (by decide) _).bind
    fun _ => ?_
  refine (silent_ksz8851WriteReg (by decide) _).bind
    fun _ => ?_
  refine (silent_ksz8851WriteReg (by decide) _).bind
    fun _ => ?_
  exact (silent_ksz8851WriteReg (by decide) _).bind
    (fun _ => silent_pure _)

theorem silent_ksz8851SetNetworkAddress (addr : MacAddr) :
    NicM.Silent (ksz8851SetNetworkAddress addr) := by
  unfold ksz8851SetNetworkAddress
  refine silent_disable.bind fun _ => ?_
  refine (silent_ksz8851WriteReg (by decide) _).bind
    fun _ => ?_
  refine (silent_ksz8851WriteReg (by decide) _).bind
    fun _ => ?_
  exact (silent_ksz8851WriteReg (by decide) _).bind
    (fun _ => silent_enable)

------------------------------------------------------------
-- Sending
------------------------------------------------------------

/- One frame more was started, behind all others, and its
   number is used up. -/
def TxView.started (ws : List UWORD) (v : TxView) : TxView :=
  { v with
    fifo := []
    frames := v.frames ++ [v.fifo ++ ws]
    frameId := v.frameId + 1#16 }

/- These frames more were started. -/
def TxView.after (sent : List (List UWORD)) (v : TxView) :
    TxView :=
  { v with
    frames := v.frames ++ sent
    frameId := v.frameId + BitVec.ofNat 16 sent.length }

theorem TxView.after_nil (v : TxView) : v.after [] = v := by
  simp [TxView.after]

theorem TxView.after_started
    {v : TxView}
    (hEmpty : v.fifo = [])
    (ws : List UWORD)
    (sent : List (List UWORD)) :
    (v.started ws).after sent = v.after (ws :: sent) := by
  have hNumber :
      v.frameId + 1#16 + BitVec.ofNat 16 sent.length =
        v.frameId + BitVec.ofNat 16 (sent.length + 1) := by
    rw [BitVec.add_assoc, Nat.add_comm, BitVec.ofNat_add]
  simp only [TxView.after, TxView.started, hEmpty, hNumber,
    List.nil_append, List.append_assoc, List.singleton_append,
    List.length_cons]

open NicState

theorem txView_transmit
    {write : NicM Unit}
    {n : NicState}
    {ws : List UWORD}
    (hWrite : ∀ m : NicState, m.Sending →
      m.iface = n.readied.iface →
        write.runOn m = ((), m.push ws)) :
    ((transmit write).runOn n.readied).2.txView =
      n.txView.started ws := by
  have hStarted := (started_transmit hWrite).2
  have hSending :
      ((n.readied.access regRxqcr).setChip (fun c =>
        c.writeReg regRxqcr
          (c.reg regRxqcr ||| rxqcrSda))).Sending :=
    ⟨Chip.armed_writeReg _ _ _, Chip.sda_writeReg _ _⟩
  have hIface :
      ((transmit write).runOn n.readied).2.iface =
        n.readied.iface := by
    unfold transmit
    rw [NicM.runOn_bind, runOn_ksz8851SetBit, NicM.runOn_bind,
      hWrite _ hSending rfl]
    rfl
  show TxView.mk _ _ _ _ = _
  rw [hStarted.fifo, hStarted.frames, hIface]
  rfl

theorem txView_ksz8851SendPacket
    {length : Nat}
    {n : NicState}
    (buffer : Memory)
    (hAccepted : n.RawAccepted length) :
    ((ksz8851SendPacket buffer length).runOn n).2.txView =
      n.txView.started (n.rawStream buffer length) := by
  have hMost : length ≤ 131068 := by
    have hFrame := hAccepted.2.1
    unfold ethMaxFrameSize at hFrame
    omega
  rw [runOn_ksz8851SendPacket buffer hAccepted]
  apply txView_transmit
  intro m hSending hIface
  rw [NicM.runOn_bind,
    runOn_ksz8851WriteFifo _ (by omega) hSending,
    runOn_ksz8851WriteFifo _ hMost (hSending.push _),
    push_push]
  unfold rawStream
  rw [← wordsOf_readied hIface]
  rfl

/- The register that is asked for free memory has 13 bits. -/
theorem paddedLength_le_of_accepted
    {n : NicState}
    {payloadLength : Nat}
    (hAccepted : n.CookedAccepted payloadLength) :
    paddedLength payloadLength ≤ 131068 := by
  have hMask := Nat.and_le_right (n := (n.chip.reg regTxmir).toNat)
    (m := txmirTxmaMask.toNat)
  have hFits := hAccepted
  unfold CookedAccepted TxFits at hFits
  rw [BitVec.toNat_and] at hFits
  have hRange : txmirTxmaMask.toNat < 2 ^ 16 :=
    txmirTxmaMask.isLt
  omega

theorem txView_ksz8851SendPacketCooked
    {payloadLength : Nat}
    {n : NicState}
    (dst src : Memory)
    (packetType : UWORD)
    (payload : Memory)
    (hAccepted : n.CookedAccepted payloadLength) :
    ((ksz8851SendPacketCooked dst src packetType payload
        payloadLength).runOn n).2.txView =
      n.txView.started (n.cookedStream dst src packetType
        payload payloadLength) := by
  rw [runOn_ksz8851SendPacketCooked dst src packetType payload
    hAccepted]
  apply txView_transmit
  intro m hSending hIface
  rw [runOn_writeCookedFrame _ dst src packetType payload
    (paddedLength_le_of_accepted hAccepted) hSending]
  unfold cookedStream cookedWords
  rw [wordsOf_readied hIface]

------------------------------------------------------------
-- Runs
------------------------------------------------------------

/- What the frame of a call is, if the call is one to send it
   and is accepted. -/
def BusCall.acceptedFrame (n : NicState) :
    BusCall → Option (List UBYTE → Prop)
| .sendPacket buffer length =>
    if n.RawAccepted length then
      some (Eq (buffer.bytes length))
    else none
| .sendPacketCooked dst src packetType payload
    payloadLength =>
    if n.CookedAccepted payloadLength then
      some (CookedFrame dst src packetType payload
        payloadLength)
    else none
| _ => none

/- The frames of a run that are accepted, in turn. -/
def acceptedFrames :
    List BusCall → NicState → List (List UBYTE → Prop)
| [], _ => []
| c :: cs, n =>
    (c.acceptedFrame n).toList ++
      acceptedFrames cs (c.program.runOn n).2

/- The state after a run. -/
def afterCalls : List BusCall → NicState → NicState
| [], n => n
| c :: cs, n => afterCalls cs (c.program.runOn n).2

/- The state in which the next frame has the number that is
   `k` further on. -/
def NicState.numbered (n : NicState) (k : Nat) : NicState :=
  { n with
    iface :=
      { n.iface with
        frameId := n.iface.frameId + BitVec.ofNat 16 k } }

/- As many frames as that, in this order, numbered on from the
   state. -/
structure InTurn
    (n : NicState)
    (frames : List (List UBYTE → Prop))
    (sent : List (List UWORD)) : Prop where
  length : sent.length = frames.length
  carries : ∀ k IsFrame ws,
    frames[k]? = some IsFrame → sent[k]? = some ws →
      Carries (n.numbered k) IsFrame ws

theorem txView_of_untouched
    {n n' : NicState}
    (hSame : Untouched n n') :
    n'.txView = n.txView := by
  unfold NicState.txView
  rw [hSame.fifo, hSame.frames, hSame.iface]

/- The result of a program that is dropped. -/
theorem state_dropped
    {α : Type} (p : NicM α) (n : NicState) :
    ((p >>= fun _ => pure ()).runOn n : Unit × NicState).2 =
      (p.runOn n).2 := by
  rw [NicM.runOn_bind]
  rfl

/- A call that sends no frame leaves everything as it is. -/
theorem silent_program
    {c : BusCall}
    {n : NicState}
    (hNone : c.acceptedFrame n = none) :
    (c.program.runOn n).2.txView = n.txView := by
  cases c with
  | sendPacket buffer length =>
      have hRefused : ¬ n.RawAccepted length := by
        intro hAccepted
        simp [BusCall.acceptedFrame, hAccepted] at hNone
      rw [BusCall.program, state_dropped]
      exact txView_of_untouched
        (untouched_ksz8851SendPacket buffer hRefused).2
  | sendPacketCooked dst src packetType payload
      payloadLength =>
      have hRefused : ¬ n.CookedAccepted payloadLength := by
        intro hAccepted
        simp [BusCall.acceptedFrame, hAccepted] at hNone
      rw [BusCall.program, state_dropped]
      exact txView_of_untouched
        (untouched_ksz8851SendPacketCooked dst src packetType
          payload hRefused).2
  | receivePacket =>
      exact (silent_ksz8851ReceivePacket.bind
        (fun _ => silent_pure ())) n
  | eventHandler =>
      exact (silent_ksz8851EventHandler.bind
        (fun _ => silent_pure ())) n
  | irqHandler =>
      exact (silent_ksz8851IrqHandler.bind
        (fun _ => silent_pure ())) n
  | online => exact silent_ksz8851Online n
  | offline => exact silent_ksz8851Offline n
  | setMulticastFilter filter =>
      exact ((silent_ksz8851SetMulticastFilter filter).bind
        (fun _ => silent_pure ())) n
  | setNetworkAddress addr =>
      exact silent_ksz8851SetNetworkAddress addr n

/- A call that sends a frame sends that frame. -/
theorem started_program
    {c : BusCall}
    {n : NicState}
    {IsFrame : List UBYTE → Prop}
    (hSome : c.acceptedFrame n = some IsFrame) :
    ∃ ws, Carries n IsFrame ws ∧
      (c.program.runOn n).2.txView = n.txView.started ws := by
  cases c with
  | sendPacket buffer length =>
      obtain ⟨hAccepted, hFrame⟩ :=
        Option.ite_none_right_eq_some.mp hSome
      obtain rfl := Option.some.inj hFrame
      rw [BusCall.program, state_dropped]
      exact ⟨_, carries_rawStream n buffer length,
        txView_ksz8851SendPacket buffer hAccepted⟩
  | sendPacketCooked dst src packetType payload
      payloadLength =>
      obtain ⟨hAccepted, hFrame⟩ :=
        Option.ite_none_right_eq_some.mp hSome
      obtain rfl := Option.some.inj hFrame
      rw [BusCall.program, state_dropped]
      exact ⟨_, carries_cookedStream n dst src packetType
          payload payloadLength,
        txView_ksz8851SendPacketCooked dst src packetType
          payload hAccepted⟩
  | receivePacket => nomatch hSome
  | eventHandler => nomatch hSome
  | irqHandler => nomatch hSome
  | online => nomatch hSome
  | offline => nomatch hSome
  | setMulticastFilter filter => nomatch hSome
  | setNetworkAddress addr => nomatch hSome

/- Only the number and the order of the bytes matter. -/
theorem Carries.congr
    {n n' : NicState}
    {IsFrame : List UBYTE → Prop}
    {ws : List UWORD}
    (hCarries : Carries n IsFrame ws)
    (hFrame : n'.iface.frameId = n.iface.frameId)
    (hMode : n'.iface.isInBigEndianMode =
      n.iface.isInBigEndianMode) :
    Carries n' IsFrame ws := by
  unfold Carries
  rw [hFrame, hMode]
  exact hCarries

theorem InTurn.of_silent
    {n n' : NicState}
    {frames : List (List UBYTE → Prop)}
    {sent : List (List UWORD)}
    (hInTurn : InTurn n' frames sent)
    (hSame : n'.txView = n.txView) :
    InTurn n frames sent := by
  have hFrame := congrArg TxView.frameId hSame
  have hMode := congrArg TxView.isInBigEndianMode hSame
  refine ⟨hInTurn.length, ?_⟩
  intro k IsFrame ws hNth hSent
  apply (hInTurn.carries k IsFrame ws hNth hSent).congr
  · exact congrArg (· + BitVec.ofNat 16 k) hFrame.symm
  · exact hMode.symm

/- The frames behind the first have the following numbers. -/
theorem InTurn.cons
    {n n' : NicState}
    {IsFrame : List UBYTE → Prop}
    {ws : List UWORD}
    {frames : List (List UBYTE → Prop)}
    {sent : List (List UWORD)}
    (hFirst : Carries n IsFrame ws)
    (hStarted : n'.txView = n.txView.started ws)
    (hInTurn : InTurn n' frames sent) :
    InTurn n (IsFrame :: frames) (ws :: sent) := by
  have hFrame := congrArg TxView.frameId hStarted
  have hMode := congrArg TxView.isInBigEndianMode hStarted
  refine ⟨congrArg Nat.succ hInTurn.length, ?_⟩
  intro k IsFrame' ws' hNth hSent
  cases k with
  | zero =>
      obtain rfl := Option.some.inj hNth
      obtain rfl := Option.some.inj hSent
      exact hFirst.congr (BitVec.add_zero _) rfl
  | succ k =>
      apply (hInTurn.carries k IsFrame' ws' hNth hSent).congr
      · show n.iface.frameId + BitVec.ofNat 16 (k + 1) =
          n'.iface.frameId + BitVec.ofNat 16 k
        have hNumber : n'.iface.frameId =
          n.iface.frameId + 1#16 := hFrame
        rw [hNumber, BitVec.add_assoc, Nat.add_comm k 1,
          BitVec.ofNat_add]
      · exact hMode.symm

/-
  In every run each frame that is accepted is transmitted
  once, whole, behind the frames that were accepted before it
  and under the next number, and nothing else is.
-/
theorem transmitted_calls
    (cs : List BusCall)
    {n : NicState}
    (hEmpty : n.chip.fifo = []) :
    ∃ sent,
      InTurn n (acceptedFrames cs n) sent ∧
        (afterCalls cs n).txView = n.txView.after sent := by
  induction cs generalizing n with
  | nil =>
      exact ⟨[], ⟨rfl, fun _ _ _ hNth => nomatch hNth⟩,
        (TxView.after_nil _).symm⟩
  | cons c cs ih =>
      show ∃ sent, InTurn n
        ((c.acceptedFrame n).toList ++
          acceptedFrames cs (c.program.runOn n).2) sent ∧
        (afterCalls cs (c.program.runOn n).2).txView = _
      cases hFrame : c.acceptedFrame n with
      | none =>
          have hSame := silent_program hFrame
          obtain ⟨sent, hInTurn, hRest⟩ :=
            ih ((congrArg TxView.fifo hSame).trans hEmpty)
          refine ⟨sent, hInTurn.of_silent hSame, ?_⟩
          rw [hRest, hSame]
      | some IsFrame =>
          obtain ⟨ws, hCarries, hStarted⟩ :=
            started_program hFrame
          obtain ⟨sent, hInTurn, hRest⟩ :=
            ih (congrArg TxView.fifo hStarted)
          refine ⟨ws :: sent, hInTurn.cons hCarries hStarted,
            ?_⟩
          rw [hRest, hStarted]
          exact TxView.after_started hEmpty ws sent

/- A raw frame, an interrupt, and a frame given in parts. -/
theorem transmitted_calls_roomyNic :
    roomyNic.chip.fifo = [] ∧
      ∃ sent,
        InTurn roomyNic
            (acceptedFrames
              [.sendPacket (fun _ => 0#8) 60, .irqHandler,
                .sendPacketCooked (fun _ => 0#8)
                  (fun _ => 0#8) 0x0800#16 (fun _ => 0#8) 46]
              roomyNic) sent ∧
          (afterCalls
              [.sendPacket (fun _ => 0#8) 60, .irqHandler,
                .sendPacketCooked (fun _ => 0#8)
                  (fun _ => 0#8) 0x0800#16 (fun _ => 0#8) 46]
              roomyNic).txView =
            roomyNic.txView.after sent :=
  ⟨rfl, transmitted_calls _ rfl⟩

end KszDriver
