import KszDriver.Nic.TxStream

/-
  What `ksz8851ReceivePacket` takes from the receive queue,
  where it stores it and what it hands on.

  Main declarations:
    * `NicState.readOut`
    * `readLength`
    * `RxVerdict`, `NicState.verdict`
    * `Received`, `received_ksz8851ReceivePacket`
    * `Released`, `released_ksz8851ReceivePacket`
-/

------------------------------------------------------------
-- Reading from the Queue
------------------------------------------------------------

namespace KszDriver

open NicState

namespace NicState

/- The data port reads from the receive queue. -/
def Receiving (n : NicState) : Prop :=
  n.chip.armed = false ∧ n.chip.Sda

/- The next `k` words of the receive queue; behind its end
   zeros are read. -/
def rxWords (n : NicState) (k : Nat) : List UWORD :=
  (List.range k).map (fun i => n.chip.rxq.getD i 0#16)

/- So many words have been read. -/
def readOut (n : NicState) (k : Nat) : NicState :=
  n.setChip (fun c => { c with rxq := c.rxq.drop k })

@[simp] theorem length_rxWords (n : NicState) (k : Nat) :
    (n.rxWords k).length = k := by
  simp [rxWords]

theorem readOut_readOut (n : NicState) (j k : Nat) :
    (n.readOut j).readOut k = n.readOut (j + k) := by
  simp [readOut, setChip, List.drop_drop]

theorem rxWords_succ (n : NicState) (k : Nat) :
    n.rxWords (k + 1) =
      n.chip.rxq.headD 0#16 :: (n.readOut 1).rxWords k := by
  unfold rxWords readOut setChip
  rw [List.range_succ_eq_map, List.map_cons, List.map_map]
  cases hQueue : n.chip.rxq with
  | nil => simp [hQueue, Function.comp_def]
  | cons w rest => simp [hQueue]

/- Where the queue is long enough, it is its front. -/
theorem rxWords_of_le
    {n : NicState}
    {k : Nat}
    (hLong : k ≤ n.chip.rxq.length) :
    n.rxWords k = n.chip.rxq.take k := by
  apply List.ext_getElem?
  intro i
  unfold rxWords
  by_cases hInside : i < k
  · have hIn : i < n.chip.rxq.length := by
      omega
    simp [hInside, hIn]
  · simp [hInside]

end NicState

/- The read loops take words apart in the order in which the
   chip puts them together. -/
theorem storeTwo_eq
    (isInBigEndianMode : Bool)
    (data : Memory)
    (i : Nat)
    (w : UWORD) :
    (if isInBigEndianMode then
        data.storeTwo (2 * i) (highByte w) (lowByte w)
      else
        data.storeTwo (2 * i) (lowByte w) (highByte w)) =
      fun j =>
        if j = 2 * i then (portOrder isInBigEndianMode).first w
        else if j = 2 * i + 1 then
          (portOrder isInBigEndianMode).second w
        else data j := by
  cases isInBigEndianMode <;> rfl

section Reading

variable {n : NicState}

theorem runOn_readDataReg (hReceiving : n.Receiving) :
    readDataReg.runOn n =
      (n.chip.rxq.headD 0#16, n.readOut 1) := by
  simp [readDataReg, NicM.runOn, NicOp.exec, Chip.readData,
    hReceiving.1, hReceiving.2, readOut, setChip]

theorem runOn_readWords
    (isInBigEndianMode : Bool)
    (sizeInWord i : Nat)
    (data : Memory)
    (hReceiving : n.Receiving) :
    (readWords isInBigEndianMode sizeInWord i data).runOn n =
      ((portOrder isInBigEndianMode).store data i
        (n.rxWords sizeInWord), n.readOut sizeInWord) := by
  induction sizeInWord generalizing i data n with
  | zero => simp [readWords, rxWords, readOut, setChip,
      WordOrder.store]
  | succ sizeInWord ih =>
      have hLater : (n.readOut 1).Receiving := hReceiving
      unfold readWords
      rw [NicM.runOn_bind, runOn_readDataReg hReceiving]
      dsimp only
      rw [ih (i + 1) _ hLater, rxWords_succ, readOut_readOut,
        Nat.add_comm 1 sizeInWord, storeTwo_eq]
      rfl

/- The bytes that are read for a frame of this length, in
   whole double words. -/
def readLength (length : Nat) : Nat :=
  (length + 3) / 4 * 4

/- The receive buffer after a frame has been read into it. -/
def NicState.filled (n : NicState) (length : Nat) : Memory :=
  (portOrder n.iface.isInBigEndianMode).store n.iface.rxData 0
    (n.rxWords (readLength length / 2))

theorem runOn_ksz8851ReadFifo
    {length : Nat}
    (hLength : length ≤ 131068)
    (hReceiving : n.Receiving) :
    (ksz8851ReadFifo length).runOn n =
      ((), { n.readOut (readLength length / 2) with
        iface :=
          { n.iface with rxData := n.filled length } }) := by
  have hSize : readLength length / 2 < 65536 := by
    unfold readLength
    omega
  unfold ksz8851ReadFifo
  rw [NicM.runOn_bind, runOn_getInterface]
  dsimp only
  rw [show (length + 3) / 4 * 4 / 2 = readLength length / 2
    from rfl, BitVec.toNat_ofNat, Nat.mod_eq_of_lt hSize,
    NicM.runOn_bind, runOn_readWords _ _ _ _ hReceiving]
  rfl

/- Nothing is stored but the bytes that are read. -/
theorem filled_of_le
    (n : NicState)
    {length i : Nat}
    (hBehind : readLength length ≤ i) :
    n.filled length i = n.iface.rxData i := by
  have hWords : 2 * (readLength length / 2) ≤ i := by
    omega
  apply WordOrder.store_outside
  rw [length_rxWords]
  omega

/- The bytes that were read lie in front. -/
theorem bytes_filled (n : NicState) (length : Nat) :
    (n.filled length).bytes (readLength length) =
      (portOrder n.iface.isInBigEndianMode).bytes
        (n.rxWords (readLength length / 2)) := by
  have hEven :
      readLength length =
        2 * (n.rxWords (readLength length / 2)).length := by
    rw [length_rxWords]
    unfold readLength
    omega
  have hStored :=
    (portOrder n.iface.isInBigEndianMode).bytes_store
      n.iface.rxData (n.rxWords (readLength length / 2))
  rw [← hEven] at hStored
  exact hStored

end Reading

------------------------------------------------------------
-- Receiving a Frame
------------------------------------------------------------

/- What `ksz8851ReceivePacket` makes of the frame that the
   registers describe. -/
inductive RxVerdict where
| accept
| release
| ignore
deriving DecidableEq, Repr

namespace NicState

def frameStatus (n : NicState) : UWORD :=
  n.chip.reg regRxfhsr

/- The byte count of the frame. -/
def rxPktLength (n : NicState) : UWORD :=
  n.chip.reg regRxfhbcr &&& rxfhbcrRxbcMask

/- The byte count is one that is accepted. -/
def LengthAccepted (rxPktLength : UWORD) : Prop :=
  rxPktLength ≠ 0#16 ∧
    rxPktLength.toNat ≤ ethMaxFrameSize + 4

instance (rxPktLength : UWORD) :
    Decidable (LengthAccepted rxPktLength) := by
  unfold LengthAccepted
  infer_instance

/- A frame is read out, released or left where it is. -/
def verdict (n : NicState) : RxVerdict :=
  if n.frameStatus &&& rxfhsrRxfv = 0#16 then
    if n.frameStatus &&& errorFrameMask ≠ 0#16 then .release
    else .ignore
  else if LengthAccepted n.rxPktLength then .accept
  else .release

end NicState

/- Of the state that outlives an operation no more than these
   parts have changed. -/
structure Received (n n' : NicState) : Prop where
  rxq : n'.chip.rxq =
    n.chip.rxq.drop (3 + readLength n.rxPktLength.toNat / 2)
  iface : n'.iface =
    { n.iface with
      rxData := (n.readOut 3).filled n.rxPktLength.toNat }
  delivered : n'.delivered =
    if n.iface.onPacketReceived then
      n.delivered ++
        [(((n.readOut 3).filled n.rxPktLength.toNat).drop 2,
          n.rxPktLength - 2#16 - 4#16)]
    else n.delivered

/- The frame was released, and none was handed on. -/
structure Released (n n' : NicState) : Prop where
  rxq : n'.chip.rxq = n.chip.rxq
  iface : n'.iface = n.iface
  delivered : n'.delivered = n.delivered

/- Reading a frame out, between setting and clearing `SDA`. -/
def readFrame (length : Nat) : NicM Unit := do
  ksz8851SetBit regRxqcr rxqcrSda
  let _ ← readDataReg
  let _ ← readDataReg
  let _ ← readDataReg
  ksz8851ReadFifo length
  ksz8851ClearBit regRxqcr rxqcrSda

/- Handing a frame on, while interrupts are enabled. -/
def deliver (size : UWORD) : NicM Unit := do
  enable
  let interface ← getInterface
  Program.onlyIf interface.onPacketReceived
    (onPacketReceived (interface.rxData.drop 2) size)
  disable

section Receiving

variable {n : NicState}

/- Register writes leave the receive queue alone. -/
@[simp] theorem Chip.rxq_writeReg
    (a : UBYTE) (v : UWORD) (c : Chip) :
    (c.writeReg a v).rxq = c.rxq := by
  unfold Chip.writeReg
  split
  · rfl
  · split <;> rfl

/- The three words in front of a frame are thrown away. -/
theorem runOn_skipHeader
    {α : Type}
    (p : NicM α)
    (hReceiving : n.Receiving) :
    (do
      let _ ← readDataReg
      let _ ← readDataReg
      let _ ← readDataReg
      p : NicM α).runOn n = p.runOn (n.readOut 3) := by
  have hOnce : (n.readOut 1).Receiving := hReceiving
  have hTwice : (n.readOut 2).Receiving := hReceiving
  rw [NicM.runOn_bind, runOn_readDataReg hReceiving,
    NicM.runOn_bind, runOn_readDataReg hOnce, readOut_readOut,
    NicM.runOn_bind, runOn_readDataReg hTwice, readOut_readOut]

theorem runOn_readFrame
    {length : Nat}
    (hLength : length ≤ 131068) :
    let n' := ((readFrame length).runOn n).2
    n'.chip.rxq =
        n.chip.rxq.drop (3 + readLength length / 2) ∧
      n'.iface =
        { n.iface with
          rxData := (n.readOut 3).filled length } ∧
      n'.delivered = n.delivered := by
  have hReceiving :
      ((n.access regRxqcr).setChip (fun c =>
        c.writeReg regRxqcr
          (c.reg regRxqcr ||| rxqcrSda))).Receiving :=
    ⟨Chip.armed_writeReg _ _ _, Chip.sda_writeReg _ _⟩
  have hQueue :
      ((n.access regRxqcr).setChip (fun c =>
        c.writeReg regRxqcr
          (c.reg regRxqcr ||| rxqcrSda))).chip.rxq =
        n.chip.rxq :=
    Chip.rxq_writeReg _ _ _
  unfold readFrame
  rw [NicM.runOn_bind, runOn_ksz8851SetBit]
  dsimp only
  have hIface :
      ((n.access regRxqcr).setChip (fun c =>
        c.writeReg regRxqcr
          (c.reg regRxqcr ||| rxqcrSda))).iface = n.iface := rfl
  have hDelivered :
      ((n.access regRxqcr).setChip (fun c =>
        c.writeReg regRxqcr
          (c.reg regRxqcr ||| rxqcrSda))).delivered =
        n.delivered := rfl
  generalize (n.access regRxqcr).setChip (fun c =>
    c.writeReg regRxqcr (c.reg regRxqcr ||| rxqcrSda)) = m
    at hReceiving hQueue hIface hDelivered ⊢
  have hSkipped : (m.readOut 3).Receiving := hReceiving
  have hFilled :
      (m.readOut 3).filled length =
        (n.readOut 3).filled length := by
    unfold NicState.filled NicState.rxWords readOut setChip
    dsimp only
    rw [hIface, hQueue]
  rw [runOn_skipHeader _ hReceiving, NicM.runOn_bind,
    runOn_ksz8851ReadFifo hLength hSkipped,
    runOn_ksz8851ClearBit, hFilled]
  refine ⟨?_, ?_, hDelivered⟩
  · show (Chip.writeReg _ _ _).rxq = _
    rw [Chip.rxq_writeReg]
    show ((m.chip.rxq.drop 3).drop _) = _
    rw [List.drop_drop, hQueue]
  · rw [← hIface]
    rfl

theorem runOn_deliver (size : UWORD) :
    let n' := ((deliver size).runOn n).2
    n'.chip = n.chip ∧ n'.iface = n.iface ∧
      n'.delivered =
        if n.iface.onPacketReceived then
          n.delivered ++ [(n.iface.rxData.drop 2, size)]
        else n.delivered := by
  unfold deliver Program.onlyIf
  rw [NicM.runOn_bind, NicM.runOn_bind, runOn_getInterface,
    NicM.runOn_bind]
  dsimp only
  by_cases hCalled : n.iface.onPacketReceived = true
  · have hAfter :
        (enable.runOn n).2.iface.onPacketReceived = true :=
      hCalled
    rw [if_pos hAfter, if_pos hCalled]
    exact ⟨rfl, rfl, rfl⟩
  · have hAfter :
        ¬ (enable.runOn n).2.iface.onPacketReceived = true :=
      hCalled
    rw [if_neg hAfter, if_neg hCalled]
    exact ⟨rfl, rfl, rfl⟩

/- The value that resets the frame pointer. -/
def rxfdprReset (isInBigEndianMode : Bool) : UWORD :=
  if isInBigEndianMode then rxfdprRxfpai ||| rxfdprEms
  else rxfdprRxfpai

/- The part of `ksz8851ReceivePacket` for an acceptable
   frame. -/
def readAndDeliver (rxPktLength : UWORD) : NicM ErrorT := do
  let context ← getInterface
  ksz8851WriteReg regRxfdpr
    (rxfdprReset context.isInBigEndianMode)
  readFrame rxPktLength.toNat
  deliver (rxPktLength - 2#16 - 4#16)
  pure noError

/- `ksz8851ReceivePacket` with its parts named. -/
theorem ksz8851ReceivePacket_eq :
    ksz8851ReceivePacket =
      (do
        let frameStatus ← ksz8851ReadReg regRxfhsr
        if frameStatus &&& rxfhsrRxfv = 0#16 then
          Program.onlyIf (frameStatus &&& errorFrameMask ≠ 0#16)
            (ksz8851SetBit regRxqcr rxqcrRrxef)
          pure errorInvalidPacket
        else
          let rxfhbcr ← ksz8851ReadReg regRxfhbcr
          if LengthAccepted (rxfhbcr &&& rxfhbcrRxbcMask) then
            readAndDeliver (rxfhbcr &&& rxfhbcrRxbcMask)
          else
            ksz8851SetBit regRxqcr rxqcrRrxef
            pure errorInvalidPacket) := by
  unfold ksz8851ReceivePacket readAndDeliver readFrame deliver
    rxfdprReset LengthAccepted
  simp only [Program.bind_assoc]

theorem runOn_readAndDeliver
    {rxPktLength : UWORD}
    (hLength : rxPktLength.toNat ≤ 131068) :
    let n' := ((readAndDeliver rxPktLength).runOn n).2
    ((readAndDeliver rxPktLength).runOn n).1 = noError ∧
      n'.chip.rxq =
        n.chip.rxq.drop
          (3 + readLength rxPktLength.toNat / 2) ∧
      n'.iface =
        { n.iface with
          rxData := (n.readOut 3).filled rxPktLength.toNat } ∧
      n'.delivered =
        if n.iface.onPacketReceived then
          n.delivered ++
            [(((n.readOut 3).filled rxPktLength.toNat).drop 2,
              rxPktLength - 2#16 - 4#16)]
        else n.delivered := by
  have hReset :
      ((n.access regRxfdpr).setChip (fun c =>
        c.writeReg regRxfdpr
          (rxfdprReset n.iface.isInBigEndianMode))).chip.rxq =
        n.chip.rxq :=
    Chip.rxq_writeReg _ _ _
  have hIface :
      ((n.access regRxfdpr).setChip (fun c =>
        c.writeReg regRxfdpr
          (rxfdprReset n.iface.isInBigEndianMode))).iface =
        n.iface := rfl
  have hDelivered :
      ((n.access regRxfdpr).setChip (fun c =>
        c.writeReg regRxfdpr
          (rxfdprReset
            n.iface.isInBigEndianMode))).delivered =
        n.delivered := rfl
  unfold readAndDeliver
  rw [NicM.runOn_bind, runOn_getInterface, NicM.runOn_bind,
    runOn_ksz8851WriteReg, NicM.runOn_bind, NicM.runOn_bind]
  dsimp only
  generalize (n.access regRxfdpr).setChip (fun c =>
    c.writeReg regRxfdpr
      (rxfdprReset n.iface.isInBigEndianMode)) = m
    at hReset hIface hDelivered ⊢
  have hFilled :
      (m.readOut 3).filled rxPktLength.toNat =
        (n.readOut 3).filled rxPktLength.toNat := by
    unfold NicState.filled NicState.rxWords readOut setChip
    dsimp only
    rw [hIface, hReset]
  have hRead := runOn_readFrame (n := m) hLength
  generalize ((readFrame rxPktLength.toNat).runOn m).2 = m'
    at hRead ⊢
  have hDeliver :=
    runOn_deliver (n := m') (rxPktLength - 2#16 - 4#16)
  rcases hRead with ⟨hRxq, hIface', hDelivered'⟩
  rcases hDeliver with ⟨hChip, hSame, hHanded⟩
  rw [hIface', hFilled, hIface] at hSame hHanded
  refine ⟨rfl, ?_, hSame, ?_⟩
  · rw [← hReset, ← hRxq, ← hChip]
    rfl
  · rw [← hDelivered, ← hDelivered']
    exact hHanded

/- The registers that describe a frame stay as they are. -/
theorem received_ksz8851ReceivePacket
    (hVerdict : n.verdict = .accept) :
    (ksz8851ReceivePacket.runOn n).1 = noError ∧
      Received n (ksz8851ReceivePacket.runOn n).2 := by
  unfold verdict at hVerdict
  split at hVerdict
  · split at hVerdict <;> cases hVerdict
  · rename_i hValid
    split at hVerdict
    · rename_i hAccepted
      have hLength : n.rxPktLength.toNat ≤ 131068 := by
        have hMost := hAccepted.2
        unfold ethMaxFrameSize at hMost
        omega
      have hValid' :
          ¬ n.chip.reg regRxfhsr &&& rxfhsrRxfv = 0#16 :=
        hValid
      have hAccepted' :
          LengthAccepted
            ((n.access regRxfhsr).chip.reg regRxfhbcr &&&
              rxfhbcrRxbcMask) :=
        hAccepted
      rw [ksz8851ReceivePacket_eq, NicM.runOn_bind,
        runOn_ksz8851ReadReg]
      dsimp only
      rw [if_neg hValid', NicM.runOn_bind,
        runOn_ksz8851ReadReg]
      dsimp only
      rw [if_pos hAccepted']
      have hRun := runOn_readAndDeliver
        (n := (n.access regRxfhsr).access regRxfhbcr) hLength
      rcases hRun with ⟨hResult, hRxq, hIface, hDelivered⟩
      exact ⟨hResult, hRxq, hIface, hDelivered⟩
    · cases hVerdict

theorem released_setBit
    (address : UBYTE) (mask : UWORD) :
    Released n ((ksz8851SetBit address mask).runOn n).2 := by
  rw [runOn_ksz8851SetBit]
  exact ⟨Chip.rxq_writeReg _ _ _, rfl, rfl⟩

theorem released_ksz8851ReceivePacket
    (hVerdict : n.verdict ≠ .accept) :
    (ksz8851ReceivePacket.runOn n).1 ≠ noError ∧
      Released n (ksz8851ReceivePacket.runOn n).2 := by
  have hError : errorInvalidPacket ≠ noError := by
    decide
  unfold verdict at hVerdict
  rw [ksz8851ReceivePacket_eq, NicM.runOn_bind,
    runOn_ksz8851ReadReg]
  dsimp only
  by_cases hInvalid :
      n.chip.reg regRxfhsr &&& rxfhsrRxfv = 0#16
  · rw [if_pos hInvalid, NicM.runOn_bind]
    refine ⟨hError, ?_⟩
    unfold Program.onlyIf
    split
    · have hSet := released_setBit
        (n := n.access regRxfhsr) regRxqcr rxqcrRrxef
      exact ⟨hSet.rxq, hSet.iface, hSet.delivered⟩
    · exact ⟨rfl, rfl, rfl⟩
  · have hValid :
        ¬ n.frameStatus &&& rxfhsrRxfv = 0#16 := hInvalid
    rw [if_neg hValid] at hVerdict
    have hLength :
        ¬ LengthAccepted
          ((n.access regRxfhsr).chip.reg regRxfhbcr &&&
            rxfhbcrRxbcMask) := by
      intro hAccepted
      exact hVerdict (if_pos hAccepted)
    rw [if_neg hInvalid, NicM.runOn_bind,
      runOn_ksz8851ReadReg]
    dsimp only
    rw [if_neg hLength, NicM.runOn_bind]
    have hSet := released_setBit
      (n := (n.access regRxfhsr).access regRxfhbcr) regRxqcr
      rxqcrRrxef
    exact ⟨hError, hSet.rxq, hSet.iface, hSet.delivered⟩

end Receiving

end KszDriver
