import KszDriver.Nic.RxBuffer
import Mathlib.Data.List.Forall2

/-
  The receive queue of the chip, frame by frame.

  The registers describe the frame in front.  The chip drops
  it when all of it was read while `SDA` was set, or when
  `RXQCR.RRXEF` is set, which then clears itself.

  A frame that is neither valid nor in error is not taken out
  of the queue at all, and blocks it.

  Main declarations:
    * `RxFrame`, `RxChip`
    * `RxChip.exec`, `NicM.runAt`
    * `runAt_of_writeless`
    * `fateOf_ksz8851ReceivePacket`
    * `ConsumesCounted`, `consumesCounted_iff`
    * `not_consumesCounted_idle`
-/

------------------------------------------------------------
-- Frames in the Queue
------------------------------------------------------------

namespace KszDriver

open NicState

/- A frame in the receive queue: what `RXFHSR` and `RXFHBCR`
   say about it, and the words that are read for it. -/
structure RxFrame where
  status : UWORD
  byteCount : UWORD
  words : List UWORD

namespace RxFrame

/- The byte count of the frame. -/
def length (f : RxFrame) : UWORD :=
  f.byteCount &&& rxfhbcrRxbcMask

/- The frame is valid and of acceptable size. -/
def Acceptable (f : RxFrame) : Prop :=
  f.status &&& rxfhsrRxfv ≠ 0#16 ∧ LengthAccepted f.length

/- The frame is valid, or an error says why it is not. -/
def Consumable (f : RxFrame) : Prop :=
  f.status &&& rxfhsrRxfv ≠ 0#16 ∨
    f.status &&& errorFrameMask ≠ 0#16

instance (f : RxFrame) : Decidable f.Acceptable := by
  unfold Acceptable
  infer_instance

instance (f : RxFrame) : Decidable f.Consumable := by
  unfold Consumable
  infer_instance

/- All words of the frame, with the three in front of it. -/
def readSize (f : RxFrame) : Nat :=
  3 + readLength f.length.toNat / 2

end RxFrame

/- The chip with its queue; `read` counts the words that were
   read since `SDA` was set. -/
structure RxChip where
  nic : NicState
  queue : List RxFrame
  read : Nat

/- `RRXEF` is set. -/
def NicState.Releasing (n : NicState) : Prop :=
  n.chip.reg regRxqcr &&& rxqcrRrxef ≠ 0#16

instance (n : NicState) : Decidable n.Releasing := by
  unfold NicState.Releasing
  infer_instance

/- The registers describe the frame in front. -/
def NicState.describeFront
    (n : NicState) : List RxFrame → NicState
| [] => n
| f :: _ =>
    n.setChip (fun c =>
      { c with
        reg := Function.update
          (Function.update c.reg regRxfhsr f.status)
          regRxfhbcr f.byteCount })

namespace RxChip

/- The frame in front is dropped. -/
def dequeue (q : RxChip) : RxChip where
  nic := q.nic.describeFront q.queue.tail
  queue := q.queue.tail
  read := 0

/- Setting `RRXEF` drops the frame in front. -/
def release (q : RxChip) : RxChip :=
  dequeue
    { q with
      nic := q.nic.setChip (fun c =>
        { c with
          reg := Function.update c.reg regRxqcr
            (c.reg regRxqcr &&& ~~~rxqcrRrxef) }) }

/- Reading starts with the first word of the frame. -/
def openWindow (q : RxChip) : RxChip :=
  { q with
    nic := q.nic.setChip (fun c =>
      { c with
        rxq := (q.queue.head?.map RxFrame.words).getD [] })
    read := 0 }

/- A frame that was read out is dropped. -/
def closeWindow (q : RxChip) : RxChip :=
  match q.queue with
  | [] => q
  | f :: _ => if f.readSize ≤ q.read then q.dequeue else q

/- What the chip does on its own after an operation; `SDA` was
   set before it or not. -/
def settle (wasOpen : Bool) (q : RxChip) : RxChip :=
  if q.nic.Releasing then q.release
  else if wasOpen = false ∧ q.nic.chip.Sda then q.openWindow
  else if wasOpen = true ∧ ¬ q.nic.chip.Sda then q.closeWindow
  else q

/- The words that an operation takes from the queue. -/
def wordsRead (n : NicState) : NicOp → Nat
| .readDataReg =>
    if n.chip.armed = false ∧ n.chip.Sda then 1 else 0
| _ => 0

/- An operation, and what the chip does then. -/
def exec (op : NicOp) (q : RxChip) : op.Ret × RxChip :=
  ((NicOp.exec op q.nic).1,
    settle (decide q.nic.chip.Sda)
      { q with
        nic := (NicOp.exec op q.nic).2
        read := q.read + wordsRead q.nic op })

end RxChip

/- An uninterrupted run on the chip with its queue. -/
def NicM.runAt {α : Type} (p : NicM α) (q : RxChip) :
    α × RxChip :=
  Program.run RxChip.exec p q

/- The program writes nothing to the data port. -/
def Writeless {α : Type} : NicM α → Prop
| .done _ => True
| .step op next =>
    (∀ v, op ≠ .dataReg v) ∧ ∀ r, Writeless (next r)

/- The words that a run takes from the queue. -/
def NicM.wordsRead {α : Type} : NicM α → NicState → Nat
| .done _, _ => 0
| .step op next, n =>
    RxChip.wordsRead n op +
      NicM.wordsRead (next (NicOp.exec op n).1)
        (NicOp.exec op n).2

------------------------------------------------------------
-- Operations That Write Nothing
------------------------------------------------------------

section Reading

variable {α β : Type} {q : RxChip}

theorem NicM.runAt_bind
    (p : NicM α) (f : α → NicM β) (q : RxChip) :
    (p >>= f).runAt q =
      (f (p.runAt q).1).runAt (p.runAt q).2 :=
  Program.run_bind p f q

theorem NicM.wordsRead_step
    (op : NicOp) (next : op.Ret → NicM α) (n : NicState) :
    NicM.wordsRead (.step op next) n =
      RxChip.wordsRead n op +
        (next (NicOp.exec op n).1).wordsRead
          (NicOp.exec op n).2 := rfl

theorem NicM.wordsRead_bind
    (p : NicM α) (f : α → NicM β) (n : NicState) :
    (p >>= f).wordsRead n =
      p.wordsRead n +
        (f (p.runOn n).1).wordsRead (p.runOn n).2 := by
  induction p generalizing n with
  | done value => exact (Nat.zero_add _).symm
  | step op next ih =>
      have hRest := ih (NicOp.exec op n).1 (NicOp.exec op n).2
      rw [Program.step_bind, NicM.wordsRead_step, hRest,
        NicM.wordsRead_step, Nat.add_assoc]
      rfl

/- As long as `RXQCR` stays, the chip does nothing. -/
theorem settle_of_same
    {q q' : RxChip}
    (hCalm : ¬ q.nic.Releasing)
    (hSame :
      q'.nic.chip.reg regRxqcr = q.nic.chip.reg regRxqcr) :
    RxChip.settle (decide q.nic.chip.Sda) q' = q' := by
  have hCalm' : ¬ q'.nic.Releasing := by
    unfold NicState.Releasing
    rw [hSame]
    exact hCalm
  have hSda : q'.nic.chip.Sda ↔ q.nic.chip.Sda := by
    unfold Chip.Sda
    rw [hSame]
  unfold RxChip.settle
  rw [if_neg hCalm']
  by_cases hOpen : q.nic.chip.Sda <;> simp [hSda, hOpen]

/- Registers are written through the data port only. -/
theorem reg_exec
    (op : NicOp)
    (n : NicState)
    (hOther : ∀ v, op ≠ .dataReg v) :
    (NicOp.exec op n).2.chip.reg = n.chip.reg := by
  cases op with
  | dataReg v => exact absurd rfl (hOther v)
  | readDataReg => exact Chip.reg_readData n.chip
  | _ => rfl

theorem exec_of_writeless
    {op : NicOp}
    (hCalm : ¬ q.nic.Releasing)
    (hOther : ∀ v, op ≠ .dataReg v) :
    RxChip.exec op q =
      ((NicOp.exec op q.nic).1,
        { q with
          nic := (NicOp.exec op q.nic).2
          read := q.read + RxChip.wordsRead q.nic op }) := by
  unfold RxChip.exec
  rw [settle_of_same hCalm
    (congrFun (reg_exec op q.nic hOther) regRxqcr)]

/- A program that writes nothing runs as without the queue. -/
theorem runAt_of_writeless
    {p : NicM α}
    (hWriteless : Writeless p)
    (hCalm : ¬ q.nic.Releasing) :
    p.runAt q =
      ((p.runOn q.nic).1,
        { q with
          nic := (p.runOn q.nic).2
          read := q.read + p.wordsRead q.nic }) := by
  induction p generalizing q with
  | done value => rfl
  | step op next ih =>
      have hStep := exec_of_writeless hCalm hWriteless.1
      have hReg := reg_exec op q.nic hWriteless.1
      have hCalm' : ¬ (RxChip.exec op q).2.nic.Releasing := by
        rw [hStep]
        unfold NicState.Releasing
        dsimp only
        rw [hReg]
        exact hCalm
      have hRest :=
        ih (RxChip.exec op q).1 (hWriteless.2 _) hCalm'
      unfold NicM.runAt at hRest ⊢
      rw [Program.run_step, hRest, hStep, NicM.wordsRead_step,
        ← Nat.add_assoc]
      rfl

theorem writeless_bind
    {p : NicM α}
    {f : α → NicM β}
    (hFirst : Writeless p)
    (hRest : ∀ a, Writeless (f a)) :
    Writeless (p >>= f) := by
  induction p with
  | done value => exact hRest value
  | step op next ih =>
      exact ⟨hFirst.1, fun r => ih r (hFirst.2 r)⟩

theorem writeless_perform
    {op : NicOp}
    (hOther : ∀ v, op ≠ .dataReg v) :
    Writeless (Program.perform op : NicM op.Ret) :=
  ⟨hOther, fun _ => trivial⟩

theorem writeless_onlyIf
    {c : Prop} [Decidable c]
    {p : NicM Unit}
    (hWriteless : Writeless p) :
    Writeless (Program.onlyIf c p) := by
  unfold Program.onlyIf
  split
  · exact hWriteless
  · trivial

theorem writeless_ksz8851ReadReg (offset : UBYTE) :
    Writeless (ksz8851ReadReg offset) :=
  writeless_bind (writeless_perform (fun _ => nofun))
    (fun _ => writeless_bind
      (writeless_perform (fun _ => nofun))
      (fun _ => writeless_perform (fun _ => nofun)))

theorem writeless_readWords
    (isInBigEndianMode : Bool)
    (sizeInWord i : Nat)
    (data : Memory) :
    Writeless (readWords isInBigEndianMode sizeInWord i data) := by
  induction sizeInWord generalizing i data with
  | zero => trivial
  | succ sizeInWord ih =>
      exact writeless_bind (writeless_perform (fun _ => nofun))
        (fun _ => ih _ _)

theorem writeless_ksz8851ReadFifo (length : Nat) :
    Writeless (ksz8851ReadFifo length) :=
  writeless_bind (writeless_perform (fun _ => nofun))
    (fun _ => writeless_bind (writeless_readWords _ _ _ _)
      (fun _ => writeless_perform (fun _ => nofun)))

theorem writeless_deliver (size : UWORD) :
    Writeless (deliver size) :=
  writeless_bind (writeless_perform (fun _ => nofun))
    (fun _ => writeless_bind
      (writeless_perform (fun _ => nofun))
      (fun _ => writeless_bind
        (writeless_onlyIf (writeless_perform (fun _ => nofun)))
        (fun _ => writeless_perform (fun _ => nofun))))

/- Reading a register takes nothing from the queue. -/
theorem wordsRead_ksz8851ReadReg
    (offset : UBYTE) (n : NicState) :
    (ksz8851ReadReg offset).wordsRead n = 0 := by
  unfold ksz8851ReadReg getInterface cmdReg readDataReg
  simp only [Program.perform_bind]
  unfold Program.perform
  simp [NicM.wordsRead, RxChip.wordsRead, NicOp.exec,
    Chip.writeCmd]

theorem wordsRead_readDataReg
    {n : NicState}
    (hReceiving : n.Receiving) :
    readDataReg.wordsRead n = 1 := by
  unfold readDataReg Program.perform
  rw [NicM.wordsRead_step]
  simp [NicM.wordsRead, RxChip.wordsRead, hReceiving.1,
    hReceiving.2]

theorem wordsRead_readWords
    {n : NicState}
    (isInBigEndianMode : Bool)
    (sizeInWord i : Nat)
    (data : Memory)
    (hReceiving : n.Receiving) :
    (readWords isInBigEndianMode sizeInWord i data).wordsRead n =
      sizeInWord := by
  induction sizeInWord generalizing i data n with
  | zero => rfl
  | succ sizeInWord ih =>
      have hLater : (n.readOut 1).Receiving := hReceiving
      unfold readWords
      rw [NicM.wordsRead_bind, wordsRead_readDataReg hReceiving,
        runOn_readDataReg hReceiving]
      dsimp only
      rw [ih _ _ hLater, Nat.add_comm]

theorem reg_runOn_of_writeless
    {p : NicM α}
    (hWriteless : Writeless p)
    (n : NicState) :
    (p.runOn n).2.chip.reg = n.chip.reg := by
  induction p generalizing n with
  | done value => rfl
  | step op next ih =>
      exact (ih _ (hWriteless.2 _) _).trans
        (reg_exec op n hWriteless.1)

theorem wordsRead_ksz8851ReadFifo
    {length : Nat}
    {n : NicState}
    (hLength : length ≤ 131068)
    (hReceiving : n.Receiving) :
    (ksz8851ReadFifo length).wordsRead n =
      readLength length / 2 := by
  have hSize : readLength length / 2 < 65536 := by
    unfold readLength
    omega
  unfold ksz8851ReadFifo
  rw [NicM.wordsRead_bind, runOn_getInterface,
    NicM.wordsRead_bind]
  dsimp only
  rw [show (length + 3) / 4 * 4 / 2 = readLength length / 2
    from rfl, BitVec.toNat_ofNat, Nat.mod_eq_of_lt hSize,
    wordsRead_readWords _ _ _ _ hReceiving]
  exact Nat.zero_add _

end Reading

------------------------------------------------------------
-- Writing Registers
------------------------------------------------------------

section Writing

variable {q : RxChip}

/- A register is written, and then the chip acts. -/
theorem runAt_ksz8851WriteReg
    (offset : UBYTE)
    (value : UWORD)
    (hCalm : ¬ q.nic.Releasing) :
    (ksz8851WriteReg offset value).runAt q =
      ((), RxChip.settle (decide q.nic.chip.Sda)
        { q with
          nic := (q.nic.access offset).setChip
            (fun c => c.writeReg offset value) }) := by
  have hRun :
      (q.nic.access offset).setChip
          (fun c => c.writeReg offset value) =
        ((ksz8851WriteReg offset value).runOn q.nic).2 := by
    rw [runOn_ksz8851WriteReg]
  have hSelect : Writeless (do
      let context ← getInterface
      cmdReg (cmdWord context.isInBigEndianMode offset)) :=
    writeless_bind (writeless_perform (fun _ => nofun))
      (fun _ => writeless_perform (fun _ => nofun))
  have hSplit :
      ksz8851WriteReg offset value =
        (do
          let context ← getInterface
          cmdReg (cmdWord context.isInBigEndianMode offset)) >>=
          fun _ => dataReg value := rfl
  rw [hRun, hSplit, NicM.runAt_bind,
    runAt_of_writeless hSelect hCalm]
  rfl

/- After a write to any other register the chip stays. -/
theorem runAt_writeOther
    {offset : UBYTE}
    (value : UWORD)
    (hOther : regRxqcr ≠ offset)
    (hCalm : ¬ q.nic.Releasing) :
    (ksz8851WriteReg offset value).runAt q =
      ((), { q with
        nic := (q.nic.access offset).setChip
          (fun c => c.writeReg offset value) }) := by
  rw [runAt_ksz8851WriteReg offset value hCalm,
    settle_of_same hCalm]
  unfold setChip
  dsimp only
  rw [Chip.reg_writeReg, Function.update_of_ne hOther]
  rfl

/- Reading a register does not concern the queue. -/
theorem runAt_ksz8851ReadReg
    (offset : UBYTE)
    (hCalm : ¬ q.nic.Releasing) :
    (ksz8851ReadReg offset).runAt q =
      (q.nic.chip.reg offset,
        { q with nic := q.nic.access offset }) := by
  rw [runAt_of_writeless (writeless_ksz8851ReadReg offset) hCalm,
    runOn_ksz8851ReadReg, wordsRead_ksz8851ReadReg]
  rfl

/- Bits are changed in a register, and then the chip acts. -/
theorem runAt_modify
    (address : UBYTE)
    (f : UWORD → UWORD)
    (hCalm : ¬ q.nic.Releasing) :
    (do
      let value ← ksz8851ReadReg address
      ksz8851WriteReg address (f value) : NicM Unit).runAt q =
      ((), RxChip.settle (decide q.nic.chip.Sda)
        { q with
          nic := (q.nic.access address).setChip
            (fun c => c.writeReg address
              (f (c.reg address))) }) := by
  rw [NicM.runAt_bind, runAt_ksz8851ReadReg address hCalm]
  exact runAt_ksz8851WriteReg address _ hCalm

end Writing

------------------------------------------------------------
-- Opening, Closing and Releasing
------------------------------------------------------------

/- Between two frames: the queue is closed, nothing is being
   released, and the registers describe the frame in front. -/
structure RxChip.Presents (q : RxChip) : Prop where
  closed : ¬ q.nic.chip.Sda
  calm : ¬ q.nic.Releasing
  front : ∀ f ∈ q.queue.head?,
    q.nic.chip.reg regRxfhsr = f.status ∧
      q.nic.chip.reg regRxfhbcr = f.byteCount

/- What the driver sees of the queue has not changed. -/
structure SameDriver (q q' : RxChip) : Prop where
  iface : q'.nic.iface = q.nic.iface
  delivered : q'.nic.delivered = q.nic.delivered

/- `SDA` has been set to read the front of the queue. -/
structure WindowOpened (q q' : RxChip) : Prop
    extends SameDriver q q' where
  queue : q'.queue = q.queue
  receiving : q'.nic.Receiving
  calm : ¬ q'.nic.Releasing
  rxq : ∀ f ∈ q.queue.head?, q'.nic.chip.rxq = f.words
  read : q'.read = 0

/- The frame in front was dropped. -/
structure FrontDropped (q q' : RxChip) : Prop
    extends SameDriver q q' where
  queue : q'.queue = q.queue.tail
  presents : q'.Presents

section Phases

variable {q : RxChip}

theorem and_of_disjoint
    {bits mask : UWORD}
    (hOther : bits &&& mask = 0#16)
    (v : UWORD) :
    (v ||| bits) &&& mask = v &&& mask := by
  rw [BitVec.and_or_distrib_right, hOther, BitVec.or_zero]

theorem andNot_and_of_kept
    {bits mask : UWORD}
    (hKeeps : ~~~bits &&& mask = mask)
    (v : UWORD) :
    (v &&& ~~~bits) &&& mask = v &&& mask := by
  rw [BitVec.and_assoc, hKeeps]

theorem andNot_and_self (v bit : UWORD) :
    (v &&& ~~~bit) &&& bit = 0#16 := by
  have hNone : ~~~bit &&& bit = 0#16 := by
    rw [BitVec.and_comm]
    exact BitVec.and_not_self bit
  rw [BitVec.and_assoc, hNone, BitVec.and_zero]

/- What a write to `RXQCR` leaves there. -/
theorem rxqcr_writeReg (v : UWORD) (c : Chip) :
    (c.writeReg regRxqcr v).reg regRxqcr = v := by
  have hOther : regRxqcr ≠ regIsr := by
    decide
  rw [Chip.reg_writeReg, Function.update_self, if_neg hOther]

/- Describing a frame leaves `RXQCR` alone. -/
theorem rxqcr_describeFront
    (n : NicState) (queue : List RxFrame) :
    (n.describeFront queue).chip.reg regRxqcr =
      n.chip.reg regRxqcr := by
  have hStatus : regRxqcr ≠ regRxfhsr := by
    decide
  have hCount : regRxqcr ≠ regRxfhbcr := by
    decide
  cases queue with
  | nil => rfl
  | cons f rest =>
      unfold NicState.describeFront setChip
      dsimp only
      rw [Function.update_of_ne hCount,
        Function.update_of_ne hStatus]

theorem frontDropped_dequeue
    (hClosed : ¬ q.nic.chip.Sda)
    (hCalm : ¬ q.nic.Releasing) :
    FrontDropped q q.dequeue := by
  have hSame := rxqcr_describeFront q.nic q.queue.tail
  have hOther : regRxfhsr ≠ regRxfhbcr := by
    decide
  refine
    { iface := ?_
      delivered := ?_
      queue := rfl
      presents := ?_ }
  · show (q.nic.describeFront q.queue.tail).iface = _
    cases q.queue.tail <;> rfl
  · show (q.nic.describeFront q.queue.tail).delivered = _
    cases q.queue.tail <;> rfl
  · refine
      { closed := ?_
        calm := ?_
        front := ?_ }
    · show ¬ (q.nic.describeFront q.queue.tail).chip.Sda
      unfold Chip.Sda
      rw [hSame]
      exact hClosed
    · show ¬ (q.nic.describeFront q.queue.tail).Releasing
      unfold NicState.Releasing
      rw [hSame]
      exact hCalm
    · intro f hFront
      unfold RxChip.dequeue at hFront ⊢
      dsimp only at hFront ⊢
      cases hRest : q.queue.tail with
      | nil =>
          rw [hRest] at hFront
          cases hFront
      | cons g rest =>
          rw [hRest] at hFront
          cases hFront
          unfold NicState.describeFront setChip
          dsimp only
          rw [Function.update_self,
            Function.update_of_ne hOther,
            Function.update_self]
          exact ⟨rfl, rfl⟩

theorem opened_ksz8851SetBit
    (hClosed : ¬ q.nic.chip.Sda)
    (hCalm : ¬ q.nic.Releasing) :
    WindowOpened q
      ((ksz8851SetBit regRxqcr rxqcrSda).runAt q).2 := by
  have hRun := runAt_modify (q := q) regRxqcr (· ||| rxqcrSda)
    hCalm
  have hRxqcr := rxqcr_writeReg
    (q.nic.chip.reg regRxqcr ||| rxqcrSda)
    (q.nic.access regRxqcr).chip
  have hOpen :
      ((q.nic.access regRxqcr).setChip
        (fun c => c.writeReg regRxqcr
          (c.reg regRxqcr ||| rxqcrSda))).chip.Sda :=
    Chip.sda_writeReg _ _
  have hStill :
      ¬ ((q.nic.access regRxqcr).setChip
        (fun c => c.writeReg regRxqcr
          (c.reg regRxqcr ||| rxqcrSda))).Releasing := by
    intro hReleasing
    apply hCalm
    unfold NicState.Releasing at hReleasing ⊢
    rw [← and_of_disjoint (by decide : rxqcrSda &&& rxqcrRrxef
      = 0#16), ← hRxqcr]
    exact hReleasing
  change (ksz8851SetBit regRxqcr rxqcrSda).runAt q = _ at hRun
  rw [hRun]
  unfold RxChip.settle
  dsimp only
  rw [if_neg hStill, if_pos ⟨decide_eq_false hClosed, hOpen⟩]
  exact
    { iface := rfl
      delivered := rfl
      queue := rfl
      receiving := ⟨Chip.armed_writeReg _ _ _, hOpen⟩
      calm := hStill
      rxq := by
        intro f hFront
        rw [Option.mem_def] at hFront
        unfold RxChip.openWindow setChip
        dsimp only
        rw [hFront]
        rfl
      read := rfl }

theorem FrontDropped.of_same
    {q' q'' : RxChip}
    (hSame : SameDriver q q')
    (hQueue : q'.queue = q.queue)
    (hDropped : FrontDropped q' q'') :
    FrontDropped q q'' where
  iface := hDropped.iface.trans hSame.iface
  delivered := hDropped.delivered.trans hSame.delivered
  queue := by
    rw [hDropped.queue, hQueue]
  presents := hDropped.presents

/- A frame that was read out is dropped at the end. -/
theorem frontDropped_ksz8851ClearBit
    {f : RxFrame}
    (hFront : q.queue.head? = some f)
    (hOpen : q.nic.chip.Sda)
    (hCalm : ¬ q.nic.Releasing)
    (hRead : f.readSize ≤ q.read) :
    FrontDropped q
      ((ksz8851ClearBit regRxqcr rxqcrSda).runAt q).2 := by
  have hRun := runAt_modify (q := q) regRxqcr
    (· &&& ~~~rxqcrSda) hCalm
  have hRxqcr := rxqcr_writeReg
    (q.nic.chip.reg regRxqcr &&& ~~~rxqcrSda)
    (q.nic.access regRxqcr).chip
  have hClosed :
      ¬ ((q.nic.access regRxqcr).setChip
        (fun c => c.writeReg regRxqcr
          (c.reg regRxqcr &&& ~~~rxqcrSda))).chip.Sda := by
    intro hSda
    apply hSda
    exact (congrArg (· &&& rxqcrSda) hRxqcr).trans
      (andNot_and_self _ _)
  have hStill :
      ¬ ((q.nic.access regRxqcr).setChip
        (fun c => c.writeReg regRxqcr
          (c.reg regRxqcr &&& ~~~rxqcrSda))).Releasing := by
    intro hReleasing
    apply hCalm
    unfold NicState.Releasing at hReleasing ⊢
    rw [← andNot_and_of_kept (by decide : ~~~rxqcrSda &&&
      rxqcrRrxef = rxqcrRrxef), ← hRxqcr]
    exact hReleasing
  change (ksz8851ClearBit regRxqcr rxqcrSda).runAt q = _ at hRun
  rw [hRun]
  unfold RxChip.settle
  dsimp only
  rw [if_neg hStill, if_neg (fun hBoth => hClosed hBoth.2),
    if_pos ⟨decide_eq_true hOpen, hClosed⟩]
  unfold RxChip.closeWindow
  cases hQueue : q.queue with
  | nil =>
      rw [hQueue] at hFront
      cases hFront
  | cons g rest =>
      rw [hQueue] at hFront
      cases hFront
      dsimp only
      rw [if_pos hRead]
      refine FrontDropped.of_same ?_ ?_
        (frontDropped_dequeue hClosed hStill)
      · exact ⟨rfl, rfl⟩
      · exact hQueue.symm

/- A frame is dropped by setting `RRXEF`. -/
theorem frontDropped_ksz8851SetBit
    (hClosed : ¬ q.nic.chip.Sda)
    (hCalm : ¬ q.nic.Releasing) :
    FrontDropped q
      ((ksz8851SetBit regRxqcr rxqcrRrxef).runAt q).2 := by
  have hRun := runAt_modify (q := q) regRxqcr
    (· ||| rxqcrRrxef) hCalm
  have hRxqcr := rxqcr_writeReg
    (q.nic.chip.reg regRxqcr ||| rxqcrRrxef)
    (q.nic.access regRxqcr).chip
  have hReleasing :
      ((q.nic.access regRxqcr).setChip
        (fun c => c.writeReg regRxqcr
          (c.reg regRxqcr ||| rxqcrRrxef))).Releasing := by
    intro hNone
    have hBit := congrArg (fun w => w.getLsbD 0)
      ((congrArg (· &&& rxqcrRrxef) hRxqcr).symm.trans hNone)
    simp [rxqcrRrxef] at hBit
  change (ksz8851SetBit regRxqcr rxqcrRrxef).runAt q = _ at hRun
  rw [hRun]
  unfold RxChip.settle
  dsimp only
  rw [if_pos hReleasing]
  unfold RxChip.release
  refine FrontDropped.of_same ?_ ?_ (frontDropped_dequeue ?_ ?_)
  · exact ⟨rfl, rfl⟩
  · rfl
  · intro hSda
    apply hSda
    unfold setChip
    dsimp only
    rw [Function.update_self, andNot_and_of_kept (by decide)]
    exact (congrArg (· &&& rxqcrSda) hRxqcr).trans
      ((and_of_disjoint (by decide) _).trans
        (not_not.mp hClosed))
  · intro hStill
    apply hStill
    unfold setChip
    dsimp only
    rw [Function.update_self]
    exact andNot_and_self _ _

end Phases

------------------------------------------------------------
-- Receiving from the Queue
------------------------------------------------------------

namespace RxFrame

/- The words of the frame that go into the buffer. -/
def dataWords (f : RxFrame) : List UWORD :=
  (List.range (readLength f.length.toNat / 2)).map
    (fun i => (f.words.drop 3).getD i 0#16)

/- The size and the bytes that the frame is handed on with:
   without the two dummy bytes in front, and the size without
   the checksum. -/
def IsPacketOf
    (isInBigEndianMode : Bool)
    (f : RxFrame)
    (packet : Memory × UWORD) : Prop :=
  packet.2 = f.length - 2#16 - 4#16 ∧
    packet.1.bytes (readLength f.length.toNat - 2) =
      ((portOrder isInBigEndianMode).bytes f.dataWords).drop 2

end RxFrame

section Receiving

variable {q : RxChip} {f : RxFrame}

/- Between the two writes of `RXQCR`. -/
def readBody (length : Nat) : NicM Unit := do
  let _ ← readDataReg
  let _ ← readDataReg
  let _ ← readDataReg
  ksz8851ReadFifo length

theorem readFrame_eq (length : Nat) :
    readFrame length =
      (do
        ksz8851SetBit regRxqcr rxqcrSda
        readBody length
        ksz8851ClearBit regRxqcr rxqcrSda) := rfl

theorem writeless_readBody (length : Nat) :
    Writeless (readBody length) :=
  writeless_bind (writeless_perform (fun _ => nofun))
    (fun _ => writeless_bind
      (writeless_perform (fun _ => nofun))
      (fun _ => writeless_bind
        (writeless_perform (fun _ => nofun))
        (fun _ => writeless_ksz8851ReadFifo length)))

theorem wordsRead_readBody
    {length : Nat}
    {n : NicState}
    (hLength : length ≤ 131068)
    (hReceiving : n.Receiving) :
    (readBody length).wordsRead n =
      3 + readLength length / 2 := by
  have hOnce : (n.readOut 1).Receiving := hReceiving
  have hTwice : (n.readOut 2).Receiving := hReceiving
  have hThrice : (n.readOut 3).Receiving := hReceiving
  unfold readBody
  rw [NicM.wordsRead_bind, wordsRead_readDataReg hReceiving,
    runOn_readDataReg hReceiving,
    NicM.wordsRead_bind, wordsRead_readDataReg hOnce,
    runOn_readDataReg hOnce, readOut_readOut,
    NicM.wordsRead_bind, wordsRead_readDataReg hTwice,
    runOn_readDataReg hTwice, readOut_readOut,
    wordsRead_ksz8851ReadFifo hLength hThrice]
  omega

theorem runOn_readBody
    {length : Nat}
    {n : NicState}
    (hLength : length ≤ 131068)
    (hReceiving : n.Receiving) :
    (readBody length).runOn n =
      ((), { n.readOut (3 + readLength length / 2) with
        iface :=
          { n.iface with
            rxData := (n.readOut 3).filled length } }) := by
  have hSkipped : (n.readOut 3).Receiving := hReceiving
  unfold readBody
  rw [runOn_skipHeader _ hReceiving,
    runOn_ksz8851ReadFifo hLength hSkipped, readOut_readOut]
  rfl

/- The frame in front has been read into the buffer. -/
structure ReadOut (f : RxFrame) (q q' : RxChip) : Prop where
  queue : q'.queue = q.queue.tail
  presents : q'.Presents
  delivered : q'.nic.delivered = q.nic.delivered
  iface : q'.nic.iface =
    { q.nic.iface with
      rxData :=
        (portOrder q.nic.iface.isInBigEndianMode).store
          q.nic.iface.rxData 0 f.dataWords }

theorem readOut_readFrame
    (hFront : q.queue.head? = some f)
    (hClosed : ¬ q.nic.chip.Sda)
    (hCalm : ¬ q.nic.Releasing)
    (hLength : f.length.toNat ≤ 131068) :
    ReadOut f q ((readFrame f.length.toNat).runAt q).2 := by
  rw [readFrame_eq, NicM.runAt_bind]
  have hOpened := opened_ksz8851SetBit hClosed hCalm
  generalize ((ksz8851SetBit regRxqcr rxqcrSda).runAt q).2 = r
    at hOpened ⊢
  have hBody := runOn_readBody hLength hOpened.receiving
  have hCount := wordsRead_readBody hLength hOpened.receiving
  have hReg := reg_runOn_of_writeless
    (writeless_readBody f.length.toNat) r.nic
  have hData :
      (r.nic.readOut 3).filled f.length.toNat =
        (portOrder q.nic.iface.isInBigEndianMode).store
          q.nic.iface.rxData 0 f.dataWords := by
    unfold NicState.filled NicState.rxWords readOut setChip
      RxFrame.dataWords
    dsimp only
    rw [hOpened.iface, hOpened.rxq f hFront]
  rw [NicM.runAt_bind,
    runAt_of_writeless (writeless_readBody _) hOpened.calm]
  dsimp only
  have hDropped := frontDropped_ksz8851ClearBit (f := f)
    (q :=
      { r with
        nic := ((readBody f.length.toNat).runOn r.nic).2
        read := r.read +
          (readBody f.length.toNat).wordsRead r.nic })
    (hOpened.queue ▸ hFront)
    (by
      unfold Chip.Sda
      dsimp only
      rw [hReg]
      exact hOpened.receiving.2)
    (by
      unfold NicState.Releasing
      dsimp only
      rw [hReg]
      exact hOpened.calm)
    (by
      dsimp only
      rw [hCount, hOpened.read, Nat.zero_add]
      exact le_refl _)
  exact
    { queue := by
        rw [hDropped.queue]
        dsimp only
        rw [hOpened.queue]
      presents := hDropped.presents
      delivered := by
        rw [hDropped.delivered]
        dsimp only
        rw [hBody]
        exact hOpened.delivered
      iface := by
        rw [hDropped.iface]
        dsimp only
        rw [hBody, hData]
        dsimp only
        rw [hOpened.iface] }

theorem isPacketOf_store
    (isInBigEndianMode : Bool)
    (data : Memory)
    (hAccepted : LengthAccepted f.length) :
    f.IsPacketOf isInBigEndianMode
      (Memory.drop ((portOrder isInBigEndianMode).store data 0
        f.dataWords) 2, f.length - 2#16 - 4#16) := by
  have hSome : 0 < f.length.toNat := by
    rw [Nat.pos_iff_ne_zero]
    intro hZero
    exact hAccepted.1 (BitVec.eq_of_toNat_eq hZero)
  have hWords :
      readLength f.length.toNat = 2 * f.dataWords.length := by
    unfold RxFrame.dataWords readLength
    rw [List.length_map, List.length_range]
    omega
  have hSplit :
      readLength f.length.toNat =
        2 + (readLength f.length.toNat - 2) := by
    unfold readLength
    omega
  have hStored :=
    (portOrder isInBigEndianMode).bytes_store data f.dataWords
  refine ⟨rfl, ?_⟩
  rw [← hStored, ← hWords]
  show _ = (Memory.bytes _ (readLength f.length.toNat)).drop 2
  rw [hSplit, Memory.bytes_add, List.drop_left' (by simp),
    Nat.add_sub_cancel_left]

/- A frame that is read out is handed on, and the next one is
   in front. -/
structure HandedOn (f : RxFrame) (q q' : RxChip) : Prop where
  queue : q'.queue = q.queue.tail
  presents : q'.Presents
  mode : q'.nic.iface.isInBigEndianMode =
    q.nic.iface.isInBigEndianMode
  called : q'.nic.iface.onPacketReceived =
    q.nic.iface.onPacketReceived
  delivered : ∃ packet,
    f.IsPacketOf q.nic.iface.isInBigEndianMode packet ∧
    q'.nic.delivered =
      if q.nic.iface.onPacketReceived then
        q.nic.delivered ++ [packet]
      else q.nic.delivered

theorem presents_of_same
    {q' : RxChip}
    (hPresents : q.Presents)
    (hQueue : q'.queue = q.queue)
    (hReg : q'.nic.chip.reg = q.nic.chip.reg) :
    q'.Presents where
  closed := by
    unfold Chip.Sda
    rw [hReg]
    exact hPresents.closed
  calm := by
    unfold NicState.Releasing
    rw [hReg]
    exact hPresents.calm
  front := by
    rw [hQueue, hReg]
    exact hPresents.front

theorem handedOn_deliver
    {r : RxChip}
    (hRead : ReadOut f q r)
    (hAccepted : LengthAccepted f.length) :
    HandedOn f q
      ((deliver (f.length - 2#16 - 4#16)).runAt r).2 := by
  have hHanded := runOn_deliver (n := r.nic)
    (f.length - 2#16 - 4#16)
  rcases hHanded with ⟨hChip, hKept, hGrown⟩
  have hMode := congrArg NetInterface.isInBigEndianMode
    (hKept.trans hRead.iface)
  have hCalled := congrArg NetInterface.onPacketReceived
    (hKept.trans hRead.iface)
  rw [hRead.iface, hRead.delivered] at hGrown
  rw [runAt_of_writeless (writeless_deliver _)
    hRead.presents.calm]
  exact
    { queue := hRead.queue
      presents :=
        presents_of_same hRead.presents rfl
          (congrArg Chip.reg hChip)
      mode := hMode
      called := hCalled
      delivered :=
        ⟨_, isPacketOf_store q.nic.iface.isInBigEndianMode
          q.nic.iface.rxData hAccepted, hGrown⟩ }

theorem handedOn_readAndDeliver
    (hFront : q.queue.head? = some f)
    (hPresents : q.Presents)
    (hAccepted : LengthAccepted f.length) :
    HandedOn f q ((readAndDeliver f.length).runAt q).2 := by
  have hLength : f.length.toNat ≤ 131068 := by
    have hMost := hAccepted.2
    unfold ethMaxFrameSize at hMost
    omega
  have hGet :
      getInterface.runAt q = (q.nic.iface, q) :=
    runAt_of_writeless (writeless_perform (fun _ h => nomatch h))
      hPresents.calm
  have hReset := runAt_writeOther (q := q)
    (rxfdprReset q.nic.iface.isInBigEndianMode)
    (by decide : regRxqcr ≠ regRxfdpr) hPresents.calm
  have hSame :
      ((q.nic.access regRxfdpr).setChip
        (fun c => c.writeReg regRxfdpr
          (rxfdprReset
            q.nic.iface.isInBigEndianMode))).chip.reg
          regRxqcr =
        q.nic.chip.reg regRxqcr := by
    unfold setChip
    dsimp only
    rw [Chip.reg_writeReg, Function.update_of_ne (by decide)]
    rfl
  have hRead := readOut_readFrame (f := f)
    (q :=
      { q with
        nic := (q.nic.access regRxfdpr).setChip
          (fun c => c.writeReg regRxfdpr
            (rxfdprReset
              q.nic.iface.isInBigEndianMode)) })
    hFront
    (by
      unfold Chip.Sda
      dsimp only
      rw [hSame]
      exact hPresents.closed)
    (by
      unfold NicState.Releasing
      dsimp only
      rw [hSame]
      exact hPresents.calm)
    hLength
  have hHanded := handedOn_deliver hRead hAccepted
  unfold readAndDeliver
  rw [NicM.runAt_bind, hGet, NicM.runAt_bind, hReset,
    NicM.runAt_bind, NicM.runAt_bind]
  exact
    { queue := hHanded.queue
      presents := hHanded.presents
      mode := hHanded.mode
      called := hHanded.called
      delivered := hHanded.delivered }

/- Reading registers in front does not matter. -/
theorem HandedOn.of_access
    {q' : RxChip}
    {offset : UBYTE}
    (hHanded :
      HandedOn f { q with nic := q.nic.access offset } q') :
    HandedOn f q q' where
  queue := hHanded.queue
  presents := hHanded.presents
  mode := hHanded.mode
  called := hHanded.called
  delivered := hHanded.delivered

theorem FrontDropped.of_access
    {q' : RxChip}
    {offset : UBYTE}
    (hDropped :
      FrontDropped { q with nic := q.nic.access offset } q') :
    FrontDropped q q' where
  iface := hDropped.iface
  delivered := hDropped.delivered
  queue := hDropped.queue
  presents := hDropped.presents

/- What becomes of the frame in front. -/
def FateOf (f : RxFrame) (q q' : RxChip) : Prop :=
  if f.Acceptable then HandedOn f q q'
  else if f.Consumable then FrontDropped q q'
  else SameDriver q q' ∧ q'.queue = q.queue ∧ q'.Presents

theorem fateOf_ksz8851ReceivePacket
    (hFront : q.queue.head? = some f)
    (hPresents : q.Presents) :
    FateOf f q (ksz8851ReceivePacket.runAt q).2 := by
  have hStatus := (hPresents.front f hFront).1
  have hCount := (hPresents.front f hFront).2
  have hRead :
      { q with nic := q.nic.access regRxfhsr }.Presents :=
    presents_of_same hPresents rfl rfl
  have hCounted :
      { q with
        nic := (q.nic.access regRxfhsr).access
          regRxfhbcr }.Presents :=
    presents_of_same hPresents rfl rfl
  rw [ksz8851ReceivePacket_eq, NicM.runAt_bind,
    runAt_ksz8851ReadReg regRxfhsr hPresents.calm, hStatus]
  dsimp only
  unfold FateOf
  by_cases hInvalid : f.status &&& rxfhsrRxfv = 0#16
  · have hRefused : ¬ f.Acceptable :=
      fun hAcceptable => hAcceptable.1 hInvalid
    rw [if_pos hInvalid, if_neg hRefused, NicM.runAt_bind]
    unfold Program.onlyIf
    by_cases hError : f.status &&& errorFrameMask ≠ 0#16
    · have hConsumable : f.Consumable := Or.inr hError
      rw [if_pos hConsumable, if_pos hError]
      exact FrontDropped.of_access
        (frontDropped_ksz8851SetBit hRead.closed hRead.calm)
    · have hStuck : ¬ f.Consumable :=
        fun hEither => hEither.elim
          (fun hValid => hValid hInvalid) hError
      rw [if_neg hStuck, if_neg hError]
      exact ⟨⟨rfl, rfl⟩, rfl, hRead⟩
  · have hByteCount :
        (q.nic.access regRxfhsr).chip.reg regRxfhbcr =
          f.byteCount := hCount
    rw [if_neg hInvalid, NicM.runAt_bind,
      runAt_ksz8851ReadReg regRxfhbcr hRead.calm]
    dsimp only
    rw [hByteCount]
    by_cases hAccepted : LengthAccepted f.length
    · have hAcceptable : f.Acceptable := ⟨hInvalid, hAccepted⟩
      rw [if_pos hAcceptable]
      have hTaken :
          LengthAccepted (f.byteCount &&& rxfhbcrRxbcMask) :=
        hAccepted
      rw [if_pos hTaken]
      exact HandedOn.of_access (HandedOn.of_access
        (handedOn_readAndDeliver hFront hCounted hAccepted))
    · have hRefused : ¬ f.Acceptable :=
        fun hAcceptable => hAccepted hAcceptable.2
      have hConsumable : f.Consumable := Or.inl hInvalid
      have hLeft :
          ¬ LengthAccepted (f.byteCount &&& rxfhbcrRxbcMask) :=
        hAccepted
      rw [if_neg hRefused, if_pos hConsumable, if_neg hLeft,
        NicM.runAt_bind]
      exact FrontDropped.of_access (FrontDropped.of_access
        (frontDropped_ksz8851SetBit hCounted.closed hCounted.calm))

end Receiving

------------------------------------------------------------
-- The Receive Loop
------------------------------------------------------------

/- The frames that are pending, as the chip counts them. -/
def RxChip.frameCount (q : RxChip) : Nat :=
  (highByte (q.nic.chip.reg regRxfctr)).toNat

/-
  Exactly `k` frames have left the queue, and each of them
  that is valid and of acceptable size was handed on once, in
  order.
-/
structure Consumed (k : Nat) (q q' : RxChip) : Prop where
  queue : q'.queue = q.queue.drop k
  delivered : ∃ packets,
    List.Forall₂
      (RxFrame.IsPacketOf q.nic.iface.isInBigEndianMode)
      ((q.queue.take k).filter (fun f => decide f.Acceptable))
      packets ∧
    q'.nic.delivered =
      if q.nic.iface.onPacketReceived then
        q.nic.delivered ++ packets
      else q.nic.delivered

/-
  Every call of `ksz8851ReceivePacket` in the loop consumes
  the frame in front, and the receive branch as many frames
  as are counted.
-/
def ConsumesCounted
    (status enableMask : UWORD) (q : RxChip) : Prop :=
  (∀ k ≤ q.frameCount,
    Consumed k q ((receiveLoop k).runAt q).2) ∧
  Consumed q.frameCount q
    ((handleReceive status enableMask).runAt q).2

/- The chip presents another frame to the same driver. -/
structure Advanced (q q' : RxChip) : Prop where
  presents : q'.Presents
  mode : q'.nic.iface.isInBigEndianMode =
    q.nic.iface.isInBigEndianMode
  called : q'.nic.iface.onPacketReceived =
    q.nic.iface.onPacketReceived

section Loop

variable {q q' : RxChip} {f : RxFrame} {k : Nat}

theorem consumed_zero (q : RxChip) : Consumed 0 q q where
  queue := rfl
  delivered := ⟨[], .nil, by simp⟩

/- Of a consumable frame, a call disposes. -/
theorem consumed_ksz8851ReceivePacket
    (hFront : q.queue.head? = some f)
    (hPresents : q.Presents)
    (hConsumable : f.Consumable) :
    Consumed 1 q (ksz8851ReceivePacket.runAt q).2 ∧
      Advanced q (ksz8851ReceivePacket.runAt q).2 := by
  have hFate := fateOf_ksz8851ReceivePacket hFront hPresents
  have hTake : q.queue.take 1 = [f] := by
    rw [List.take_one, hFront]
    rfl
  unfold FateOf at hFate
  by_cases hAcceptable : f.Acceptable
  · rw [if_pos hAcceptable] at hFate
    rcases hFate.delivered with ⟨packet, hPacket, hGrown⟩
    refine ⟨⟨?_, [packet], ?_, hGrown⟩, hFate.presents,
      hFate.mode, hFate.called⟩
    · rw [hFate.queue, List.drop_one]
    · rw [hTake, List.filter_cons_of_pos (by
        simpa using hAcceptable)]
      exact .cons hPacket .nil
  · rw [if_neg hAcceptable, if_pos hConsumable] at hFate
    refine ⟨⟨?_, [], ?_, ?_⟩, hFate.presents, ?_, ?_⟩
    · rw [hFate.queue, List.drop_one]
    · rw [hTake, List.filter_cons_of_neg (by
        simpa using hAcceptable)]
      exact .nil
    · rw [hFate.delivered, List.append_nil, ite_self]
    · rw [hFate.iface]
    · rw [hFate.iface]

/- What is consumed first and what is consumed then. -/
theorem Consumed.add
    {q'' : RxChip}
    {j : Nat}
    (hFirst : Consumed j q q')
    (hAdvanced : Advanced q q')
    (hThen : Consumed k q' q'') :
    Consumed (j + k) q q'' := by
  rcases hFirst.delivered with ⟨first, hFirstOf, hGrown⟩
  rcases hThen.delivered with ⟨rest, hRestOf, hGrown'⟩
  rw [hAdvanced.mode, hFirst.queue] at hRestOf
  refine ⟨?_, first ++ rest, ?_, ?_⟩
  · rw [hThen.queue, hFirst.queue, List.drop_drop]
  · rw [List.take_add, List.filter_append]
    exact List.rel_append hFirstOf hRestOf
  · rw [hGrown', hAdvanced.called, hGrown]
    split
    · exact List.append_assoc _ _ _
    · rfl

theorem receiveLoop_succ (k : Nat) (q : RxChip) :
    (receiveLoop (k + 1)).runAt q =
      (receiveLoop k).runAt (ksz8851ReceivePacket.runAt q).2 :=
  NicM.runAt_bind _ _ q

/- Consumable frames are all consumed. -/
theorem consumed_receiveLoop
    (hPresents : q.Presents)
    (hConsumable : ∀ f ∈ q.queue.take k, f.Consumable)
    (hCount : k ≤ q.queue.length) :
    Consumed k q ((receiveLoop k).runAt q).2 := by
  induction k generalizing q with
  | zero => exact consumed_zero q
  | succ k ih =>
      cases hQueue : q.queue with
      | nil =>
          rw [hQueue] at hCount
          exact absurd hCount (Nat.not_succ_le_zero k)
      | cons f rest =>
          rw [hQueue] at hConsumable hCount
          have hFront : q.queue.head? = some f := by
            rw [hQueue]
            rfl
          rcases consumed_ksz8851ReceivePacket hFront hPresents
            (hConsumable f List.mem_cons_self) with
            ⟨hOne, hAdvanced⟩
          have hRest :
              (ksz8851ReceivePacket.runAt q).2.queue = rest := by
            rw [hOne.queue, hQueue]
            rfl
          rw [receiveLoop_succ, Nat.add_comm k 1]
          refine hOne.add hAdvanced
            (ih hAdvanced.presents ?_ ?_)
          · rw [hRest]
            intro g hLater
            exact hConsumable g (List.mem_cons_of_mem f hLater)
          · rw [hRest]
            exact Nat.le_of_succ_le_succ hCount

/- What leaves the queue call by call was consumable. -/
theorem consumable_of_receiveLoop
    (hPresents : q.Presents)
    (hQueue : ∀ j ≤ k,
      ((receiveLoop j).runAt q).2.queue = q.queue.drop j) :
    ∀ f ∈ q.queue.take k, f.Consumable := by
  induction k generalizing q with
  | zero =>
      rintro f hNone
      rw [List.take_zero] at hNone
      cases hNone
  | succ k ih =>
      cases hAll : q.queue with
      | nil =>
          intro f hNone
          cases hNone
      | cons f rest =>
          have hFront : q.queue.head? = some f := by
            rw [hAll]
            rfl
          have hFirst :
              (ksz8851ReceivePacket.runAt q).2.queue = rest := by
            have hOne := hQueue 1 (Nat.le_add_left 1 k)
            rw [receiveLoop_succ, hAll] at hOne
            exact hOne
          have hConsumable : f.Consumable := by
            by_contra hStuck
            have hFate :=
              fateOf_ksz8851ReceivePacket hFront hPresents
            have hRefused : ¬ f.Acceptable :=
              fun hAcceptable => hStuck (Or.inl hAcceptable.1)
            unfold FateOf at hFate
            rw [if_neg hRefused, if_neg hStuck, hFirst, hAll]
              at hFate
            exact List.cons_ne_self f rest hFate.2.1.symm
          rcases consumed_ksz8851ReceivePacket hFront hPresents
            hConsumable with ⟨-, hAdvanced⟩
          have hLater := ih hAdvanced.presents (by
            intro j hLe
            rw [← receiveLoop_succ, hFirst,
              hQueue (j + 1) (Nat.succ_le_succ hLe), hAll]
            rfl)
          rw [hFirst] at hLater
          intro g hMem
          rcases List.mem_cons.mp hMem with rfl | hRest
          · exact hConsumable
          · exact hLater g hRest

/- The receive branch runs the loop as often as the chip
   counts frames. -/
theorem handleReceive_of_received
    {status : UWORD}
    (enableMask : UWORD)
    (hPresents : q.Presents)
    (hReceived : status &&& isrRxis ≠ 0#16) :
    ∃ r : RxChip,
      ((handleReceive status enableMask).runAt q).2 =
          ((receiveLoop q.frameCount).runAt r).2 ∧
        r.Presents ∧ r.queue = q.queue ∧ SameDriver q r := by
  have hOther : regRxqcr ≠ regIsr := by
    decide
  have hWrite := runAt_writeOther (q := q) isrRxis hOther
    hPresents.calm
  have hReg (a : UBYTE) (hKept : a ≠ regIsr) :
      ((q.nic.access regIsr).setChip
        (fun c => c.writeReg regIsr isrRxis)).chip.reg a =
        q.nic.chip.reg a := by
    unfold setChip
    dsimp only
    rw [Chip.reg_writeReg, Function.update_of_ne hKept]
    rfl
  have hWritten :
      RxChip.Presents
        { q with
          nic := (q.nic.access regIsr).setChip
            (fun c => c.writeReg regIsr isrRxis) } := by
    refine ⟨?_, ?_, ?_⟩
    · unfold Chip.Sda
      dsimp only
      rw [hReg _ hOther]
      exact hPresents.closed
    · unfold NicState.Releasing
      dsimp only
      rw [hReg _ hOther]
      exact hPresents.calm
    · dsimp only
      rw [hReg _ (by decide), hReg _ (by decide)]
      exact hPresents.front
  have hRead := runAt_ksz8851ReadReg regRxfctr hWritten.calm
  have hCounted :
      { q with
        nic := ((q.nic.access regIsr).setChip
          (fun c => c.writeReg regIsr isrRxis)).access
            regRxfctr }.Presents :=
    presents_of_same hWritten rfl rfl
  refine ⟨_, ?_, hCounted, rfl, ⟨rfl, rfl⟩⟩
  unfold handleReceive
  rw [if_pos hReceived, NicM.runAt_bind, hWrite,
    NicM.runAt_bind, hRead, NicM.runAt_bind]
  dsimp only
  rw [hReg _ (by decide)]
  rfl

/-
  The counted frames are consumed call by call if and only if
  each of them is valid or has an error bit set.  Another
  frame is neither read out nor released, and stays in front.
-/
theorem consumesCounted_iff
    {status : UWORD}
    (enableMask : UWORD)
    (hPresents : q.Presents)
    (hCount : q.frameCount ≤ q.queue.length)
    (hReceived : status &&& isrRxis ≠ 0#16) :
    ConsumesCounted status enableMask q ↔
      ∀ f ∈ q.queue.take q.frameCount, f.Consumable := by
  constructor
  · intro hConsumes
    exact consumable_of_receiveLoop hPresents
      (fun j hLe => (hConsumes.1 j hLe).queue)
  · intro hConsumable
    refine ⟨?_, ?_⟩
    · intro j hLe
      apply consumed_receiveLoop hPresents _ (hLe.trans hCount)
      intro f hMem
      exact hConsumable f
        ((List.take_subset_take_left q.queue hLe) hMem)
    · rcases handleReceive_of_received enableMask hPresents
        hReceived with ⟨r, hRun, hSame, hQueue, hDriver⟩
      have hLoop := consumed_receiveLoop hSame
        (by
          rw [hQueue]
          exact hConsumable)
        (by
          rw [hQueue]
          exact hCount)
      rw [hRun]
      refine ⟨?_, ?_⟩
      · rw [hLoop.queue, hQueue]
      · rw [← hQueue, ← hDriver.iface, ← hDriver.delivered]
        exact hLoop.delivered

end Loop

------------------------------------------------------------
-- A Frame That Stays
------------------------------------------------------------

/- A chip that holds these frames and counts them. -/
def chipWith (queue : List RxFrame) : RxChip where
  nic := NicState.describeFront
    { offlineNic with
      chip :=
        { offlineChip with
          reg := Function.update offlineChip.reg regRxfctr
            (BitVec.ofNat 16 (256 * queue.length)) }
      iface :=
        { offlineInterface with onPacketReceived := true } }
    queue
  queue := queue
  read := 0

/- A valid frame of 64 bytes. -/
def goodFrame : RxFrame where
  status := rxfhsrRxfv
  byteCount := 64#16
  words := List.replicate 35 0x1234#16

/- The frame is not valid, and no error says why. -/
def idleFrame : RxFrame where
  status := 0#16
  byteCount := 64#16
  words := []

theorem presents_chipWith (queue : List RxFrame) :
    (chipWith queue).Presents := by
  cases queue with
  | nil =>
      exact ⟨by decide, by decide, fun f hNone => nomatch hNone⟩
  | cons f rest =>
      refine ⟨?_, ?_, ?_⟩
      · unfold Chip.Sda
        rw [show (chipWith (f :: rest)).nic.chip.reg regRxqcr =
          0#16 from rfl]
        decide
      · unfold NicState.Releasing
        rw [show (chipWith (f :: rest)).nic.chip.reg regRxqcr =
          0#16 from rfl]
        decide
      · intro g hFront
        cases hFront
        exact ⟨rfl, rfl⟩

theorem consumesCounted_iff_good :
    ConsumesCounted isrRxis 0#16 (chipWith [goodFrame]) ↔
      ∀ f ∈ (chipWith [goodFrame]).queue.take
        (chipWith [goodFrame]).frameCount, f.Consumable :=
  consumesCounted_iff 0#16 (presents_chipWith [goodFrame])
    (by decide) (by decide)

/- The frame behind it is never reached. -/
theorem not_consumesCounted_idle :
    let q := chipWith [idleFrame, goodFrame]
    q.Presents ∧ q.frameCount = q.queue.length ∧
      ¬ ConsumesCounted isrRxis 0#16 q := by
  refine ⟨presents_chipWith _, by decide, ?_⟩
  intro hConsumes
  have hQueue := congrArg List.length hConsumes.2.queue
  revert hQueue
  decide +kernel

end KszDriver
