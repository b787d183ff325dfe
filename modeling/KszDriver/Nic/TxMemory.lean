import KszDriver.Nic.TxStream

/-
  The free memory of the transmit queue, as the driver
  computes it in three places.

  `ksz8851SendPacketCooked` forgets the Ethernet header when
  it checks the memory, and `ksz8851SendPacketPossible`
  compares the wrong way round.

  Main declarations:
    * `NicState.txFree`, `pushedBytes`
    * `TxQuery`, `TxQuery.Right`
    * `right_iff`
    * `not_right_cooked`
-/

------------------------------------------------------------
-- Bytes in the Transmit Queue
------------------------------------------------------------

namespace KszDriver

open NicState

/- The free memory of the transmit queue, in bytes. -/
def NicState.txFree (n : NicState) : Nat :=
  (n.chip.reg regTxmir &&& txmirTxmaMask).toNat

/- All words that the transmit queue was given so far. -/
def NicState.txWords (n : NicState) : List UWORD :=
  n.chip.frames.flatten ++ n.chip.fifo

/- The bytes that an operation has put into the queue. -/
def pushedBytes (n n' : NicState) : Nat :=
  2 * (n'.txWords.length - n.txWords.length)

section Pushed

variable {n n' : NicState} {ws : List UWORD}

theorem pushedBytes_of_started
    (hStarted : Started ws n n') :
    pushedBytes n n' = 2 * ws.length := by
  unfold pushedBytes NicState.txWords
  rw [hStarted.frames, hStarted.fifo]
  simp
  omega

theorem txWords_of_kept (hKept : Kept n n') :
    n'.txWords = n.txWords := by
  unfold NicState.txWords
  rw [hKept.frames, hKept.fifo]

theorem pushedBytes_of_kept (hKept : Kept n n') :
    pushedBytes n n' = 0 := by
  unfold pushedBytes
  rw [txWords_of_kept hKept, Nat.sub_self]

/- A transmission that was started shows in the frames. -/
theorem frames_ne_of_started
    (hStarted : Started ws n n') :
    n'.chip.frames ≠ n.chip.frames := by
  rw [hStarted.frames]
  intro hSame
  have hLength := congrArg List.length hSame
  simp at hLength

end Pushed

@[simp] theorem length_wordsOf
    (n : NicState) (data : Memory) (sizeInWord : Nat) :
    (n.wordsOf data sizeInWord).length = sizeInWord := by
  simp [NicState.wordsOf]

/- Header and frame, in whole double words. -/
theorem length_rawStream
    (n : NicState) (buffer : Memory) (length : Nat) :
    2 * (n.rawStream buffer length).length =
      4 + (length + 3) / 4 * 4 := by
  unfold rawStream
  rw [List.length_append, length_wordsOf, length_wordsOf]
  omega

/- Header, Ethernet header and payload, in whole words. -/
theorem length_cookedStream
    (n : NicState)
    (dst src : Memory)
    (packetType : UWORD)
    (payload : Memory)
    (payloadLength : Nat) :
    2 * (n.cookedStream dst src packetType payload
        payloadLength).length =
      4 + ethHeaderSize +
        (paddedLength payloadLength + 1) / 2 * 2 := by
  unfold cookedStream cookedWords ethHeaderSize
  simp only [List.length_append, length_wordsOf]
  omega

------------------------------------------------------------
-- Questions about the Memory
------------------------------------------------------------

/- The two send operations, and the question whether a frame
   could be sent. -/
inductive TxQuery where
| raw (buffer : Memory) (length : Nat)
| cooked (dst src : Memory) (packetType : UWORD)
    (payload : Memory) (payloadLength : Nat)
| possible (packetSize : UWORD)

/- A send operation pushes no more than there is memory for.
   If no frame is sent, it says so and touches nothing. -/
def KeepsTxMemory (p : NicM ErrorT) (n : NicState) : Prop :=
  pushedBytes n (p.runOn n).2 ≤ n.txFree ∧
    ((p.runOn n).2.chip.frames = n.chip.frames →
      (p.runOn n).1 ≠ noError ∧ Untouched n (p.runOn n).2)

namespace TxQuery

/- The lengths that the callers admit. -/
def Admitted : TxQuery → Prop
| .raw _ length => 46 ≤ length ∧ length ≤ ethMaxFrameSize
| .cooked _ _ _ _ payloadLength => payloadLength ≤ 1500
| .possible packetSize =>
    46 ≤ packetSize.toNat ∧
      packetSize.toNat ≤ ethMaxFrameSize

/-
  The memory is respected, and the answer to the question is
  true exactly if sending a frame of this size would not fail
  for lack of it.
-/
def Right (n : NicState) : TxQuery → Prop
| .raw buffer length =>
    KeepsTxMemory (ksz8851SendPacket buffer length) n
| .cooked dst src packetType payload payloadLength =>
    KeepsTxMemory (ksz8851SendPacketCooked dst src packetType
      payload payloadLength) n
| .possible packetSize =>
    ((ksz8851SendPacketPossible packetSize).runOn n).1 =
        true ↔
      ∀ buffer : Memory,
        ((ksz8851SendPacket buffer
          packetSize.toNat).runOn n).1 ≠ errorFailure

/-
  Where the three computations agree with what is pushed.  A
  payload either does not even fit without the Ethernet
  header, or does with it; a size that is asked about lies
  where both comparisons say no.
-/
def Agrees (n : NicState) : TxQuery → Prop
| .raw _ _ => True
| .cooked _ _ _ _ payloadLength =>
    n.txFree < paddedLength payloadLength + 8 ∨
      4 + ethHeaderSize +
        (paddedLength payloadLength + 1) / 2 * 2 ≤ n.txFree
| .possible packetSize =>
    n.txFree < packetSize.toNat + 8 ∧
      packetSize.toNat < (n.chip.reg regTxmir).toNat + 8

end TxQuery

------------------------------------------------------------
-- The Send Operations
------------------------------------------------------------

section Queries

variable {n : NicState}

/- A refused frame is no burden on the memory. -/
theorem keepsTxMemory_of_refused
    {p : NicM ErrorT}
    (hRefused : (p.runOn n).1 ≠ noError ∧
      Untouched n (p.runOn n).2) :
    KeepsTxMemory p n := by
  refine ⟨?_, fun _ => hRefused⟩
  rw [pushedBytes_of_kept hRefused.2.toKept]
  exact Nat.zero_le _

/- A frame that is sent has to fit. -/
theorem keepsTxMemory_iff_of_started
    {p : NicM ErrorT}
    {ws : List UWORD}
    (hStarted : Started ws n (p.runOn n).2) :
    KeepsTxMemory p n ↔ 2 * ws.length ≤ n.txFree := by
  unfold KeepsTxMemory
  rw [pushedBytes_of_started hStarted]
  exact and_iff_left (fun hSame =>
    absurd hSame (frames_ne_of_started hStarted))

theorem keepsTxMemory_raw
    {length : Nat}
    (buffer : Memory) :
    KeepsTxMemory (ksz8851SendPacket buffer length) n := by
  by_cases hAccepted : n.RawAccepted length
  · have hSent := started_ksz8851SendPacket buffer hAccepted
    rw [keepsTxMemory_iff_of_started hSent.2,
      length_rawStream]
    have hFits : length + 8 ≤ n.txFree := hAccepted.2.2
    omega
  · exact keepsTxMemory_of_refused
      (untouched_ksz8851SendPacket buffer hAccepted)

theorem keepsTxMemory_cooked_iff
    {payloadLength : Nat}
    (dst src : Memory)
    (packetType : UWORD)
    (payload : Memory)
    (hMost : payloadLength ≤ 1500) :
    KeepsTxMemory (ksz8851SendPacketCooked dst src packetType
        payload payloadLength) n ↔
      n.txFree < paddedLength payloadLength + 8 ∨
        4 + ethHeaderSize +
          (paddedLength payloadLength + 1) / 2 * 2 ≤
            n.txFree := by
  by_cases hAccepted : n.CookedAccepted payloadLength
  · have hSent := started_ksz8851SendPacketCooked dst src
      packetType payload (by omega) hAccepted
    have hFits : ¬ n.txFree < paddedLength payloadLength + 8 :=
      Nat.not_lt.mpr hAccepted
    rw [keepsTxMemory_iff_of_started hSent.2,
      length_cookedStream, or_iff_right hFits]
  · have hShort : n.txFree < paddedLength payloadLength + 8 :=
      Nat.not_le.mp hAccepted
    exact iff_of_true
      (keepsTxMemory_of_refused
        (untouched_ksz8851SendPacketCooked dst src packetType
          payload hAccepted))
      (Or.inl hShort)

/- Of a frame of valid length only the memory is asked. -/
theorem ksz8851SendPacket_ne_errorFailure_iff
    {length : Nat}
    (buffer : Memory)
    (hLeast : 46 ≤ length)
    (hMost : length ≤ ethMaxFrameSize) :
    ((ksz8851SendPacket buffer length).runOn n).1 ≠
        errorFailure ↔
      length + 8 ≤ n.txFree := by
  have hValid : ¬ (length < 46 ∨ length > ethMaxFrameSize) := by
    omega
  constructor
  · intro hOther
    by_contra hShort
    apply hOther
    have hMemory : length + 8 >
        ((disable.runOn n).2.chip.reg regTxmir &&&
          txmirTxmaMask).toNat :=
      Nat.not_le.mp hShort
    unfold ksz8851SendPacket
    rw [if_neg hValid, NicM.runOn_bind, NicM.runOn_bind,
      runOn_ksz8851ReadReg]
    dsimp only
    rw [if_pos hMemory]
    rfl
  · intro hFits
    rw [(started_ksz8851SendPacket buffer
      ⟨hLeast, hMost, hFits⟩).1]
    decide

/- The mask can only make the register smaller. -/
theorem txFree_le (n : NicState) :
    n.txFree ≤ (n.chip.reg regTxmir).toNat := by
  unfold NicState.txFree
  rw [BitVec.toNat_and]
  exact Nat.and_le_left

/- The answer is never true when it should be, so that it is
   right only where it is false and should be. -/
theorem possible_right_iff
    {packetSize : UWORD}
    (hAdmitted : (TxQuery.possible packetSize).Admitted) :
    (TxQuery.possible packetSize).Right n ↔
      (TxQuery.possible packetSize).Agrees n := by
  have hAnswer :
      ((ksz8851SendPacketPossible packetSize).runOn n).1 =
          true ↔
        (n.chip.reg regTxmir).toNat + 8 ≤ packetSize.toNat := by
    unfold ksz8851SendPacketPossible
    rw [NicM.runOn_bind, runOn_ksz8851ReadReg]
    exact decide_eq_true_iff
  have hSends :
      (∀ buffer : Memory,
          ((ksz8851SendPacket buffer
            packetSize.toNat).runOn n).1 ≠ errorFailure) ↔
        packetSize.toNat + 8 ≤ n.txFree := by
    constructor
    · intro hAll
      exact (ksz8851SendPacket_ne_errorFailure_iff
        (fun _ => 0#8) hAdmitted.1 hAdmitted.2).mp (hAll _)
    · intro hFits buffer
      exact (ksz8851SendPacket_ne_errorFailure_iff buffer
        hAdmitted.1 hAdmitted.2).mpr hFits
  have hMask := txFree_le n
  unfold TxQuery.Right TxQuery.Agrees
  dsimp only
  rw [hAnswer, hSends]
  omega

/- The memory is respected if and only if the computations
   agree with what is pushed. -/
theorem right_iff
    (n : NicState)
    {query : TxQuery}
    (hAdmitted : query.Admitted) :
    query.Right n ↔ query.Agrees n := by
  cases query with
  | raw buffer length =>
      exact iff_of_true (keepsTxMemory_raw buffer) trivial
  | cooked dst src packetType payload payloadLength =>
      exact keepsTxMemory_cooked_iff dst src packetType payload
        hAdmitted
  | possible packetSize => exact possible_right_iff hAdmitted

end Queries

------------------------------------------------------------
-- A Frame That Does Not Fit
------------------------------------------------------------

/- A chip with this free memory. -/
def nicWithTxmir (txmir : UWORD) : NicState :=
  { offlineNic with
    chip :=
      { offlineChip with
        reg := Function.update offlineChip.reg regTxmir
          txmir } }

/- A payload of so many bytes, with empty addresses. -/
def emptyPacket (payloadLength : Nat) : TxQuery :=
  .cooked (fun _ => 0#8) (fun _ => 0#8) 0x0800#16
    (fun _ => 0#8) payloadLength

theorem right_iff_emptyPacket :
    (emptyPacket 100).Right (nicWithTxmir 118#16) ↔
      (emptyPacket 100).Agrees (nicWithTxmir 118#16) :=
  right_iff _ (by show 100 ≤ 1500; decide)

/- With 108 bytes free, 118 bytes are pushed. -/
theorem not_right_cooked :
    (emptyPacket 100).Admitted ∧
      ¬ (emptyPacket 100).Right (nicWithTxmir 108#16) := by
  have hAdmitted : (emptyPacket 100).Admitted := by
    show 100 ≤ 1500
    decide
  refine ⟨hAdmitted, ?_⟩
  intro hRight
  have hPushed := hRight.1
  revert hPushed
  decide +kernel

end KszDriver
