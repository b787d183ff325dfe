import KszDriver.Nic.RxStream

/-
  The FIFO loops at a data port that collects what is written
  to it and gives out what it was fed with.

  The words are put together and taken apart in the same
  order, so that a buffer that is written and read back in
  the same mode is the same.

  Main declarations:
    * `DataPort`, `NicM.atPort`, `sentBy`
    * `RoundTrips`, `writePieces`
    * `fifo_roundTrips`
-/

------------------------------------------------------------
-- The Data Port
------------------------------------------------------------

namespace KszDriver

/- What is still to be read from the port, and what has been
   written to it. -/
structure DataPort where
  input : List UWORD
  output : List UWORD

/- The driver at the port; all else goes to the chip. -/
def DataPort.exec :
    (op : NicOp) → NicState × DataPort →
      op.Ret × (NicState × DataPort)
| .dataReg v, (n, port) =>
    ((), (n, { port with output := port.output ++ [v] }))
| .readDataReg, (n, port) =>
    (port.input.headD 0#16,
      (n, { port with input := port.input.tail }))
| op, (n, port) => ((op.exec n).1, ((op.exec n).2, port))

def NicM.atPort
    {α : Type} (p : NicM α) (s : NicState × DataPort) :
    α × (NicState × DataPort) :=
  Program.run DataPort.exec p s

/- The words that are written to the data port. -/
def sentBy {α : Type} (p : NicM α) (n : NicState) :
    List UWORD :=
  (p.atPort (n, { input := [], output := [] })).2.2.output

namespace DataPort

/- The words have been written. -/
def send (port : DataPort) (ws : List UWORD) : DataPort :=
  { port with output := port.output ++ ws }

@[simp] theorem send_nil (port : DataPort) :
    port.send [] = port := by
  simp [send]

@[simp] theorem send_send
    (port : DataPort) (ws ws' : List UWORD) :
    (port.send ws).send ws' = port.send (ws ++ ws') := by
  simp [send]

end DataPort

theorem atPort_bind
    {α β : Type}
    (p : NicM α)
    (f : α → NicM β)
    (s : NicState × DataPort) :
    (p >>= f).atPort s =
      (f (p.atPort s).1).atPort (p.atPort s).2 :=
  Program.run_bind p f s

@[simp] theorem atPort_pure
    {α : Type} (value : α) (s : NicState × DataPort) :
    (pure value : NicM α).atPort s = (value, s) := rfl

theorem atPort_getInterface
    (n : NicState) (port : DataPort) :
    getInterface.atPort (n, port) = (n.iface, (n, port)) := rfl

theorem atPort_dataReg
    (w : UWORD) (n : NicState) (port : DataPort) :
    (dataReg w).atPort (n, port) = ((), (n, port.send [w])) :=
  rfl

------------------------------------------------------------
-- Writing
------------------------------------------------------------

theorem atPort_writeWords
    (isInBigEndianMode : Bool)
    (data : Memory)
    (sizeInWord i : Nat)
    (n : NicState)
    (port : DataPort) :
    (writeWords isInBigEndianMode data sizeInWord i).atPort
        (n, port) =
      ((), (n, port.send ((List.range' i sizeInWord).map
        (fifoWord isInBigEndianMode data)))) := by
  induction sizeInWord generalizing i port with
  | zero => simp [writeWords]
  | succ sizeInWord ih =>
      unfold writeWords
      rw [atPort_bind, atPort_dataReg, ih, DataPort.send_send]
      rfl

/- As many words as the counter can count. -/
theorem atPort_writeAll
    (data : Memory)
    {sizeInWord : Nat}
    (hSize : sizeInWord < 65536)
    (n : NicState)
    (port : DataPort) :
    (writeWords n.iface.isInBigEndianMode data
        (BitVec.ofNat 16 sizeInWord).toNat 0).atPort (n, port) =
      ((), (n, port.send (n.wordsOf data sizeInWord))) := by
  rw [BitVec.toNat_ofNat, Nat.mod_eq_of_lt hSize,
    atPort_writeWords, wordsOf_eq]

theorem atPort_ksz8851WriteFifo
    (data : Memory)
    {length : Nat}
    (hLength : length ≤ 131068)
    (n : NicState)
    (port : DataPort) :
    (ksz8851WriteFifo data length).atPort (n, port) =
      ((), (n, port.send
        (n.wordsOf data (2 * ((length + 3) / 4))))) := by
  have hWords :
      (length + 3) / 4 * 4 / 2 = 2 * ((length + 3) / 4) := by
    omega
  have hSize : 2 * ((length + 3) / 4) < 65536 := by
    omega
  unfold ksz8851WriteFifo
  rw [atPort_bind, atPort_getInterface]
  dsimp only
  rw [hWords, atPort_writeAll data hSize]

theorem atPort_ksz8851WriteFifoWordAlign
    (data : Memory)
    {lengthInBytes : Nat}
    (hLength : lengthInBytes ≤ 131068)
    (n : NicState)
    (port : DataPort) :
    (ksz8851WriteFifoWordAlign data lengthInBytes).atPort
        (n, port) =
      (0xFFFE#16, (n, port.send
        (n.wordsOf data ((lengthInBytes + 1) / 2)))) := by
  have hSize : (lengthInBytes + 1) / 2 < 65536 := by
    omega
  unfold ksz8851WriteFifoWordAlign
  rw [atPort_bind, atPort_getInterface]
  dsimp only
  rw [atPort_bind, atPort_writeAll data hSize]
  rfl

theorem sentBy_ksz8851WriteFifo
    (data : Memory)
    {length : Nat}
    (hLength : length ≤ 131068)
    (n : NicState) :
    sentBy (ksz8851WriteFifo data length) n =
      n.wordsOf data (2 * ((length + 3) / 4)) := by
  unfold sentBy
  rw [atPort_ksz8851WriteFifo data hLength]
  rfl

theorem sentBy_ksz8851WriteFifoWordAlign
    (data : Memory)
    {lengthInBytes : Nat}
    (hLength : lengthInBytes ≤ 131068)
    (n : NicState) :
    sentBy (ksz8851WriteFifoWordAlign data lengthInBytes) n =
      n.wordsOf data ((lengthInBytes + 1) / 2) := by
  unfold sentBy
  rw [atPort_ksz8851WriteFifoWordAlign data hLength]
  rfl

/- A chip that takes bare writes gets the same words. -/
theorem runOn_ksz8851WriteFifo_sentBy
    (data : Memory)
    {length : Nat}
    {n : NicState}
    (hLength : length ≤ 131068)
    (hSending : n.Sending) :
    (ksz8851WriteFifo data length).runOn n =
      ((), n.push (sentBy (ksz8851WriteFifo data length) n))
        := by
  have hWords :
      (length + 3) / 4 * 4 / 2 = 2 * ((length + 3) / 4) := by
    omega
  rw [runOn_ksz8851WriteFifo data hLength hSending,
    sentBy_ksz8851WriteFifo data hLength, hWords]

------------------------------------------------------------
-- Reading
------------------------------------------------------------

/- As many words as are asked for are taken, and stored in
   the order of the mode. -/
theorem atPort_readWords
    (isInBigEndianMode : Bool)
    (ws rest output : List UWORD)
    (i : Nat)
    (data : Memory)
    (n : NicState) :
    (readWords isInBigEndianMode ws.length i data).atPort
        (n, { input := ws ++ rest, output }) =
      ((portOrder isInBigEndianMode).store data i ws,
        (n, { input := rest, output })) := by
  induction ws generalizing i data with
  | nil => rfl
  | cons w ws ih =>
      have hRead :
          readDataReg.atPort
              (n, { input := w :: ws ++ rest, output }) =
            (w, (n, { input := ws ++ rest, output })) := rfl
      unfold List.length readWords
      rw [atPort_bind, hRead]
      dsimp only
      rw [ih (i + 1), storeTwo_eq]
      rfl

theorem atPort_ksz8851ReadFifo
    {length : Nat}
    {ws : List UWORD}
    (hLength : length ≤ 131068)
    (hWords : ws.length = 2 * ((length + 3) / 4))
    (rest output : List UWORD)
    (n : NicState) :
    (ksz8851ReadFifo length).atPort
        (n, { input := ws ++ rest, output }) =
      ((), ({ n with
        iface :=
          { n.iface with
            rxData :=
              (portOrder n.iface.isInBigEndianMode).store
                n.iface.rxData 0 ws } },
        { input := rest, output })) := by
  have hCount : (length + 3) / 4 * 4 / 2 = ws.length := by
    omega
  have hSize : ws.length < 65536 := by
    omega
  unfold ksz8851ReadFifo
  rw [atPort_bind, atPort_getInterface]
  dsimp only
  rw [hCount, BitVec.toNat_ofNat, Nat.mod_eq_of_lt hSize,
    atPort_bind, atPort_readWords]
  rfl

/- A chip with enough words gives out what a port with them
   would. -/
theorem runOn_ksz8851ReadFifo_atPort
    {length : Nat}
    {n : NicState}
    (hLength : length ≤ 131068)
    (hReceiving : n.Receiving)
    (hEnough : 2 * ((length + 3) / 4) ≤ n.chip.rxq.length) :
    ((ksz8851ReadFifo length).runOn n).2.iface =
      ((ksz8851ReadFifo length).atPort
        (n, { input := n.chip.rxq, output := [] })).2.1.iface
        := by
  have hCount : readLength length / 2 = 2 * ((length + 3) / 4)
      := by
    unfold readLength
    omega
  have hTaken :
      (n.chip.rxq.take (2 * ((length + 3) / 4))).length =
        2 * ((length + 3) / 4) := by
    rw [List.length_take, Nat.min_eq_left hEnough]
  have hPort :=
    atPort_ksz8851ReadFifo hLength hTaken
      (n.chip.rxq.drop (2 * ((length + 3) / 4))) [] n
  rw [List.take_append_drop] at hPort
  rw [hPort, runOn_ksz8851ReadFifo hLength hReceiving]
  unfold NicState.filled
  rw [hCount, NicState.rxWords_of_le hEnough]

/- Stored again, the words for a buffer give its bytes. -/
theorem store_words
    (order : WordOrder UWORD UBYTE)
    (m data : Memory)
    {k i : Nat}
    (hInside : i < 2 * k) :
    order.store m 0 (order.words data k) i = data i := by
  have hWords : i < 2 * (order.words data k).length := by
    rw [WordOrder.length_words]
    exact hInside
  have hStored := order.store_inside m (i := 0) hWords
  rw [WordOrder.bytes_words] at hStored
  simpa [hInside] using hStored.symm

------------------------------------------------------------
-- Both Modes
------------------------------------------------------------

theorem swap_fifoWord (data : Memory) (i : Nat) :
    swap (fifoWord false data i) = fifoWord true data i := by
  unfold swap fifoWord
  rw [if_neg Bool.false_ne_true, if_pos rfl, lowByte_wordOf,
    highByte_wordOf]
  rfl

/- The words for the two modes differ in the order of their
   bytes. -/
theorem wordsOf_swap
    {n n' : NicState}
    (hBig : n.iface.isInBigEndianMode = true)
    (hLittle : n'.iface.isInBigEndianMode = false)
    (data : Memory)
    (sizeInWord : Nat) :
    n.wordsOf data sizeInWord =
      (n'.wordsOf data sizeInWord).map swap := by
  rw [wordsOf_eq, wordsOf_eq, hBig, hLittle, List.map_map]
  apply List.map_congr_left
  intro i _
  exact (swap_fifoWord data i).symm

------------------------------------------------------------
-- Pieces
------------------------------------------------------------

/- Pieces, each with its length, written one after the
   other. -/
def writePieces : List (Memory × Nat) → NicM Unit
| [] => pure ()
| (data, length) :: rest => do
    let _ ← ksz8851WriteFifoWordAlign data length
    writePieces rest

/- How long the pieces are together, and what their bytes
   are. -/
def piecesLength (pieces : List (Memory × Nat)) : Nat :=
  (pieces.map Prod.snd).sum

def piecesBytes (pieces : List (Memory × Nat)) :
    List UBYTE :=
  pieces.flatMap (fun piece => piece.1.bytes piece.2)

@[simp] theorem piecesLength_cons
    (data : Memory)
    (length : Nat)
    (rest : List (Memory × Nat)) :
    piecesLength ((data, length) :: rest) =
      length + piecesLength rest := by
  simp [piecesLength]

theorem even_piecesLength
    {pieces : List (Memory × Nat)}
    (hEven : ∀ piece ∈ pieces, piece.2 % 2 = 0) :
    piecesLength pieces % 2 = 0 := by
  induction pieces with
  | nil => rfl
  | cons piece pieces ih =>
      rcases piece with ⟨first, length⟩
      have hFirst : length % 2 = 0 :=
        hEven (first, length) List.mem_cons_self
      have hRest := ih (fun piece hIn =>
        hEven piece (List.mem_cons_of_mem _ hIn))
      rw [piecesLength_cons]
      omega

/- Even pieces have the words of the whole. -/
theorem atPort_writePieces
    {pieces : List (Memory × Nat)}
    {data : Memory}
    (hEven : ∀ piece ∈ pieces, piece.2 % 2 = 0)
    (hLength : piecesLength pieces ≤ 131068)
    (hWhole :
      data.bytes (piecesLength pieces) = piecesBytes pieces)
    (n : NicState)
    (port : DataPort) :
    (writePieces pieces).atPort (n, port) =
      ((), (n, port.send
        (n.wordsOf data (piecesLength pieces / 2)))) := by
  induction pieces generalizing data port with
  | nil => simp [writePieces, piecesLength, wordsOf_eq]
  | cons piece pieces ih =>
      rcases piece with ⟨first, length⟩
      have hFirst : length % 2 = 0 :=
        hEven (first, length) List.mem_cons_self
      rw [piecesLength_cons] at hLength hWhole ⊢
      rw [Memory.bytes_add] at hWhole
      have hParts := List.append_inj hWhole
        (by simp [Memory.length_bytes])
      have hSame : ∀ i, i < 2 * (length / 2) →
          data i = first i := by
        intro i hIn
        exact List.map_inj_left.mp hParts.1 i
          (List.mem_range.mpr (by omega))
      have hDrop :
          data.drop length =
            fun i => data (2 * (length / 2) + i) := by
        unfold Memory.drop
        rw [Nat.mul_div_cancel' (Nat.dvd_of_mod_eq_zero hFirst)]
      have hHalves :
          (length + piecesLength pieces) / 2 =
            length / 2 + piecesLength pieces / 2 := by
        omega
      have hRounded : (length + 1) / 2 = length / 2 := by
        omega
      have hOthers : ∀ piece ∈ pieces, piece.2 % 2 = 0 :=
        fun piece hIn =>
          hEven piece (List.mem_cons_of_mem _ hIn)
      have hRest := @ih (data.drop length) hOthers (by omega)
        hParts.2
      unfold writePieces
      rw [atPort_bind, atPort_ksz8851WriteFifoWordAlign first
        (by omega)]
      dsimp only
      rw [hRest, DataPort.send_send, hRounded, hHalves, hDrop]
      unfold NicState.wordsOf
      rw [WordOrder.words_add, WordOrder.words_congr _ hSame]

theorem sentBy_evenPieces
    {pieces : List (Memory × Nat)}
    {data : Memory}
    (hEven : ∀ piece ∈ pieces, piece.2 % 2 = 0)
    (hLength : piecesLength pieces ≤ 131068)
    (hWhole :
      data.bytes (piecesLength pieces) = piecesBytes pieces)
    (n : NicState) :
    sentBy (writePieces pieces) n =
      sentBy (ksz8851WriteFifoWordAlign data
        (piecesLength pieces)) n := by
  have hTotal := even_piecesLength hEven
  have hRounded :
      (piecesLength pieces + 1) / 2 =
        piecesLength pieces / 2 := by
    omega
  rw [sentBy_ksz8851WriteFifoWordAlign data hLength, hRounded]
  unfold sentBy
  rw [atPort_writePieces hEven hLength hWhole]
  rfl

/- So they have when a last piece of any length follows. -/
theorem sentBy_writePieces
    {pieces : List (Memory × Nat)}
    {data : Memory}
    {last : Nat}
    (hEven : ∀ piece ∈ pieces, piece.2 % 2 = 0)
    (hLength : piecesLength pieces + last ≤ 131068)
    (hWhole :
      data.bytes (piecesLength pieces) = piecesBytes pieces)
    (n : NicState) :
    sentBy (do
        writePieces pieces
        ksz8851WriteFifoWordAlign
          (data.drop (piecesLength pieces)) last) n =
      sentBy (ksz8851WriteFifoWordAlign data
        (piecesLength pieces + last)) n := by
  have hTotal := even_piecesLength hEven
  have hHalves :
      (piecesLength pieces + last + 1) / 2 =
        piecesLength pieces / 2 + (last + 1) / 2 := by
    omega
  have hDrop :
      data.drop (piecesLength pieces) =
        fun i => data (2 * (piecesLength pieces / 2) + i) := by
    unfold Memory.drop
    rw [Nat.mul_div_cancel' (Nat.dvd_of_mod_eq_zero hTotal)]
  rw [sentBy_ksz8851WriteFifoWordAlign data hLength, hHalves]
  unfold sentBy
  rw [atPort_bind,
    atPort_writePieces hEven (by omega) hWhole]
  dsimp only
  rw [atPort_ksz8851WriteFifoWordAlign _ (by omega),
    DataPort.send_send, hDrop]
  unfold NicState.wordsOf
  rw [WordOrder.words_add]
  rfl

------------------------------------------------------------
-- Round Trips
------------------------------------------------------------

/-
  What is written in the mode of `n` and read in that of `n'`
  is the buffer again.  As many words are taken as were
  written, whatever comes behind them.
-/
structure RoundTrips
    (n n' : NicState) (data : Memory) (length : Nat) :
    Prop where
  written :
    (sentBy (ksz8851WriteFifo data length) n).length =
      2 * ((length + 3) / 4)
  taken : ∀ rest output,
    ((ksz8851ReadFifo length).atPort (n',
      { input := sentBy (ksz8851WriteFifo data length) n ++
          rest, output })).2.2 = { input := rest, output }
  bytes : ∀ rest output i, i < length →
    ((ksz8851ReadFifo length).atPort (n',
      { input := sentBy (ksz8851WriteFifo data length) n ++
          rest, output })).2.1.iface.rxData i = data i

theorem roundTrips_of_mode
    {n n' : NicState}
    {length : Nat}
    (hLength : length ≤ 131068)
    (hMode :
      n'.iface.isInBigEndianMode = n.iface.isInBigEndianMode)
    (data : Memory) :
    RoundTrips n n' data length := by
  have hSent := sentBy_ksz8851WriteFifo data hLength n
  have hCount :
      (sentBy (ksz8851WriteFifo data length) n).length =
        2 * ((length + 3) / 4) := by
    rw [hSent]
    exact WordOrder.length_words _ _ _
  refine ⟨hCount, ?_, ?_⟩
  · intro rest output
    rw [atPort_ksz8851ReadFifo hLength hCount]
  · intro rest output i hIn
    rw [atPort_ksz8851ReadFifo hLength hCount, hSent, hMode]
    exact store_words _ _ data (by omega)

/-
  A buffer that is written and read back in the same mode is
  the same, in both modes; the words of the one mode are
  those of the other with their bytes swapped; and pieces of
  even length, with or without a last one of any length, have
  the words of the whole.
-/
theorem fifo_roundTrips
    {length : Nat}
    (hLength : length ≤ 131068) :
    (∀ (n n' : NicState) (data : Memory),
      n'.iface.isInBigEndianMode = n.iface.isInBigEndianMode →
        RoundTrips n n' data length) ∧
      (∀ (n n' : NicState) (data : Memory),
        n.iface.isInBigEndianMode = true →
          n'.iface.isInBigEndianMode = false →
            sentBy (ksz8851WriteFifo data length) n =
              (sentBy (ksz8851WriteFifo data length) n').map
                swap) ∧
      (∀ (n : NicState) (data : Memory),
        (sentBy (ksz8851WriteFifoWordAlign data length)
          n).length = (length + 1) / 2) ∧
      (∀ (n : NicState) (pieces : List (Memory × Nat))
        (data : Memory),
        (∀ piece ∈ pieces, piece.2 % 2 = 0) →
          piecesLength pieces = length →
          data.bytes length = piecesBytes pieces →
            sentBy (writePieces pieces) n =
              sentBy (ksz8851WriteFifoWordAlign data length)
                n) ∧
      ∀ (n : NicState) (pieces : List (Memory × Nat))
        (data : Memory) (last : Nat),
        (∀ piece ∈ pieces, piece.2 % 2 = 0) →
          piecesLength pieces + last = length →
          data.bytes (piecesLength pieces) =
            piecesBytes pieces →
            sentBy (do
                writePieces pieces
                ksz8851WriteFifoWordAlign
                  (data.drop (piecesLength pieces)) last) n =
              sentBy (ksz8851WriteFifoWordAlign data length)
                n := by
  refine ⟨?_, ?_, ?_, ?_, ?_⟩
  · intro n n' data hMode
    exact roundTrips_of_mode hLength hMode data
  · intro n n' data hBig hLittle
    rw [sentBy_ksz8851WriteFifo data hLength,
      sentBy_ksz8851WriteFifo data hLength]
    exact wordsOf_swap hBig hLittle data _
  · intro n data
    rw [sentBy_ksz8851WriteFifoWordAlign data hLength]
    exact WordOrder.length_words _ _ _
  · rintro n pieces data hEven rfl hWhole
    exact sentBy_evenPieces hEven hLength hWhole n
  · rintro n pieces data last hEven rfl hWhole
    exact sentBy_writePieces hEven hLength hWhole n

/- Five bytes take four words; read back in the mode they
   were written in, they are the same. -/
theorem fifo_roundTrips_five :
    sentBy (ksz8851WriteFifo (BitVec.ofNat 8) 5) offlineNic =
      [0x0001#16, 0x0203#16, 0x0405#16, 0x0607#16] ∧
    RoundTrips offlineNic offlineNic (BitVec.ofNat 8) 5 :=
  ⟨by decide,
    (@fifo_roundTrips 5 (by decide)).1 offlineNic
      offlineNic (BitVec.ofNat 8) rfl⟩

end KszDriver
