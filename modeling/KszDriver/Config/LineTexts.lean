import KszDriver.Config.ConfigFile

/-
  What `ReadKeyStr` and `ReadKeyInt` hand to `ReadArgs`.

  The character before the first `NUL` of the buffer is
  taken for the newline of a line, whatever it is.  So a line
  arrives unchanged exactly when one call of `FGets` delivers
  all of it, with its newline and without a `NUL`.

  Main declarations:
    * `IsPiece`, `isPiece_of_mem_pieces`
    * `WholeLine`, `TextsUnchanged`
    * `IntactUpToKey`, `fine_readKeyLines_iff`
    * `textsUnchanged_iff`
-/

------------------------------------------------------------
-- What FGets Delivers
------------------------------------------------------------

namespace KszDriver

theorem throughNewline_of_not_mem
    {line : List UBYTE}
    (hLine : newline ∉ line) :
    throughNewline line = line := by
  induction line with
  | nil => rfl
  | cons c line ih =>
      rw [List.mem_cons, not_or] at hLine
      unfold throughNewline
      rw [if_neg (Ne.symm hLine.1), ih hLine.2]

theorem throughNewline_append
    {line : List UBYTE}
    (hLine : newline ∉ line)
    (rest : List UBYTE) :
    throughNewline (line ++ newline :: rest) =
      line ++ [newline] := by
  induction line with
  | nil => simp [throughNewline]
  | cons c line ih =>
      rw [List.mem_cons, not_or] at hLine
      rw [List.cons_append]
      unfold throughNewline
      rw [if_neg (Ne.symm hLine.1), ih hLine.2]
      rfl

/- A text has no newline, or its first one ends a line. -/
theorem newline_cases (text : List UBYTE) :
    newline ∉ text ∨
      ∃ line rest, newline ∉ line ∧
        text = line ++ newline :: rest := by
  by_cases hMem : newline ∈ text
  · obtain ⟨line, rest, hText, hLine⟩ :=
      List.eq_append_cons_of_mem hMem
    exact Or.inr ⟨line, rest, hLine, hText⟩
  · exact Or.inl hMem

/- What one call delivers: some bytes, and a newline only at
   the end. -/
structure IsPiece (piece : List UBYTE) : Prop where
  nonempty : piece ≠ []
  short : piece.length < lineMaxLen
  newlineLast : newline ∉ piece.dropLast

theorem isPiece_fgetsPiece
    {input : List UBYTE}
    (hInput : input ≠ []) :
    IsPiece (fgetsPiece lineMaxLen input) := by
  obtain ⟨c, input, rfl⟩ := List.exists_cons_of_ne_nil hInput
  refine ⟨?_, ?_, ?_⟩
  · unfold fgetsPiece throughNewline
    split <;> simp [lineMaxLen]
  · have hLength := List.length_take_le (lineMaxLen - 1)
      (throughNewline (c :: input))
    unfold fgetsPiece
    unfold lineMaxLen at hLength ⊢
    omega
  · have hLine : newline ∉
        (throughNewline (c :: input)).dropLast := by
      rcases newline_cases (c :: input) with
        hNone | ⟨line, rest, hLine, hSplit⟩
      · rw [throughNewline_of_not_mem hNone]
        exact fun hMem => hNone (List.dropLast_subset _ hMem)
      · rw [hSplit, throughNewline_append hLine,
          List.dropLast_concat]
        exact hLine
    intro hMem
    apply hLine
    unfold fgetsPiece at hMem
    rw [List.dropLast_eq_take, List.take_take] at hMem
    rw [List.dropLast_eq_take]
    refine List.take_subset_take_left _ ?_ hMem
    rw [List.length_take]
    omega

theorem fgetsPiece_prefix (input : List UBYTE) :
    fgetsPiece lineMaxLen input <+: input := by
  have hTake : fgetsPiece lineMaxLen input <+:
      throughNewline input :=
    List.take_prefix _ _
  refine hTake.trans ?_
  rcases newline_cases input with
    hNone | ⟨line, rest, hLine, hSplit⟩
  · refine ⟨[], ?_⟩
    rw [throughNewline_of_not_mem hNone, List.append_nil]
  · rw [hSplit, throughNewline_append hLine]
    exact ⟨rest, by simp⟩

theorem fgetsPiece_append_drop (input : List UBYTE) :
    fgetsPiece lineMaxLen input ++
        input.drop (fgetsPiece lineMaxLen input).length =
      input := by
  obtain ⟨rest, hRest⟩ := fgetsPiece_prefix input
  have hDrop :=
    congrArg
      (List.drop (fgetsPiece lineMaxLen input).length) hRest
  rw [List.drop_left] at hDrop
  rw [← hDrop, hRest]

/- A call that finds a byte takes one at least. -/
theorem length_drop_fgetsPiece
    {input : List UBYTE}
    (hInput : input ≠ []) :
    (input.drop (fgetsPiece lineMaxLen input).length).length <
      input.length := by
  have hPiece := isPiece_fgetsPiece hInput
  have hSome := List.length_pos_iff.mpr hPiece.nonempty
  have hInputSome := List.length_pos_iff.mpr hInput
  rw [List.length_drop]
  omega

theorem flatten_pieces
    (calls : Nat)
    (input : List UBYTE)
    (hCalls : input.length ≤ calls) :
    (pieces lineMaxLen calls input).flatten = input := by
  induction calls generalizing input with
  | zero =>
      rw [List.length_eq_zero_iff.mp (Nat.le_zero.mp hCalls)]
      rfl
  | succ calls ih =>
      unfold pieces
      split
      next hEmpty => rw [hEmpty]; rfl
      next hSome =>
        have hLess := length_drop_fgetsPiece hSome
        rw [List.flatten_cons, ih _ (by omega),
          fgetsPiece_append_drop]

theorem isPiece_of_mem_pieces
    (calls : Nat)
    (input : List UBYTE) :
    ∀ piece ∈ pieces lineMaxLen calls input,
      IsPiece piece := by
  induction calls generalizing input with
  | zero => simp [pieces]
  | succ calls ih =>
      unfold pieces
      split
      next hEmpty => simp
      next hSome =>
        intro piece hMem
        rcases List.mem_cons.mp hMem with hHere | hLater
        · rw [hHere]
          exact isPiece_fgetsPiece hSome
        · exact ih _ piece hLater

------------------------------------------------------------
-- The Contents of the Buffer
------------------------------------------------------------

namespace LineBuffer

@[simp] theorem length_text (mem : Int → UBYTE) (n : Nat) :
    (text mem n).length = n := by
  simp [text]

theorem getElem?_text
    (mem : Int → UBYTE)
    {n i : Nat}
    (hInside : i < n) :
    (text mem n)[i]? = some (mem i) := by
  simp [text, hInside]

theorem store_mem_self
    (b : LineBuffer)
    (i : Int)
    (c : UBYTE) :
    (b.store i c).mem i = c := by
  unfold store
  exact Function.update_self i c b.mem

theorem store_mem_of_ne
    (b : LineBuffer)
    {i j : Int}
    (c : UBYTE)
    (hOther : j ≠ i) :
    (b.store i c).mem j = b.mem j := by
  unfold store
  exact Function.update_of_ne hOther c b.mem

/- Nothing is stored in front of a string. -/
theorem storeString_mem_of_lt
    (b : LineBuffer)
    {i j : Int}
    (str : List UBYTE)
    (hBefore : j < i) :
    (b.storeString i str).mem j = b.mem j := by
  induction str generalizing b i with
  | nil => exact store_mem_of_ne b _ (by omega)
  | cons c str ih =>
      unfold storeString
      rw [ih _ (by omega), store_mem_of_ne b c (by omega)]

theorem storeString_mem
    (b : LineBuffer)
    (i : Int)
    (str : List UBYTE)
    (j : Nat) :
    (b.storeString i str).mem (i + j) =
      if j ≤ str.length then str.getD j 0#8
      else b.mem (i + j) := by
  induction str generalizing b i j with
  | nil =>
      unfold storeString
      cases j with
      | zero =>
          rw [Int.ofNat_zero, Int.add_zero, store_mem_self]
          rfl
      | succ j =>
          rw [store_mem_of_ne b _ (by omega)]
          rfl
  | cons c str ih =>
      unfold storeString
      cases j with
      | zero =>
          rw [Int.ofNat_zero, Int.add_zero,
            storeString_mem_of_lt _ _ (by omega),
            store_mem_self]
          rfl
      | succ j =>
          have hIndex : i + ((j + 1 : Nat) : Int) =
              (i + 1) + (j : Nat) := by
            omega
          rw [hIndex, ih, store_mem_of_ne b c (by omega)]
          simp

theorem storeString_handed
    (b : LineBuffer)
    (i : Int)
    (str : List UBYTE) :
    (b.storeString i str).handed = b.handed := by
  induction str generalizing b i with
  | nil => rfl
  | cons c str ih => exact ih (b.store i c) (i + 1)

/- What the buffer holds after `FGets`. -/
theorem text_storeString
    (b : LineBuffer)
    {str : List UBYTE}
    {n : Nat}
    (hRoom : str.length < n) :
    text (b.storeString 0 str).mem n =
      str ++ 0#8 :: (text b.mem n).drop (str.length + 1) := by
  apply List.ext_getElem?
  intro i
  by_cases hInside : i < n
  · rw [getElem?_text _ hInside, ← Int.zero_add (i : Int),
      storeString_mem]
    rcases Nat.lt_trichotomy i str.length with
      hLess | hHere | hMore
    · rw [if_pos (by omega), List.getElem?_append_left hLess]
      simp [hLess]
    · rw [if_pos (by omega), hHere]
      simp
    · rw [if_neg (by omega), Int.zero_add,
        List.getElem?_append_right (by omega)]
      obtain ⟨k, hIndex⟩ : ∃ k, i = str.length + 1 + k :=
        ⟨i - (str.length + 1), by omega⟩
      have hOffset : i - str.length = k + 1 := by
        omega
      rw [hOffset, List.getElem?_cons_succ, List.getElem?_drop,
        ← hIndex, getElem?_text _ hInside]
  · rw [List.getElem?_eq_none (by simp; omega),
      List.getElem?_eq_none (by simp; omega)]

theorem mem_stores_storeString
    (b : LineBuffer)
    (i : Int)
    (str : List UBYTE)
    (j : Int) :
    j ∈ (b.storeString i str).stores ↔
      (i ≤ j ∧ j ≤ i + str.length) ∨ j ∈ b.stores := by
  induction str generalizing b i with
  | nil =>
      have hStores : (b.storeString i []).stores =
          i :: b.stores := rfl
      rw [hStores, List.mem_cons, List.length_nil]
      refine or_congr_left ⟨fun hSame => ?_, fun hIn => ?_⟩
      · omega
      · omega
  | cons c str ih =>
      unfold storeString
      have hStores : (b.store i c).stores = i :: b.stores := rfl
      rw [ih, hStores, List.mem_cons, ← or_assoc,
        List.length_cons]
      refine or_congr_left ⟨?_, fun hIn => ?_⟩
      · rintro (hIn | hSame)
        · omega
        · omega
      · omega

theorem text_fgets
    (b : LineBuffer)
    {piece : List UBYTE}
    {n : Nat}
    (hRoom : piece.length < n) :
    text (b.fgets piece).mem n =
      piece ++
        0#8 :: (text b.mem n).drop (piece.length + 1) := by
  unfold fgets
  exact text_storeString b hRoom

/- The length of the string is where its first `NUL` is. -/
theorem strlen_fgets
    (b : LineBuffer)
    {piece : List UBYTE}
    (hRoom : piece.length < linebuffSize) :
    (b.fgets piece).strlen =
      (piece.takeWhile (fun c => c != 0#8)).length := by
  unfold strlen
  rw [text_fgets b hRoom, List.takeWhile_append]
  split
  next hAll => simp [hAll]
  next hSome => rfl

theorem text_store
    (b : LineBuffer)
    (i : Nat)
    (c : UBYTE)
    (n : Nat) :
    text (b.store i c).mem n = (text b.mem n).set i c := by
  apply List.ext_getElem?
  intro j
  rw [List.getElem?_set]
  by_cases hInside : j < n
  · rw [getElem?_text _ hInside, getElem?_text _ hInside]
    by_cases hSame : i = j
    · rw [if_pos hSame, if_pos (by rw [length_text]; omega),
        hSame, store_mem_self]
    · rw [if_neg hSame, store_mem_of_ne b c (by omega)]
  · rw [List.getElem?_eq_none (by simp; omega),
      List.getElem?_eq_none (by simp; omega)]
    split <;> simp
    omega

/- Where the string ends, if it is not empty. -/
theorem text_endLine
    {b : LineBuffer}
    {k : Nat}
    (hLength : b.strlen = k + 1)
    (n : Nat) :
    text b.endLine.mem n =
      ((text b.mem n).set k newline).set (k + 1) 0#8 := by
  have hBefore : ((k + 1 : Nat) : Int) - 1 = (k : Nat) := by
    omega
  unfold endLine
  rw [hLength, text_store, hBefore, text_store]

end LineBuffer

------------------------------------------------------------
-- Whole Lines
------------------------------------------------------------

/- A line of the file begins here. -/
def LineStart (file : List UBYTE) (pos : Nat) : Prop :=
  ∀ c, (file.take pos).getLast? = some c → c = newline

/- A line of the file, without its newline. -/
structure LineAt
    (file : List UBYTE)
    (pos : Nat)
    (line : List UBYTE) : Prop where
  start : LineStart file pos
  noNewline : newline ∉ line
  ended :
    file.drop pos = line ∨
      ∃ rest, file.drop pos = line ++ newline :: rest

/- A buffer that was handed to `ReadArgs` holds a line that is
   not to be skipped, one newline and `NUL`. -/
def WholeLine
    (file : List UBYTE)
    (handed : Nat × (Int → UBYTE)) : Prop :=
  ∃ line, LineAt file handed.1 line ∧
    ¬Skipped ((line ++ [newline]).headD 0#8) ∧
    LineBuffer.text handed.2 (line.length + 2) =
      line ++ [newline, 0#8]

/- Every access is inside of `linebuff`, and every text that
   was handed over is a line. -/
structure Fine (file : List UBYTE) (b : LineBuffer) : Prop where
  inside : ∀ i ∈ b.stores, 0 ≤ i ∧ i < linebuffSize
  whole : ∀ handed ∈ b.handed, WholeLine file handed

/- A piece that is a line with its newline. -/
def IntactPiece (piece : List UBYTE) : Prop :=
  piece.getLast? = some newline ∧ 0#8 ∉ piece

instance (piece : List UBYTE) :
    Decidable (IntactPiece piece) := by
  unfold IntactPiece
  infer_instance

theorem head_fgets
    (b : LineBuffer)
    {piece : List UBYTE}
    (hPiece : IsPiece piece) :
    (b.fgets piece).mem 0 = piece.headD 0#8 := by
  obtain ⟨c, piece, rfl⟩ :=
    List.exists_cons_of_ne_nil hPiece.nonempty
  have hFirst := LineBuffer.storeString_mem b 0 (c :: piece) 0
  unfold LineBuffer.fgets
  simpa using hFirst

/- A piece that is skipped changes nothing that counts. -/
theorem fine_fgets_iff
    (file : List UBYTE)
    (b : LineBuffer)
    {piece : List UBYTE}
    (hPiece : IsPiece piece) :
    Fine file (b.fgets piece) ↔ Fine file b := by
  have hShort := hPiece.short
  have hStores (i : Int) : i ∈ (b.fgets piece).stores ↔
      (0 ≤ i ∧ i ≤ 0 + piece.length) ∨ i ∈ b.stores :=
    LineBuffer.mem_stores_storeString b 0 piece i
  have hHanded : (b.fgets piece).handed = b.handed :=
    LineBuffer.storeString_handed b 0 piece
  constructor
  · intro hFine
    refine ⟨fun i hMem => ?_, ?_⟩
    · exact hFine.inside i ((hStores i).mpr (Or.inr hMem))
    · rw [← hHanded]
      exact hFine.whole
  · intro hFine
    refine ⟨fun i hMem => ?_, ?_⟩
    · rcases (hStores i).mp hMem with hNew | hOld
      · unfold lineMaxLen at hShort
        unfold linebuffSize lineMaxLen
        omega
      · exact hFine.inside i hOld
    · rw [hHanded]
      exact hFine.whole

/- The buffer at the newline that was stored, and before. -/
theorem endLine_fgets_mem
    (b : LineBuffer)
    {piece : List UBYTE}
    (hPiece : IsPiece piece)
    {k : Nat}
    (hLength : (b.fgets piece).strlen = k + 1) :
    k < piece.length ∧
      (b.fgets piece).endLine.mem k = newline ∧
        ∀ i, i < k →
          piece[i]? = some ((b.fgets piece).endLine.mem i) := by
  have hRoom : piece.length < linebuffSize := by
    have hShort := hPiece.short
    unfold linebuffSize
    omega
  have hPrefix := List.takeWhile_prefix (l := piece)
    (fun c => c != 0#8)
  have hInside : k < piece.length := by
    have hLess := hPrefix.length_le
    rw [← LineBuffer.strlen_fgets b hRoom, hLength] at hLess
    omega
  have hText := LineBuffer.text_endLine hLength linebuffSize
  rw [LineBuffer.text_fgets b hRoom] at hText
  refine ⟨hInside, ?_, ?_⟩
  · have hAt := congrArg (fun text => text[k]?) hText
    simp only [LineBuffer.getElem?_text _
      (hInside.trans hRoom)] at hAt
    rw [List.getElem?_set_ne (by omega),
      List.getElem?_set_self (by simp; omega)] at hAt
    exact Option.some.inj hAt
  · intro i hBefore
    have hAt := congrArg (fun text => text[i]?) hText
    simp only [LineBuffer.getElem?_text _
      ((hBefore.trans hInside).trans hRoom)] at hAt
    rw [List.getElem?_set_ne (by omega),
      List.getElem?_set_ne (by omega),
      List.getElem?_append_left (by omega)] at hAt
    exact hAt.symm

/- A newline of a piece is its last byte. -/
theorem last_of_newline
    {piece : List UBYTE}
    (hPiece : IsPiece piece)
    {k : Nat}
    (hNewline : piece[k]? = some newline) :
    piece.length = k + 1 := by
  obtain ⟨hInside, hAt⟩ :=
    List.getElem?_eq_some_iff.mp hNewline
  by_contra hOther
  apply hPiece.newlineLast
  rw [List.mem_iff_getElem?]
  refine ⟨k, ?_⟩
  rw [List.getElem?_dropLast, if_pos (by omega), hNewline]

/- What is handed over is a line only if the piece was. -/
theorem intactPiece_of_wholeLine
    {file rest : List UBYTE}
    {b : LineBuffer}
    {piece : List UBYTE}
    (hPiece : IsPiece piece)
    (hDrop : file.drop b.pos = piece ++ rest)
    {k : Nat}
    (hLength : (b.fgets piece).strlen = k + 1)
    (hWhole : WholeLine file
      (b.pos, (b.fgets piece).endLine.mem)) :
    IntactPiece piece := by
  obtain ⟨hInside, hStored, hBefore⟩ :=
    endLine_fgets_mem b hPiece hLength
  obtain ⟨line, hLine, -, hText⟩ := hWhole
  have hHanded (i : Nat) (hLess : i < line.length + 2) :
      (line ++ [newline, 0#8])[i]? =
        some ((b.fgets piece).endLine.mem i) := by
    rw [← hText]
    exact LineBuffer.getElem?_text _ hLess
  have hEnd : piece[line.length]? = some newline →
      piece.length = line.length + 1 :=
    last_of_newline hPiece
  -- The newline that was stored is the one after the line.
  have hPlace : line.length = k := by
    rcases Nat.lt_trichotomy line.length k with
      hLess | hSame | hMore
    · have hAt := hHanded line.length (by omega)
      rw [← hBefore _ hLess] at hAt
      have hNewline : piece[line.length]? = some newline := by
        rw [← hAt]
        simp
      have hLast := hEnd hNewline
      omega
    · exact hSame
    · have hAt := hHanded k (by omega)
      rw [hStored, List.getElem?_append_left hMore] at hAt
      exact absurd (List.mem_of_getElem? hAt) hLine.noNewline
  have hFile : (file.drop b.pos)[k]? = piece[k]? := by
    rw [hDrop, List.getElem?_append_left hInside]
  have hNewline : piece[k]? = some newline := by
    rcases hLine.ended with hAll | ⟨rest', hMore⟩
    · have hLonger :=
        congrArg List.length (hDrop.symm.trans hAll)
      rw [List.length_append] at hLonger
      omega
    · rw [← hFile, hMore, ← hPlace]
      simp
  have hWholePiece := last_of_newline hPiece hNewline
  refine ⟨?_, ?_⟩
  · rw [List.getLast?_eq_getElem?, hWholePiece]
    exact hNewline
  · intro hNul
    have hShort : piece.length < linebuffSize := by
      have hShort := hPiece.short
      unfold linebuffSize
      omega
    have hTake := LineBuffer.strlen_fgets b hShort
    rw [hLength, ← hWholePiece] at hTake
    have hAll := (List.takeWhile_prefix
      (fun c => c != 0#8)).eq_of_length hTake.symm
    have hEvery := List.takeWhile_eq_self_iff.mp hAll 0#8 hNul
    simp at hEvery

/- A line with its newline and without `NUL` ends where it
   did. -/
theorem endLine_fgets_of_intact
    (b : LineBuffer)
    {line : List UBYTE}
    (hPiece : IsPiece (line ++ [newline]))
    (hIntact : IntactPiece (line ++ [newline])) :
    (b.fgets (line ++ [newline])).strlen = line.length + 1 ∧
      ∀ n, line.length + 2 ≤ n →
        ∃ stale,
          LineBuffer.text
              (b.fgets (line ++ [newline])).endLine.mem n =
            line ++ newline :: 0#8 :: stale ∧
          stale.length + line.length + 2 = n := by
  have hRoom : (line ++ [newline]).length < linebuffSize := by
    have hShort := hPiece.short
    unfold linebuffSize
    omega
  have hNoNul : (line ++ [newline]).takeWhile
      (fun c => c != 0#8) = line ++ [newline] := by
    rw [List.takeWhile_eq_self_iff]
    intro c hMem
    simp only [bne_iff_ne, ne_eq]
    intro hZero
    exact hIntact.2 (hZero ▸ hMem)
  have hLength : (b.fgets (line ++ [newline])).strlen =
      line.length + 1 := by
    rw [LineBuffer.strlen_fgets b hRoom, hNoNul]
    simp
  refine ⟨hLength, fun n hLong => ?_⟩
  refine ⟨(LineBuffer.text b.mem n).drop (line.length + 2),
    ?_, ?_⟩
  · rw [LineBuffer.text_endLine hLength,
      LineBuffer.text_fgets b (by simp; omega)]
    simp
  · rw [List.length_drop, LineBuffer.length_text]
    omega

theorem eq_line_of_intact
    {piece : List UBYTE}
    (hPiece : IsPiece piece)
    (hIntact : IntactPiece piece) :
    ∃ line, newline ∉ line ∧ piece = line ++ [newline] := by
  obtain ⟨line, hSplit⟩ :=
    List.getLast?_eq_some_iff.mp hIntact.1
  have hLine := hPiece.newlineLast
  rw [hSplit, List.dropLast_concat] at hLine
  exact ⟨line, hLine, hSplit⟩

/- The text that `ReadArgs` takes is then the line itself. -/
theorem source_of_intact
    (b : LineBuffer)
    {piece : List UBYTE}
    (hPiece : IsPiece piece)
    (hIntact : IntactPiece piece) :
    (b.fgets piece).endLine.source = piece := by
  obtain ⟨line, hLine, rfl⟩ := eq_line_of_intact hPiece hIntact
  have hShort := hPiece.short
  rw [List.length_append, List.length_singleton] at hShort
  unfold lineMaxLen at hShort
  obtain ⟨stale, hText, -⟩ :=
    (endLine_fgets_of_intact b hPiece hIntact).2 256 (by omega)
  unfold LineBuffer.source
  rw [hText, throughNewline_append hLine]

theorem wholeLine_of_intact
    {file rest : List UBYTE}
    {b : LineBuffer}
    {piece : List UBYTE}
    (hPiece : IsPiece piece)
    (hDrop : file.drop b.pos = piece ++ rest)
    (hStart : LineStart file b.pos)
    (hKept : ¬Skipped (piece.headD 0#8))
    (hIntact : IntactPiece piece) :
    WholeLine file (b.pos, (b.fgets piece).endLine.mem) := by
  obtain ⟨line, hLine, rfl⟩ := eq_line_of_intact hPiece hIntact
  obtain ⟨stale, hText, hStale⟩ :=
    (endLine_fgets_of_intact b hPiece hIntact).2 _ le_rfl
  have hNone : stale = [] :=
    List.length_eq_zero_iff.mp (by omega)
  rw [hNone] at hText
  refine ⟨line, ⟨hStart, hLine, Or.inr ⟨rest, ?_⟩⟩, hKept,
    hText⟩
  rw [hDrop, List.append_assoc]
  rfl

/- A line that is not skipped is handed over as it is exactly
   when its piece is intact and begins where it does. -/
theorem fine_hand_iff
    {file rest : List UBYTE}
    {b : LineBuffer}
    {piece : List UBYTE}
    (hPiece : IsPiece piece)
    (hDrop : file.drop b.pos = piece ++ rest)
    (hKept : ¬Skipped (piece.headD 0#8)) :
    Fine file ((b.fgets piece).endLine.hand b.pos) ↔
      Fine file b ∧ LineStart file b.pos ∧
        IntactPiece piece := by
  rw [← fine_fgets_iff file b hPiece]
  have hStores :
      ((b.fgets piece).endLine.hand b.pos).stores =
        ((b.fgets piece).strlen : Int) ::
          ((b.fgets piece).strlen - 1 : Int) ::
            (b.fgets piece).stores := rfl
  have hHanded :
      ((b.fgets piece).endLine.hand b.pos).handed =
        (b.pos, (b.fgets piece).endLine.mem) ::
          (b.fgets piece).handed := rfl
  constructor
  · intro hFine
    have hBefore : (0 : Int) ≤ (b.fgets piece).strlen - 1 :=
      (hFine.inside _ (by rw [hStores]; simp)).1
    have hWhole := hFine.whole
      (b.pos, (b.fgets piece).endLine.mem)
      (by rw [hHanded]; simp)
    obtain ⟨k, hLength⟩ :
        ∃ k, (b.fgets piece).strlen = k + 1 :=
      ⟨(b.fgets piece).strlen - 1, by omega⟩
    refine ⟨⟨fun i hMem => ?_, fun handed hMem => ?_⟩,
      ?_, ?_⟩
    · refine hFine.inside i ?_
      rw [hStores]
      exact List.mem_cons_of_mem _ (List.mem_cons_of_mem _ hMem)
    · refine hFine.whole handed ?_
      rw [hHanded]
      exact List.mem_cons_of_mem _ hMem
    · obtain ⟨line, hLine, -⟩ := hWhole
      exact hLine.start
    · exact intactPiece_of_wholeLine hPiece hDrop hLength hWhole
  · rintro ⟨hFine, hStart, hIntact⟩
    have hWhole :=
      wholeLine_of_intact hPiece hDrop hStart hKept hIntact
    obtain ⟨line, hLine, hSplit⟩ :=
      eq_line_of_intact hPiece hIntact
    have hLength : (b.fgets piece).strlen = line.length + 1 := by
      subst hSplit
      exact (endLine_fgets_of_intact b hPiece hIntact).1
    have hShort : line.length + 1 < lineMaxLen := by
      have hShort := hPiece.short
      rw [hSplit] at hShort
      simpa using hShort
    refine ⟨fun i hMem => ?_, fun handed hMem => ?_⟩
    · rw [hStores, hLength, List.mem_cons, List.mem_cons] at hMem
      unfold linebuffSize
      rcases hMem with hLast | hBefore | hOld
      · omega
      · omega
      · exact hFine.inside i hOld
    · rw [hHanded, List.mem_cons] at hMem
      rcases hMem with hNew | hOld
      · rw [hNew]
        exact hWhole
      · exact hFine.whole handed hOld

------------------------------------------------------------
-- The Lines That Are Read
------------------------------------------------------------

section Read

variable {ν : Type}

/- The key has a value in a text. -/
def ArgsReader.finds
    (readArgs : ArgsReader ν)
    (text : List UBYTE) : Bool :=
  match readArgs text with
  | some (some _) => true
  | _ => false

/-
  Every piece that is not skipped begins a line, ends with
  its newline and has no `NUL`, up to the one in which the
  key is found.
-/
def IntactUpToKey (finds : List UBYTE → Bool) :
    Bool → List (List UBYTE) → Prop
| _, [] => True
| lineStart, piece :: rest =>
    if Skipped (piece.headD 0#8) then
      IntactUpToKey finds (piece.getLast? == some newline) rest
    else
      lineStart = true ∧ IntactPiece piece ∧
        (finds piece = true ∨ IntactUpToKey finds true rest)

/- The three ways in which a piece is taken. -/
theorem readKeyLines_skipped
    (readArgs : ArgsReader ν)
    (rest : List (List UBYTE))
    (b : LineBuffer)
    {piece : List UBYTE}
    (hPiece : IsPiece piece)
    (hSkipped : Skipped (piece.headD 0#8)) :
    readKeyLines readArgs (piece :: rest) b =
      readKeyLines readArgs rest (b.fgets piece) := by
  rw [← head_fgets b hPiece] at hSkipped
  exact if_pos hSkipped

theorem readKeyLines_found
    {readArgs : ArgsReader ν}
    (rest : List (List UBYTE))
    (b : LineBuffer)
    {piece : List UBYTE}
    {value : ν}
    (hPiece : IsPiece piece)
    (hKept : ¬Skipped (piece.headD 0#8))
    (hArgs : readArgs (b.fgets piece).endLine.source =
      some (some value)) :
    readKeyLines readArgs (piece :: rest) b =
      (some value, (b.fgets piece).endLine.hand b.pos) := by
  rw [← head_fgets b hPiece] at hKept
  have hSource :
      readArgs ((b.fgets piece).endLine.hand b.pos).source =
        some (some value) := hArgs
  unfold readKeyLines
  dsimp only
  rw [if_neg hKept, hSource]

theorem readKeyLines_next
    {readArgs : ArgsReader ν}
    (rest : List (List UBYTE))
    (b : LineBuffer)
    {piece : List UBYTE}
    (hPiece : IsPiece piece)
    (hKept : ¬Skipped (piece.headD 0#8))
    (hArgs : ∀ value,
      readArgs (b.fgets piece).endLine.source ≠
        some (some value)) :
    readKeyLines readArgs (piece :: rest) b =
      readKeyLines readArgs rest
        ((b.fgets piece).endLine.hand b.pos) := by
  rw [← head_fgets b hPiece] at hKept
  have hSource (value : ν) :
      readArgs ((b.fgets piece).endLine.hand b.pos).source ≠
        some (some value) := hArgs value
  rw [readKeyLines]
  dsimp only
  rw [if_neg hKept]
  split
  next value hFound => exact absurd hFound (hSource value)
  next => rfl

theorem finds_eq_true_iff
    (readArgs : ArgsReader ν)
    (text : List UBYTE) :
    readArgs.finds text = true ↔
      ∃ value, readArgs text = some (some value) := by
  unfold ArgsReader.finds
  split
  next value hFound => simp [hFound]
  next hNone => simpa using hNone

/- Whether the next line begins where a piece ends. -/
theorem lineStart_after
    {file rest piece : List UBYTE}
    {pos : Nat}
    (hPiece : IsPiece piece)
    (hDrop : file.drop pos = piece ++ rest) :
    LineStart file (pos + piece.length) ↔
      piece.getLast? = some newline := by
  obtain ⟨c, hLast⟩ :
      ∃ c, piece.getLast? = some c :=
    ⟨_, List.getLast?_eq_some_getLast hPiece.nonempty⟩
  have hTake : (file.take (pos + piece.length)).getLast? =
      some c := by
    rw [List.take_add, hDrop, List.take_left,
      List.getLast?_append, hLast]
    rfl
  unfold LineStart
  rw [hTake, hLast]
  simp

theorem drop_after
    {file rest piece : List UBYTE}
    {pos : Nat}
    (hDrop : file.drop pos = piece ++ rest) :
    file.drop (pos + piece.length) = rest := by
  rw [← List.drop_drop, hDrop, List.drop_left]

/- The loop as a whole, for what is left of the file. -/
theorem fine_readKeyLines_iff
    (readArgs : ArgsReader ν)
    (file : List UBYTE)
    (pieces : List (List UBYTE))
    (hPieces : ∀ piece ∈ pieces, IsPiece piece)
    (b : LineBuffer)
    (hDrop : file.drop b.pos = pieces.flatten)
    (lineStart : Bool)
    (hStart : lineStart = true ↔ LineStart file b.pos) :
    Fine file (readKeyLines readArgs pieces b).2 ↔
      Fine file b ∧
        IntactUpToKey readArgs.finds lineStart pieces := by
  induction pieces generalizing b lineStart with
  | nil => simp [readKeyLines, IntactUpToKey]
  | cons piece rest ih =>
      have hPiece := hPieces piece List.mem_cons_self
      have hRest (p : List UBYTE) (hMem : p ∈ rest) : IsPiece p :=
        hPieces p (List.mem_cons_of_mem _ hMem)
      rw [List.flatten_cons] at hDrop
      have hNext := drop_after hDrop
      have hAfter :
          (piece.getLast? == some newline) = true ↔
            LineStart file (b.pos + piece.length) :=
        beq_iff_eq.trans (lineStart_after hPiece hDrop).symm
      unfold IntactUpToKey
      by_cases hSkip : Skipped (piece.headD 0#8)
      · rw [readKeyLines_skipped readArgs rest b hPiece hSkip,
          if_pos hSkip, ih hRest (b.fgets piece) hNext _ hAfter,
          fine_fgets_iff file b hPiece]
      · have hHand := fine_hand_iff hPiece hDrop hSkip
        rw [if_neg hSkip]
        by_cases hFound : ∃ value,
            readArgs (b.fgets piece).endLine.source =
              some (some value)
        · obtain ⟨value, hArgs⟩ := hFound
          rw [readKeyLines_found rest b hPiece hSkip hArgs, hHand,
            hStart]
          have hFinds (hIntact : IntactPiece piece) :
              readArgs.finds piece = true := by
            rw [finds_eq_true_iff]
            rw [source_of_intact b hPiece hIntact] at hArgs
            exact ⟨value, hArgs⟩
          constructor
          · rintro ⟨hFine, hBegins, hIntact⟩
            exact ⟨hFine, hBegins, hIntact,
              Or.inl (hFinds hIntact)⟩
          · rintro ⟨hFine, hBegins, hIntact, -⟩
            exact ⟨hFine, hBegins, hIntact⟩
        · rw [readKeyLines_next rest b hPiece hSkip
            (fun value hArgs => hFound ⟨value, hArgs⟩)]
          have hNot (hIntact : IntactPiece piece) :
              readArgs.finds piece ≠ true := by
            rw [ne_eq, finds_eq_true_iff]
            rw [source_of_intact b hPiece hIntact] at hFound
            exact hFound
          rw [ih hRest _ hNext _ hAfter, hHand, hStart]
          constructor
          · rintro ⟨⟨hFine, hBegins, hIntact⟩, hLater⟩
            rw [hIntact.1, beq_self_eq_true] at hLater
            exact ⟨hFine, hBegins, hIntact, Or.inr hLater⟩
          · rintro ⟨hFine, hBegins, hIntact, hHere | hLater⟩
            · exact absurd hHere (hNot hIntact)
            · rw [hIntact.1, beq_self_eq_true]
              exact ⟨⟨hFine, hBegins, hIntact⟩, hLater⟩

------------------------------------------------------------
-- The Last Newline
------------------------------------------------------------

@[simp] theorem pieces_nil (n calls : Nat) :
    pieces n calls [] = [] := by
  cases calls <;> simp [pieces]

/- What one call delivers does not depend on a newline at the
   end of the file, but for the last line. -/
theorem fgetsPiece_append_newline
    {input : List UBYTE}
    (hOpen : input.getLast? ≠ some newline) :
    (fgetsPiece lineMaxLen (input ++ [newline]) =
        fgetsPiece lineMaxLen input ∧
      (fgetsPiece lineMaxLen input).length < input.length) ∨
      (newline ∉ input ∧ input.length < lineMaxLen) := by
  rcases newline_cases input with
    hNone | ⟨line, rest, hLine, hSplit⟩
  · by_cases hShort : input.length < lineMaxLen
    · exact Or.inr ⟨hNone, hShort⟩
    · refine Or.inl ⟨?_, ?_⟩
      · unfold fgetsPiece
        rw [throughNewline_append hNone,
          throughNewline_of_not_mem hNone,
          List.take_append_of_le_length (by omega)]
      · unfold fgetsPiece
        rw [throughNewline_of_not_mem hNone, List.length_take]
        unfold lineMaxLen at hShort ⊢
        omega
  · have hMore : rest ≠ [] := by
      intro hEnd
      apply hOpen
      rw [hSplit, hEnd, List.getLast?_concat]
    have hMoreLength := List.length_pos_iff.mpr hMore
    have hLength := List.length_take_le' (lineMaxLen - 1)
      (line ++ [newline])
    refine Or.inl ⟨?_, ?_⟩
    · unfold fgetsPiece
      rw [hSplit, List.append_assoc, List.cons_append,
        throughNewline_append hLine, throughNewline_append hLine]
    · unfold fgetsPiece
      rw [hSplit, throughNewline_append hLine]
      rw [List.length_append, List.length_singleton] at hLength
      rw [List.length_append, List.length_cons]
      omega

theorem readKeyLines_all_skipped
    (readArgs : ArgsReader ν)
    (pieces : List (List UBYTE))
    (hPieces : ∀ piece ∈ pieces,
      IsPiece piece ∧ Skipped (piece.headD 0#8))
    (b : LineBuffer) :
    (readKeyLines readArgs pieces b).1 = none := by
  induction pieces generalizing b with
  | nil => rfl
  | cons piece rest ih =>
      have hHere := hPieces piece List.mem_cons_self
      rw [readKeyLines_skipped readArgs rest b hHere.1 hHere.2]
      exact ih
        (fun p hMem => hPieces p (List.mem_cons_of_mem _ hMem))
        (b.fgets piece)

/- The last line is skipped, with its newline or without. -/
theorem skipped_pieces_append_newline
    {input : List UBYTE}
    (hSome : input ≠ [])
    (hNone : newline ∉ input)
    (hShort : input.length < lineMaxLen)
    (hSkipped : Skipped (input.headD 0#8))
    (calls : Nat) :
    ∀ piece ∈
        pieces lineMaxLen (calls + 2) (input ++ [newline]),
      Skipped (piece.headD 0#8) := by
  have hFirst : fgetsPiece lineMaxLen (input ++ [newline]) =
      (input ++ [newline]).take (lineMaxLen - 1) := by
    unfold fgetsPiece
    rw [throughNewline_append hNone]
  have hHead :
      ((input ++ [newline]).take (lineMaxLen - 1)).headD 0#8 =
        input.headD 0#8 := by
    obtain ⟨c, input, rfl⟩ := List.exists_cons_of_ne_nil hSome
    rfl
  unfold pieces
  rw [if_neg (by simp), hFirst]
  intro piece hMem
  rcases List.mem_cons.mp hMem with hHere | hLater
  · rw [hHere, hHead]
    exact hSkipped
  · have hLeft : (input ++ [newline]).drop
          ((input ++ [newline]).take (lineMaxLen - 1)).length =
            [] ∨
        (input ++ [newline]).drop
          ((input ++ [newline]).take (lineMaxLen - 1)).length =
            [newline] := by
      rw [List.length_take, List.length_append,
        List.length_singleton]
      unfold lineMaxLen at hShort ⊢
      by_cases hFits : input.length + 1 ≤ 255 - 1
      · left
        rw [Nat.min_eq_right hFits]
        exact List.drop_of_length_le (by simp)
      · right
        have hEnd : min (255 - 1) (input.length + 1) =
            input.length := by
          omega
        rw [hEnd, List.drop_left]
    rcases hLeft with hEmpty | hLast
    · rw [hEmpty, pieces_nil] at hLater
      exact absurd hLater List.not_mem_nil
    · rw [hLast] at hLater
      simp [pieces, fgetsPiece, throughNewline, lineMaxLen]
        at hLater
      rw [hLater]
      exact Or.inr (Or.inr rfl)

/- The value that is found does not depend on a newline at the
   end of a file whose lines arrive as they are. -/
theorem readKeyLines_append_newline
    (readArgs : ArgsReader ν)
    (calls : Nat)
    (input : List UBYTE)
    (hCalls : input.length ≤ calls)
    (hSome : input ≠ [])
    (hOpen : input.getLast? ≠ some newline)
    (lineStart : Bool)
    (hIntact : IntactUpToKey readArgs.finds lineStart
      (pieces lineMaxLen calls input))
    (b : LineBuffer) :
    (readKeyLines readArgs
        (pieces lineMaxLen (calls + 1) (input ++ [newline]))
        b).1 =
      (readKeyLines readArgs (pieces lineMaxLen calls input)
        b).1 := by
  induction calls generalizing input lineStart b with
  | zero =>
      exact absurd
        (List.length_eq_zero_iff.mp (Nat.le_zero.mp hCalls)) hSome
  | succ calls ih =>
      have hPiece := isPiece_fgetsPiece hSome
      rcases fgetsPiece_append_newline hOpen with
        ⟨hSame, hMore⟩ | ⟨hNone, hShort⟩
      · -- The same piece is taken, and some text is left.
        have hLess := length_drop_fgetsPiece hSome
        have hRest : input.drop
            (fgetsPiece lineMaxLen input).length ≠ [] := by
          rw [← List.length_pos_iff, List.length_drop]
          omega
        have hRestOpen : (input.drop
            (fgetsPiece lineMaxLen input).length).getLast? ≠
              some newline := by
          rw [List.getLast?_drop, if_neg (by omega)]
          exact hOpen
        have hDrop : (input ++ [newline]).drop
            (fgetsPiece lineMaxLen input).length =
          input.drop (fgetsPiece lineMaxLen input).length ++
            [newline] :=
          List.drop_append_of_le_length (by omega)
        unfold pieces at hIntact ⊢
        rw [if_neg hSome] at hIntact ⊢
        rw [if_neg (by simp), hSame, hDrop]
        unfold IntactUpToKey at hIntact
        have hNext (lineStart : Bool)
            (hLater : IntactUpToKey readArgs.finds lineStart
              (pieces lineMaxLen calls (input.drop
                (fgetsPiece lineMaxLen input).length)))
            (b : LineBuffer) :=
          ih _ (by omega) hRest hRestOpen lineStart hLater b
        by_cases hSkip :
            Skipped ((fgetsPiece lineMaxLen input).headD 0#8)
        · rw [if_pos hSkip] at hIntact
          rw [readKeyLines_skipped _ _ _ hPiece hSkip,
            readKeyLines_skipped _ _ _ hPiece hSkip]
          exact hNext _ hIntact _
        · rw [if_neg hSkip] at hIntact
          obtain ⟨-, hWhole, hLater⟩ := hIntact
          have hSource := source_of_intact b hPiece hWhole
          by_cases hFound : ∃ value,
              readArgs (fgetsPiece lineMaxLen input) =
                some (some value)
          · obtain ⟨value, hArgs⟩ := hFound
            rw [← hSource] at hArgs
            rw [readKeyLines_found _ _ hPiece hSkip hArgs,
              readKeyLines_found _ _ hPiece hSkip hArgs]
          · have hArgs (value : ν) :
                readArgs (b.fgets (fgetsPiece lineMaxLen
                    input)).endLine.source ≠
                  some (some value) := by
              rw [hSource]
              exact fun hArgs => hFound ⟨value, hArgs⟩
            rw [← finds_eq_true_iff] at hFound
            rw [readKeyLines_next _ _ hPiece hSkip hArgs,
              readKeyLines_next _ _ hPiece hSkip hArgs]
            exact hNext _ (hLater.resolve_left hFound) _
      · -- All of it is one piece, which has to be skipped.
        have hAll : fgetsPiece lineMaxLen input = input := by
          unfold fgetsPiece
          rw [throughNewline_of_not_mem hNone]
          exact List.take_of_length_le (by omega)
        have hOnly : pieces lineMaxLen (calls + 1) input =
            [input] := by
          unfold pieces
          rw [if_neg hSome, hAll, List.drop_length, pieces_nil]
        have hSkip : Skipped (input.headD 0#8) := by
          rw [hOnly] at hIntact
          unfold IntactUpToKey at hIntact
          by_contra hKept
          rw [if_neg hKept] at hIntact
          exact hNone
            (List.mem_of_getLast? hIntact.2.1.1)
        have hSkipped := skipped_pieces_append_newline hSome
          hNone hShort hSkip calls
        rw [readKeyLines_all_skipped readArgs _ (fun piece hMem =>
            ⟨isPiece_of_mem_pieces _ _ piece hMem,
              hSkipped piece hMem⟩),
          hOnly,
          readKeyLines_all_skipped readArgs _ (fun piece hMem => by
            rw [List.mem_singleton.mp hMem]
            exact ⟨hAll ▸ hPiece, hSkip⟩)]

/- What reading a key hands over, and what it finds. -/
theorem fine_readKey_iff
    (readArgs : ArgsReader ν)
    (configFileOpen : Bool)
    (file : List UBYTE)
    (mem : Int → UBYTE) :
    Fine file (readKey readArgs configFileOpen file
        (LineBuffer.untouched mem)).2 ↔
      (configFileOpen = true →
        IntactUpToKey readArgs.finds true (filePieces file)) := by
  unfold readKey
  cases configFileOpen with
  | false =>
      refine iff_of_true ⟨?_, ?_⟩ (fun hOpen => ?_)
      · exact fun i hMem => absurd hMem List.not_mem_nil
      · exact fun handed hMem => absurd hMem List.not_mem_nil
      · exact absurd hOpen Bool.false_ne_true
  | true =>
      have hFine : Fine file (LineBuffer.untouched mem) :=
        ⟨fun i hMem => absurd hMem List.not_mem_nil,
          fun handed hMem => absurd hMem List.not_mem_nil⟩
      have hStart : LineStart file 0 := by
        intro c hLast
        simp at hLast
      have hLoop := fine_readKeyLines_iff readArgs file
        (filePieces file)
        (isPiece_of_mem_pieces file.length file)
        (LineBuffer.untouched mem)
        (flatten_pieces file.length file le_rfl).symm true
        (iff_of_true rfl hStart)
      rw [if_pos rfl]
      exact ⟨fun hAll _ => (hLoop.mp hAll).2,
        fun hIntact => hLoop.mpr ⟨hFine, hIntact rfl⟩⟩

theorem readKey_append_newline
    (readArgs : ArgsReader ν)
    (configFileOpen : Bool)
    {file : List UBYTE}
    (hSome : file ≠ [])
    (hOpen : file.getLast? ≠ some newline)
    (hIntact : configFileOpen = true →
      IntactUpToKey readArgs.finds true (filePieces file))
    (b : LineBuffer) :
    (readKey readArgs configFileOpen (file ++ [newline]) b).1 =
      (readKey readArgs configFileOpen file b).1 := by
  unfold readKey
  cases configFileOpen with
  | false => rfl
  | true =>
      rw [if_pos rfl, if_pos rfl]
      have hLoop := readKeyLines_append_newline readArgs file.length
        file le_rfl hSome hOpen true (hIntact rfl)
        { b with pos := 0 }
      unfold filePieces
      rw [List.length_append, List.length_singleton]
      exact hLoop

end Read

------------------------------------------------------------
-- Both Ways of Reading a Key
------------------------------------------------------------

/-
  A way of reading a key hands the lines of a file to
  `ReadArgs` unchanged: it stores only inside of `linebuff`,
  every text that is handed over is a line of the file with
  one newline, and what is found does not depend on a newline
  at the end of the file.
-/
structure TextsUnchanged
    {α : Type}
    (read : List UBYTE → α × LineBuffer)
    (file : List UBYTE) : Prop where
  fine : Fine file (read file).2
  lastNewline :
    file ≠ [] → file.getLast? ≠ some newline →
      (read (file ++ [newline])).1 = (read file).1

theorem textsUnchanged_iff
    (readArgs : CString → ArgsReader CString)
    (readNumber : CString → ArgsReader ULONG)
    (configFileOpen : Bool)
    (file : List UBYTE)
    (key : CString)
    (default : Option CString)
    (defaultNumber : ULONG)
    (mem : Int → UBYTE) :
    (TextsUnchanged
        (fun file =>
          readKeyStr readArgs configFileOpen file key default
            (LineBuffer.untouched mem))
        file ↔
      (configFileOpen = true →
        IntactUpToKey (readArgs key).finds true
          (filePieces file))) ∧
    (TextsUnchanged
        (fun file =>
          readKeyInt readNumber configFileOpen file key
            defaultNumber (LineBuffer.untouched mem))
        file ↔
      (configFileOpen = true →
        IntactUpToKey (readNumber (key ++ numberSuffix)).finds
          true (filePieces file))) := by
  constructor
  · have hFine := fine_readKey_iff (readArgs key) configFileOpen
      file mem
    refine ⟨fun hTexts => hFine.mp hTexts.fine,
      fun hIntact => ?_⟩
    refine ⟨hFine.mpr hIntact, fun hSome hOpen => ?_⟩
    have hFound := readKey_append_newline (readArgs key)
      configFileOpen hSome hOpen hIntact
      (LineBuffer.untouched mem)
    exact congrArg (fun found => found.or default) hFound
  · have hFine := fine_readKey_iff
      (readNumber (key ++ numberSuffix)) configFileOpen file mem
    refine ⟨fun hTexts => hFine.mp hTexts.fine,
      fun hIntact => ?_⟩
    refine ⟨hFine.mpr hIntact, fun hSome hOpen => ?_⟩
    have hFound := readKey_append_newline
      (readNumber (key ++ numberSuffix)) configFileOpen hSome
      hOpen hIntact (LineBuffer.untouched mem)
    exact congrArg (fun found => found.getD defaultNumber) hFound

/- `KEY=value`, as `ReadArgs` takes it for the template
   `KEY`. -/
def keyValue (key : CString) : ArgsReader CString :=
  fun text =>
    if (key ++ [0x3d#8]).isPrefixOf text then
      some (some ((text.drop (key.length + 1)).takeWhile
        (fun c => c != newline)))
    else none

/- `MAC=01` without a newline loses its last digit. -/
theorem not_textsUnchanged_lastDigit :
    ¬TextsUnchanged
      (fun file =>
        readKeyStr keyValue true file
          [0x4d#8, 0x41#8, 0x43#8] none
          (LineBuffer.untouched (fun _ => 0#8)))
      [0x4d#8, 0x41#8, 0x43#8, 0x3d#8, 0x30#8, 0x31#8] := by
  intro hTexts
  have hSame := hTexts.lastNewline (by decide) (by decide)
  revert hSame
  decide +kernel

end KszDriver
