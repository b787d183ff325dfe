import KszDriver.Core.Tokens
import KszDriver.Nic.Registers

/-
  The station address in the configuration file
  (`configfile.c`): how its text is read, that every
  rendering of an address is read as that address, and what
  becomes of any other text.

  A string is the list of its characters, without the `NUL`
  that ends it.

  Main declarations:
    * `hexStringToU32`, `readKeyMacAddress`
    * `storeTokens_apply`, `readKeyMacAddress_some`
    * `Renders`, `readKeyMacAddress_of_renders`
    * `EndsWithByte`, `macByte_eq_iff`
    * `WellFormedMac`, `defaultsWhenMalformed_iff`
-/

------------------------------------------------------------
-- Reading an Address
------------------------------------------------------------

namespace KszDriver

/- A string of C. -/
abbrev CString := List UBYTE

/- `DELIM`, a colon and a space. -/
def isDelim (c : UBYTE) : Bool :=
  c == 0x3a#8 || c == 0x20#8

/- The next token of a string, and the string that the next
   call of `strtok` goes on with. -/
def strtok (str : CString) : Option (CString × CString) :=
  Tokens.nextToken isDelim str

/- One turn of the loop of `hexStringToU32`. -/
def hexDigitStep (val : ULONG) (c : UBYTE) : ULONG :=
  let val := val <<< 4
  if 0x30#8 ≤ c ∧ c ≤ 0x39#8 then
    val ||| (c - 0x30#8).setWidth 32
  else if 0x61#8 ≤ c ∧ c ≤ 0x66#8 then
    val ||| (c - 0x61#8 + 10#8).setWidth 32
  else if 0x41#8 ≤ c ∧ c ≤ 0x46#8 then
    val ||| (c - 0x41#8 + 10#8).setWidth 32
  else val

def hexStringToU32 (str : CString) : ULONG :=
  str.foldl hexDigitStep 0#32

/- What is stored for a token. -/
def macByte (token : CString) : UBYTE :=
  (hexStringToU32 token).setWidth 8

/- `for (i = 0; (i < 6) && pch != NULL; i++)`, with as many
   turns left. -/
def storeTokens :
    Nat → Option (CString × CString) → MacAddr → MacAddr
| 0, _, dstMacAddress => dstMacAddress
| _ + 1, none, dstMacAddress => dstMacAddress
| turns + 1, some (pch, rest), dstMacAddress =>
    storeTokens turns (strtok rest)
      (Function.update dstMacAddress ⟨5 - turns, by omega⟩
        (macByte pch))

/- `ReadKeyMacAddress`, for what `ReadKeyStr` returned. -/
def readKeyMacAddress
    (macString : Option CString)
    (dstMacAddress defaultAddress : MacAddr) : MacAddr :=
  match macString with
  | some macString =>
      storeTokens 6 (strtok macString) dstMacAddress
  | none => defaultAddress

------------------------------------------------------------
-- The Bytes That Are Stored
------------------------------------------------------------

/- The tokens that `strtok` finds in a string. -/
def macTokens (str : CString) : List CString :=
  Tokens.tokens isDelim str

/- The loop stores one byte for each token, as far as there is
   room; the other bytes stay. -/
theorem storeTokens_apply
    (turns : Nat)
    (str : CString)
    (dstMacAddress : MacAddr)
    (hTurns : turns ≤ 6)
    (i : Fin 6) :
    storeTokens turns (strtok str) dstMacAddress i =
      if i.val < 6 - turns then dstMacAddress i
      else
        ((macTokens str)[i.val - (6 - turns)]?.map
          macByte).getD (dstMacAddress i) := by
  induction turns generalizing str dstMacAddress with
  | zero =>
      have hInside : i.val < 6 - 0 := by omega
      rw [if_pos hInside]
      rfl
  | succ turns ih =>
      rcases @Tokens.nextToken_cases _ isDelim str with
        ⟨hNone, hEmpty⟩ | ⟨pch, rest, hNext, hTokens⟩
      · unfold strtok macTokens
        rw [hNone, hEmpty]
        simp [storeTokens]
      · unfold strtok macTokens
        rw [hNext, hTokens]
        unfold storeTokens
        rw [ih rest _ (by omega)]
        have hMiss (hOther : i.val ≠ 5 - turns) :
            Function.update dstMacAddress
                ⟨5 - turns, by omega⟩ (macByte pch) i =
              dstMacAddress i := by
          apply Function.update_of_ne
          intro hSame
          rw [hSame] at hOther
          exact hOther rfl
        rcases Nat.lt_trichotomy i.val (5 - turns) with
          hBefore | hHere | hAfter
        · rw [if_pos (by omega), if_pos (by omega),
            hMiss (by omega)]
        · have hIndex : i = ⟨5 - turns, by omega⟩ :=
            Fin.ext hHere
          have hFirst : i.val - (6 - (turns + 1)) = 0 := by
            omega
          rw [if_pos (by omega), if_neg (by omega), hFirst,
            hIndex, Function.update_self]
          rfl
        · have hShift : i.val - (6 - (turns + 1)) =
              i.val - (6 - turns) + 1 := by
            omega
          rw [if_neg (by omega), if_neg (by omega), hShift,
            hMiss (by omega), List.getElem?_cons_succ]
          rfl
/- What the function stores. -/
theorem readKeyMacAddress_some
    (str : CString)
    (dstMacAddress defaultAddress : MacAddr)
    (i : Fin 6) :
    readKeyMacAddress (some str) dstMacAddress defaultAddress
        i =
      ((macTokens str)[i.val]?.map macByte).getD
        (dstMacAddress i) := by
  have hStored := storeTokens_apply 6 str dstMacAddress
    (Nat.le_refl 6) i
  rw [Nat.sub_self, if_neg (Nat.not_lt_zero _),
    Nat.sub_zero] at hStored
  exact hStored

------------------------------------------------------------
-- Renderings
------------------------------------------------------------

/- The character is the digit of value `v`, in either case. -/
def IsHexDigit (v : Fin 16) (c : UBYTE) : Prop :=
  if v.val < 10 then c = BitVec.ofNat 8 (0x30 + v.val)
  else
    c = BitVec.ofNat 8 (0x41 + (v.val - 10)) ∨
      c = BitVec.ofNat 8 (0x61 + (v.val - 10))

instance (v : Fin 16) (c : UBYTE) :
    Decidable (IsHexDigit v c) := by
  unfold IsHexDigit
  infer_instance

/- One or two digits that stand for a byte. -/
inductive RendersByte : UBYTE → CString → Prop where
| one {v : Fin 16} {c : UBYTE} (hDigit : IsHexDigit v c) :
    RendersByte (BitVec.ofNat 8 v) [c]
| two {high low : Fin 16} {c d : UBYTE}
    (hHigh : IsHexDigit high c)
    (hLow : IsHexDigit low d) :
    RendersByte (BitVec.ofNat 8 (16 * high + low)) [c, d]

/- Bytes, separated by colons and spaces. -/
inductive RendersBytes : List UBYTE → CString → Prop where
| last {byte : UBYTE} {token : CString}
    (hByte : RendersByte byte token) :
    RendersBytes [byte] token
| more {byte : UBYTE} {token gap : CString}
    {bytes : List UBYTE} {text : CString}
    (hByte : RendersByte byte token)
    (hGap : gap ≠ [])
    (hDelim : ∀ c ∈ gap, isDelim c = true)
    (hRest : RendersBytes bytes text) :
    RendersBytes (byte :: bytes) (token ++ gap ++ text)

/- A text for an address. -/
def Renders (addr : MacAddr) (text : CString) : Prop :=
  RendersBytes (List.ofFn addr) text

/- The character counts as the digit `v`: any character that
   is no digit counts as zero. -/
def CountsAs (v : Fin 16) (c : UBYTE) : Prop :=
  IsHexDigit v c ∨ v = 0 ∧ ∀ w, ¬ IsHexDigit w c

/- The two last characters of a token, or its only one, count
   as the digits of the byte.  What stands before them does
   not matter. -/
inductive EndsWithByte : CString → UBYTE → Prop where
| one {v : Fin 16} {c : UBYTE} (hDigit : CountsAs v c) :
    EndsWithByte [c] (BitVec.ofNat 8 v)
| two {lead : CString} {high low : Fin 16} {c d : UBYTE}
    (hHigh : CountsAs high c)
    (hLow : CountsAs low d) :
    EndsWithByte (lead ++ [c, d])
      (BitVec.ofNat 8 (16 * high + low))

------------------------------------------------------------
-- Reading a Token
------------------------------------------------------------

/- What a character adds. -/
def hexDigit (c : UBYTE) : ULONG :=
  if 0x30#8 ≤ c ∧ c ≤ 0x39#8 then (c - 0x30#8).setWidth 32
  else if 0x61#8 ≤ c ∧ c ≤ 0x66#8 then
    (c - 0x61#8 + 10#8).setWidth 32
  else if 0x41#8 ≤ c ∧ c ≤ 0x46#8 then
    (c - 0x41#8 + 10#8).setWidth 32
  else 0#32

theorem hexDigitStep_eq (val : ULONG) (c : UBYTE) :
    hexDigitStep val c = val <<< 4 ||| hexDigit c := by
  unfold hexDigitStep hexDigit
  dsimp only
  split
  · rfl
  · split
    · rfl
    · split
      · rfl
      · rw [BitVec.or_zero]

theorem hexDigit_of_isHexDigit :
    ∀ (v : Fin 16) (c : UBYTE), IsHexDigit v c →
      hexDigit c = BitVec.ofNat 32 v := by
  decide +kernel

theorem hexDigit_of_not_isHexDigit :
    ∀ c : UBYTE, (∀ v, ¬ IsHexDigit v c) →
      hexDigit c = 0#32 := by
  decide +kernel

theorem hexDigit_of_countsAs
    {v : Fin 16}
    {c : UBYTE}
    (hCounts : CountsAs v c) :
    hexDigit c = BitVec.ofNat 32 v := by
  rcases hCounts with hDigit | ⟨rfl, hNone⟩
  · exact hexDigit_of_isHexDigit v c hDigit
  · exact hexDigit_of_not_isHexDigit c hNone

/- Every character counts as some digit. -/
theorem exists_countsAs (c : UBYTE) : ∃ v, CountsAs v c := by
  by_cases hDigit : ∃ v, IsHexDigit v c
  · rcases hDigit with ⟨v, hDigit⟩
    exact ⟨v, Or.inl hDigit⟩
  · exact ⟨0, Or.inr ⟨rfl, not_exists.mp hDigit⟩⟩

/- After two more digits the others are out of the byte. -/
theorem setWidth_twoDigits (val high low : ULONG) :
    ((val <<< 4 ||| high) <<< 4 ||| low).setWidth 8 =
      (high <<< 4 ||| low).setWidth 8 := by
  apply BitVec.eq_of_getLsbD_eq
  intro i hBit
  have hOut : i - 4 < 4 := by omega
  simp [hBit, hOut]

/- Only the two last characters of a token count. -/
theorem macByte_append
    (lead : CString)
    (c d : UBYTE) :
    macByte (lead ++ [c, d]) =
      (hexDigit c <<< 4 ||| hexDigit d).setWidth 8 := by
  unfold macByte hexStringToU32
  rw [List.foldl_append, List.foldl_cons, List.foldl_cons,
    List.foldl_nil, hexDigitStep_eq, hexDigitStep_eq,
    setWidth_twoDigits]

theorem macByte_of_endsWithByte
    {token : CString}
    {byte : UBYTE}
    (hEnds : EndsWithByte token byte) :
    macByte token = byte := by
  cases hEnds with
  | @one v c hDigit =>
      unfold macByte hexStringToU32
      rw [List.foldl_cons, List.foldl_nil, hexDigitStep_eq,
        hexDigit_of_countsAs hDigit]
      clear hDigit
      revert v
      decide +kernel
  | @two lead high low c d hHigh hLow =>
      rw [macByte_append, hexDigit_of_countsAs hHigh,
        hexDigit_of_countsAs hLow]
      clear hHigh hLow
      revert high low
      decide +kernel

/- Every token ends with some byte. -/
theorem exists_endsWithByte
    {token : CString}
    (hToken : token ≠ []) :
    ∃ byte, EndsWithByte token byte := by
  rcases List.eq_nil_or_concat token with rfl | ⟨most, d, rfl⟩
  · exact absurd rfl hToken
  rcases exists_countsAs d with ⟨low, hLow⟩
  rcases List.eq_nil_or_concat most with rfl | ⟨lead, c, rfl⟩
  · exact ⟨_, .one hLow⟩
  rcases exists_countsAs c with ⟨high, hHigh⟩
  rw [List.concat_eq_append, List.concat_eq_append,
    List.append_assoc]
  exact ⟨_, .two hHigh hLow⟩

/- What is stored for a token is the byte it ends with. -/
theorem macByte_eq_iff
    {token : CString}
    (hToken : token ≠ [])
    (byte : UBYTE) :
    macByte token = byte ↔ EndsWithByte token byte := by
  constructor
  · intro hByte
    rcases exists_endsWithByte hToken with ⟨byte', hEnds⟩
    rw [← hByte, macByte_of_endsWithByte hEnds]
    exact hEnds
  · exact macByte_of_endsWithByte

------------------------------------------------------------
-- Reading a Rendering
------------------------------------------------------------

/- A digit is no separator. -/
theorem not_isDelim_of_isHexDigit :
    ∀ (v : Fin 16) (c : UBYTE), IsHexDigit v c →
      isDelim c = false := by
  decide +kernel

theorem macByte_of_rendersByte
    {byte : UBYTE}
    {token : CString}
    (hRenders : RendersByte byte token) :
    macByte token = byte := by
  apply macByte_of_endsWithByte
  cases hRenders with
  | one hDigit => exact .one (Or.inl hDigit)
  | two hHigh hLow =>
      show EndsWithByte ([] ++ [_, _]) _
      exact .two (Or.inl hHigh) (Or.inl hLow)

/- The text of a byte is one token. -/
theorem isToken_of_rendersByte
    {byte : UBYTE}
    {token : CString}
    (hRenders : RendersByte byte token) :
    token ≠ [] ∧ ∀ c ∈ token, isDelim c = false := by
  cases hRenders with
  | @one v c hDigit =>
      simp [not_isDelim_of_isHexDigit v c hDigit]
  | @two high low c d hHigh hLow =>
      simp [not_isDelim_of_isHexDigit high c hHigh,
        not_isDelim_of_isHexDigit low d hLow]

/- A gap does not count. -/
theorem macTokens_gap
    {gap : CString}
    (hDelim : ∀ c ∈ gap, isDelim c = true)
    (text : CString) :
    macTokens (gap ++ text) = macTokens text := by
  induction gap with
  | nil => rfl
  | cons c gap ih =>
      rw [List.cons_append]
      unfold macTokens at ih ⊢
      rw [Tokens.tokens_cons_sep
        (hDelim c List.mem_cons_self)]
      exact ih (fun d hMem =>
        hDelim d (List.mem_cons_of_mem c hMem))

/- The tokens of a rendering are read as its bytes. -/
theorem map_macByte_macTokens
    {bytes : List UBYTE}
    {text : CString}
    (hRenders : RendersBytes bytes text) :
    (macTokens text).map macByte = bytes := by
  induction hRenders with
  | @last byte token hByte =>
      rcases isToken_of_rendersByte hByte with ⟨hToken, hNoSep⟩
      unfold macTokens
      rw [Tokens.tokens_of_no_sep hToken hNoSep]
      simp [macByte_of_rendersByte hByte]
  | @more byte token gap bytes text hByte hGap hDelim hRest ih =>
      rcases isToken_of_rendersByte hByte with ⟨hToken, hNoSep⟩
      rcases List.exists_cons_of_ne_nil hGap with ⟨c, gap', rfl⟩
      have hFirst : isDelim c = true :=
        hDelim c List.mem_cons_self
      have hGap' : macTokens (gap' ++ text) = macTokens text :=
        macTokens_gap (fun d hMem =>
          hDelim d (List.mem_cons_of_mem c hMem)) text
      have hTokens := Tokens.tokens_append_sep hToken hNoSep
        hFirst (gap' ++ text)
      unfold macTokens at hGap' ih ⊢
      rw [List.append_assoc, List.cons_append, hTokens,
        List.map_cons, hGap', ih, macByte_of_rendersByte hByte]

/-
  A rendering of an address is read as the address, whatever
  was in its place before.
-/
theorem readKeyMacAddress_of_renders
    (addr dstMacAddress defaultAddress : MacAddr)
    (macString : CString)
    (hRenders : Renders addr macString) :
    readKeyMacAddress (some macString) dstMacAddress
      defaultAddress = addr := by
  funext i
  rw [readKeyMacAddress_some, ← List.getElem?_map,
    map_macByte_macTokens hRenders, List.getElem?_ofFn,
    dif_pos i.isLt]
  rfl

/- The text `2:34::Ab c:9A: :bC`. -/
theorem readKeyMacAddress_of_renders_mixed :
    readKeyMacAddress
        (some [0x32#8, 0x3a#8, 0x33#8, 0x34#8, 0x3a#8, 0x3a#8,
          0x41#8, 0x62#8, 0x20#8, 0x63#8, 0x3a#8, 0x39#8,
          0x41#8, 0x3a#8, 0x20#8, 0x3a#8, 0x62#8, 0x43#8])
        (fun _ => 0xFF#8) (fun _ => 0x11#8) =
      ![0x02#8, 0x34#8, 0xAB#8, 0x0C#8, 0x9A#8, 0xBC#8] := by
  have hOne (c : UBYTE) (v : Fin 16) (hDigit : IsHexDigit v c) :
      RendersByte (BitVec.ofNat 8 v) [c] := .one hDigit
  have hTwo (c d : UBYTE) (high low : Fin 16)
      (hHigh : IsHexDigit high c) (hLow : IsHexDigit low d) :
      RendersByte (BitVec.ofNat 8 (16 * high + low)) [c, d] :=
    .two hHigh hLow
  apply readKeyMacAddress_of_renders
  exact .more (hOne 0x32#8 2 (by decide))
    (show [0x3a#8] ≠ [] by decide) (by decide)
    (.more (hTwo 0x33#8 0x34#8 3 4 (by decide) (by decide))
      (show [0x3a#8, 0x3a#8] ≠ [] by decide) (by decide)
      (.more
        (hTwo 0x41#8 0x62#8 10 11 (by decide) (by decide))
        (show [0x20#8] ≠ [] by decide) (by decide)
        (.more (hOne 0x63#8 12 (by decide))
          (show [0x3a#8] ≠ [] by decide) (by decide)
          (.more
            (hTwo 0x39#8 0x41#8 9 10 (by decide) (by decide))
            (show [0x3a#8, 0x20#8, 0x3a#8] ≠ [] by decide)
            (by decide)
            (.last (hTwo 0x62#8 0x43#8 11 12 (by decide)
              (by decide)))))))

------------------------------------------------------------
-- Malformed Addresses
------------------------------------------------------------

/- One or two hexadecimal digits. -/
def IsMacToken (token : CString) : Prop :=
  (token.length = 1 ∨ token.length = 2) ∧
    ∀ c ∈ token, ∃ v, IsHexDigit v c

/- Exactly six tokens of one or two digits. -/
def WellFormedMac (str : CString) : Prop :=
  (macTokens str).length = 6 ∧
    ∀ token ∈ macTokens str, IsMacToken token

instance (str : CString) : Decidable (WellFormedMac str) := by
  unfold WellFormedMac IsMacToken
  infer_instance

/- No part of a malformed address takes effect. -/
def DefaultsWhenMalformed
    (str : CString)
    (dstMacAddress defaultAddress : MacAddr) : Prop :=
  ¬ WellFormedMac str →
    readKeyMacAddress (some str) dstMacAddress
      defaultAddress = defaultAddress

/-
  The text and the old bytes give the default address by
  coincidence: each of the first six tokens ends with the
  digits of the byte in its place, and the places that have no
  token hold their byte already.
-/
structure CoincidesWithDefault
    (str : CString)
    (dstMacAddress defaultAddress : MacAddr) : Prop where
  tokens : ∀ i : Fin 6, ∀ token,
    (macTokens str)[i.val]? = some token →
      EndsWithByte token (defaultAddress i)
  others : ∀ i : Fin 6, (macTokens str).length ≤ i.val →
    dstMacAddress i = defaultAddress i

theorem readKeyMacAddress_eq_default_iff
    (str : CString)
    (dstMacAddress defaultAddress : MacAddr) :
    readKeyMacAddress (some str) dstMacAddress
        defaultAddress = defaultAddress ↔
      CoincidesWithDefault str dstMacAddress
        defaultAddress := by
  have hBytes : ∀ token ∈ macTokens str, ∀ byte,
      macByte token = byte ↔ EndsWithByte token byte :=
    fun token hMem =>
      macByte_eq_iff (Tokens.ne_nil_of_mem_tokens hMem)
  constructor
  · intro hDefault
    constructor
    · intro i token hToken
      have hByte := congrFun hDefault i
      rw [readKeyMacAddress_some, hToken] at hByte
      exact (hBytes token (List.mem_of_getElem? hToken) _).mp
        hByte
    · intro i hBeyond
      have hByte := congrFun hDefault i
      rw [readKeyMacAddress_some,
        List.getElem?_eq_none hBeyond] at hByte
      exact hByte
  · intro hCoincides
    funext i
    rw [readKeyMacAddress_some]
    cases hToken : (macTokens str)[i.val]? with
    | none =>
        exact hCoincides.others i
          (List.getElem?_eq_none_iff.mp hToken)
    | some token =>
        exact (hBytes token (List.mem_of_getElem? hToken) _).mpr
          (hCoincides.tokens i token hToken)

/-
  There is no check of the text.  Where it is malformed, the
  default address is stored by coincidence only.
-/
theorem defaultsWhenMalformed_iff
    (str : CString)
    (dstMacAddress defaultAddress : MacAddr) :
    DefaultsWhenMalformed str dstMacAddress defaultAddress ↔
      (¬ WellFormedMac str →
        CoincidesWithDefault str dstMacAddress
          defaultAddress) := by
  unfold DefaultsWhenMalformed
  rw [readKeyMacAddress_eq_default_iff]

/- With the text `02:34` two bytes take effect. -/
theorem not_defaultsWhenMalformed_twoTokens :
    ¬ DefaultsWhenMalformed
      [0x30#8, 0x32#8, 0x3a#8, 0x33#8, 0x34#8]
      (fun _ => 0#8)
      ![0x02#8, 0x34#8, 0x56#8, 0x78#8, 0x9a#8, 0xab#8] := by
  intro hDefaults
  have hByte := congrFun (hDefaults (by decide +kernel)) 2
  revert hByte
  decide +kernel

end KszDriver
