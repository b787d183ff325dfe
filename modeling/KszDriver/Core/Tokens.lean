import Mathlib.Data.List.TakeWhile

/-
  Texts that are taken apart at separators.

  The tokens of a text are what stands between its
  separators, as far as anything does.  They are what taking
  one token at a time comes to.

  Key definitions include:
    * `Tokens.tokens`
    * `Tokens.nextToken`

  Key theorems include:
    * `Tokens.tokens_append_sep`
    * `Tokens.nextToken_cases`
-/

------------------------------------------------------------
-- Tokens
------------------------------------------------------------

namespace Tokens

variable {α : Type} (isSep : α → Bool)

/- What stands between the separators. -/
def tokens (text : List α) : List (List α) :=
  (text.splitOnP isSep).filter (fun t => !t.isEmpty)

/-
  The first token and what follows the separator that ends
  it, if there is a token.
-/
def nextToken (text : List α) : Option (List α × List α) :=
  match text.dropWhile isSep with
  | [] => none
  | c :: rest =>
      some ((c :: rest).takeWhile (fun c => !isSep c),
        ((c :: rest).dropWhile (fun c => !isSep c)).tail)

variable {isSep}

/- No token is empty. -/
theorem ne_nil_of_mem_tokens
    {text token : List α}
    (hMem : token ∈ tokens isSep text) :
    token ≠ [] := by
  have hKept := (List.mem_filter.mp hMem).2
  simpa using hKept

/- A separator at the start does not count. -/
theorem tokens_cons_sep
    {c : α}
    (hSep : isSep c = true)
    (text : List α) :
    tokens isSep (c :: text) = tokens isSep text := by
  have hSplit := List.splitOnP_append_cons (p := isSep) []
    text hSep
  unfold tokens
  rw [List.nil_append] at hSplit
  rw [hSplit]
  rfl

theorem tokens_dropWhile (text : List α) :
    tokens isSep (text.dropWhile isSep) =
      tokens isSep text := by
  induction text with
  | nil => rfl
  | cons c text ih =>
      by_cases hSep : isSep c = true
      · rw [List.dropWhile_cons_of_pos hSep, ih,
          tokens_cons_sep hSep]
      · rw [List.dropWhile_cons_of_neg hSep]

/- A text without separators is a token. -/
theorem tokens_of_no_sep
    {token : List α}
    (hToken : token ≠ [])
    (hNoSep : ∀ c ∈ token, isSep c = false) :
    tokens isSep token = [token] := by
  unfold tokens
  rw [List.splitOnP_eq_singleton hNoSep]
  simp [hToken]

/- A token ends at a separator. -/
theorem tokens_append_sep
    {token : List α}
    {c : α}
    (hToken : token ≠ [])
    (hNoSep : ∀ c ∈ token, isSep c = false)
    (hSep : isSep c = true)
    (text : List α) :
    tokens isSep (token ++ c :: text) =
      token :: tokens isSep text := by
  unfold tokens
  rw [List.splitOnP_append_cons token text hSep,
    List.splitOnP_eq_singleton hNoSep, List.filter_append]
  simp [hToken]

/- Taking one token leaves the other ones. -/
theorem nextToken_cases (text : List α) :
    (nextToken isSep text = none ∧ tokens isSep text = []) ∨
      ∃ token rest,
        nextToken isSep text = some (token, rest) ∧
          tokens isSep text = token :: tokens isSep rest := by
  unfold nextToken
  rw [← tokens_dropWhile text]
  have hHead := List.head?_dropWhile_not isSep text
  cases hText : text.dropWhile isSep with
  | nil => exact Or.inl ⟨rfl, rfl⟩
  | cons c rest =>
      rw [hText] at hHead
      refine Or.inr ⟨_, _, rfl, ?_⟩
      have hSplit := List.takeWhile_append_dropWhile
        (p := fun c => !isSep c) (l := c :: rest)
      have hToken : (c :: rest).takeWhile (fun c => !isSep c) ≠
          [] := by
        have hFirst : isSep c = false := hHead
        simp [hFirst]
      have hNoSep : ∀ d ∈
          (c :: rest).takeWhile (fun c => !isSep c),
          isSep d = false := by
        intro d hMem
        simpa using List.mem_takeWhile_imp hMem
      have hEnd := List.head?_dropWhile_not
        (fun c => !isSep c) (c :: rest)
      cases hRest :
          (c :: rest).dropWhile (fun c => !isSep c) with
      | nil =>
          rw [hRest, List.append_nil] at hSplit
          rw [hSplit] at hToken hNoSep ⊢
          exact tokens_of_no_sep hToken hNoSep
      | cons s rest' =>
          rw [hRest] at hSplit hEnd
          have hSep : isSep s = true := by
            simpa using hEnd
          have hTokens :=
            tokens_append_sep hToken hNoSep hSep rest'
          rw [hSplit] at hTokens
          exact hTokens

end Tokens
