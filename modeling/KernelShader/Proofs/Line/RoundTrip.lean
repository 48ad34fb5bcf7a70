/-
`RoundTrip.lean` -- writing a line and cutting it are inverse to each other.

The tokens that cutting gives can be told by their characters: they hold something, no blank, and no
delimiter unless the token is that delimiter. This file shows that nothing else is needed. A text with
these properties is one token when it is cut (`WellFormedToken.isToken`), so a line of such texts comes back
from what is written of it, whether it is written tightly around its points or with a blank between any
two tokens. The other way around only the blanks of a text are lost (`flatten_splitChars`).
-/
import KernelShader.Proofs.Line.Joining

set_option autoImplicit false

namespace KernelShader.Line

open Text

/-! ## What cutting keeps of a text -/

theorem flatten_extendFirst (c : Char) (stretches : List (List Char)) :
    (extendFirst c stretches).flatten = c :: stretches.flatten := by
  cases stretches with
  | nil => rfl
  | cons first rest => rfl

theorem flatten_mark (c : Char) : (mark c).flatten = [c].filter (!isBlank ·) := by
  unfold mark
  by_cases hblank : isBlank c = true
  · simp [hblank]
  · simp [hblank]

/-- The stretches of a text in a row are the text without its blanks. -/
theorem flatten_stretches (cs : List Char) : (stretches cs).flatten = cs.filter (!isBlank ·) := by
  induction cs with
  | nil => rfl
  | cons c cs ih =>
    by_cases hseparator : isSeparator c = true
    · rw [stretches_cons_of_separator hseparator, List.flatten_cons, List.flatten_append, flatten_mark, ih,
        List.nil_append, ← List.filter_append, List.singleton_append]
    · -- a character that separates nothing is no blank, so it stays
      have hother : isSeparator c = false := by simpa using hseparator
      have hblank : isBlank c = false := (Bool.or_eq_false_iff.mp hother).1
      rw [stretches_cons_of_not_separator hother, flatten_extendFirst, ih,
        List.filter_cons_of_pos (by simp [hblank])]

theorem flatten_splitChars (cs : List Char) : (splitChars cs).flatten = cs.filter (!isBlank ·) := by
  rw [splitChars_eq, List.flatten_filter_not_isEmpty, flatten_stretches]

/-- Only the blanks of a text are lost. -/
theorem join_split (text : String) :
    String.join (split text) = String.ofList (text.toList.filter (!isBlank ·)) := by
  have hchars : (split text).map String.toList = splitChars text.toList := by
    rw [split, List.map_map]
    exact (List.map_congr_left fun t _ => String.toList_ofList).trans (List.map_id _)
  apply String.toList_inj.mp
  rw [String.toList_join, String.toList_ofList, List.flatMap_def, hchars, flatten_splitChars]

/-! ## Tokens told by their characters -/

/-- A text that can be a token. -/
structure WellFormedToken (token : String) : Prop where
  ne_empty : token ≠ ""
  not_blank : ∀ c ∈ token.toList, isBlank c = false
  isPiece : IsPiece token.toList

/-- A text that can be a token is one. -/
theorem WellFormedToken.isToken {token : String} (h : WellFormedToken token) : IsToken token := by
  have hchars : splitChars token.toList = [token.toList] := by
    rcases h.isPiece with ⟨c, hdelimiter, htoken⟩ | hfree
    · rw [htoken]
      exact splitChars_of_delimiter hdelimiter
    · apply splitChars_of_word
      · exact fun hnil => h.ne_empty (String.toList_eq_nil_iff.mp hnil)
      · intro c hc
        rw [isSeparator, h.not_blank c hc, hfree c hc]
        rfl
  rw [IsToken, split, hchars, List.map_singleton, String.ofList_toList]

theorem IsToken.wellFormed {token : String} (h : IsToken token) : WellFormedToken token := by
  have hmem := h.toList_mem
  have hstretch : token.toList ∈ stretches token.toList ∧ (!token.toList.isEmpty) = true := by
    rw [splitChars_eq] at hmem
    exact List.mem_filter.mp hmem
  refine ⟨?_, fun c hc => (mem_of_mem_stretches hstretch.1 hc).2, isPiece_of_mem_splitChars hmem⟩
  rintro rfl
  simp at hstretch

/-! ## There and back -/

/-- A line with a blank between any two words is cut into the tokens of its words. -/
theorem split_spaced (line : Line) : split (spaced line) = line.flatMap split := by
  have hblank : split " " = [] := by decide
  -- nothing stands between the tokens of one word and those of the next
  have hnothing : ∀ words : List Line, [].intercalate words = words.flatten := by
    intro words
    induction words with
    | nil => rfl
    | cons word rest ih =>
      by_cases hrest : rest = []
      · simp [hrest]
      · rw [List.intercalate_cons_of_ne_nil hrest, ih, List.append_nil, List.flatten_cons]
  rw [spaced, split_intercalate (d := ' ') (by decide) (by decide), hblank, hnothing, List.flatMap_def]

/-- **Cutting undoes writing, and keeps all but the blanks.** The tokens of a text are well formed and,
put in a row, are the text without its blanks. Conversely every line of well-formed tokens is what its
two written forms are cut into. So writing the tokens of a text and cutting again changes nothing. -/
theorem split_inverts_writing :
    (∀ text : String, (∀ token ∈ split text, WellFormedToken token) ∧
      String.join (split text) = String.ofList (text.toList.filter (!isBlank ·))) ∧
    (∀ line : Line, (∀ token ∈ line, WellFormedToken token) →
      split (join line) = line ∧ split (spaced line) = line) ∧
    ∀ text : String, split (join (split text)) = split text := by
  refine ⟨fun text => ⟨?_, join_split text⟩, fun line hline => ?_, fun text => ?_⟩
  · intro token htoken
    exact (isToken_of_mem_split htoken).wellFormed
  · have htokens : line.flatMap split = line :=
      flatMap_split_of_tokens fun token htoken => (hline token htoken).isToken
    rw [split_join, split_spaced]
    exact ⟨htokens, htokens⟩
  · rw [split_join]
    exact flatMap_split_of_tokens fun token htoken => isToken_of_mem_split htoken

/-- At a line where points meet points, words and brackets. -/
theorem pointedLine_comes_back :
    split (join ["x", ".", ".", "y", "(", "[", ".", "a;"]) = ["x", ".", ".", "y", "(", "[", ".", "a;"] ∧
      split (spaced ["x", ".", ".", "y", "(", "[", ".", "a;"])
        = ["x", ".", ".", "y", "(", "[", ".", "a;"] := by
  refine split_inverts_writing.2.1 _ fun token htoken => IsToken.wellFormed ?_
  have hall : ["x", ".", ".", "y", "(", "[", ".", "a;"].all (fun token => split token == [token]) = true := by
    decide
  exact beq_iff_eq.mp (List.all_eq_true.mp hall token htoken)

end KernelShader.Line
