/-
`Line.lean` -- what the tokens of a line are.

Cutting a word at its delimiters gives stretches without delimiters and, between them, the delimiters one
by one. So a token either is a delimiter or holds none, and counting a delimiter among the tokens of a
line is counting it among their characters.
-/
import KernelShader.Source

set_option autoImplicit false

namespace KernelShader

namespace Line

open Text

/-- What is so of none of the delimiters is not so of a delimiter. -/
theorem isDelimiter_eq_false {p : Char → Bool}
    (h : ['(', ')', '[', ']', ',', '.'].all (fun d => !p d) = true) {c : Char} (hc : p c = true) :
    isDelimiter c = false := by
  cases hdelimiter : isDelimiter c with
  | false => rfl
  | true =>
    have hmem : c ∈ ['(', ')', '[', ']', ',', '.'] := by
      simpa [isDelimiter, or_assoc] using hdelimiter
    have hnot := List.all_eq_true.mp h c hmem
    simp [hc] at hnot

/-- What is dropped at the end of a text are blanks. -/
theorem exists_blanks (cs : List Char) :
    ∃ blanks, trimRight cs ++ blanks = cs ∧ ∀ c ∈ blanks, isBlank c = true := by
  refine ⟨(cs.reverse.takeWhile isBlank).reverse, ?_, fun c hc => ?_⟩
  · rw [trimRight, ← List.reverse_append, List.takeWhile_append_dropWhile, List.reverse_reverse]
  · exact List.all_eq_true.mp List.all_takeWhile c (List.mem_reverse.mp hc)

/-- A delimiter on its own, or a text without delimiters. -/
def IsPiece (t : List Char) : Prop :=
  (∃ c, isDelimiter c = true ∧ t = [c]) ∨ ∀ c ∈ t, isDelimiter c = false

/-- The first piece of a word holds no delimiter: where a word begins with one, it is empty. The pieces
behind it are of either sort. -/
theorem exists_pieces (cs : List Char) :
    ∃ first rest, pieces cs = first :: rest ∧ (∀ c ∈ first, isDelimiter c = false) ∧
      ∀ t ∈ rest, IsPiece t := by
  induction cs with
  | nil => exact ⟨[], [], rfl, by simp, by simp⟩
  | cons c cs ih =>
    obtain ⟨first, rest, hpieces, hfirst, hrest⟩ := ih
    rw [pieces, hpieces]
    by_cases hc : isDelimiter c = true
    · -- the piece that was first so far comes behind the delimiter
      rw [if_pos hc]
      refine ⟨[], [c] :: first :: rest, rfl, by simp, ?_⟩
      intro t ht
      rcases List.mem_cons.mp ht with hdelimiter | ht
      · exact Or.inl ⟨c, hc, hdelimiter⟩
      · rcases List.mem_cons.mp ht with rfl | ht
        · exact Or.inr hfirst
        · exact hrest t ht
    · rw [if_neg hc, extendFirst]
      refine ⟨c :: first, rest, rfl, ?_, hrest⟩
      intro d hd
      rcases List.mem_cons.mp hd with rfl | hd
      · simpa using hc
      · exact hfirst d hd

theorem isPiece_of_mem_splitChars {cs t : List Char} (h : t ∈ splitChars cs) : IsPiece t := by
  obtain ⟨word, -, ht⟩ := List.mem_flatMap.mp (List.mem_filter.mp h).1
  obtain ⟨first, rest, hpieces, hfirst, hrest⟩ := exists_pieces word
  rw [hpieces] at ht
  rcases List.mem_cons.mp ht with rfl | ht
  · exact Or.inr hfirst
  · exact hrest t ht

end Line

/-- The tokens of a source text are pieces. -/
theorem Source.isPiece_of_mem {text token : String} {line : Line} (hline : line ∈ tokenLines text)
    (htoken : token ∈ line) : Line.IsPiece token.toList := by
  obtain ⟨cs, -, rfl⟩ := List.mem_map.mp (List.mem_filter.mp hline).1
  obtain ⟨t, ht, rfl⟩ := List.mem_map.mp htoken
  rw [String.toList_ofList]
  exact Line.isPiece_of_mem_splitChars ht

end KernelShader
