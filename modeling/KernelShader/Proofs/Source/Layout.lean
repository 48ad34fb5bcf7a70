/-
`Layout.lean` -- what blanks and indentation have to do with the tokens of a source, which is nothing.

The token lines of a text can be read off it as it stands, line by line (`plainTokenLines`). They can also
be read off the fields between line breaks, and this is how they are taken apart here: at every line break
(`plainTokenLines_append`), and at blanks in front of a text or behind it, which may go. Indentation is
blanks in front of lines, so taking it off changes no token (`plainTokenLines_dedent`).

Where functions begin does depend on indentation, since only a line that begins with `function` at its
very start begins one. But that is looked at when the shared indentation is gone, and putting more of it
before every line gives the same text then.
-/
import KernelShader.Proofs.Line.Joining

set_option autoImplicit false

namespace KernelShader.Source

open Text

/-! ## Token lines of a text as it stands -/

/-- The token lines of a text with its indentation. -/
def plainTokenLines (cs : List Char) : List Line :=
  ((lines cs).map fun line => Line.split (String.ofList line)).filter (!·.isEmpty)

theorem tokenLines_eq (text : String) : tokenLines text = plainTokenLines (dedent text.toList) := by
  simp only [tokenLines, plainTokenLines, bareLines, Line.split_ofList]

/-- Lines and fields differ in empty ones only, and those have no tokens. -/
theorem plainTokenLines_eq (cs : List Char) :
    plainTokenLines cs
      = ((fields isLineBreak cs).map fun line => Line.split (String.ofList line)).filter (!·.isEmpty) := by
  have hempty : ∀ ls : List (List Char),
      (ls.map fun line => Line.split (String.ofList line)).filter (!·.isEmpty)
        = ((ls.filter (!·.isEmpty)).map fun line => Line.split (String.ofList line)).filter
            (!·.isEmpty) := by
    intro ls
    induction ls with
    | nil => rfl
    | cons line rest ih =>
      by_cases hline : line = []
      · subst hline
        rw [List.map_cons, List.filter_cons_of_neg (by decide), ih, List.filter_cons_of_neg (by decide)]
      · rw [List.filter_cons_of_pos (by simpa using hline), List.map_cons, List.map_cons, List.filter_cons,
          List.filter_cons, ih]
  rw [plainTokenLines, hempty, filter_lines, ← hempty]

/-- **A text falls apart at a line break.** -/
theorem plainTokenLines_append {d : Char} (hd : isLineBreak d = true) (cs ds : List Char) :
    plainTokenLines (cs ++ d :: ds) = plainTokenLines cs ++ plainTokenLines ds := by
  rw [plainTokenLines_eq, fields_append hd, List.map_append, List.filter_append, ← plainTokenLines_eq,
    ← plainTokenLines_eq]

theorem plainTokenLines_of_unbroken {line : List Char} (h : ∀ c ∈ line, isLineBreak c = false) :
    plainTokenLines line = [Line.split (String.ofList line)].filter (!·.isEmpty) := by
  rw [plainTokenLines_eq, fields_of_free h]
  rfl

@[simp] theorem plainTokenLines_nil : plainTokenLines [] = [] := rfl

/-- Newlines between texts keep their token lines apart. -/
theorem plainTokenLines_intercalate (texts : List (List Char)) :
    plainTokenLines (List.intercalate ['\n'] texts) = texts.flatMap plainTokenLines := by
  have hnewline : isLineBreak '\n' = true := by decide
  induction texts with
  | nil => rfl
  | cons text rest ih =>
    by_cases hrest : rest = []
    · simp [hrest]
    · rw [List.intercalate_cons_of_ne_nil hrest, List.append_assoc, List.singleton_append,
        plainTokenLines_append hnewline, ih, List.flatMap_cons]

/-! ## Blanks around a text -/

theorem plainTokenLines_cons_of_blank {c : Char} (hc : isBlank c = true) (cs : List Char) :
    plainTokenLines (c :: cs) = plainTokenLines cs := by
  by_cases hbreak : isLineBreak c = true
  · exact plainTokenLines_append hbreak [] cs
  · -- the blank goes to the first field, where it is lost
    obtain ⟨first, rest, hfields⟩ := exists_fields isLineBreak cs
    have hlonger : fields isLineBreak (c :: cs) = (c :: first) :: rest := by
      simp [fields, hbreak, hfields, extendFirst]
    have htokens : Line.split (String.ofList (c :: first)) = Line.split (String.ofList first) := by
      rw [Line.split_ofList, Line.splitChars_cons_of_separator (by simp [Line.isSeparator, hc]), Line.mark,
        if_pos hc, List.nil_append, Line.split_ofList]
    rw [plainTokenLines_eq, plainTokenLines_eq, hlonger, hfields, List.map_cons, List.map_cons, htokens]

theorem plainTokenLines_append_left {blanks : List Char} (h : ∀ c ∈ blanks, isBlank c = true)
    (cs : List Char) : plainTokenLines (blanks ++ cs) = plainTokenLines cs := by
  induction blanks with
  | nil => rfl
  | cons c blanks ih =>
    obtain ⟨hc, hblanks⟩ := List.forall_mem_cons.mp h
    rw [List.cons_append, plainTokenLines_cons_of_blank hc, ih hblanks]

theorem plainTokenLines_concat_of_blank {c : Char} (hc : isBlank c = true) (cs : List Char) :
    plainTokenLines (cs ++ [c]) = plainTokenLines cs := by
  -- only the last line can change, and the induction takes off the lines before it
  induction cs using lineBreak_induction with
  | unbroken line hline =>
    by_cases hbreak : isLineBreak c = true
    · rw [plainTokenLines_append hbreak, plainTokenLines_nil, List.append_nil]
    · have hlonger : ∀ d ∈ line ++ [c], isLineBreak d = false :=
        List.forall_mem_append.mpr ⟨hline, by simpa using hbreak⟩
      rw [plainTokenLines_of_unbroken hlonger, plainTokenLines_of_unbroken hline, Line.split_ofList,
        Line.split_ofList, Line.splitChars_append_of_blank line (by simpa using hc)]
  | broken line d rest hline hd ih =>
    rw [List.append_assoc, List.cons_append, plainTokenLines_append hd, ih, plainTokenLines_append hd]

theorem plainTokenLines_append_right (cs : List Char) {blanks : List Char}
    (h : ∀ c ∈ blanks, isBlank c = true) : plainTokenLines (cs ++ blanks) = plainTokenLines cs := by
  induction blanks generalizing cs with
  | nil => rw [List.append_nil]
  | cons c blanks ih =>
    obtain ⟨hc, hblanks⟩ := List.forall_mem_cons.mp h
    rw [← List.singleton_append, ← List.append_assoc, ih _ hblanks, plainTokenLines_concat_of_blank hc]

theorem plainTokenLines_trimRight (cs : List Char) :
    plainTokenLines (trimRight cs) = plainTokenLines cs := by
  obtain ⟨blanks, hsplit, hblank⟩ := Line.exists_blanks cs
  calc plainTokenLines (trimRight cs)
      = plainTokenLines (trimRight cs ++ blanks) := (plainTokenLines_append_right _ hblank).symm
    _ = plainTokenLines cs := by rw [hsplit]

/-! ## Indentation -/

theorem isBlank_of_isIndent {c : Char} (h : isIndent c = true) : isBlank c = true := by
  rcases isIndent_iff.mp h with rfl | rfl
  · decide
  · decide

/-- Taking off the shared indentation changes no token. -/
theorem plainTokenLines_dedent (cs : List Char) : plainTokenLines (dedent cs) = plainTokenLines cs := by
  obtain ⟨shared, hshared, hdedent⟩ := exists_dedent cs
  have hline : ∀ line : List Char,
      plainTokenLines (dropFront shared (clearIndentOnly line)) = plainTokenLines line := by
    intro line
    obtain ⟨gap, hgap, hline⟩ := exists_gap hshared line
    rw [← plainTokenLines_append_left (fun c hc => isBlank_of_isIndent (hgap c hc)), hline]
  calc plainTokenLines (dedent cs)
      = (fields (· == '\n') cs).flatMap
          fun line => plainTokenLines (dropFront shared (clearIndentOnly line)) := by
        rw [hdedent, plainTokenLines_intercalate, List.flatMap_map]
    _ = (fields (· == '\n') cs).flatMap plainTokenLines := by simp only [hline]
    _ = plainTokenLines cs := by rw [← plainTokenLines_intercalate, intercalate_fields]

/-- Puts `front` before every line of a text; `last` is what an empty line behind the last line break
gets, if there is said to be one. -/
def indent (front last : List Char) (text : String) : String :=
  String.ofList (indentFrom front last true text.toList)

/-- **Common indentation never matters.** The token lines of a text are those of its lines as they stand.
And if newlines are the only line breaks of a text, spaces and tabs put before every line of it change
neither its token lines nor its functions, whether or not they are also put where nothing follows a last
newline. -/
theorem indentation_never_matters :
    (∀ text : String, tokenLines text
      = ((lines text.toList).map fun line => Line.split (String.ofList line)).filter (!·.isEmpty)) ∧
    ∀ (text : String) (front last : List Char),
      (∀ c ∈ text.toList, isLineBreak c = true → c = '\n') →
      (∀ c ∈ front, isIndent c = true) → (last = [] ∨ last = front) →
        tokenLines (indent front last text) = tokenLines text ∧
          functions (indent front last text) = functions text := by
  refine ⟨fun text => ?_, fun text front last htext hfront hlast => ?_⟩
  · rw [tokenLines_eq, plainTokenLines_dedent]
    rfl
  · have hindent : ∀ c ∈ last, isIndent c = true := by
      rcases hlast with rfl | rfl
      · simp
      · exact hfront
    have hbare : bareLines (indent front last text) = bareLines text := by
      rw [bareLines, indent, String.toList_ofList, dedent_indentFrom hfront hindent htext, bareLines]
    rw [tokenLines, functions, hbare]
    exact ⟨rfl, rfl⟩

/-- A text that is indented already, by a space and a tab, with a line that holds only a tab. -/
def unevenText : String := " \tfunction f() \x7b\n\t\n \t  return;\n \t\x7d\n"

theorem unevenText_keeps_functions :
    tokenLines (indent ['\t', ' '] ['\t', ' '] unevenText) = tokenLines unevenText ∧
      functions (indent ['\t', ' '] ['\t', ' '] unevenText) = functions unevenText := by
  have hbreaks : (unevenText.toList.all fun c => !isLineBreak c || c == '\n') = true := by decide
  refine indentation_never_matters.2 _ _ _ (fun c hc hbreak => ?_) (by simp [isIndent]) (.inr rfl)
  simpa [hbreak] using List.all_eq_true.mp hbreaks c hc

end KernelShader.Source
