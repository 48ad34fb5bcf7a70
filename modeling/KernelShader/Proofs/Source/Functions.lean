/-
`Functions.lean` -- cutting a file into functions loses and doubles nothing.

The lines of a file are grouped so that every group begins with a line that starts a function, and the
groups in a row are the lines from the first such line on (`flatten_groupLines`). The text of a function is
its group with newlines between the lines and without blanks at the end. It is read again from the start:
indentation is taken off once more and lines are found once more. Neither changes a token, so the token
lines of the function are those of the lines of its group (`tokenLines_ofLines`).
-/
import KernelShader.Proofs.Source.Layout

set_option autoImplicit false

namespace KernelShader

/-! ## The first token -/

namespace Line

open Text

/-- A text that begins with a word has a first stretch that does. -/
theorem exists_stretches_append {word : List Char} (h : ∀ c ∈ word, isSeparator c = false)
    (cs : List Char) : ∃ first rest, stretches (word ++ cs) = (word ++ first) :: rest := by
  induction word with
  | nil => exact List.exists_cons_of_ne_nil (stretches_ne_nil cs)
  | cons c word ih =>
    obtain ⟨hc, hword⟩ := List.forall_mem_cons.mp h
    obtain ⟨first, rest, hstretches⟩ := ih hword
    refine ⟨first, rest, ?_⟩
    rw [List.cons_append, stretches_cons_of_not_separator hc, hstretches, extendFirst, List.cons_append]

/-- The first token of a text that begins with a word begins with that word. -/
theorem exists_split_append {word : List Char} (hne : word ≠ [])
    (h : ∀ c ∈ word, isSeparator c = false) (cs : List Char) :
    ∃ token rest, split (String.ofList (word ++ cs)) = token :: rest ∧ word <+: token.toList := by
  obtain ⟨first, rest, hstretches⟩ := exists_stretches_append h cs
  have hchars : splitChars (word ++ cs) = (word ++ first) :: rest.filter (!·.isEmpty) := by
    rw [splitChars_eq, hstretches, List.filter_cons_of_pos (by simp [hne])]
  refine ⟨String.ofList (word ++ first), (rest.filter (!·.isEmpty)).map String.ofList, ?_, ?_⟩
  · rw [split_ofList, hchars, List.map_cons]
  · rw [String.toList_ofList]
    exact List.prefix_append word first

end Line

namespace Source

open Text

/-- What it is to start a function. -/
theorem startsFunction_iff {line : List Char} :
    startsFunction line = true ↔
      ∃ rest, line = "function".toList ++ rest ∧ ∀ c ∈ rest.head?, isWordChar c = false := by
  unfold startsFunction
  generalize "function".toList = word
  rw [Bool.and_eq_true, List.isPrefixOf_iff_prefix]
  constructor
  · rintro ⟨⟨rest, rfl⟩, hboundary⟩
    rw [List.drop_left] at hboundary
    refine ⟨rest, rfl, fun c hc => ?_⟩
    obtain ⟨more, rfl⟩ := List.head?_eq_some_iff.mp hc
    simpa using hboundary
  · rintro ⟨rest, rfl, hboundary⟩
    refine ⟨List.prefix_append word rest, ?_⟩
    rw [List.drop_left]
    cases rest with
    | nil => rfl
    | cons c more => simpa using hboundary c rfl

/-! ## Groups of lines -/

/-- The lines that wait for a start and the groups behind them are all the lines. -/
theorem groupLines_append (ls : List (List Char)) : (groupLines ls).1 ++ (groupLines ls).2.flatten = ls := by
  induction ls with
  | nil => rfl
  | cons line rest ih =>
    unfold groupLines
    by_cases hstart : startsFunction line = true
    · simpa [hstart] using ih
    · simpa [hstart] using ih

/-- The groups are the lines from the first start on. -/
theorem flatten_groupLines (ls : List (List Char)) :
    (groupLines ls).2.flatten = ls.dropWhile (!startsFunction ·) := by
  induction ls with
  | nil => rfl
  | cons line rest ih =>
    unfold groupLines
    by_cases hstart : startsFunction line = true
    · -- what has waited so far belongs to this line
      simpa [hstart] using groupLines_append rest
    · simpa [hstart] using ih

theorem length_groupLines (ls : List (List Char)) :
    (groupLines ls).2.length = ls.countP startsFunction := by
  induction ls with
  | nil => rfl
  | cons line rest ih =>
    unfold groupLines
    by_cases hstart : startsFunction line = true
    · simp [hstart, ih]
    · simp [hstart, ih]

theorem exists_start_of_mem_groupLines {ls group : List (List Char)} (h : group ∈ (groupLines ls).2) :
    ∃ line rest, group = line :: rest ∧ startsFunction line = true := by
  induction ls with
  | nil => exact absurd h List.not_mem_nil
  | cons line rest ih =>
    unfold groupLines at h
    by_cases hstart : startsFunction line = true
    · simp only [hstart, if_true, List.mem_cons] at h
      rcases h with rfl | h
      · exact ⟨line, _, rfl, hstart⟩
      · exact ih h
    · simp only [hstart] at h
      exact ih h

/-- A group is made of lines. -/
theorem mem_of_mem_groupLines {ls group : List (List Char)} (hgroup : group ∈ (groupLines ls).2)
    {line : List Char} (hline : line ∈ group) : line ∈ ls := by
  rw [← groupLines_append ls]
  exact List.mem_append_right _ (List.mem_flatten_of_mem hgroup hline)

/-! ## Texts of functions -/

/-- The text that lines make. -/
def ofLines (ls : List (List Char)) : String :=
  String.ofList (trimRight (List.intercalate ['\n'] ls))

/-- The token lines of a text made of lines are those of the lines. -/
theorem tokenLines_ofLines {ls : List (List Char)}
    (h : ∀ line ∈ ls, ∀ c ∈ line, isLineBreak c = false) :
    tokenLines (ofLines ls)
      = (ls.map fun line => Line.split (String.ofList line)).filter (!·.isEmpty) := by
  rw [tokenLines_eq, ofLines, String.toList_ofList, plainTokenLines_dedent, plainTokenLines_trimRight,
    plainTokenLines_intercalate]
  induction ls with
  | nil => rfl
  | cons line rest ih =>
    obtain ⟨hline, hrest⟩ := List.forall_mem_cons.mp h
    rw [List.flatMap_cons, plainTokenLines_of_unbroken hline, ih hrest, ← List.filter_append,
      List.singleton_append, List.map_cons]

/-- Texts made of groups of lines have, in a row, the token lines of all the lines. -/
theorem flatMap_tokenLines_ofLines {groups : List (List (List Char))}
    (h : ∀ group ∈ groups, ∀ line ∈ group, ∀ c ∈ line, isLineBreak c = false) :
    (groups.map ofLines).flatMap tokenLines
      = (groups.flatten.map fun line => Line.split (String.ofList line)).filter (!·.isEmpty) := by
  induction groups with
  | nil => rfl
  | cons group rest ih =>
    obtain ⟨hgroup, hrest⟩ := List.forall_mem_cons.mp h
    rw [List.map_cons, List.flatMap_cons, tokenLines_ofLines hgroup, ih hrest, List.flatten_cons,
      List.map_append, List.filter_append]

/-- A text whose first line starts a function has tokens, and the first of them begins with the word. -/
theorem exists_tokenLines_ofLines {line : List Char} {rest : List (List Char)}
    (hbreak : ∀ other ∈ line :: rest, ∀ c ∈ other, isLineBreak c = false)
    (hstart : startsFunction line = true) :
    ∃ token first later, tokenLines (ofLines (line :: rest)) = (token :: first) :: later ∧
      "function".toList <+: token.toList := by
  obtain ⟨more, rfl, -⟩ := startsFunction_iff.mp hstart
  have hne : "function".toList ≠ [] := by decide
  have hall : ("function".toList.all fun c => !Line.isSeparator c) = true := by decide
  have hfree : ∀ c ∈ "function".toList, Line.isSeparator c = false := fun c hc => by
    simpa using List.all_eq_true.mp hall c hc
  obtain ⟨token, first, hsplit, hbegins⟩ := Line.exists_split_append hne hfree more
  rw [tokenLines_ofLines hbreak, List.map_cons, hsplit, List.filter_cons_of_pos (by simp)]
  exact ⟨token, first, _, rfl, hbegins⟩

theorem functions_eq (text : String) : functions text = (groupLines (bareLines text)).2.map ofLines := rfl

theorem not_isLineBreak_of_mem_groupLines {text : String} {group : List (List Char)}
    (hgroup : group ∈ (groupLines (bareLines text)).2) :
    ∀ line ∈ group, ∀ c ∈ line, isLineBreak c = false := fun _ hline _ hc =>
  not_isLineBreak_of_mem_lines (mem_of_mem_groupLines hgroup hline) hc

/-- The text of a function has tokens, and the first of them begins with the word. -/
theorem exists_tokenLines_of_mem_functions {text function : String} (h : function ∈ functions text) :
    ∃ token first later, tokenLines function = (token :: first) :: later ∧
      "function".toList <+: token.toList := by
  rw [functions_eq] at h
  obtain ⟨group, hgroup, rfl⟩ := List.mem_map.mp h
  obtain ⟨line, rest, rfl, hstart⟩ := exists_start_of_mem_groupLines hgroup
  exact exists_tokenLines_ofLines (not_isLineBreak_of_mem_groupLines hgroup) hstart

/-- **Cutting a file into functions loses and doubles nothing.** There are as many functions as lines that
start one, each of them has tokens and begins with the word, and their token lines in a row are those of
the lines of the file from the first start on. -/
theorem functions_conserve_lines (text : String) :
    (functions text).length = (bareLines text).countP startsFunction ∧
    (∀ function ∈ functions text, ∃ token first later,
      tokenLines function = (token :: first) :: later ∧ "function".toList <+: token.toList) ∧
    (functions text).flatMap tokenLines
      = (((bareLines text).dropWhile (!startsFunction ·)).map fun line =>
          Line.split (String.ofList line)).filter (!·.isEmpty) := by
  refine ⟨?_, fun _ hfunction => exists_tokenLines_of_mem_functions hfunction, ?_⟩
  · rw [functions_eq, List.length_map, length_groupLines]
  · rw [functions_eq, flatMap_tokenLines_ofLines fun _ => not_isLineBreak_of_mem_groupLines,
      flatten_groupLines]

/-- A file with a comment in front, a form feed for a line end, a line that begins with the word but not with
the whole word, and a function that is the word alone. -/
def raggedFile : String := "  // f\n  function f() \x7b\n  functions\x0c \t\n  \x7d\n  function\n"

theorem raggedFile_conserved :
    (functions raggedFile).length = 2 ∧
    (∃ token first later, tokenLines "function f() \x7b\nfunctions\n \t\n\x7d" = (token :: first) :: later ∧
      "function".toList <+: token.toList) ∧
    (functions raggedFile).flatMap tokenLines
      = [["function", "f", "(", ")", "\x7b"], ["functions"], ["\x7d"], ["function"]] := by
  have hconserved := functions_conserve_lines raggedFile
  have hfirst : "function f() \x7b\nfunctions\n \t\n\x7d" ∈ functions raggedFile := by decide +kernel
  refine ⟨hconserved.1.trans ?_, hconserved.2.1 _ hfirst, hconserved.2.2.trans ?_⟩
  · decide +kernel
  · decide +kernel

end Source

end KernelShader
