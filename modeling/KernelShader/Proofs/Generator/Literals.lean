/-
`Literals.lean` -- array literals from the source line to the tokens of the shader.

The first pass goes through a line once, with a count of open brackets. What it finds is the reading of the
line by matching brackets: it turns the parts of the line into tokens one by one
(`collapseFrom_of_reads`). Such a token is written as one text. Cut again, this text gives `array`, the
content in parentheses and nothing else, except that commas without anything between them are gone
(`split_ofContent`): where no slot is empty, the content comes back as it is (`compact_of_spaced`).
-/
import Mathlib.Data.List.Infix
import KernelShader.Proofs.Line.Joining
import KernelShader.Proofs.Line.Nesting
import KernelShader.Proofs.Generator.Brackets

set_option autoImplicit false

namespace KernelShader

/-! ## Commas -/

namespace Line

/-- The line with a single comma between the slots that hold something. -/
def compact (line : Line) : Line :=
  [","].intercalate ((line.splitOn ",").filter (!·.isEmpty))

/-- No slot of the line is empty: no comma is first, last or directly behind another. -/
structure Spaced (line : Line) : Prop where
  first : line.head? ≠ some ","
  last : line.getLast? ≠ some ","
  apart : ¬ [",", ","] <:+: line

theorem splitOn_cons (token : String) (line : Line) :
    (token :: line).splitOn ","
      = if token == "," then [] :: line.splitOn "," else (line.splitOn ",").modifyHead (token :: ·) := by
  simp only [List.splitOn, List.splitOnP_cons_eq_if_modifyHead]

theorem exists_splitOn (line : Line) : ∃ first rest, line.splitOn "," = first :: rest :=
  List.exists_cons_of_ne_nil (List.splitOnP_ne_nil _ line)

theorem mem_of_mem_splitOn {line slot : Line} {token : String} (hslot : slot ∈ line.splitOn ",")
    (htoken : token ∈ slot) : token ∈ line := by
  induction line generalizing slot with
  | nil => simp_all [List.splitOn]
  | cons t line ih =>
    obtain ⟨first, rest, hslots⟩ := exists_splitOn line
    rw [splitOn_cons, hslots] at hslot
    rw [hslots] at ih
    split_ifs at hslot with hcomma
    · rcases List.mem_cons.mp hslot with rfl | hslot
      · exact absurd htoken List.not_mem_nil
      · exact List.mem_cons_of_mem t (ih hslot htoken)
    · rcases List.mem_cons.mp hslot with rfl | hslot
      · rcases List.mem_cons.mp htoken with rfl | htoken
        · exact List.mem_cons_self
        · exact List.mem_cons_of_mem t (ih List.mem_cons_self htoken)
      · exact List.mem_cons_of_mem t (ih (List.mem_cons_of_mem first hslot) htoken)

/-- Only the first slot can be empty if no comma is last or follows another. -/
theorem slots_of_apart {line : Line} (hlast : line.getLast? ≠ some ",")
    (hapart : ¬ [",", ","] <:+: line) :
    ∃ first rest, line.splitOn "," = first :: rest ∧ [] ∉ rest ∧
      (first = [] → line = [] ∨ line.head? = some ",") := by
  induction line with
  | nil => exact ⟨[], [], rfl, List.not_mem_nil, fun _ => .inl rfl⟩
  | cons token line ih =>
    have hlastRest : line.getLast? ≠ some "," := by
      intro hcomma
      refine hlast ?_
      rw [List.getLast?_cons, hcomma]
      rfl
    have hapartRest : ¬ [",", ","] <:+: line := fun h => hapart (List.infix_cons h)
    obtain ⟨first, rest, hslots, hrest, hfirst⟩ := ih hlastRest hapartRest
    rw [splitOn_cons, hslots]
    by_cases hcomma : token = ","
    · -- what follows a comma is neither the end of the line nor another comma
      subst hcomma
      refine ⟨[], first :: rest, rfl, ?_, fun _ => .inr rfl⟩
      intro hempty
      rcases List.mem_cons.mp hempty with hempty | hempty
      · rcases hfirst hempty.symm with rfl | hhead
        · exact hlast rfl
        · obtain ⟨tail, rfl⟩ := List.head?_eq_some_iff.mp hhead
          exact hapart ⟨[], tail, rfl⟩
      · exact hrest hempty
    · refine ⟨token :: first, rest, by simp [hcomma], hrest, ?_⟩
      intro hempty
      exact absurd hempty (List.cons_ne_nil token first)

theorem splitOn_append_cons (front back : Line) :
    (front ++ "," :: back).splitOn "," = front.splitOn "," ++ back.splitOn "," :=
  List.splitOnP_append_cons front back rfl

/-- A line that holds something has an empty slot exactly where a comma is first, last or doubled. -/
theorem spaced_iff {line : Line} (hline : line ≠ []) : Spaced line ↔ [] ∉ line.splitOn "," := by
  constructor
  · intro h hempty
    obtain ⟨first, rest, hslots, hrest, hfirst⟩ := slots_of_apart h.last h.apart
    rw [hslots] at hempty
    rcases List.mem_cons.mp hempty with hempty | hempty
    · rcases hfirst hempty.symm with hnil | hhead
      · exact hline hnil
      · exact h.first hhead
    · exact hrest hempty
  · intro h
    refine ⟨fun hfirst => h ?_, fun hlast => h ?_, fun hdoubled => h ?_⟩
    · obtain ⟨back, rfl⟩ := List.head?_eq_some_iff.mp hfirst
      exact List.mem_cons_self
    · obtain ⟨front, rfl⟩ := List.getLast?_eq_some_iff.mp hlast
      rw [splitOn_append_cons]
      exact List.mem_append_right _ List.mem_cons_self
    · obtain ⟨front, back, rfl⟩ := hdoubled
      rw [List.append_assoc, List.cons_append, splitOn_append_cons]
      exact List.mem_append_right _ List.mem_cons_self

/-- Where no slot is empty, nothing is left out. -/
theorem compact_of_spaced {line : Line} (h : Spaced line) : compact line = line := by
  by_cases hline : line = []
  · rw [hline]
    rfl
  · have hall : (line.splitOn ",").filter (!·.isEmpty) = line.splitOn "," := by
      refine List.filter_eq_self.mpr fun slot hslot => ?_
      have hne : slot ≠ [] := by
        rintro rfl
        exact (spaced_iff hline).mp h hslot
      simpa using hne
    rw [compact, hall, List.intercalate_splitOn]

end Line

/-! ## The text of a literal -/

namespace Token

theorem ofLine_append (front back : Line) :
    ofLine (front ++ back) = ofLine front ++ ofLine back := List.map_append

theorem ofLine_cons (word : String) (line : Line) :
    ofLine (word :: line) = .word word :: ofLine line := rfl

theorem map_toLine_slots (content : List Token) :
    (slots content).map toLine = (toLine content).splitOn "," := by
  induction content with
  | nil => rfl
  | cons t ts ih =>
    obtain ⟨first, rest, hslots⟩ := Line.exists_splitOn (toLine ts)
    rw [hslots] at ih
    obtain ⟨slot, slots', heq, hslot, hrest⟩ := List.map_eq_cons_iff.mp ih
    rw [toLine_cons, Line.splitOn_cons, hslots, slots, heq]
    by_cases hcomma : t.text = ","
    · simp [reads, hcomma, hslot, hrest]
    · simp [reads, hcomma, hslot, hrest]

/-- A literal is written slot by slot, without the empty ones. -/
theorem text_ofContent (content : List Token) :
    (ofContent content).text
      = "array(" ++ ",".intercalate
          ((((toLine content).splitOn ",").filter (!·.isEmpty)).map Line.join) ++ ")" := by
  rw [ofContent, text, ← map_toLine_slots, List.filter_map, List.map_map]
  congr 4
  refine List.filter_congr fun slot _ => ?_
  simp [toLine]

/-- The text of a literal is no word without a parenthesis. -/
theorem text_ofContent_ne (content : List Token) {word : String} (h : '(' ∉ word.toList) :
    (ofContent content).text ≠ word := by
  rintro rfl
  refine h ?_
  rw [text_ofContent, String.toList_append, String.toList_append]
  exact List.mem_append_left _ (List.mem_append_left _ (by decide))

/-- **Cutting a literal.** -/
theorem split_ofContent {content : Line} (h : ∀ token ∈ content, Line.IsToken token) :
    Line.split (ofContent (ofLine content)).text
      = "array" :: "(" :: (Line.compact content ++ [")"]) := by
  -- a slot is made of tokens, so it is cut into what it was written from
  have hslots : (((content.splitOn ",").filter (!·.isEmpty)).map Line.join).map Line.split
      = (content.splitOn ",").filter (!·.isEmpty) := by
    rw [List.map_map]
    refine List.map_congr_left (fun slot hslot => ?_) |>.trans (List.map_id _)
    rw [Function.comp_apply, Line.split_join, Line.flatMap_split_of_tokens fun token htoken =>
      h token (Line.mem_of_mem_splitOn (List.mem_filter.mp hslot).1 htoken)]
    rfl
  have hfront : ∀ text : String, Line.Apart "array(".toList text.toList := fun text =>
    .inl ⟨"array".toList, '(', by decide, by decide⟩
  have hback : ∀ text : String, Line.Apart text.toList ")".toList := fun text =>
    .inr ⟨')', [], by decide, rfl⟩
  have harray : Line.split "array(" = ["array", "("] := by decide
  have hcomma : Line.split "," = [","] := by decide
  have hclosing : Line.split ")" = [")"] := by decide
  rw [text_ofContent, toLine_ofLine, Line.split_append (hback _), Line.split_append (hfront _),
    Line.split_intercalate (d := ',') (by decide) (by decide), hslots, harray, hcomma, hclosing,
    Line.compact]
  rfl

end Token

/-! ## The first pass -/

namespace Line.Part

/-- The token that a part becomes. -/
def token : Part → Token
  | .word text => .word text
  | .literal content => Token.ofContent (Token.ofLine content)
  | .unclosed content => Token.ofContent (Token.ofLine content)

/-- The tokens that a part becomes in the shader. -/
def written : Part → Line
  | .word text => [text]
  | .literal content => "array" :: "(" :: (compact content ++ [")"])
  | .unclosed content => "array" :: "(" :: (compact content ++ [")"])

end Line.Part

namespace Dialect

open Line

/-! What the scan does at a word, one lemma for each of its branches. -/

theorem collapseFrom_opening (rest : List Token) :
    collapseFrom (.outside true) (.word "[" :: rest) = collapseFrom (.inside [] 0) rest := by
  simp [collapseFrom, Token.reads, Token.text]

theorem collapseFrom_closing (so rest : List Token) :
    collapseFrom (.inside so 0) (.word "]" :: rest)
      = Token.ofContent so :: collapseFrom (.outside false) rest := by
  simp [collapseFrom, Token.reads, Token.text]

theorem collapseFrom_deeper (so rest : List Token) (depth : Nat) :
    collapseFrom (.inside so depth) (.word "[" :: rest)
      = collapseFrom (.inside (so ++ [.word "["]) (depth + 1)) rest := by
  simp [collapseFrom, Token.reads, Token.text]

theorem collapseFrom_shallower (so rest : List Token) (depth : Nat) :
    collapseFrom (.inside so (depth + 1)) (.word "]" :: rest)
      = collapseFrom (.inside (so ++ [.word "]"]) depth) rest := by
  simp [collapseFrom, Token.reads, Token.text]

theorem collapseFrom_kept {token : String} (hopening : token ≠ "[") (hclosing : token ≠ "]")
    (so rest : List Token) (depth : Nat) :
    collapseFrom (.inside so depth) (.word token :: rest)
      = collapseFrom (.inside (so ++ [.word token]) depth) rest := by
  simp [collapseFrom, Token.reads, Token.text, hopening, hclosing]

/-- Inside a literal, a nested line is taken in as a whole. -/
theorem collapseFrom_inside {content : Line} (h : Nested content) (so : List Token) (depth : Nat)
    (rest : List Token) :
    collapseFrom (.inside so depth) (Token.ofLine content ++ rest)
      = collapseFrom (.inside (so ++ Token.ofLine content) depth) rest := by
  induction h generalizing so depth rest with
  | nil => simp [Token.ofLine]
  | other hopening hclosing hmore ih =>
    rw [Token.ofLine_cons, List.cons_append, collapseFrom_kept hopening hclosing, ih]
    simp
  | pair hinside hmore ihInside ih =>
    -- one deeper for the inside, and back again at its bracket
    rw [Token.ofLine_cons, Token.ofLine_append, Token.ofLine_cons, List.cons_append, List.append_assoc,
      List.cons_append, collapseFrom_deeper, ihInside, collapseFrom_shallower, ih]
    simp

/-- A literal that is never closed takes in the rest of the line. The depth of the scan is the one behind
what it has taken in so far, so at a bracket that closes the literal this would be nested. -/
theorem collapseFrom_unclosed {content front back : Line} {depth : Nat}
    (hopen : ∀ inside rest, content = inside ++ "]" :: rest → ¬ Nested inside)
    (hcontent : content = front ++ back) (hdepth : depthAfter? 0 front = some depth) :
    collapseFrom (.inside (Token.ofLine front) depth) (Token.ofLine back)
      = [Token.ofContent (Token.ofLine content)] := by
  induction back generalizing front depth with
  | nil =>
    rw [hcontent, List.append_nil]
    rfl
  | cons token back ih =>
    have hfront : content = (front ++ [token]) ++ back := by simpa using hcontent
    have hbehind : depthAfter? 0 (front ++ [token]) = depthAfter? depth [token] := by
      rw [depthAfter?_append, hdepth, Option.bind_some]
    have hofLine : Token.ofLine front ++ [.word token] = Token.ofLine (front ++ [token]) := by
      rw [Token.ofLine_append]
      rfl
    rw [Token.ofLine_cons]
    by_cases hopening : token = "["
    · subst hopening
      rw [collapseFrom_deeper, hofLine]
      exact ih hfront hbehind
    · by_cases hclosing : token = "]"
      · subst hclosing
        cases depth with
        | zero => exact absurd ((nested_iff front).mpr hdepth) (hopen front back hcontent)
        | succ depth =>
          rw [collapseFrom_shallower, hofLine]
          exact ih hfront (hbehind.trans (depthAfter?_closing depth []))
      · rw [collapseFrom_kept hopening hclosing, hofLine]
        exact ih hfront (hbehind.trans (depthAfter?_other hopening hclosing depth []))

/-- **The first pass.** It makes a token of every part of the line. -/
theorem collapseFrom_of_reads {afterEquals : Bool} {line : Line} {parts : List Part}
    (h : Reads afterEquals line parts) :
    collapseFrom (.outside afterEquals) (Token.ofLine line) = parts.map Part.token := by
  induction h with
  | nil => rfl
  | @word afterEquals token rest parts hplace hrest ih =>
    have hother : (afterEquals && (Token.word token).reads "[") = false := hplace
    rw [Token.ofLine_cons, collapseFrom, hother, List.map_cons, ← ih]
    rfl
  | literal hline hcontent hrest ih =>
    rw [hline, Token.ofLine_cons, Token.ofLine_append, Token.ofLine_cons, collapseFrom_opening,
      collapseFrom_inside hcontent, collapseFrom_closing, ih]
    rfl
  | unclosed hopen =>
    rw [Token.ofLine_cons, collapseFrom_opening]
    exact collapseFrom_unclosed hopen (List.nil_append _).symm rfl

end Dialect

end KernelShader
