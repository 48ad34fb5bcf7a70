/-
`Nesting.lean` -- square brackets that match, and the array literals of a line.

Which brackets of a line belong together is said here without a scan. `Nested` builds lines whose square
brackets match; a bracket is matched by the first closing one with a nested line in between, and there is
at most one such (`Nested.eq_of_append`). With that a line is a row of parts: words, and array literals,
which are what stands directly behind `=` in brackets that match. A literal whose bracket is never matched
reaches to the end of the line. Every line has exactly one reading of this kind (`existsUnique_reads`).
-/
import Mathlib.Logic.ExistsUnique
import KernelShader.Line

set_option autoImplicit false

namespace KernelShader.Line

/-! ## Nested lines -/

/-- The square brackets of the line match. -/
inductive Nested : Line → Prop where
  | nil : Nested []
  | other {token : String} {rest : Line} (hopening : token ≠ "[") (hclosing : token ≠ "]")
      (hrest : Nested rest) : Nested (token :: rest)
  | pair {inside rest : Line} (hinside : Nested inside) (hrest : Nested rest) :
      Nested ("[" :: (inside ++ "]" :: rest))

/-- The number of brackets that are open behind a line if `depth` are open in front of it, `none` if the
line closes one that is not open. -/
def depthAfter? : Nat → Line → Option Nat
  | depth, [] => some depth
  | depth, token :: rest =>
    if token = "[" then depthAfter? (depth + 1) rest
    else if token = "]" then
      match depth with
      | 0 => none
      | depth + 1 => depthAfter? depth rest
    else depthAfter? depth rest

@[simp] theorem depthAfter?_opening (depth : Nat) (rest : Line) :
    depthAfter? depth ("[" :: rest) = depthAfter? (depth + 1) rest := by
  simp [depthAfter?]

@[simp] theorem depthAfter?_closing (depth : Nat) (rest : Line) :
    depthAfter? (depth + 1) ("]" :: rest) = depthAfter? depth rest := by
  simp [depthAfter?]

@[simp] theorem depthAfter?_closing_zero (rest : Line) : depthAfter? 0 ("]" :: rest) = none := by
  simp [depthAfter?]

theorem depthAfter?_other {token : String} (hopening : token ≠ "[") (hclosing : token ≠ "]")
    (depth : Nat) (rest : Line) : depthAfter? depth (token :: rest) = depthAfter? depth rest := by
  simp [depthAfter?, hopening, hclosing]

theorem Nested.append {front back : Line} (hfront : Nested front) (hback : Nested back) :
    Nested (front ++ back) := by
  induction hfront with
  | nil => exact hback
  | other hopening hclosing hrest ih => exact .other hopening hclosing ih
  | pair hinside hrest ihInside ih =>
    rw [List.cons_append, List.append_assoc, List.cons_append]
    exact .pair hinside ih

theorem depthAfter?_append (depth : Nat) (front back : Line) :
    depthAfter? depth (front ++ back) = (depthAfter? depth front).bind (depthAfter? · back) := by
  induction front generalizing depth with
  | nil => rfl
  | cons token rest ih =>
    by_cases hopening : token = "["
    · subst hopening
      rw [List.cons_append, depthAfter?_opening, depthAfter?_opening, ih]
    · by_cases hclosing : token = "]"
      · subst hclosing
        cases depth with
        | zero => rfl
        | succ depth => rw [List.cons_append, depthAfter?_closing, depthAfter?_closing, ih]
      · rw [List.cons_append, depthAfter?_other hopening hclosing, depthAfter?_other hopening hclosing, ih]

/-- A nested line leaves the depth as it is. -/
theorem Nested.depthAfter?_eq {line : Line} (h : Nested line) (depth : Nat) :
    depthAfter? depth line = some depth := by
  induction h generalizing depth with
  | nil => rfl
  | other hopening hclosing hrest ih => rw [depthAfter?_other hopening hclosing, ih]
  | pair hinside hrest ihInside ih =>
    rw [depthAfter?_opening, depthAfter?_append, ihInside, Option.bind_some, depthAfter?_closing, ih]

/-- The line closes so many brackets that are open in front of it, and is nested in between. -/
def Closes : Nat → Line → Prop
  | 0, line => Nested line
  | depth + 1, line => ∃ inside rest, line = inside ++ "]" :: rest ∧ Nested inside ∧ Closes depth rest

theorem Closes.append {front back : Line} {depth : Nat} (hfront : Nested front)
    (h : Closes depth back) : Closes depth (front ++ back) := by
  cases depth with
  | zero => exact hfront.append h
  | succ depth =>
    obtain ⟨inside, rest, rfl, hinside, hrest⟩ := h
    exact ⟨front ++ inside, rest, (List.append_assoc ..).symm, hfront.append hinside, hrest⟩

theorem closes_of_depthAfter? {depth : Nat} {line : Line} (h : depthAfter? depth line = some 0) :
    Closes depth line := by
  induction line generalizing depth with
  | nil =>
    have hdepth : depth = 0 := Option.some.inj h
    subst hdepth
    exact .nil
  | cons token rest ih =>
    by_cases hopening : token = "["
    · -- what the rest closes first is this bracket
      subst hopening
      obtain ⟨inside, behind, rfl, hinside, hbehind⟩ := ih ((depthAfter?_opening depth rest).symm.trans h)
      have hpair : Nested ("[" :: (inside ++ ["]"])) := .pair hinside .nil
      have hclosed := Closes.append hpair hbehind
      simpa using hclosed
    · by_cases hclosing : token = "]"
      · subst hclosing
        cases depth with
        | zero => simp at h
        | succ depth => exact ⟨[], rest, rfl, .nil, ih ((depthAfter?_closing depth rest).symm.trans h)⟩
      · rw [depthAfter?_other hopening hclosing] at h
        exact Closes.append (.other hopening hclosing .nil) (ih h)

/-- Whether brackets match can be counted. -/
theorem nested_iff (line : Line) : Nested line ↔ depthAfter? 0 line = some 0 := by
  constructor
  · intro h
    exact h.depthAfter?_eq 0
  · intro h
    exact closes_of_depthAfter? h

instance (line : Line) : Decidable (Nested line) := decidable_of_iff _ (nested_iff line).symm

theorem Nested.not_closing {inside : Line} (h : Nested inside) (rest : Line) :
    ¬ Nested (inside ++ "]" :: rest) := by
  rw [nested_iff, depthAfter?_append, h.depthAfter?_eq, Option.bind_some, depthAfter?_closing_zero]
  simp

/-- **The matching bracket is unique.** -/
theorem Nested.eq_of_append {inside rest inside' rest' : Line} (h : Nested inside)
    (h' : Nested inside') (heq : inside ++ "]" :: rest = inside' ++ "]" :: rest') :
    inside = inside' ∧ rest = rest' := by
  rcases List.append_eq_append_iff.mp heq with ⟨more, rfl, hrest⟩ | ⟨more, rfl, hrest⟩
  · cases more with
    | nil => simpa using hrest
    | cons token more =>
      -- the longer of the two would go beyond the bracket that ends the shorter
      obtain ⟨rfl, -⟩ := List.cons_eq_cons.mp hrest
      exact absurd h' (h.not_closing more)
  · cases more with
    | nil => simpa using hrest.symm
    | cons token more =>
      obtain ⟨rfl, -⟩ := List.cons_eq_cons.mp hrest
      exact absurd h (h'.not_closing more)

/-! ## The parts of a line -/

/-- A part of a line: a token of its own, an array literal with what its brackets enclose, or one whose
bracket is not closed. -/
inductive Part where
  | word (token : String)
  | literal (content : Line)
  | unclosed (content : Line)
  deriving DecidableEq, Repr

namespace Part

/-- The tokens of a part. -/
def source : Part → Line
  | .word token => [token]
  | .literal content => "[" :: (content ++ ["]"])
  | .unclosed content => "[" :: content

/-- What stands in the brackets of a literal. -/
def content : Part → Line
  | .word _ => []
  | .literal content => content
  | .unclosed content => content

/-- The tokens of a part with a literal as the shader writes it. -/
def shader : Part → Line
  | .word token => [token]
  | .literal content => "array" :: "(" :: (content ++ [")"])
  | .unclosed content => "array" :: "(" :: (content ++ [")"])

end Part

/-- The line falls into these parts. Literals are taken from left to right, and only where they stand
directly behind `=`; the flag says whether the line follows one. -/
inductive Reads : Bool → Line → List Part → Prop where
  | nil (afterEquals : Bool) : Reads afterEquals [] []
  | word {afterEquals : Bool} {token : String} {rest : Line} {parts : List Part}
      (hplace : (afterEquals && token == "[") = false) (hrest : Reads (token == "=") rest parts) :
      Reads afterEquals (token :: rest) (.word token :: parts)
  | literal {line content rest : Line} {parts : List Part} (hline : line = content ++ "]" :: rest)
      (hcontent : Nested content) (hrest : Reads false rest parts) :
      Reads true ("[" :: line) (.literal content :: parts)
  | unclosed {content : Line}
      (hopen : ∀ inside rest, content = inside ++ "]" :: rest → ¬ Nested inside) :
      Reads true ("[" :: content) [.unclosed content]

theorem exists_reads (afterEquals : Bool) (line : Line) : ∃ parts, Reads afterEquals line parts := by
  induction hlength : line.length using Nat.strongRecOn generalizing afterEquals line with
  | ind length ih =>
    cases line with
    | nil => exact ⟨[], .nil afterEquals⟩
    | cons token rest =>
      by_cases hplace : (afterEquals && token == "[") = true
      · obtain ⟨rfl, htoken⟩ := Bool.and_eq_true_iff.mp hplace
        obtain rfl : token = "[" := eq_of_beq htoken
        by_cases hclosed : ∃ content behind, rest = content ++ "]" :: behind ∧ Nested content
        · obtain ⟨content, behind, rfl, hcontent⟩ := hclosed
          obtain ⟨parts, hparts⟩ := ih behind.length (by simp at hlength; omega) false behind rfl
          exact ⟨_, .literal rfl hcontent hparts⟩
        · refine ⟨_, .unclosed fun inside behind hrest hinside => ?_⟩
          exact hclosed ⟨inside, behind, hrest, hinside⟩
      · obtain ⟨parts, hparts⟩ := ih rest.length (by simp at hlength; omega) (token == "=") rest rfl
        exact ⟨_, .word (by simpa using hplace) hparts⟩

namespace Reads

theorem unique {afterEquals : Bool} {line : Line} {parts others : List Part}
    (h : Reads afterEquals line parts) (hothers : Reads afterEquals line others) : parts = others := by
  induction h generalizing others with
  | nil => cases hothers; rfl
  | word hplace hrest ih =>
    cases hothers with
    | word _ hother => rw [ih hother]
    | literal => simp at hplace
    | unclosed => simp at hplace
  | literal hline hcontent hrest ih =>
    cases hothers with
    | word hplace => simp at hplace
    | literal hline' hcontent' hother =>
      obtain ⟨rfl, rfl⟩ := hcontent.eq_of_append hcontent' (hline.symm.trans hline')
      rw [ih hother]
    | unclosed hopen => exact absurd hcontent (hopen _ _ hline)
  | unclosed hopen =>
    cases hothers with
    | word hplace => simp at hplace
    | literal hline hcontent => exact absurd hcontent (hopen _ _ hline)
    | unclosed => rfl

/-- Behind a line whose literals are closed, a line that does not begin with a bracket is read as it is on
its own. -/
theorem append_word {afterEquals : Bool} {front back : Line} {parts more : List Part}
    {next : String} (h : Reads afterEquals front parts)
    (hclosed : ∀ content, Part.unclosed content ∉ parts) (hnext : next ≠ "[")
    (hback : Reads (next == "=") back more) :
    Reads afterEquals (front ++ next :: back) (parts ++ .word next :: more) := by
  induction h with
  | nil afterEquals => exact .word (by simp [hnext]) hback
  | @word afterEquals token rest parts hplace hrest ih =>
    exact .word hplace (ih fun content hcontent => hclosed content (List.mem_cons_of_mem _ hcontent))
  | @literal line content rest parts hline hcontent hrest ih =>
    have hmore : line ++ next :: back = content ++ "]" :: (rest ++ next :: back) := by
      rw [hline, List.append_assoc]
      rfl
    exact .literal hmore hcontent
      (ih fun content hcontent => hclosed content (List.mem_cons_of_mem _ hcontent))
  | unclosed => exact absurd List.mem_cons_self (hclosed _)

/-- The parts are the line. -/
theorem source_eq {afterEquals : Bool} {line : Line} {parts : List Part}
    (h : Reads afterEquals line parts) : parts.flatMap Part.source = line := by
  induction h with
  | nil => rfl
  | word hplace hrest ih => rw [List.flatMap_cons, ih]; rfl
  | literal hline hcontent hrest ih =>
    rw [List.flatMap_cons, ih, hline]
    simp [Part.source]
  | unclosed hopen => simp [Part.source]

/-- Where all brackets match, every literal is closed. -/
theorem not_unclosed {afterEquals : Bool} {line : Line} {parts : List Part} {depth : Nat}
    (h : Reads afterEquals line parts) (hdepth : depthAfter? depth line = some 0) (content : Line) :
    Part.unclosed content ∉ parts := by
  induction h generalizing depth with
  | nil => exact List.not_mem_nil
  | @word afterEquals token rest parts hplace hrest ih =>
    -- whatever the token does to the depth, the rest starts from some depth
    have hrestDepth : ∃ behind, depthAfter? behind rest = some 0 := by
      by_cases hopening : token = "["
      · subst hopening
        exact ⟨_, (depthAfter?_opening depth rest).symm.trans hdepth⟩
      · by_cases hclosing : token = "]"
        · subst hclosing
          cases depth with
          | zero => simp at hdepth
          | succ depth => exact ⟨_, (depthAfter?_closing depth rest).symm.trans hdepth⟩
        · exact ⟨_, (depthAfter?_other hopening hclosing depth rest).symm.trans hdepth⟩
    obtain ⟨behind, hbehind⟩ := hrestDepth
    simpa using ih hbehind
  | literal hline hcontent hrest ih =>
    rw [hline, depthAfter?_opening, depthAfter?_append, hcontent.depthAfter?_eq, Option.bind_some,
      depthAfter?_closing] at hdepth
    simpa using ih hdepth
  | unclosed hopen =>
    rw [depthAfter?_opening] at hdepth
    obtain ⟨inside, rest, hcontent, hinside, -⟩ := closes_of_depthAfter? hdepth
    exact absurd hinside (hopen inside rest hcontent)

end Reads

/-- **Every line has one reading.** -/
theorem existsUnique_reads (line : Line) : ∃! parts, Reads false line parts := by
  obtain ⟨parts, hparts⟩ := exists_reads false line
  exact ⟨parts, hparts, fun others hothers => hothers.unique hparts⟩

end KernelShader.Line
