/-
`Dialects.lean` -- where the two dialects write the same.

The legacy dialect finds the end of a literal and the parentheses of a `switch` by searching for the first
bracket of a kind, the current one by counting how deep brackets are nested. A line on which the two
searches end at the same places can be told by looking at it. Its first literal, if it has one, holds no
brackets and ends the line; and once that is collapsed, the first parentheses of the line are the ones
around what its first `switch` looks at, if it has one. `ReadsAlike` says this, and each of the two passes
is compared on its own half of it. Everything behind the passes is the same code in both dialects, so a
function whose lines are of this sort gives the same lines and the same table (`dialects_agree`).
-/
import KernelShader.Proofs.Generator.Replay
import KernelShader.Proofs.Generator.Passes
import KernelShader.Proofs.Generator.Factorisation

set_option autoImplicit false

namespace KernelShader

/-! ## Lines that read alike -/

namespace Line

/-- No array literal begins in the line, or the first one holds no square brackets and ends the line. -/
def LiteralLast (line : Line) : Prop :=
  ¬ ["=", "["] <:+: line ∨
    ∃ stretch content, LeadsIn stretch ∧ "[" ∉ content ∧ "]" ∉ content ∧
      line = stretch ++ "[" :: (content ++ ["]"])

/-- As many parentheses are closed as are opened, and never more up to any place in the line. What stands
between a parenthesis and the one that matches it by depth is of this sort. -/
def Balanced (line : Line) : Prop :=
  line.count "(" = line.count ")" ∧ ∀ front, front <+: line → front.count ")" ≤ front.count "("

instance (line : Line) : Decidable (Balanced line) :=
  decidable_of_iff
    (line.count "(" = line.count ")" ∧ ∀ front ∈ line.inits, front.count ")" ≤ front.count "(")
    (by simp only [Balanced, List.mem_inits])

/-- The line has no `switch`, or its first opening parenthesis stands directly behind the first `switch`
and its first closing one matches that. -/
def SwitchFirst (line : Line) : Prop :=
  "switch" ∉ line ∨
    ∃ front inside behind, line = front ++ "switch" :: "(" :: (inside ++ ")" :: behind) ∧
      "switch" ∉ front ∧ "(" ∉ front ∧ ")" ∉ front ∧ ")" ∉ inside ∧ Balanced inside

/-- The two dialects find the same literal and the same parentheses. -/
structure ReadsAlike (line : Line) : Prop where
  literal : LiteralLast line
  switch : SwitchFirst (Token.toLine (Dialect.collapseLiterals (Token.ofLine line)))

theorem nested_of_not_mem {line : Line} (hopening : "[" ∉ line) (hclosing : "]" ∉ line) :
    Nested line := by
  induction line with
  | nil => exact .nil
  | cons token line ih =>
    rw [List.mem_cons, not_or] at hopening hclosing
    exact .other (Ne.symm hopening.1) (Ne.symm hclosing.1) (ih hopening.2 hclosing.2)

/-- Up to the first closing parenthesis, balance means that none is opened. -/
theorem Balanced.not_mem {line : Line} (h : Balanced line) (hclosing : ")" ∉ line) : "(" ∉ line := by
  rw [← List.count_eq_zero, h.1, List.count_eq_zero]
  exact hclosing

end Line

theorem Token.reads_eq_false {tokens : List Token} {text : String} (h : text ∉ Token.toLine tokens) :
    ∀ t ∈ tokens, t.reads text = false := by
  intro t ht
  by_contra hreads
  have htext : t.text = text := text_of_reads (Bool.eq_true_of_not_eq_false hreads)
  exact h (htext ▸ List.mem_map_of_mem ht)

/-! ## Literals -/

namespace Dialect

open Line

/-- The legacy search goes past a stretch in which no literal begins. -/
theorem cutAtLiteral_append {front : List Token} {t : Token}
    (h : List.IsChain Token.Apart (front ++ [t])) (rest : List Token) :
    cutAtLiteral (front ++ t :: rest) = front ++ cutAtLiteral (t :: rest) := by
  have hstep : ∀ {a b : Token} (more : List Token), Token.Apart a b →
      cutAtLiteral (a :: b :: more) = a :: cutAtLiteral (b :: more) := by
    intro a b more hapart
    have hplace : ¬ (a.reads "=" && b.reads "[") = true := by
      simpa [Token.Apart, Token.reads] using hapart
    rw [cutAtLiteral, if_neg hplace]
  induction front with
  | nil => rfl
  | cons a front ih =>
    cases front with
    | nil => exact hstep rest (List.isChain_cons_cons.mp h).1
    | cons b front =>
      obtain ⟨hapart, hchain⟩ := List.isChain_cons_cons.mp h
      rw [List.cons_append, List.cons_append, hstep _ hapart, ← List.cons_append, ih hchain]
      rfl

theorem cutAtLiteral_eq_self {tokens : List Token} (h : ¬ ["=", "["] <:+: Token.toLine tokens) :
    cutAtLiteral tokens = tokens := by
  rcases List.eq_nil_or_concat tokens with rfl | ⟨front, last, rfl⟩
  · rfl
  · have hchain := Token.isChain_apart_iff.mpr h
    rw [List.concat_eq_append] at hchain ⊢
    exact cutAtLiteral_append hchain []

/-- Behind a stretch that leads in, the legacy dialect takes what is in front of the first bracket. -/
theorem cutAtLiteral_leadsIn {stretch : Line} (h : LeadsIn stretch) (rest : List Token) :
    cutAtLiteral (Token.ofLine stretch ++ .word "[" :: rest)
      = Token.ofLine stretch ++ [Token.ofContent (rest.takeWhile (!·.reads "]"))] := by
  obtain ⟨front, rfl⟩ := List.getLast?_eq_some_iff.mp h.last
  have hchain : List.IsChain Token.Apart (Token.ofLine front ++ [.word "="]) := by
    have hplain := h.plain
    rw [← Token.toLine_ofLine (front ++ ["="]), Token.ofLine_append] at hplain
    exact Token.isChain_apart_iff.mpr hplain
  have hplace : ((Token.word "=").reads "=" && (Token.word "[").reads "[") = true := by decide
  have hstretch : Token.ofLine (front ++ ["="]) = Token.ofLine front ++ [.word "="] :=
    Token.ofLine_append front ["="]
  rw [hstretch, List.append_assoc, List.singleton_append, cutAtLiteral_append hchain, cutAtLiteral,
    if_pos hplace, List.append_assoc, List.singleton_append]

/-- What stands in front of the first closing bracket. -/
theorem takeWhile_content {content : Line} (h : "]" ∉ content) (rest : List Token) :
    (Token.ofLine content ++ .word "]" :: rest).takeWhile (!·.reads "]") = Token.ofLine content := by
  have hall : ∀ t ∈ Token.ofLine content, (!t.reads "]") = true := by
    rw [← Token.toLine_ofLine content] at h
    intro t ht
    rw [Token.reads_eq_false h t ht]
    rfl
  have hstop : (Token.word "]" :: rest).takeWhile (!·.reads "]") = [] := by
    rw [List.takeWhile_cons_of_neg (by decide)]
  rw [List.takeWhile_append_of_pos hall, hstop, List.append_nil]

/-- **The first passes agree** where the first literal is flat and ends the line. -/
theorem cutAtLiteral_eq_collapseLiterals {line : Line} (h : LiteralLast line) :
    cutAtLiteral (Token.ofLine line) = collapseLiterals (Token.ofLine line) := by
  rcases h with hplain | ⟨stretch, content, hleads, hopening, hclosing, rfl⟩
  · have htokens : ¬ ["=", "["] <:+: Token.toLine (Token.ofLine line) := by rwa [Token.toLine_ofLine]
    rw [cutAtLiteral_eq_self htokens, collapseLiterals_eq_self htokens]
  · -- nothing is left behind the literal, so both end the line with it
    have hnothing : Factors [] (Token.ofLine []) := .words (by decide)
    have hfactors := Factors.literal hleads (nested_of_not_mem hopening hclosing) hnothing
    have hline : Token.ofLine (stretch ++ "[" :: (content ++ ["]"]))
        = Token.ofLine stretch ++ .word "[" :: (Token.ofLine content ++ [.word "]"]) := by
      rw [Token.ofLine_append, Token.ofLine_cons, Token.ofLine_append]
      rfl
    rw [collapseLiterals_of_factors hfactors, hline, cutAtLiteral_leadsIn hleads,
      takeWhile_content hclosing]
    rfl

/-! ## Parentheses -/

/-- Where no bracket of the kind is opened or closed in between, the next closing one is the partner. -/
theorem splitMatching?_flat {bracket : Bracket} {inside : List Token} {closing : Token}
    (hopening : bracket.opening ∉ Token.toLine inside)
    (hclosing : bracket.closing ∉ Token.toLine inside) (hpartner : closing.text = bracket.closing)
    (behind : List Token) :
    splitMatching? bracket 0 (inside ++ closing :: behind) = some (inside, behind) := by
  induction inside with
  | nil =>
    have hreads : closing.reads bracket.closing = true := beq_iff_eq.mpr hpartner
    rw [List.nil_append, splitMatching?.eq_def]
    simp only [hreads, if_true]
  | cons t inside ih =>
    have ht := Token.reads_eq_false hclosing t List.mem_cons_self
    have ht' := Token.reads_eq_false hopening t List.mem_cons_self
    rw [Token.toLine_cons, List.mem_cons, not_or] at hopening hclosing
    rw [List.cons_append, splitMatching?.eq_def]
    simp only [ht, ht', Bool.false_eq_true, if_false, ih hopening.2 hclosing.2, Option.map_some]

/-- The current search goes past tokens that are no `switch`. -/
theorem unwrapSwitch_skip {front : List Token} (h : "switch" ∉ Token.toLine front)
    (rest : List Token) : unwrapSwitch (front ++ rest) = front ++ unwrapSwitch rest := by
  induction front with
  | nil => rfl
  | cons t front ih =>
    rw [Token.toLine_cons, List.mem_cons, not_or] at h
    rw [List.cons_append, unwrapSwitch_cons (Ne.symm h.1), ih h.2]
    rfl

/-- The legacy search takes the first token of a text away, wherever it stands. -/
theorem eraseP_reads {front : List Token} {t : Token} {text : String}
    (hfront : text ∉ Token.toLine front) (ht : t.text = text) (rest : List Token) :
    (front ++ t :: rest).eraseP (·.reads text) = front ++ rest := by
  have hskip : ∀ u ∈ front, ¬ u.reads text = true := by
    intro u hu
    rw [Token.reads_eq_false hfront u hu]
    exact Bool.false_ne_true
  have hfound : t.reads text = true := beq_iff_eq.mpr ht
  have hhere : (t :: rest).eraseP (·.reads text) = rest := by simp [hfound]
  rw [List.eraseP_append_right _ hskip, hhere]

/-- **The second passes agree** where the first parentheses are those of the first `switch`. -/
theorem dropFirstParentheses_eq_unwrapSwitch {tokens : List Token}
    (h : SwitchFirst (Token.toLine tokens)) : dropFirstParentheses tokens = unwrapSwitch tokens := by
  rcases h with hnone | ⟨front, inside, behind, htokens, hswitch, hopening, hclosing, hinside, hbalanced⟩
  · have hany : ¬ tokens.any (·.reads "switch") = true := by
      rw [List.any_eq_true]
      rintro ⟨t, ht, hreads⟩
      rw [Token.reads_eq_false hnone t ht] at hreads
      exact Bool.false_ne_true hreads
    have hself : unwrapSwitch tokens = tokens :=
      unwrapSwitch_eq_self fun t ht htext => hnone (htext ▸ List.mem_map_of_mem ht)
    rw [dropFirstParentheses, if_neg hany, hself]
  · -- the line is the one of some tokens, and each piece of it belongs to a piece of them
    obtain ⟨front, switched, rfl, rfl, hswitched⟩ := List.map_eq_append_iff.mp htokens
    obtain ⟨s, wrapped, rfl, hs, hwrapped⟩ := List.map_eq_cons_iff.mp hswitched
    obtain ⟨p, opened, rfl, hp, hopened⟩ := List.map_eq_cons_iff.mp hwrapped
    obtain ⟨inside, closed, rfl, rfl, hclosed⟩ := List.map_eq_append_iff.mp hopened
    obtain ⟨c, behind, rfl, hc, rfl⟩ := List.map_eq_cons_iff.mp hclosed
    have hunwrapped : unwrapSwitch (front ++ s :: p :: (inside ++ c :: behind))
        = front ++ s :: (inside ++ behind) := by
      have hplace : (s.reads "switch" && p.reads "(") = true := by simp [Token.reads, hs, hp]
      have hflat : Bracket.round.opening ∉ Token.toLine inside := hbalanced.not_mem hinside
      have hfound : splitMatching? .round 0 (inside ++ c :: behind) = some (inside, behind) :=
        splitMatching?_flat hflat hinside hc behind
      rw [unwrapSwitch_skip hswitch, unwrapSwitch, if_pos hplace, hfound]
      rfl
    have hany : (front ++ s :: p :: (inside ++ c :: behind)).any (·.reads "switch") = true := by
      rw [List.any_eq_true]
      exact ⟨s, by simp, beq_iff_eq.mpr hs⟩
    -- up to the parentheses there is only the `switch` besides what is known to hold none
    have hfirst : (front ++ s :: p :: (inside ++ c :: behind)).eraseP (·.reads "(")
        = front ++ s :: (inside ++ c :: behind) := by
      have hnotOpening : "(" ∉ Token.toLine (front ++ [s]) := by
        simpa [Token.toLine, hs] using hopening
      simpa using eraseP_reads hnotOpening hp (inside ++ c :: behind)
    have hsecond : (front ++ s :: (inside ++ c :: behind)).eraseP (·.reads ")")
        = front ++ s :: (inside ++ behind) := by
      have hnotClosing : ")" ∉ Token.toLine (front ++ s :: inside) := by
        simpa [Token.toLine, hs] using And.intro hclosing hinside
      simpa using eraseP_reads hnotClosing hc behind
    rw [dropFirstParentheses, if_pos hany, hfirst, hsecond, hunwrapped]

end Dialect

/-! ## Whole functions -/

namespace Generator

open Line

theorem prepare_legacy {line : Line} (h : ReadsAlike line) :
    Dialect.prepare .legacy (Token.ofLine line) = Dialect.prepare .current (Token.ofLine line) := by
  calc Dialect.prepare .legacy (Token.ofLine line)
      = Dialect.dropNamespace
          (Dialect.dropFirstParentheses (Dialect.cutAtLiteral (Token.ofLine line))) := rfl
    _ = Dialect.dropNamespace
          (Dialect.dropFirstParentheses (Dialect.collapseLiterals (Token.ofLine line))) := by
        rw [Dialect.cutAtLiteral_eq_collapseLiterals h.literal]
    _ = Dialect.dropNamespace
          (Dialect.unwrapSwitch (Dialect.collapseLiterals (Token.ofLine line))) := by
        rw [Dialect.dropFirstParentheses_eq_unwrapSwitch h.switch]
    _ = Dialect.prepare .current (Token.ofLine line) := rfl

/-- The line goes through the passes: it is neither a lone token nor a directive. -/
def isPrepared (line : Line) : Bool := line.length != 1 && !line.any isDirective

/-- The body lines of a function that go through the passes. They are what stands behind the brace of the
declaration, be it nothing, and the lines below it. There are none if the declaration cannot be written. -/
def preparedLines (role : Role) (types : TypeTable) : List Line → List Line
  | [] => []
  | first :: rest =>
    match Declaration.parse first with
    | .error _ => []
    | .ok declaration =>
      match headText role types declaration with
      | .error _ => []
      | .ok _ => (declaration.tail.drop 1 :: rest).filter isPrepared

theorem prepared?_legacy {line : Line} (h : isPrepared line = true → ReadsAlike line) :
    prepared? .legacy line = prepared? .current line := by
  unfold prepared?
  by_cases hprepared : isPrepared line = true
  · rw [prepare_legacy (h hprepared)]
  · have hskipped : (line.length = 1 || line.any isDirective) = true := by
      simpa [isPrepared, or_iff_not_imp_left] using hprepared
    rw [if_pos hskipped, if_pos hskipped]

/-- A dialect reaches a body line through its passes only. -/
theorem bodyLine_legacy {line : Line} (h : isPrepared line = true → ReadsAlike line) (phase : Phase)
    (types : TypeTable) : bodyLine .legacy phase types line = bodyLine .current phase types line := by
  simp only [bodyLine, bodyText, bodyTypes, prepared?_legacy h]

theorem writeLine_legacy {line : Line} (h : isPrepared line = true → ReadsAlike line) (phase : Phase)
    (types : TypeTable) : writeLine .legacy phase types line = writeLine .current phase types line := by
  simp only [writeLine, bodyLine_legacy h, lineNames, prepared?_legacy h]

/-- By induction on the lines. Equal first lines leave equal tables for the rest to start with. -/
theorem writeLines_legacy {lines : List Line}
    (h : ∀ line ∈ lines, isPrepared line = true → ReadsAlike line) (phase : Phase) (types : TypeTable) :
    writeLines .legacy phase types lines = writeLines .current phase types lines := by
  induction lines generalizing types with
  | nil => rfl
  | cons line rest ih =>
    have hline := writeLine_legacy (h line List.mem_cons_self) phase types
    have hrest := ih (fun next hnext => h next (List.mem_cons_of_mem line hnext))
    simp only [writeLines, hline, hrest]

theorem writeTail_legacy {tail : Line} (h : isPrepared (tail.drop 1) = true → ReadsAlike (tail.drop 1))
    (phase : Phase) (types : TypeTable) :
    writeTail .legacy phase types tail = writeTail .current phase types tail := by
  rcases tail with _ | ⟨token, _ | ⟨second, rest⟩⟩
  · rfl
  · rfl
  · have hline : writeLine .legacy phase types (second :: rest)
        = writeLine .current phase types (second :: rest) := writeLine_legacy h phase types
    simp only [writeTail, hline]

/-- **The dialects agree** on every function whose lines read alike, with whatever table and in whichever
phase: they write the same lines and leave the same table, or they fail for the same reason. -/
theorem dialects_agree (phase : Phase) (role : Role) (types : TypeTable) (lines : List Line)
    (h : ∀ line ∈ preparedLines role types lines, ReadsAlike line) :
    generate .legacy phase role types lines = generate .current phase role types lines := by
  cases lines with
  | nil => rfl
  | cons first rest =>
    simp only [preparedLines] at h
    cases hparse : Declaration.parse first with
    | error fault => simp only [generate, declarationLine, hparse, bind, Except.bind]
    | ok declaration =>
      cases hhead : headText role types declaration with
      | error fault => simp only [generate, declarationLine, hparse, hhead, bind, Except.bind]
      | ok head =>
        -- both dialects get to the body, each with its own tail of the declaration line
        simp only [hparse, hhead, List.mem_filter, and_imp, List.forall_mem_cons] at h
        obtain ⟨htail, hbody⟩ := h
        have hline : ∀ dialect, declarationLine dialect phase role types first
            = (writeTail dialect phase types declaration.tail).map fun tail =>
              (head ++ tail.1, tail.2) := by
          intro dialect
          rw [declarationLine, hparse]
          simp only [bind, Except.bind, hhead]
          rfl
        simp only [generate, hline, writeTail_legacy htail, writeLines_legacy hbody]

/-- A function with a literal behind its brace, a directive, and a `switch` and a literal on one line. -/
def switchingLines : List Line :=
  ["function pick(x) \x7b let v = [1, x]", "'use strict'", "switch (x) \x7b case 0: let w = [v, 2]",
    "Math.max(x, (1))", "\x7d", "\x7d"].map split

theorem switchingLines_agree :
    preparedLines (.helper none) ⟨[("x", .f32)]⟩ switchingLines
        = [split "let v = [1, x]", split "switch (x) \x7b case 0: let w = [v, 2]",
          split "Math.max(x, (1))"] ∧
      generate .legacy .infer (.helper none) ⟨[("x", .f32)]⟩ switchingLines
        = generate .current .infer (.helper none) ⟨[("x", .f32)]⟩ switchingLines := by
  have hlines : preparedLines (.helper none) ⟨[("x", .f32)]⟩ switchingLines
      = [split "let v = [1, x]", split "switch (x) \x7b case 0: let w = [v, 2]",
        split "Math.max(x, (1))"] := by
    decide
  have hliteral : ReadsAlike (split "let v = [1, x]") := by
    refine ⟨.inr ⟨["let", "v", "="], ["1", ",", "x"], ⟨rfl, by decide⟩, by decide, by decide, by decide⟩, ?_⟩
    exact .inl (by decide)
  have hswitch : ReadsAlike (split "switch (x) \x7b case 0: let w = [v, 2]") := by
    refine ⟨.inr ⟨["switch", "(", "x", ")", "\x7b", "case", "0:", "let", "w", "="], ["v", ",", "2"],
      ⟨rfl, by decide⟩, by decide, by decide, by decide⟩, ?_⟩
    exact .inr ⟨[], ["x"], ["\x7b", "case", "0:", "let", "w", "=", "array(v,2)"], by decide, by decide,
      by decide, by decide, by decide, by decide⟩
  have hplain : ReadsAlike (split "Math.max(x, (1))") := ⟨.inl (by decide), .inl (by decide)⟩
  refine ⟨hlines, dialects_agree .infer (.helper none) ⟨[("x", .f32)]⟩ switchingLines ?_⟩
  rw [hlines]
  simpa using ⟨hliteral, hswitch, hplain⟩

end Generator

end KernelShader
