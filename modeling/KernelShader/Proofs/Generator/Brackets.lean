/-
`Brackets.lean` -- brackets on their way from a source line to a shader line.

The surplus of a text is how many more brackets of a kind it opens than it closes. It adds up over texts
that stand in a row, and writing a line puts nothing with brackets between tokens, so the surplus of a
line is that of its tokens (`surplus_join`). Of the three passes, two take away what has no surplus: a
parenthesis with its partner, a qualifier with its point. The third writes `array( .. )` for `[ .. ]`,
which is even for both kinds as long as the literal is closed. A literal that ends with the line loses a
bracket (`weight_collapseLiterals`), and that is all that can happen to the brackets of a body line.
-/
import Mathlib.Tactic.Ring
import KernelShader.Proofs.Declaration
import KernelShader.Proofs.Line
import KernelShader.Proofs.Transcript
import KernelShader.Proofs.Generator.Passes
import KernelShader.Proofs.Generator.Variation

set_option autoImplicit false

namespace KernelShader

open Text

/-! ## The surplus of a text -/

namespace Bracket

/-- The opening mark as a character. -/
def openingChar : Bracket → Char
  | .round => '('
  | .square => '['

/-- The closing mark as a character. -/
def closingChar : Bracket → Char
  | .round => ')'
  | .square => ']'

/-- How many more brackets are opened than closed. -/
def surplusOf (b : Bracket) (cs : List Char) : Int :=
  (cs.count b.openingChar : Int) - cs.count b.closingChar

/-- The surplus of a text. -/
def surplus (b : Bracket) (text : String) : Int := b.surplusOf text.toList

/-- The surplus of the tokens of a line together. -/
def weight (b : Bracket) (line : Line) : Int := (line.map b.surplus).sum

variable (b : Bracket)

theorem surplusOf_append (cs ds : List Char) :
    b.surplusOf (cs ++ ds) = b.surplusOf cs + b.surplusOf ds := by
  unfold surplusOf
  rw [List.count_append, List.count_append]
  omega

theorem isDelimiter_openingChar : Line.isDelimiter b.openingChar = true := by
  cases b with
  | round => rfl
  | square => rfl

theorem isDelimiter_closingChar : Line.isDelimiter b.closingChar = true := by
  cases b with
  | round => rfl
  | square => rfl

theorem surplusOf_of_free {cs : List Char} (h : ∀ c ∈ cs, Line.isDelimiter c = false) :
    b.surplusOf cs = 0 := by
  have hopening : cs.count b.openingChar = 0 := by
    refine List.count_eq_zero.mpr fun hmem => ?_
    exact absurd (h _ hmem) (by simp [isDelimiter_openingChar])
  have hclosing : cs.count b.closingChar = 0 := by
    refine List.count_eq_zero.mpr fun hmem => ?_
    exact absurd (h _ hmem) (by simp [isDelimiter_closingChar])
  rw [surplusOf, hopening, hclosing]
  rfl

theorem surplus_append (s t : String) : b.surplus (s ++ t) = b.surplus s + b.surplus t := by
  rw [surplus, String.toList_append, surplusOf_append, surplus, surplus]

theorem surplus_of_free {s : String} (h : ∀ c ∈ s.toList, Line.isDelimiter c = false) :
    b.surplus s = 0 := surplusOf_of_free b h

theorem surplus_of_all {s : String} (h : s.toList.all (fun c => !Line.isDelimiter c) = true) :
    b.surplus s = 0 := by
  refine surplus_of_free b fun c hc => ?_
  simpa using List.all_eq_true.mp h c hc

theorem surplus_comma : b.surplus "," = 0 := by
  cases b with
  | round => decide
  | square => decide

@[simp] theorem weight_nil : b.weight [] = 0 := rfl

@[simp] theorem weight_cons (token : String) (line : Line) :
    b.weight (token :: line) = b.surplus token + b.weight line := by
  simp [weight]

@[simp] theorem weight_append (line more : Line) :
    b.weight (line ++ more) = b.weight line + b.weight more := by
  simp [weight]

/-- A token that is a delimiter or holds none counts as a whole. -/
theorem surplus_of_isPiece {token : String} (h : Line.IsPiece token.toList) :
    b.surplus token
      = (if token = b.opening then 1 else 0) - (if token = b.closing then 1 else 0) := by
  have hopening : token = b.opening ↔ token.toList = [b.openingChar] := by
    rw [← String.toList_inj]
    cases b with
    | round => rfl
    | square => rfl
  have hclosing : token = b.closing ↔ token.toList = [b.closingChar] := by
    rw [← String.toList_inj]
    cases b with
    | round => rfl
    | square => rfl
  rcases h with ⟨c, -, hc⟩ | hfree
  · rw [surplus, surplusOf, hc]
    simp only [hopening, hclosing, hc, List.cons.injEq, and_true, List.count_singleton, beq_iff_eq]
    split_ifs
    all_goals rfl
  · have hne : ∀ d, Line.isDelimiter d = true → token.toList ≠ [d] := by
      intro d hd heq
      rw [heq] at hfree
      simp [hfree d (List.mem_singleton_self d)] at hd
    rw [surplus_of_free b hfree, if_neg (mt hopening.mp (hne _ (isDelimiter_openingChar b))),
      if_neg (mt hclosing.mp (hne _ (isDelimiter_closingChar b)))]
    rfl

/-- Brackets among the tokens of a line are brackets among its characters. -/
theorem weight_eq_count {line : Line} (h : ∀ token ∈ line, Line.IsPiece token.toList) :
    b.weight line = (line.count b.opening : Int) - line.count b.closing := by
  induction line with
  | nil => rfl
  | cons token rest ih =>
    obtain ⟨htoken, hrest⟩ := List.forall_mem_cons.mp h
    rw [weight_cons, ih hrest, surplus_of_isPiece b htoken, List.count_cons, List.count_cons]
    simp only [beq_iff_eq]
    split_ifs
    all_goals omega

/-! ### Writing a line -/

/-- Blanks have no surplus, so it does not matter whether they are dropped. -/
theorem surplusOf_trimRight (cs : List Char) : b.surplusOf (trimRight cs) = b.surplusOf cs := by
  obtain ⟨blanks, hsplit, hblank⟩ := Line.exists_blanks cs
  have hfree : b.surplusOf blanks = 0 := by
    refine surplusOf_of_free b fun c hc => ?_
    exact Line.isDelimiter_eq_false (p := isBlank) (by decide) (hblank c hc)
  rw [← hsplit, surplusOf_append, hfree, hsplit]
  omega

theorem surplusOf_spread (tokens : List (List Char)) :
    b.surplusOf (Line.spread tokens) = (tokens.map b.surplusOf).sum := by
  have hblank : b.surplusOf [' '] = 0 := by
    cases b with
    | round => rfl
    | square => rfl
  fun_induction Line.spread tokens with
  | case1 => rfl
  | case2 => simp
  | case3 t h => simp [surplusOf_append, hblank]
  | case4 t u ts ih =>
    have hsum : ((t :: u :: ts).map b.surplusOf).sum
        = b.surplusOf t + ((u :: ts).map b.surplusOf).sum := by simp
    rw [surplusOf_append, ih, hsum]
    split_ifs
    · rfl
    · rw [surplusOf_append, hblank, Int.add_zero]

/-- **Writing a line.** -/
theorem surplus_join (line : Line) : b.surplus (Line.join line) = b.weight line := by
  rw [surplus, Line.join, String.toList_ofList, surplusOf_trimRight, surplusOf_spread, List.map_map]
  rfl

/-- Putting texts in a row with something between them that has no surplus. -/
theorem surplus_intercalate {between : String} (h : b.surplus between = 0) (texts : List String) :
    b.surplus (between.intercalate texts) = b.weight texts := by
  induction texts with
  | nil => rfl
  | cons text rest ih =>
    cases rest with
    | nil => simp
    | cons second rest =>
      rw [String.intercalate_cons_cons, surplus_append, surplus_append, h, ih, weight_cons b text]
      omega

/-! ### Numbers and types -/

theorem surplus_repr (n : Nat) : b.surplus (Nat.repr n) = 0 := by
  refine surplus_of_free b fun c hc => ?_
  rw [Nat.toList_repr] at hc
  exact Line.isDelimiter_eq_false (p := Char.isDigit) (by decide)
    (Nat.isDigit_of_mem_toDigits (by decide) (by decide) hc)

theorem surplus_word (kind : ScalarKind) : b.surplus kind.word = 0 := by
  cases kind with
  | f32 => exact surplus_of_all b (by decide)
  | i32 => exact surplus_of_all b (by decide)
  | u32 => exact surplus_of_all b (by decide)

theorem surplus_type (type : ShaderType) : b.surplus type.text = 0 := by
  cases type with
  | scalar kind => exact surplus_word b kind
  | array element length positive =>
    have hfront : b.surplus "array<" = 0 := surplus_of_all b (by decide)
    have hback : b.surplus ">" = 0 := surplus_of_all b (by decide)
    have hlength : b.surplus (toString length) = 0 := surplus_repr b length
    rw [ShaderType.text, surplus_append, surplus_append, surplus_append, surplus_append, hfront,
      surplus_word, surplus_comma, hlength, hback]
    rfl

end Bracket

/-! ## Literals -/

namespace Token

variable (b : Bracket)

@[simp] theorem toLine_nil : toLine [] = [] := rfl

@[simp] theorem toLine_cons (t : Token) (ts : List Token) : toLine (t :: ts) = t.text :: toLine ts := rfl

@[simp] theorem toLine_append (ts us : List Token) : toLine (ts ++ us) = toLine ts ++ toLine us :=
  List.map_append

theorem toLine_ofLine (line : Line) : toLine (ofLine line) = line := by
  rw [toLine, ofLine, List.map_map]
  exact List.map_id line

/-- Cutting the content of a literal at its commas loses only the commas. -/
theorem weight_slots (content : List Token) :
    ((slots content).map fun slot => b.weight (toLine slot)).sum = b.weight (toLine content) := by
  induction content with
  | nil => rfl
  | cons t ts ih =>
    unfold slots
    by_cases h : t.reads "," = true
    · rw [if_pos h, toLine_cons, text_of_reads h, Bracket.weight_cons, Bracket.surplus_comma, ← ih]
      simp
    · rw [if_neg h, toLine_cons, Bracket.weight_cons, ← ih]
      cases slots ts with
      | nil => simp
      | cons first rest =>
        simp only [List.map_cons, List.sum_cons, toLine_cons, Bracket.weight_cons]
        omega

/-- **Writing a literal.** It has the brackets of its content. -/
theorem surplus_ofContent (content : List Token) :
    b.surplus (ofContent content).text = b.weight (toLine content) := by
  have hparentheses : b.surplus "array(" + b.surplus ")" = 0 := by
    cases b with
    | round => decide
    | square => decide
  -- a slot that is not written is empty
  have hwritten : ∀ all : List (List Token),
      b.weight ((all.filter (!·.isEmpty)).map fun slot => Line.join (toLine slot))
        = (all.map fun slot => b.weight (toLine slot)).sum := by
    intro all
    induction all with
    | nil => rfl
    | cons slot rest ih =>
      cases slot with
      | nil => simpa using ih
      | cons t ts => simpa [Bracket.surplus_join] using ih
  rw [ofContent, text, Bracket.surplus_append, Bracket.surplus_append,
    Bracket.surplus_intercalate b (Bracket.surplus_comma b), hwritten, weight_slots]
  omega

end Token

namespace Dialect

variable (b : Bracket)

/-- How many brackets are open inside a literal after one more token. -/
def deeper (depth : Nat) (t : Token) : Nat :=
  if t.reads "]" then depth - 1 else if t.reads "[" then depth + 1 else depth

/-- Where a scan for literals stands after one more token. -/
def Scan.next : Scan → Token → Scan
  | .outside afterEquals, t =>
    if afterEquals && t.reads "[" then .inside [] 0 else .outside (t.reads "=")
  | .inside content depth, t =>
    if depth == 0 && t.reads "]" then .outside false else .inside (content ++ [t]) (deeper depth t)

/-- What a scan writes at a token. -/
def Scan.written : Scan → Token → List Token
  | .outside afterEquals, t => if afterEquals && t.reads "[" then [] else [t]
  | .inside content depth, t => if depth == 0 && t.reads "]" then [Token.ofContent content] else []

/-- What a scan has taken in and not yet written: an opening bracket and the content behind it. -/
def Scan.pending : Scan → Line
  | .outside _ => []
  | .inside content _ => "[" :: Token.toLine content

/-- The scan stands inside a literal. -/
def Scan.isInside : Scan → Bool
  | .outside _ => false
  | .inside _ _ => true

/-- The last literal of a line is not closed on it. -/
def leavesOpen (tokens : List Token) : Bool :=
  (tokens.foldl Scan.next (.outside false)).isInside

theorem collapseFrom_cons (scan : Scan) (t : Token) (ts : List Token) :
    collapseFrom scan (t :: ts) = scan.written t ++ collapseFrom (scan.next t) ts := by
  cases scan with
  | outside afterEquals =>
    rw [collapseFrom, Scan.next, Scan.written]
    split_ifs
    · rfl
    · rfl
  | inside content depth =>
    rw [Scan.next, Scan.written, deeper]
    -- only a closing bracket asks for the depth
    by_cases h : t.reads "]" = true
    · cases depth with
      | zero => simp [collapseFrom, h]
      | succ depth => simp [collapseFrom, h]
    · simp [collapseFrom, h]

/-- **One token.** What is written and what is still pending weigh what they did before and the token. -/
theorem weight_written (scan : Scan) (t : Token) :
    b.weight (Token.toLine (scan.written t)) + b.weight (scan.next t).pending
      = b.weight scan.pending + b.surplus t.text := by
  cases scan with
  | outside afterEquals =>
    rw [Scan.written, Scan.next]
    by_cases h : (afterEquals && t.reads "[") = true
    · rw [if_pos h, if_pos h, Token.text_of_reads (Bool.and_eq_true_iff.mp h).2]
      simp [Scan.pending]
    · rw [if_neg h, if_neg h]
      simp [Scan.pending]
  | inside content depth =>
    rw [Scan.written, Scan.next]
    by_cases h : (depth == 0 && t.reads "]") = true
    · -- the bracket that closes the literal makes up for the one that opened it
      have hclosing : b.surplus "]" = - b.surplus "[" := by
        cases b with
        | round => decide
        | square => decide
      rw [if_pos h, if_pos h, Token.text_of_reads (Bool.and_eq_true_iff.mp h).2, hclosing,
        Token.toLine_cons, Bracket.weight_cons, Token.surplus_ofContent]
      simp only [Scan.pending, Token.toLine_nil, Bracket.weight_nil, Bracket.weight_cons]
      omega
    · rw [if_neg h, if_neg h]
      simp only [Scan.pending, Token.toLine_nil, Token.toLine_cons, Token.toLine_append,
        Bracket.weight_nil, Bracket.weight_cons, Bracket.weight_append]
      omega

/-- **The first pass.** -/
theorem weight_collapseFrom (scan : Scan) (tokens : List Token) :
    b.weight (Token.toLine (collapseFrom scan tokens))
      = b.weight scan.pending + b.weight (Token.toLine tokens)
        - if (tokens.foldl Scan.next scan).isInside then b.surplus "[" else 0 := by
  induction tokens generalizing scan with
  | nil =>
    cases scan with
    | outside afterEquals => simp [collapseFrom, Scan.pending, Scan.isInside]
    | inside content depth =>
      -- a literal that is not closed is written at the end of the line without its opening bracket
      simp only [collapseFrom, Scan.pending, Scan.isInside, List.foldl_nil, Token.toLine_nil,
        Token.toLine_cons, Token.surplus_ofContent, Bracket.weight_nil, Bracket.weight_cons, if_true]
      omega
  | cons t ts ih =>
    have hstep := weight_written b scan t
    rw [collapseFrom_cons, Token.toLine_append, Bracket.weight_append, ih, Token.toLine_cons,
      Bracket.weight_cons, List.foldl_cons]
    omega

theorem weight_collapseLiterals (tokens : List Token) :
    b.weight (Token.toLine (collapseLiterals tokens))
      = b.weight (Token.toLine tokens) - if leavesOpen tokens then b.surplus "[" else 0 := by
  rw [collapseLiterals, weight_collapseFrom, leavesOpen, Scan.pending, Bracket.weight_nil,
    Int.zero_add]

/-! ### Parentheses and qualifiers -/

/-- **The second pass.** A parenthesis goes together with its partner. -/
theorem weight_unwrapSwitch (tokens : List Token) :
    b.weight (Token.toLine (unwrapSwitch tokens)) = b.weight (Token.toLine tokens) := by
  rcases unwrapSwitch_cases tokens with
    hsame | ⟨front, inside, behind, s, p, closing, -, hopening, hclosing, rfl, hresult⟩
  · rw [hsame]
  · have hpair : b.surplus "(" + b.surplus ")" = 0 := by
      cases b with
      | round => decide
      | square => decide
    simp only [hresult, Token.toLine_cons, Token.toLine_append, Bracket.weight_cons,
      Bracket.weight_append, hopening, hclosing]
    omega

/-- **The third pass.** -/
theorem weight_dropNamespace (tokens : List Token) :
    b.weight (Token.toLine (dropNamespace tokens)) = b.weight (Token.toLine tokens) := by
  fun_induction dropNamespace tokens with
  | case1 m p ts hqualifier ih =>
    have hname : b.surplus "Math" = 0 := Bracket.surplus_of_all b (by decide)
    have hpoint : b.surplus "." = 0 := by
      cases b with
      | round => decide
      | square => decide
    obtain ⟨hm, hp⟩ := Bool.and_eq_true_iff.mp hqualifier
    rw [ih, Token.toLine_cons, Token.toLine_cons, Bracket.weight_cons, Bracket.weight_cons,
      Token.text_of_reads hm, Token.text_of_reads hp, hname, hpoint]
    omega
  | case2 m p ts hother ih => simp only [Token.toLine_cons, Bracket.weight_cons, ih]
  | case3 => rfl

/-- **The passes together.** -/
theorem weight_prepare (tokens : List Token) :
    b.weight (Token.toLine (prepare .current tokens))
      = b.weight (Token.toLine tokens) - if leavesOpen tokens then b.surplus "[" else 0 := by
  have hpasses : prepare .current tokens = dropNamespace (unwrapSwitch (collapseLiterals tokens)) := rfl
  rw [hpasses, weight_dropNamespace, weight_unwrapSwitch, weight_collapseLiterals]

end Dialect

/-! ## Body lines -/

namespace Generator

variable (b : Bracket)

/-- What holds of the keywords holds of a keyword and of its word in the shader. -/
theorem of_keyword {p : String → Prop} {t : Token} {word : String} (h : keyword? t = some word)
    (hlet : p "let") (hvar : p "var") (hconst : p "const") : p t.text ∧ p word := by
  unfold keyword? at h
  split at h
  · rename_i htext
    rw [htext, ← Option.some.inj h]
    exact ⟨hlet, hvar⟩
  · rename_i htext
    rw [htext, ← Option.some.inj h]
    exact ⟨hvar, hvar⟩
  · rename_i htext
    rw [htext, ← Option.some.inj h]
    exact ⟨hconst, hlet⟩
  · simp at h

/-- A declaration keyword holds no brackets, in the source or in the shader. -/
theorem surplus_of_keyword {t : Token} {word : String} (h : keyword? t = some word) :
    b.surplus t.text = 0 ∧ b.surplus word = 0 := by
  have hlet : b.surplus "let" = 0 := Bracket.surplus_of_all b (by decide)
  have hvar : b.surplus "var" = 0 := Bracket.surplus_of_all b (by decide)
  have hconst : b.surplus "const" = 0 := Bracket.surplus_of_all b (by decide)
  exact of_keyword (p := fun text => b.surplus text = 0) h hlet hvar hconst

theorem surplus_typedName (key name : String) (type : ShaderType) :
    b.surplus (typedName key name type) = b.surplus key + b.surplus name := by
  have hblank : b.surplus " " = 0 := Bracket.surplus_of_all b (by decide)
  have hcolon : b.surplus ": " = 0 := Bracket.surplus_of_all b (by decide)
  rw [typedName, Bracket.surplus_append, Bracket.surplus_append, Bracket.surplus_append,
    Bracket.surplus_append, Bracket.surplus_type, hblank, hcolon]
  omega

/-- Writing keywords in the shader's words and adding types leaves the brackets alone. -/
theorem weight_withTypes (types : TypeTable) (tokens : List Token) :
    b.weight (withTypes types tokens) = b.weight (Token.toLine tokens) := by
  fun_induction withTypes types tokens with
  | case1 key name rest word hword type htype ih =>
    obtain ⟨hkey, hword⟩ := surplus_of_keyword b hword
    simp only [Token.toLine_cons, Bracket.weight_cons, surplus_typedName, hkey, hword, ih]
    omega
  | case2 key name rest word hword hnone ih =>
    obtain ⟨hkey, hword⟩ := surplus_of_keyword b hword
    rw [Bracket.weight_cons, ih, Token.toLine_cons key, Bracket.weight_cons, hkey, hword]
  | case3 key name rest hnone ih =>
    rw [Bracket.weight_cons, ih, Token.toLine_cons key, Bracket.weight_cons]
  | case4 t => rfl
  | case5 => rfl

/-- The tokens of a body line that are written: all of them, or none if there is a directive among
several. -/
def writtenTokens (line : Line) : Line :=
  if line.length != 1 && line.any isDirective then [] else line

/-- The line is written with a literal that is not closed on it. -/
def opensLiteral (line : Line) : Bool :=
  Dialect.leavesOpen (Token.ofLine (writtenTokens line))

/-- The surplus that a body line has when it is written. -/
def lineSurplus (line : Line) : Int :=
  b.weight (writtenTokens line) - if opensLiteral line then b.surplus "[" else 0

theorem lineSurplus_of_nil {line : Line} (h : writtenTokens line = []) : lineSurplus b line = 0 := by
  rw [lineSurplus, opensLiteral, h]
  rfl

/-- **A body line.** -/
theorem surplus_bodyText (types : TypeTable) (line : Line) :
    b.surplus (bodyText .current types line) = lineSurplus b line := by
  by_cases hlone : line.length = 1
  · -- a token on its own opens no literal
    obtain ⟨token, rfl⟩ := List.length_eq_one_iff.mp hlone
    have hwritten : writtenTokens [token] = [token] := rfl
    have hclosed : opensLiteral [token] = false := by
      rw [opensLiteral, hwritten]
      simp [Dialect.leavesOpen, Token.ofLine, Dialect.Scan.next, Dialect.Scan.isInside]
    rw [lineSurplus, hwritten, hclosed]
    simp [bodyText]
  · have hnone : prepared? .current line = none ↔ line.any isDirective = true := by
      simp [prepared?, hlone]
    by_cases hdirective : line.any isDirective = true
    · have hempty : bodyText .current types line = "" := by
        unfold bodyText
        split
        · simp at hlone
        · rw [hnone.mpr hdirective]
      rw [hempty, lineSurplus_of_nil b (by simp [writtenTokens, hlone, hdirective])]
      rfl
    · have hwritten : writtenTokens line = line := by simp [writtenTokens, hdirective]
      have hsome : prepared? .current line = some (Dialect.prepare .current (Token.ofLine line)) := by
        simp [prepared?, hlone, hdirective]
      rw [bodyText_of_some hsome, Bracket.surplus_join, weight_withTypes, Dialect.weight_prepare,
        lineSurplus, opensLiteral, hwritten, Token.toLine_ofLine]

theorem weight_bodyLines (phase : Phase) (types : TypeTable) (lines : List Line) :
    b.weight (bodyLines .current phase types lines).1 = (lines.map (lineSurplus b)).sum := by
  induction lines generalizing types with
  | nil => rfl
  | cons line rest ih =>
    rw [bodyLines, Bracket.weight_cons, ih, bodyLine, surplus_bodyText, List.map_cons, List.sum_cons]

/-! ## The declaration line -/

theorem surplus_parameterText {types : TypeTable} {name text : String}
    (h : parameterText types name = .ok text) : b.surplus text = b.surplus name := by
  have hcolon : b.surplus ": " = 0 := Bracket.surplus_of_all b (by decide)
  unfold parameterText at h
  cases htype : types.get? name with
  | none => simp [htype] at h
  | some type =>
    rw [htype] at h
    obtain ⟨written, hwritten, rfl⟩ := Check.map_eq_ok_iff.mp h
    rw [(ShaderType.write_eq_ok_iff.mp hwritten).2, Bracket.surplus_append, Bracket.surplus_append,
      Bracket.surplus_type, hcolon]
    omega

theorem weight_parameterTexts {types : TypeTable} {params texts : List String}
    (h : params.mapM (parameterText types) = .ok texts) : b.weight texts = b.weight params := by
  have htexts := Check.mapM_eq_ok_iff.mp h
  clear h
  induction htexts with
  | nil => rfl
  | cons hfirst hrest ih =>
    rw [Bracket.weight_cons, Bracket.weight_cons, surplus_parameterText b hfirst, ih]

theorem surplus_returnText {returns : Option ShaderType} {result : String}
    (h : returnText returns = .ok result) : b.surplus result = 0 := by
  cases returns with
  | none =>
    rw [← Except.ok.inj h]
    exact Bracket.surplus_of_all b (by decide)
  | some type =>
    rw [(ShaderType.write_eq_ok_iff.mp h).2]
    exact Bracket.surplus_type b type

theorem surplus_helperHead {result : String} (hresult : b.surplus result = 0) (function : String)
    (params : List String) :
    b.surplus (helperHead result function params) = b.surplus function + b.weight params := by
  have hkeyword : b.surplus "fn " = 0 := Bracket.surplus_of_all b (by decide)
  have hparentheses : b.surplus "(" + b.surplus ") -> " = 0 := by
    cases b with
    | round => decide
    | square => decide
  have hcomma : b.surplus ", " = 0 := by
    cases b with
    | round => decide
    | square => decide
  simp only [helperHead, Bracket.surplus_append, Bracket.surplus_intercalate b hcomma, hkeyword,
    hresult]
  omega

theorem surplus_entryHead {size : String} (hsize : b.surplus size = 0) (function : String)
    (params : List String) :
    b.surplus (entryHead size function params) = b.surplus function + b.weight params := by
  have hattribute : b.surplus "@compute @workgroup_size(" + b.surplus ") fn " = 0 := by
    cases b with
    | round => decide +kernel
    | square => decide +kernel
  have hparentheses : b.surplus "(" + b.surplus ")" = 0 := by
    cases b with
    | round => decide
    | square => decide
  have hcomma : b.surplus ", " = 0 := by
    cases b with
    | round => decide
    | square => decide
  -- with the long texts as variables, so that rewriting does not look into them
  have hparts : ∀ front back : String, b.surplus front + b.surplus back = 0 →
      b.surplus (front ++ size ++ back ++ function ++ "(" ++ ", ".intercalate params ++ ")")
        = b.surplus function + b.weight params := by
    intro front back heven
    simp only [Bracket.surplus_append, Bracket.surplus_intercalate b hcomma, hsize]
    omega
  exact hparts _ _ hattribute

/-- **The head of a function.** -/
theorem surplus_headText {role : Role} {types : TypeTable} {declaration : Declaration} {head : String}
    (h : headText role types declaration = .ok head) :
    b.surplus head = b.surplus declaration.name + b.weight declaration.params := by
  cases role with
  | helper returns =>
    rw [headText_helper] at h
    obtain ⟨texts, htexts, h⟩ := Check.bind_eq_ok_iff.mp h
    obtain ⟨result, hresult, rfl⟩ := Check.map_eq_ok_iff.mp h
    rw [surplus_helperHead b (surplus_returnText b hresult), weight_parameterTexts b htexts]
  | entry invocations =>
    have hparameter : b.surplus invocationParameter = 0 := by
      cases b with
      | round => decide +kernel
      | square => decide +kernel
    rw [headText_entry] at h
    obtain ⟨size, hsize, h⟩ := Check.bind_eq_ok_iff.mp h
    obtain ⟨texts, htexts, rfl⟩ := Check.map_eq_ok_iff.mp h
    have hdigits : b.surplus size = 0 := by
      rw [(Numeral.write_eq_ok_iff.mp hsize).2]
      exact Bracket.surplus_repr b invocations
    rw [surplus_entryHead b hdigits, Bracket.weight_append, weight_parameterTexts b htexts,
      Bracket.weight_cons, hparameter]
    simp

theorem weight_filter_commas (line : Line) : b.weight (line.filter (· != ",")) = b.weight line := by
  induction line with
  | nil => rfl
  | cons token rest ih =>
    by_cases h : token = ","
    · simp [h, ih, Bracket.surplus_comma]
    · simp [h, ih]

/-- What stands in front of the body on a declaration line has the brackets of the name and the
parameters: the parentheses around these are even, and commas have none. -/
theorem weight_front {line : Line} {declaration : Declaration}
    (h : Declaration.parse line = .ok declaration) :
    b.weight (Declaration.front line) + b.surplus ")"
      = b.surplus declaration.name + b.weight declaration.params := by
  obtain ⟨name, rest, rfl, -, rfl⟩ := Declaration.parse_eq_ok_iff.mp h
  have hkeyword : b.surplus "function" = 0 := Bracket.surplus_of_all b (by decide)
  have hpair : b.surplus "(" + b.surplus ")" = 0 := by
    cases b with
    | round => decide
    | square => decide
  simp only [weight_filter_commas]
  by_cases hname : name = ")"
  · -- the first closing parenthesis is the name itself, so there are no parameters
    have hfront : Declaration.front ("function" :: name :: "(" :: rest) = ["function"] := by
      simp [Declaration.front, hname]
    rw [hfront, hname, Bracket.weight_cons, hkeyword]
    simp
  · have hfront : Declaration.front ("function" :: name :: "(" :: rest)
        = "function" :: name :: "(" :: rest.takeWhile (· != ")") := by
      simp [Declaration.front, hname]
    rw [hfront, Bracket.weight_cons, Bracket.weight_cons, Bracket.weight_cons, hkeyword,
      List.drop_succ_cons, List.drop_succ_cons, List.drop_succ_cons, List.drop_zero]
    omega

theorem surplus_braced (body : String) : b.surplus (braced body) = b.surplus body := by
  have hbrace : b.surplus " \x7b" = 0 := Bracket.surplus_of_all b (by decide)
  have hblank : b.surplus " " = 0 := Bracket.surplus_of_all b (by decide)
  rw [braced, Bracket.surplus_append, hbrace]
  split_ifs with hempty
  · rw [String.isEmpty_iff.mp hempty, Int.zero_add]
  · rw [Bracket.surplus_append, hblank]
    omega

theorem surplus_tailLine (phase : Phase) (types : TypeTable) (tail : Line) :
    b.surplus (tailLine .current phase types tail).1 = lineSurplus b (tail.drop 1) := by
  match tail with
  | [] => rfl
  | [_] =>
    have hbrace : b.surplus " \x7b" = 0 := Bracket.surplus_of_all b (by decide)
    exact hbrace
  | _ :: second :: rest => exact (surplus_braced b _).trans (surplus_bodyText b _ (second :: rest))

/-- **A whole function.** -/
theorem weight_generate {phase : Phase} {role : Role} {types after : TypeTable} {first : Line}
    {rest : List Line} {texts : List String}
    (h : generate .current phase role types (first :: rest) = .ok (texts, after)) :
    b.weight texts = b.weight (Declaration.front first) + b.surplus ")"
      + lineSurplus b ((Declaration.behind first).drop 1) + (rest.map (lineSurplus b)).sum := by
  obtain ⟨declaration, head, hparse, hhead, -, rfl, -⟩ := generate_cons_eq_ok_iff.mp h
  have htail : declaration.tail = Declaration.behind first := by
    obtain ⟨_, _, -, -, rfl⟩ := Declaration.parse_eq_ok_iff.mp hparse
    rfl
  rw [Bracket.weight_cons, Bracket.surplus_append, surplus_headText b hhead, surplus_tailLine,
    weight_bodyLines, ← weight_front b hparse, htail]

/-! ## Checked functions -/

/-- The tokens that a declaration line is written from: those up to the end of the parameters, and those
behind the brace unless they are a directive. -/
def shownTokens (first : Line) : Line :=
  Declaration.front first ++ ")" :: writtenTokens ((Declaration.behind first).drop 1)

/-- The number of lines that are written with a literal that is not closed, what stands behind the brace
of the declaration being a line of its own. -/
def openLiterals (first : Line) (rest : List Line) : Nat :=
  ((Declaration.behind first).drop 1 :: rest).countP opensLiteral

theorem writtenTokens_subset (line : Line) : writtenTokens line ⊆ line := by
  unfold writtenTokens
  split_ifs
  · exact List.nil_subset line
  · exact List.Subset.refl line

theorem isPiece_shownTokens {first : Line} (h : ∀ token ∈ first, Line.IsPiece token.toList) :
    ∀ token ∈ shownTokens first, Line.IsPiece token.toList := by
  intro token htoken
  rcases List.mem_append.mp htoken with hfront | hrest
  · exact h token ((List.takeWhile_sublist _).subset hfront)
  · rcases List.mem_cons.mp hrest with rfl | hbehind
    · exact Or.inl ⟨')', rfl, rfl⟩
    · have hdropped := List.mem_of_mem_drop (writtenTokens_subset _ hbehind)
      exact h token ((List.dropWhile_sublist _).subset (List.mem_of_mem_drop hdropped))

/-- A line that balances is written without a surplus, unless it leaves a literal open. -/
theorem lineSurplus_of_balanced {line : Line} (hpieces : ∀ token ∈ line, Line.IsPiece token.toList)
    (h : line.count b.opening = line.count b.closing) :
    lineSurplus b line = - if opensLiteral line then b.surplus "[" else 0 := by
  have hweight : b.weight (writtenTokens line) = 0 := by
    unfold writtenTokens
    split_ifs
    · rfl
    · rw [Bracket.weight_eq_count b hpieces, h, Int.sub_self]
  rw [lineSurplus, hweight, Int.zero_sub]

theorem sum_lineSurplus {lines : List Line}
    (hpieces : ∀ line ∈ lines, ∀ token ∈ line, Line.IsPiece token.toList)
    (h : ∀ line ∈ lines, line.count b.opening = line.count b.closing) :
    (lines.map (lineSurplus b)).sum = - (lines.countP opensLiteral * b.surplus "[") := by
  induction lines with
  | nil => simp
  | cons line rest ih =>
    obtain ⟨hline, hrest⟩ := List.forall_mem_cons.mp hpieces
    obtain ⟨hbalanced, hbalancedRest⟩ := List.forall_mem_cons.mp h
    rw [List.map_cons, List.sum_cons, ih hrest hbalancedRest, lineSurplus_of_balanced b hline hbalanced,
      List.countP_cons]
    split_ifs
    · push_cast
      ring
    · push_cast
      ring

/-- **A checked function.** Where the lines after the first balance, the brackets of the text are those
of the declaration line, except that every literal left open lacks one. -/
theorem weight_generate_of_balanced {phase : Phase} {role : Role} {types after : TypeTable}
    {first : Line} {rest : List Line} {texts : List String}
    (h : generate .current phase role types (first :: rest) = .ok (texts, after))
    (hpieces : ∀ line ∈ first :: rest, ∀ token ∈ line, Line.IsPiece token.toList)
    (hbalanced : ∀ line ∈ rest, line.count b.opening = line.count b.closing) :
    b.weight texts = (shownTokens first).count b.opening - (shownTokens first).count b.closing
      - openLiterals first rest * b.surplus "[" := by
  obtain ⟨hfirst, hrest⟩ := List.forall_mem_cons.mp hpieces
  rw [weight_generate b h, sum_lineSurplus b hrest hbalanced,
    ← Bracket.weight_eq_count b (isPiece_shownTokens hfirst), shownTokens, Bracket.weight_append,
    Bracket.weight_cons, lineSurplus, openLiterals, List.countP_cons]
  split_ifs
  · push_cast
    ring
  · push_cast
    ring

end Generator

end KernelShader
