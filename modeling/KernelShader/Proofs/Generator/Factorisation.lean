/-
`Factorisation.lean` -- a line as stretches of words with array literals between them.

The pass that collapses literals goes through a line token by token and decides by what it has written
last. What it computes can be said without that. A literal begins where `[` stands directly behind `=`; the
stretch up to there holds no other such place, and the literal reaches to the bracket that matches its own,
or to the end of the line if there is none. Behind it the same starts again. `Factors` has one rule for
each of these and gives the tokens that come out. The factorisations of a line are its readings by parts,
with the words between two literals taken together (`factors_iff_reads`); so there is one, and it is what
the pass gives. In the result no `[` stands behind `=`, so the pass leaves it as it is.
-/
import Mathlib.Data.List.Chain
import KernelShader.Proofs.Generator.Literals

set_option autoImplicit false

namespace KernelShader

/-! ## Where literals begin -/

namespace Line

/-- Words in front of an array literal: they end in `=`, and no literal begins among them. -/
structure LeadsIn (stretch : Line) : Prop where
  last : stretch.getLast? = some "="
  plain : ¬ ["=", "["] <:+: stretch

/-- No bracket of the content closes the literal that it stands in. -/
def NeverCloses (content : Line) : Prop :=
  ∀ inside rest, content = inside ++ "]" :: rest → ¬ Nested inside

/-- **The factorisation of a line,** with what becomes of it: a stretch without literals; a stretch, a
literal with its matching bracket, and a line behind it; or a stretch and a literal that is never closed
and takes all that is left. -/
inductive Factors : Line → List Token → Prop where
  | words {stretch : Line} (hplain : ¬ ["=", "["] <:+: stretch) : Factors stretch (Token.ofLine stretch)
  | literal {stretch content rest : Line} {result : List Token} (hleads : LeadsIn stretch)
      (hcontent : Nested content) (hrest : Factors rest result) :
      Factors (stretch ++ "[" :: (content ++ "]" :: rest))
        (Token.ofLine stretch ++ Token.ofContent (Token.ofLine content) :: result)
  | unclosed {stretch content : Line} (hleads : LeadsIn stretch) (hopen : NeverCloses content) :
      Factors (stretch ++ "[" :: content)
        (Token.ofLine stretch ++ [Token.ofContent (Token.ofLine content)])

/-! ## Factorisations and readings -/

/-- A stretch in which no literal begins is read word by word. The word in front of it is a variable: whether
a literal may begin depends on the last word, which is in the stretch unless that is empty. -/
theorem reads_stretch {before : String} {stretch rest : Line} {parts : List Part}
    (hplain : ¬ ["=", "["] <:+: before :: stretch)
    (hrest : Reads (stretch.getLastD before == "=") rest parts) :
    Reads (before == "=") (stretch ++ rest) (stretch.map Part.word ++ parts) := by
  induction stretch generalizing before with
  | nil => exact hrest
  | cons token stretch ih =>
    rw [List.infix_cons_iff, not_or] at hplain
    refine .word ?_ (ih hplain.2 (by rwa [List.getLastD_cons] at hrest))
    by_contra hplace
    simp only [Bool.not_eq_false, Bool.and_eq_true, beq_iff_eq] at hplace
    obtain ⟨rfl, rfl⟩ := hplace
    exact hplain.1 ⟨stretch, rfl⟩

/-- The same at the start of a line. -/
theorem reads_stretch_first {stretch rest : Line} {parts : List Part} (hplain : ¬ ["=", "["] <:+: stretch)
    (hrest : Reads (stretch.getLastD "" == "=") rest parts) :
    Reads false (stretch ++ rest) (stretch.map Part.word ++ parts) := by
  refine @reads_stretch "" stretch rest parts ?_ hrest
  rw [List.infix_cons_iff, not_or]
  exact ⟨by simp, hplain⟩

/-- Whether a stretch leads in can be told by its last word. -/
theorem leadsIn_iff {stretch : Line} (hplain : ¬ ["=", "["] <:+: stretch) :
    LeadsIn stretch ↔ stretch.getLastD "" = "=" := by
  rw [List.getLastD_eq_getLast?]
  constructor
  · intro h
    rw [h.last]
    rfl
  · intro hlast
    refine ⟨?_, hplain⟩
    cases hstretch : stretch.getLast? with
    | none => simp [hstretch] at hlast
    | some token => simpa [hstretch] using hlast

theorem map_token_word (stretch : Line) :
    (stretch.map Part.word).map Part.token = Token.ofLine stretch := List.map_map ..

/-- Every factorisation comes from a reading of the line. -/
theorem Factors.exists_reads {line : Line} {result : List Token} (h : Factors line result) :
    ∃ parts, Reads false line parts ∧ parts.map Part.token = result := by
  induction h with
  | @words stretch hplain =>
    refine ⟨stretch.map Part.word, ?_, map_token_word stretch⟩
    have hreads := reads_stretch_first hplain (.nil _)
    rwa [List.append_nil, List.append_nil] at hreads
  | @literal stretch content rest result hleads hcontent hrest ih =>
    obtain ⟨parts, hparts, rfl⟩ := ih
    refine ⟨stretch.map Part.word ++ .literal content :: parts, ?_, ?_⟩
    · refine reads_stretch_first hleads.plain ?_
      rw [(leadsIn_iff hleads.plain).mp hleads]
      exact .literal rfl hcontent hparts
    · rw [List.map_append, map_token_word]
      rfl
  | @unclosed stretch content hleads hopen =>
    refine ⟨stretch.map Part.word ++ [.unclosed content], ?_, ?_⟩
    · refine reads_stretch_first hleads.plain ?_
      rw [(leadsIn_iff hleads.plain).mp hleads]
      exact .unclosed hopen
    · rw [List.map_append, map_token_word]
      rfl

theorem plain_concat {stretch : Line} {token : String} (hplain : ¬ ["=", "["] <:+: stretch)
    (hplace : (stretch.getLastD "" == "=" && token == "[") = false) :
    ¬ ["=", "["] <:+: stretch ++ [token] := by
  rw [List.infix_concat_iff]
  rintro (hsuffix | hinfix)
  · obtain ⟨front, hfront⟩ := hsuffix
    have hsplit : (front ++ ["="]) ++ ["["] = stretch ++ [token] := by simpa using hfront
    obtain ⟨rfl, htoken⟩ := List.append_inj' hsplit rfl
    obtain rfl : "[" = token := by simpa using htoken
    simp at hplace
  · exact hplain hinfix

/-- **A reading is a factorisation.** The words since the last literal are a variable, and the next words join
them one by one. -/
theorem Reads.factors {stretch line : Line} {afterEquals : Bool} {parts : List Part}
    (h : Reads afterEquals line parts) (hplain : ¬ ["=", "["] <:+: stretch)
    (hflag : (stretch.getLastD "" == "=") = afterEquals) :
    Factors (stretch ++ line) (Token.ofLine stretch ++ parts.map Part.token) := by
  induction h generalizing stretch with
  | nil =>
    rw [List.append_nil, List.map_nil, List.append_nil]
    exact .words hplain
  | @word afterEquals token rest parts hplace hrest ih =>
    rw [← hflag] at hplace
    have hfactors := ih (plain_concat hplain hplace) (by rw [List.getLastD_concat])
    rw [Token.ofLine_append, List.append_assoc, List.append_assoc] at hfactors
    exact hfactors
  | @literal line content rest parts hline hcontent hrest ih =>
    have hbehind : Factors rest (parts.map Part.token) := @ih [] (by simp) rfl
    rw [hline]
    exact .literal ((leadsIn_iff hplain).mpr (beq_iff_eq.mp hflag)) hcontent hbehind
  | unclosed hopen => exact .unclosed ((leadsIn_iff hplain).mpr (beq_iff_eq.mp hflag)) hopen

/-- The factorisations of a line are its readings. -/
theorem factors_iff_reads {line : Line} {result : List Token} :
    Factors line result ↔ ∃ parts, Reads false line parts ∧ parts.map Part.token = result := by
  refine ⟨Factors.exists_reads, ?_⟩
  rintro ⟨parts, hparts, rfl⟩
  exact @Reads.factors [] line false parts hparts (by simp) rfl

end Line

/-! ## The scan outside of literals -/

namespace Token

/-- The two tokens are not `=` and `[`. -/
def Apart (first second : Token) : Prop := ¬ (first.text = "=" ∧ second.text = "[")

theorem isChain_apart_iff {tokens : List Token} :
    List.IsChain Apart tokens ↔ ¬ ["=", "["] <:+: toLine tokens := by
  rw [List.isChain_iff_forall_rel_of_append_cons_cons]
  constructor
  · rintro h ⟨front, back, htokens⟩
    obtain ⟨found, behind, rfl, hfound, -⟩ := List.map_eq_append_iff.mp htokens.symm
    obtain ⟨before, pair, rfl, -, hpair⟩ := List.map_eq_append_iff.mp hfound
    obtain ⟨first, rest, rfl, hfirst, hrest⟩ := List.map_eq_cons_iff.mp hpair
    obtain ⟨second, last, rfl, hsecond, -⟩ := List.map_eq_cons_iff.mp hrest
    have hsplit : before ++ first :: second :: last ++ behind
        = before ++ first :: second :: (last ++ behind) := by simp
    exact h hsplit ⟨hfirst, hsecond⟩
  · rintro h first second before behind rfl ⟨hfirst, hsecond⟩
    refine h ⟨toLine before, toLine behind, ?_⟩
    simp [toLine, hfirst, hsecond]

/-- A literal is neither `=` nor `[`. -/
theorem apart_ofContent (content : List Token) (t : Token) :
    Apart (ofContent content) t ∧ Apart t (ofContent content) :=
  ⟨fun h => text_ofContent_ne content (by decide) h.1, fun h => text_ofContent_ne content (by decide) h.2⟩

end Token

namespace Dialect

open Line

/-- Where no two tokens in a row are `=` and `[`, the scan goes past all of them. The token in front is a
variable, since whether a literal may begin depends on the last one. -/
theorem collapseFrom_eq_self {before : Token} {tokens : List Token}
    (h : List.IsChain Token.Apart (before :: tokens)) :
    collapseFrom (.outside (before.reads "=")) tokens = tokens := by
  induction tokens generalizing before with
  | nil => rfl
  | cons t tokens ih =>
    obtain ⟨hapart, hchain⟩ := List.isChain_cons_cons.mp h
    have hplace : ¬ (before.reads "=" && t.reads "[") = true := by
      simpa [Token.Apart, Token.reads] using hapart
    rw [collapseFrom, if_neg hplace, ih hchain]

/-- Nothing is collapsed where no `[` stands behind `=`. -/
theorem collapseLiterals_eq_self {tokens : List Token} (h : ¬ ["=", "["] <:+: Token.toLine tokens) :
    collapseLiterals tokens = tokens := by
  have hchain : List.IsChain Token.Apart (.word "" :: tokens) := by
    refine List.isChain_cons.mpr ⟨fun t _ hequals => ?_, Token.isChain_apart_iff.mpr h⟩
    exact absurd hequals.1 (by decide)
  exact collapseFrom_eq_self hchain

/-- **The pass gives the tokens of every factorisation.** -/
theorem collapseLiterals_of_factors {line : Line} {result : List Token} (h : Factors line result) :
    collapseLiterals (Token.ofLine line) = result := by
  obtain ⟨parts, hreads, rfl⟩ := h.exists_reads
  exact collapseFrom_of_reads hreads

/-- In the result no `[` stands behind `=`. -/
theorem plain_of_factors {line : Line} {result : List Token} (h : Factors line result) :
    ¬ ["=", "["] <:+: Token.toLine result := by
  rw [← Token.isChain_apart_iff]
  -- a literal is apart from both of its neighbours, whatever they are
  have hliteral : ∀ {stretch : Line} (content : List Token) {behind : List Token}, LeadsIn stretch →
      List.IsChain Token.Apart behind →
      List.IsChain Token.Apart (Token.ofLine stretch ++ Token.ofContent content :: behind) := by
    intro stretch content behind hleads hbehind
    have hstretch : List.IsChain Token.Apart (Token.ofLine stretch) := by
      rw [Token.isChain_apart_iff, Token.toLine_ofLine]
      exact hleads.plain
    refine List.isChain_append.mpr ⟨hstretch, List.isChain_cons.mpr ⟨?_, hbehind⟩, ?_⟩
    · exact fun t _ => (Token.apart_ofContent content t).1
    · rintro t - next hnext
      obtain rfl : Token.ofContent content = next := by simpa using hnext
      exact (Token.apart_ofContent content t).2
  induction h with
  | words hplain => rwa [Token.isChain_apart_iff, Token.toLine_ofLine]
  | literal hleads hcontent hrest ih => exact hliteral _ hleads ih
  | unclosed hleads hopen => exact hliteral _ hleads List.isChain_nil

/-- **The first pass by factors.** What the pass makes of a line are the tokens of its factorisation into
stretches and literals, and a second run changes nothing. -/
theorem literals_factorised (line : Line) :
    (∀ result, collapseLiterals (Token.ofLine line) = result ↔ Factors line result) ∧
      collapseLiterals (collapseLiterals (Token.ofLine line)) = collapseLiterals (Token.ofLine line) := by
  obtain ⟨parts, hreads⟩ := exists_reads false line
  have hresult : Factors line (parts.map Part.token) := factors_iff_reads.mpr ⟨parts, hreads, rfl⟩
  have hpass := collapseLiterals_of_factors hresult
  refine ⟨fun other => ⟨?_, collapseLiterals_of_factors⟩, ?_⟩
  · rintro rfl
    rwa [hpass]
  · rw [hpass]
    exact collapseLiterals_eq_self (plain_of_factors hresult)

end Dialect

end KernelShader
