/-
`Conservation.lean` -- what a body line keeps of its tokens and of its brackets.

A body line goes through three passes and is then written. Both results here compare what comes out with
the reading of the line by parts, which the first pass makes into tokens. On a line without declarations,
`switch` and `Math` the other passes and the types have nothing to do, so the text, cut again, is the line
with its literals in the shader's form (`tokens_conserved`). Brackets are kept on every line, because each
of the steps takes away what has no surplus, and a literal that is closed has the surplus of its content
before and after (`brackets_kept`).
-/
import KernelShader.Proofs.Generator.Literals

set_option autoImplicit false

namespace KernelShader

open Line

/-! ## Parts as tokens -/

namespace Line

theorem isPiece_of_mem_split {text token : String} (h : token ∈ split text) : IsPiece token.toList := by
  obtain ⟨t, ht, rfl⟩ := List.mem_map.mp h
  rw [String.toList_ofList]
  exact isPiece_of_mem_splitChars ht

theorem Reads.mem_of_word {afterEquals : Bool} {line : Line} {parts : List Part}
    (h : Reads afterEquals line parts) {token : String} (hword : Part.word token ∈ parts) :
    token ∈ line := by
  rw [← h.source_eq]
  exact List.mem_flatMap.mpr ⟨_, hword, List.mem_singleton_self token⟩

/-- A word is cut into itself, and a literal into its form in the shader without empty slots. -/
theorem Part.split_token {part : Part} (h : ∀ token ∈ part.source, IsToken token) :
    split part.token.text = part.written := by
  cases part with
  | word text => exact h text (List.mem_singleton_self text)
  | literal content =>
    exact Token.split_ofContent fun token htoken =>
      h token (List.mem_cons_of_mem _ (List.mem_append_left _ htoken))
  | unclosed content =>
    exact Token.split_ofContent fun token htoken => h token (List.mem_cons_of_mem _ htoken)

/-- Where the words of a line are tokens, so are those of its parts. -/
theorem Reads.isToken_of_mem {afterEquals : Bool} {line : Line} {parts : List Part}
    (h : Reads afterEquals line parts) (htokens : ∀ token ∈ line, IsToken token) {part : Part}
    (hpart : part ∈ parts) : ∀ token ∈ part.source, IsToken token := by
  intro token htoken
  refine htokens token ?_
  rw [← h.source_eq]
  exact List.mem_flatMap.mpr ⟨part, hpart, htoken⟩

/-- The text of a part is no word without a parenthesis, unless it is that word. -/
theorem Reads.text_ne {afterEquals : Bool} {line : Line} {parts : List Part}
    (h : Reads afterEquals line parts) {word : String} (hword : word ∉ line) (hplain : '(' ∉ word.toList)
    {part : Part} (hpart : part ∈ parts) : part.token.text ≠ word := by
  cases part with
  | word text =>
    rintro rfl
    exact hword (h.mem_of_word hpart)
  | literal content => exact Token.text_ofContent_ne _ hplain
  | unclosed content => exact Token.text_ofContent_ne _ hplain

end Line

/-! ## Lines without keywords -/

namespace Generator

theorem keyword?_eq_none {t : Token} (h : ∀ word ∈ ["let", "var", "const"], t.text ≠ word) :
    keyword? t = none := by
  unfold keyword?
  split
  · exact absurd ‹_› (h "let" (by simp))
  · exact absurd ‹_› (h "var" (by simp))
  · exact absurd ‹_› (h "const" (by simp))
  · rfl

theorem keyword?_ofContent (content : List Token) : keyword? (Token.ofContent content) = none := by
  refine keyword?_eq_none fun word hword => Token.text_ofContent_ne content ?_
  have hplain : ∀ word ∈ ["let", "var", "const"], '(' ∉ word.toList := by decide
  exact hplain word hword

theorem withTypes_eq_toLine (types : TypeTable) {tokens : List Token}
    (h : ∀ t ∈ tokens, keyword? t = none) : withTypes types tokens = Token.toLine tokens := by
  fun_induction withTypes types tokens with
  | case1 key name rest word hkey => simp [h key List.mem_cons_self] at hkey
  | case2 key name rest word hkey => simp [h key List.mem_cons_self] at hkey
  | case3 key name rest hkey ih =>
    rw [ih fun t ht => h t (List.mem_cons_of_mem key ht)]
    rfl
  | case4 t => rfl
  | case5 => rfl

/-! ## Body lines -/

/-- What the passes make of a line, by the parts of the line. -/
theorem prepare_of_reads {line : Line} {parts : List Part} (hreads : Reads false line parts) :
    Dialect.prepare .current (Token.ofLine line)
      = Dialect.dropNamespace (Dialect.unwrapSwitch (parts.map Part.token)) := by
  rw [← Dialect.collapseFrom_of_reads hreads]
  rfl

theorem prepared?_of_reads {line : Line} {parts : List Part} (hreads : Reads false line parts)
    (hlone : line.length ≠ 1) (hdirective : line.any isDirective = false) :
    prepared? .current line
      = some (Dialect.dropNamespace (Dialect.unwrapSwitch (parts.map Part.token))) := by
  simp [prepared?, hlone, hdirective, prepare_of_reads hreads]

theorem bodyLine_of_reads {line : Line} {parts : List Part} (hreads : Reads false line parts)
    (hlone : line.length ≠ 1) (hdirective : line.any isDirective = false) (phase : Phase)
    (types : TypeTable) :
    (bodyLine .current phase types line).1
      = join (withTypes (bodyTypes .current phase types line)
          (Dialect.dropNamespace (Dialect.unwrapSwitch (parts.map Part.token)))) :=
  bodyText_of_some (prepared?_of_reads hreads hlone hdirective) _

/-- A token on its own is written as it is, and is its own only part. -/
theorem reads_lone {token : String} {parts : List Part} (h : Reads false [token] parts) :
    parts = [.word token] :=
  h.unique (.word rfl (.nil _))

/-- **Tokens are conserved.** A body line without a directive, a declaration, `switch` and `Math` whose
square brackets match falls into words and array literals in one way. If no slot of a literal is empty, the
tokens of the written line are those of the source line, in their order, with `array ( .. )` in place of the
brackets of each literal; the type table does not matter, nor whether the line is read for the first time. -/
theorem tokens_conserved (text : String) (phase : Phase) (types : TypeTable)
    (hdirective : (split text).any isDirective = false)
    (hplain : ∀ word ∈ ["let", "var", "const", "switch", "Math"], word ∉ split text)
    (hnested : Nested (split text)) :
    (∃! parts, Reads false (split text) parts) ∧
      ∀ parts, Reads false (split text) parts →
        (∀ content, Part.literal content ∈ parts → Spaced content) →
          split text = parts.flatMap Part.source ∧
          split (bodyLine .current phase types (split text)).1 = parts.flatMap Part.shader := by
  refine ⟨existsUnique_reads _, fun parts hreads hspaced => ⟨hreads.source_eq.symm, ?_⟩⟩
  have htokens : ∀ token ∈ split text, IsToken token := fun token => isToken_of_mem_split
  -- every part is cut into its form in the shader: there is no empty slot, and no literal is left open
  have hparts : ∀ part ∈ parts, split part.token.text = part.shader := by
    intro part hpart
    rw [Part.split_token (hreads.isToken_of_mem htokens hpart)]
    cases part with
    | word token => rfl
    | literal content => rw [Part.written, Part.shader, compact_of_spaced (hspaced content hpart)]
    | unclosed content => exact absurd hpart (hreads.not_unclosed (hnested.depthAfter?_eq 0) content)
  generalize split text = line at *
  by_cases hlone : line.length = 1
  · obtain ⟨token, rfl⟩ := List.length_eq_one_iff.mp hlone
    obtain rfl := reads_lone hreads
    exact htokens token (List.mem_singleton_self token)
  · have hwords : ∀ word ∈ ["let", "var", "const", "switch", "Math"], ∀ t ∈ parts.map Part.token,
        t.text ≠ word := by
      intro word hword t ht
      obtain ⟨part, hpart, rfl⟩ := List.mem_map.mp ht
      refine hreads.text_ne (hplain word hword) ?_ hpart
      revert word
      decide
    rw [bodyLine_of_reads hreads hlone hdirective,
      Dialect.unwrapSwitch_eq_self (hwords "switch" (by simp)),
      Dialect.dropNamespace_eq_self (hwords "Math" (by simp)),
      withTypes_eq_toLine _ fun t ht => keyword?_eq_none fun word hword =>
        hwords word (List.mem_append_left ["switch", "Math"] hword) t ht,
      split_join, Token.toLine, List.map_map, List.flatMap_map]
    exact List.flatMap_congr hparts

/-- A literal with a nested list and a member access, behind a member access and in front of an index. -/
theorem nestedLiteral_conserved :
    Nested (split "p.q = [a.b, [1]] .z; w[0]") ∧
      split (bodyLine .current .infer ⟨[]⟩ (split "p.q = [a.b, [1]] .z; w[0]")).1
        = ["p", ".", "q", "=", "array", "(", "a", ".", "b", ",", "[", "1", "]", ")", ".", "z;", "w", "[",
          "0", "]"] := by
  have hsplit : split "p.q = [a.b, [1]] .z; w[0]"
      = ["p", ".", "q", "=", "[", "a", ".", "b", ",", "[", "1", "]", "]", ".", "z;", "w", "[", "0", "]"] := by
    decide
  have hnested : Nested (split "p.q = [a.b, [1]] .z; w[0]") := by
    rw [hsplit]
    decide
  have hreads : Reads false (split "p.q = [a.b, [1]] .z; w[0]")
      [.word "p", .word ".", .word "q", .word "=", .literal ["a", ".", "b", ",", "[", "1", "]"], .word ".",
        .word "z;", .word "w", .word "[", .word "0", .word "]"] := by
    rw [hsplit]
    exact .word rfl <| .word rfl <| .word rfl <| .word rfl <|
      .literal rfl (by decide) <|
      .word rfl <| .word rfl <| .word rfl <| .word rfl <| .word rfl <| .word rfl <| .nil _
  have hspaced : Spaced ["a", ".", "b", ",", "[", "1", "]"] := ⟨by decide, by decide, by decide⟩
  have hconserved := (tokens_conserved "p.q = [a.b, [1]] .z; w[0]" .infer ⟨[]⟩ (by rw [hsplit]; decide)
    (by rw [hsplit]; decide) hnested).2 _ hreads (by simpa using hspaced)
  exact ⟨hnested, hconserved.2⟩

/-! ## Brackets -/

/-- A part that is closed has the brackets of its source. -/
theorem surplus_token (b : Bracket) {part : Part} (h : ∀ content, part ≠ .unclosed content) :
    b.surplus part.token.text = b.weight part.source := by
  have hpair : b.surplus "[" + b.surplus "]" = 0 := by
    cases b with
    | round => decide
    | square => decide
  cases part with
  | word text => simp [Part.token, Part.source, Token.text]
  | literal content =>
    rw [Part.token, Token.surplus_ofContent, Token.toLine_ofLine, Part.source, Bracket.weight_cons,
      Bracket.weight_append, Bracket.weight_cons, Bracket.weight_nil]
    omega
  | unclosed content => exact absurd rfl (h content)

theorem weight_tokens (b : Bracket) {parts : List Part} (h : ∀ content, Part.unclosed content ∉ parts) :
    b.weight (Token.toLine (parts.map Part.token)) = b.weight (parts.flatMap Part.source) := by
  induction parts with
  | nil => rfl
  | cons part rest ih =>
    have hpart : ∀ content, part ≠ .unclosed content := by
      rintro content rfl
      exact h content List.mem_cons_self
    rw [List.map_cons, Token.toLine_cons, Bracket.weight_cons, surplus_token b hpart,
      ih fun content hcontent => h content (List.mem_cons_of_mem part hcontent), List.flatMap_cons,
      Bracket.weight_append]

/-- **Brackets are kept.** Where the square brackets of a line match, the text of the body line opens as
many more brackets of either kind than it closes as the tokens of the line do. -/
theorem brackets_kept (text : String) (phase : Phase) (types : TypeTable)
    (hdirective : (split text).any isDirective = false) (hnested : Nested (split text)) (b : Bracket) :
    b.surplus (bodyLine .current phase types (split text)).1
      = ((split text).count b.opening : Int) - (split text).count b.closing := by
  rw [← Bracket.weight_eq_count b fun token => isPiece_of_mem_split]
  generalize split text = line at *
  by_cases hlone : line.length = 1
  · obtain ⟨token, rfl⟩ := List.length_eq_one_iff.mp hlone
    have htext : (bodyLine .current phase types [token]).1 = token := rfl
    rw [htext, Bracket.weight_cons, Bracket.weight_nil, Int.add_zero]
  · obtain ⟨parts, hreads⟩ := exists_reads false line
    have hclosed := hreads.not_unclosed (hnested.depthAfter?_eq 0)
    rw [bodyLine_of_reads hreads hlone hdirective, Bracket.surplus_join, weight_withTypes,
      Dialect.weight_dropNamespace, Dialect.weight_unwrapSwitch, weight_tokens b hclosed,
      hreads.source_eq]

/-- A line that declares a literal, looks at a nested expression and leaves a call open. -/
theorem openCall_brackets :
    Nested (split "let v = [g(1), 2]; switch (v[0]) f(") ∧
      Bracket.round.surplus (bodyLine .current .infer ⟨[]⟩ (split "let v = [g(1), 2]; switch (v[0]) f(")).1
        = 1 ∧
      Bracket.square.surplus (bodyLine .current .infer ⟨[]⟩ (split "let v = [g(1), 2]; switch (v[0]) f(")).1
        = 0 := by
  have hsplit : split "let v = [g(1), 2]; switch (v[0]) f("
      = ["let", "v", "=", "[", "g", "(", "1", ")", ",", "2", "]", ";", "switch", "(", "v", "[", "0", "]",
        ")", "f", "("] := by
    decide
  have hnested : Nested (split "let v = [g(1), 2]; switch (v[0]) f(") := by
    rw [hsplit]
    decide
  have hkept := brackets_kept "let v = [g(1), 2]; switch (v[0]) f(" .infer ⟨[]⟩ (by rw [hsplit]; decide)
    hnested
  refine ⟨hnested, (hkept .round).trans ?_, (hkept .square).trans ?_⟩
  · rw [hsplit]
    decide
  · rw [hsplit]
    decide

end Generator

end KernelShader
