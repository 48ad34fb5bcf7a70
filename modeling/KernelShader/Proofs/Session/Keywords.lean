/-
`Keywords.lean` -- the names and the declarations of accepted functions.

Nothing that accepts a function looks at what stands behind a keyword, and a semicolon does not end a token.
So a declaration gives a type to the token that its identifier is in: to the identifier where `=` follows, and
to the identifier with the semicolon where nothing does (`declared_tokens_of_accepted`). In the second case the
text of the function has the semicolon between the name and its type (`semicolon_registered`).
-/
import KernelShader.Proofs.Generator.Keywords
import KernelShader.Proofs.Generator.Variation
import KernelShader.Proofs.Session.Balance

set_option autoImplicit false

namespace KernelShader

namespace Generator

/-- The keyword is written in the line with the token behind it and the type that the table has for it. -/
def WritesDeclaration (dialect : Dialect) (types : TypeTable) (line : Line) (key token : String) : Prop :=
  ∃ word type words, keyword? (.word key) = some word ∧ types.get? token = some type ∧
    bodyText dialect types line = Line.join words ∧ typedName word token type ∈ words

/-- The lines of a function are all written under the table that it leaves. -/
theorem texts_of_generate {dialect : Dialect} {role : Role} {types after : TypeTable} {first : Line}
    {rest : List Line} {texts : List String} {declaration : Declaration}
    (h : generate dialect .infer role types (first :: rest) = .ok (texts, after))
    (hparse : Declaration.parse first = .ok declaration) :
    ∃ head, texts = (head ++ (tailLine dialect .replay after declaration.tail).1)
      :: rest.map (bodyText dialect after) := by
  obtain ⟨_, head, hparse', -, -, htexts, -⟩ := generate_cons_eq_ok_iff.mp (generate_replay h List.prefix_rfl)
  obtain rfl := Except.ok.inj (hparse.symm.trans hparse')
  refine ⟨head, ?_⟩
  rw [htexts, tailLine_replay_table, bodyLines_replay_eq]

end Generator

namespace Session

open Generator

/-- **What accepted declarations declare.** Let every keyword in the body of an accepted function be followed
by an identifier, with `=` behind it or with a semicolon glued to it. Then the names in the table of the
function are its parameters, the tokens that these identifiers are in, and what is assigned an array literal;
and every keyword that the dialect gets to is written with this token and the type that the table has for it.
Such a name is free of semicolons only if it is the identifier, as it is where the declaration has a value. -/
theorem declared_tokens_of_accepted {s s' : Session} {operation : Operation} {source body : String}
    (hadds : operation.adds source) (haccepted : s.answer operation = (.ok (.body body), s'))
    (hwell : ∀ line ∈ functionBody (Source.tokenLines source), WellDeclared line) :
    ∃ first rest declaration t head,
      Source.tokenLines source = first :: rest ∧ Declaration.parse first = .ok declaration ∧
      s'.store.get? declaration.name = some t ∧
      (∀ name ∈ t.types.names, name ∈ declaration.params ∨
        (∃ line ∈ functionBody (first :: rest), ∃ identifier, DeclaresIn line identifier name ∧
          (';' ∉ name.toList ↔ name = identifier)) ∨
        ∃ tokens ∈ bodyTokens s.config.dialect (first :: rest), name ∈ assignedNames tokens) ∧
      body = "\n".intercalate ((head ++ (tailLine s.config.dialect .replay t.types declaration.tail).1)
        :: rest.map (bodyText s.config.dialect t.types)) ∧
      ∀ before key behind identifier token, before ++ key :: behind ∈ functionBody (first :: rest) →
        (before ++ key :: behind).any isDirective = false → key ∈ declarationKeywords →
        DeclaresAs identifier token behind → GetsPast s.config.dialect before →
        WritesDeclaration s.config.dialect t.types (before ++ key :: behind) key token := by
  obtain ⟨declared, arguments, kind, workgroup, t, hread, hstored⟩ := exists_recorded_of_added hadds haccepted
  obtain ⟨hcheck, declaration, types, hparse, htypes, hwrite⟩ := read_eq_ok_iff.mp hread
  obtain ⟨first, rest, hlines⟩ := Declaration.exists_cons_of_check hcheck
  obtain ⟨role, texts, after, -, hgenerate, rfl, rfl⟩ := Transcript.write_eq_ok_iff.mp hwrite
  simp only [hlines, List.headD_cons] at hgenerate hparse hwell
  obtain ⟨head, rfl⟩ := texts_of_generate hgenerate hparse
  refine ⟨first, rest, declaration, _, head, hlines, hparse, hstored, ?_, rfl, ?_⟩
  · intro name hname
    rcases (mem_names_of_generate hgenerate).mp hname with hparam | ⟨tokens, htokens, hregistered⟩
    · rw [Parameter.names_of_resolve htypes, List.mem_eraseDups] at hparam
      exact .inl hparam
    · rcases List.mem_append.mp hregistered with hassigned | hdeclared
      · exact .inr (.inr ⟨tokens, htokens, hassigned⟩)
      · obtain ⟨line, hline, hprepared⟩ := List.mem_filterMap.mp htokens
        obtain ⟨identifier, before, key, behind, hsplit, hkey, hdeclares⟩ :=
          of_mem_declaredNames (declared_of_prepared? (hwell line hline) hprepared) hdeclared
        have hin : DeclaresIn line identifier name := ⟨before, key, behind, hsplit, hkey, hdeclares⟩
        exact .inr (.inl ⟨line, hline, identifier, hin, hdeclares.clean_iff⟩)
  · intro before key behind identifier token hline hdirective hkey hdeclares hpast
    refine exists_typedName_of_declares (hwell _ hline) hdirective hkey hdeclares hpast ?_
    -- a line of the body is registered, so what it declares is in the table
    intro tokens htokens text htext
    have hmem : tokens ∈ bodyTokens s.config.dialect (first :: rest) :=
      List.mem_filterMap.mpr ⟨_, hline, htokens⟩
    exact (mem_names_of_generate hgenerate).mpr (.inr ⟨tokens, hmem, List.mem_append_right _ htext⟩)

/-- One declaration with a value and one without. -/
def mixedSource : String := "function f(a) \x7b\nlet b = a; const c;\n\x7d"

theorem mixedSource_declared :
    ∃ body s' t,
      (fresh {} none).answer (.addFunction mixedSource (.text "f32") .none .none) = (.ok (.body body), s') ∧
      (∀ line ∈ functionBody (Source.tokenLines mixedSource), WellDeclared line) ∧
      s'.store.get? "f" = some t ∧
      WritesDeclaration .current t.types ["let", "b", "=", "a;", "const", "c;"] "let" "b" ∧
      WritesDeclaration .current t.types ["let", "b", "=", "a;", "const", "c;"] "const" "c;" := by
  have hlines : Source.tokenLines mixedSource
      = [["function", "f", "(", "a", ")", "\x7b"], ["let", "b", "=", "a;", "const", "c;"], ["\x7d"]] := by
    decide +kernel
  have hparse : Declaration.parse ["function", "f", "(", "a", ")", "\x7b"] = .ok ⟨"f", ["a"], ["\x7b"]⟩ := rfl
  have hbody : functionBody (Source.tokenLines mixedSource)
      = [[], ["let", "b", "=", "a;", "const", "c;"], ["\x7d"]] := by
    rw [hlines, functionBody, hparse]
    rfl
  have hlet : DeclaresAs "b" "b" ["b", "=", "a;", "const", "c;"] := .initialised (by decide) _
  have hconst : DeclaresAs "c" "c;" ["c;"] := .bare (by decide) "" []
  have hwell : ∀ line ∈ functionBody (Source.tokenLines mixedSource), WellDeclared line := by
    rw [hbody]
    simp only [List.forall_mem_cons, wellDeclared_cons_iff, wellDeclared_nil, declarationKeywords]
    simp only [List.mem_cons, List.not_mem_nil, String.reduceEq, or_false, or_self, or_true, false_imp_iff,
      forall_const, true_and, and_true]
    exact ⟨⟨_, _, hlet⟩, _, _, hconst⟩
  have hanswer : ((fresh {} none).answer
      (.addFunction mixedSource (.text "f32") .none .none)).1.toOption
        = some (.body "fn f(a: f32) -> f32 \x7b\nvar b: f32 = a; let c;: f32\n\x7d") := by
    decide +kernel
  have haccepted := Outcome.eq_ok_of_toOption hanswer
  have hadds : (Operation.addFunction mixedSource (.text "f32") .none .none).adds mixedSource := rfl
  obtain ⟨first, rest, declaration, t, head, hlines', hparse', hstored, -, -, hwritten⟩ :=
    declared_tokens_of_accepted hadds haccepted hwell
  obtain ⟨rfl, rfl⟩ := List.cons.inj (hlines'.symm.trans hlines)
  obtain rfl := Except.ok.inj (hparse'.symm.trans hparse)
  have hdialect : (fresh {} none).config.dialect = .current := rfl
  rw [hdialect, ← hlines, hbody] at hwritten
  refine ⟨_, _, t, haccepted, hwell, hstored, ?_, ?_⟩
  · exact hwritten [] "let" _ "b" "b" (by simp) rfl (by decide) hlet rfl
  · exact hwritten ["let", "b", "=", "a;"] "const" _ "c" "c;" (by simp) rfl (by decide) hconst rfl

/-- **A semicolon in a name.** -/
theorem semicolon_registered :
    ∃ s' t,
      (fresh {} none).answer
          (.addFunction "function f(a) \x7b\nlet c;\nc = a;\nreturn c;\n\x7d" (.text "f32") .none .none)
        = (.ok (.body "fn f(a: f32) -> f32 \x7b\nvar c;: f32\nc = a;\nreturn c;\n\x7d"), s') ∧
      s'.store.get? "f" = some t ∧ t.types.names = ["a", "c;"] := by
  have hanswer : ((fresh {} none).answer
      (.addFunction "function f(a) \x7b\nlet c;\nc = a;\nreturn c;\n\x7d" (.text "f32") .none
        .none)).1.toOption
        = some (.body "fn f(a: f32) -> f32 \x7b\nvar c;: f32\nc = a;\nreturn c;\n\x7d") := by
    decide +kernel
  have hnames : (((fresh {} none).answer
      (.addFunction "function f(a) \x7b\nlet c;\nc = a;\nreturn c;\n\x7d" (.text "f32") .none
        .none)).2.store.get? "f").map (fun t => t.types.names) = some ["a", "c;"] := by
    decide +kernel
  obtain ⟨t, hstored, hnames⟩ := Option.map_eq_some_iff.mp hnames
  exact ⟨_, t, Outcome.eq_ok_of_toOption hanswer, hstored, hnames⟩

end Session

end KernelShader
