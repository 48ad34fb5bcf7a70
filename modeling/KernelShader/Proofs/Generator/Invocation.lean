/-
`Invocation.lean` -- the type of a name that is declared with a component of the invocation id.

`let i = id.x` makes `i` a `u32`, and every other declaration without a literal makes an `f32`. Which of the
two a declaration is gets decided on what stands behind the name, up to the end of the line and not of the
statement. So the declaration is recognised where it is the last statement of its line
(`invocation_type_by_rest`), and anything that is left of the line behind it makes the name an `f32`.

The line is followed through the passes around the declaration. None of them takes a token of the
declaration away, what they do in front of it leaves the names declared there as they are, and behind it
they take away parentheses, `Math` and points only.
-/
import KernelShader.Proofs.Generator.Conservation
import KernelShader.Proofs.Generator.Replay

set_option autoImplicit false

namespace KernelShader

open Line

/-! ## What the passes leave behind a declaration -/

namespace Line

/-- The tokens that no pass takes away. An opening parenthesis counts as one of them, because it only goes
where a `switch` in front of it stays. -/
def lasting (line : Line) : Line :=
  line.filter fun token => token ∉ [")", "Math", "."]

theorem lasting_append (front back : Line) : lasting (front ++ back) = lasting front ++ lasting back :=
  List.filter_append ..

theorem lasting_cons_of_taken {token : String} (h : token ∈ [")", "Math", "."]) (line : Line) :
    lasting (token :: line) = lasting line := by
  have htaken : ¬ decide (token ∉ [")", "Math", "."]) = true := by
    rw [decide_eq_true_eq]
    exact not_not_intro h
  exact List.filter_cons_of_neg htaken

theorem mem_lasting {line : Line} {token : String} (h : token ∈ line) (hkept : token ∉ [")", "Math", "."]) :
    token ∈ lasting line := by
  exact List.mem_filter.mpr ⟨h, decide_eq_true hkept⟩

/-- A semicolon at most. -/
def Bare (line : Line) : Prop := line = [] ∨ line = [";"]

instance (line : Line) : Decidable (Bare line) := inferInstanceAs (Decidable (_ ∨ _))

theorem Bare.eq_of_mem {line : Line} {token : String} (h : Bare line) (htoken : token ∈ line) : token = ";" := by
  rcases h with rfl | rfl
  · exact absurd htoken List.not_mem_nil
  · exact List.mem_singleton.mp htoken

theorem Bare.lasting {line : Line} (h : Bare line) : Bare (lasting line) := by
  rcases h with rfl | rfl
  · exact .inl rfl
  · exact .inr rfl

theorem Reads.bare_tokens {afterEquals : Bool} {line : Line} {parts : List Part}
    (h : Reads afterEquals line parts) (hbare : Bare line) : Bare (Token.toLine (parts.map Part.token)) := by
  rcases hbare with rfl | rfl
  · rw [h.unique (.nil afterEquals)]
    exact .inl rfl
  · rw [h.unique (.word (by simp) (.nil _))]
    exact .inr rfl

/-- A line of which no literal is left over has words only. -/
theorem Reads.bare_of_tokens {afterEquals : Bool} {line : Line} {parts : List Part}
    (h : Reads afterEquals line parts) (hbare : Bare (Line.lasting (Token.toLine (parts.map Part.token)))) :
    Bare (Line.lasting line) := by
  have hliteral : ∀ content : Line,
      (Token.ofContent (Token.ofLine content)).text ∉ Token.toLine (parts.map Part.token) := by
    intro content hmem
    have hkept : (Token.ofContent (Token.ofLine content)).text ∉ [")", "Math", "."] := by
      simp [Token.text_ofContent_ne]
    exact Token.text_ofContent_ne _ (by decide) (hbare.eq_of_mem (mem_lasting hmem hkept))
  have hwords : Token.toLine (parts.map Part.token) = parts.flatMap Part.source := by
    rw [Token.toLine, List.map_map, List.map_eq_flatMap]
    refine List.flatMap_congr fun part hpart => ?_
    have htext : part.token.text ∈ Token.toLine (parts.map Part.token) :=
      List.mem_map_of_mem (List.mem_map_of_mem hpart)
    cases part with
    | word text => rfl
    | literal content => exact absurd htext (hliteral content)
    | unclosed content => exact absurd htext (hliteral content)
  rwa [hwords, h.source_eq] at hbare

end Line

namespace Dialect

theorem lasting_dropNamespace (tokens : List Token) :
    lasting (Token.toLine (dropNamespace tokens)) = lasting (Token.toLine tokens) := by
  fun_induction dropNamespace tokens with
  | case1 m p ts hqualifier ih =>
    obtain ⟨hm, hp⟩ := Bool.and_eq_true_iff.mp hqualifier
    rw [ih, Token.toLine_cons, Token.toLine_cons, Token.text_of_reads hm, Token.text_of_reads hp,
      lasting_cons_of_taken (by simp), lasting_cons_of_taken (by simp)]
  | case2 m p ts hother ih =>
    calc lasting (Token.toLine (m :: dropNamespace (p :: ts)))
        = lasting [m.text] ++ lasting (Token.toLine (dropNamespace (p :: ts))) := lasting_append [m.text] _
      _ = lasting [m.text] ++ lasting (Token.toLine (p :: ts)) := by rw [ih]
      _ = lasting (Token.toLine (m :: p :: ts)) := (lasting_append [m.text] _).symm
  | case3 => rfl

/-- What the second pass can leave of the tokens behind a declaration: all of them, what it would leave of
them on their own, or all but the partner of a parenthesis in front. -/
inductive Remains (tokens : List Token) : List Token → Prop where
  | all : Remains tokens tokens
  | unwrapped : Remains tokens (unwrapSwitch tokens)
  | partner {inside behind : List Token} {closing : Token} (hclosing : closing.text = ")")
      (htokens : tokens = inside ++ closing :: behind) : Remains tokens (inside ++ behind)

theorem Remains.bare_lasting {tokens left : List Token} (h : Remains tokens left)
    (hbare : Bare (Token.toLine (dropNamespace left))) : Bare (lasting (Token.toLine tokens)) := by
  have hleft : Bare (lasting (Token.toLine left)) := by
    rw [← lasting_dropNamespace]
    exact hbare.lasting
  cases h with
  | all => exact hleft
  | unwrapped =>
    rcases unwrapSwitch_cases tokens with hsame | ⟨front, inside, behind, s, p, closing, hs, -, -, -, hresult⟩
    · rwa [hsame] at hleft
    · -- the `switch` stays
      have hmem : s.text ∈ Token.toLine (unwrapSwitch tokens) := by simp [hresult]
      have hkept := hleft.eq_of_mem (mem_lasting hmem (by rw [hs]; decide))
      rw [hs] at hkept
      exact absurd hkept (by decide)
  | partner hclosing htokens =>
    rw [htokens, Token.toLine_append, Token.toLine_cons, hclosing, lasting_append,
      lasting_cons_of_taken (by simp), ← lasting_append, ← Token.toLine_append]
    exact hleft

theorem Remains.bare {tokens left : List Token} (h : Remains tokens left)
    (hbare : Bare (Token.toLine tokens)) : Bare (Token.toLine (dropNamespace left)) := by
  have htext : ∀ t ∈ tokens, t.text = ";" := fun t ht => hbare.eq_of_mem (List.mem_map_of_mem ht)
  have hsame : left = tokens := by
    cases h with
    | all => rfl
    | unwrapped =>
      refine unwrapSwitch_eq_self fun t ht => ?_
      rw [htext t ht]
      decide
    | @partner inside behind closing hclosing htokens =>
      have hmem : closing ∈ tokens := by simp [htokens]
      rw [htext closing hmem] at hclosing
      exact absurd hclosing (by decide)
  rw [hsame, dropNamespace_eq_self fun t ht => by rw [htext t ht]; decide]
  exact hbare

end Dialect

/-! ## Names declared on a line -/

namespace Generator

theorem declaredNames_of_keyword {key name : Token} {word : String} (rest : List Token)
    (h : keyword? key = some word) :
    declaredNames (key :: name :: rest)
      = (name.text, if isInvocationComponent rest then .u32 else .f32) :: declaredNames (name :: rest) := by
  simp only [declaredNames, h, List.cons_append, List.nil_append]

/-- A line is looked through for declarations in two pieces that share a token. What comes from the first
has the same names whatever follows. -/
theorem declaredNames_append (front : List Token) (t : Token) (back : List Token) :
    ∃ earlier, declaredNames (front ++ t :: back) = earlier ++ declaredNames (t :: back) ∧
      earlier.map Prod.fst = (declaredNames (front ++ [t])).map Prod.fst := by
  induction front with
  | nil => exact ⟨[], rfl, rfl⟩
  | cons key front ih =>
    obtain ⟨earlier, hback, hnames⟩ := ih
    -- the next token is the same with and without the back
    obtain ⟨name, more, less, hmore, hless⟩ :
        ∃ name more less, front ++ t :: back = name :: more ∧ front ++ [t] = name :: less := by
      cases front with
      | nil => exact ⟨t, back, [], rfl, rfl⟩
      | cons name front => exact ⟨name, front ++ t :: back, front ++ [t], rfl, rfl⟩
    rw [List.cons_append, List.cons_append, hmore, hless]
    rw [hmore] at hback
    rw [hless] at hnames
    cases hkey : keyword? key with
    | none =>
      rw [declaredNames_cons_of_none more hkey, declaredNames_cons_of_none less hkey]
      exact ⟨earlier, hback, hnames⟩
    | some word =>
      rw [declaredNames_of_keyword more hkey, declaredNames_of_keyword less hkey, hback]
      exact ⟨_ :: earlier, rfl, by rw [List.map_cons, hnames, List.map_cons]⟩

theorem map_fst_declaredNames_append (front : List Token) (t : Token) (back : List Token) :
    (declaredNames (front ++ t :: back)).map Prod.fst
      = (declaredNames (front ++ [t])).map Prod.fst ++ (declaredNames (t :: back)).map Prod.fst := by
  obtain ⟨earlier, hback, hnames⟩ := declaredNames_append front t back
  rw [hback, List.map_append, hnames]

theorem declaredNames_cons_other {t : Token} (h : keyword? t = none) (tokens : List Token) :
    declaredNames (t :: tokens) = declaredNames tokens := by
  cases tokens with
  | nil => rfl
  | cons name rest => exact declaredNames_cons_of_none rest h

/-- The parenthesis behind a `switch` is no part of a declaration. -/
theorem declaredNames_without_parenthesis {s p : Token} (hs : s.text = "switch") (hp : p.text = "(")
    (front back : List Token) :
    (declaredNames (front ++ s :: back)).map Prod.fst
      = (declaredNames (front ++ s :: p :: back)).map Prod.fst := by
  have hswitch : keyword? s = none := keyword?_eq_none (by rw [hs]; decide)
  have hopening : keyword? p = none := keyword?_eq_none (by rw [hp]; decide)
  rw [map_fst_declaredNames_append front s back, map_fst_declaredNames_append front s (p :: back),
    declaredNames_cons_other hswitch, declaredNames_cons_other hswitch, declaredNames_cons_other hopening]

/-! ## The declaration -/

theorem dropFinalSemicolon_concat (front : List Token) (last : Token) :
    dropFinalSemicolon (front ++ [last]) = if last.text = ";" then front else front ++ [last] := by
  simp [dropFinalSemicolon, Token.reads]

/-- The tokens of a declaration with a component of the invocation id. -/
def componentDeclaration (key name component : String) : Line :=
  [key, name, "=", "id", ".", component]

/-- The tokens make such a declaration; a semicolon may be part of the last one. -/
structure DeclaresComponent (key name component : String) : Prop where
  keyword : key ∈ ["let", "var", "const"]
  name_ne : name ≠ ")"
  axis : dropSemicolons component ∈ ["x", "y", "z"]

namespace DeclaresComponent

variable {key name component : String}

theorem key_ne (h : DeclaresComponent key name component) {text : String}
    (htext : text ∉ ["let", "var", "const"]) : key ≠ text := by
  rintro rfl
  exact htext h.keyword

theorem component_ne (h : DeclaresComponent key name component) {text : String}
    (htext : dropSemicolons text ∉ ["x", "y", "z"]) : component ≠ text := by
  rintro rfl
  exact htext h.axis

theorem exists_keyword (h : DeclaresComponent key name component) :
    ∃ word, keyword? (.word key) = some word := by
  have hkey := h.keyword
  simp only [List.mem_cons, List.not_mem_nil, or_false] at hkey
  rcases hkey with rfl | rfl | rfl
  · exact ⟨"var", rfl⟩
  · exact ⟨"var", rfl⟩
  · exact ⟨"let", rfl⟩

theorem unwrapSwitch_eq (h : DeclaresComponent key name component) (back : List Token) :
    Dialect.unwrapSwitch (Token.ofLine (componentDeclaration key name component) ++ back)
      = Token.ofLine (componentDeclaration key name component) ++ Dialect.unwrapSwitch back := by
  have hkey : (Token.word key).text ≠ "switch" := h.key_ne (by decide)
  have hcomponent : (Token.word component).text ≠ "switch" := h.component_ne (by decide)
  simp only [componentDeclaration, Token.ofLine, List.map_cons, List.map_nil, List.cons_append,
    List.nil_append]
  -- the name may read `switch`, but no parenthesis follows it
  rw [Dialect.unwrapSwitch_cons hkey, Dialect.unwrapSwitch_cons_cons _ (by decide),
    Dialect.unwrapSwitch_cons (by decide), Dialect.unwrapSwitch_cons (by decide),
    Dialect.unwrapSwitch_cons (by decide), Dialect.unwrapSwitch_cons hcomponent]

theorem dropNamespace_eq (h : DeclaresComponent key name component) (back : List Token) :
    Dialect.dropNamespace (Token.ofLine (componentDeclaration key name component) ++ back)
      = Token.ofLine (componentDeclaration key name component) ++ Dialect.dropNamespace back := by
  have hkey : (Token.word key).text ≠ "Math" := h.key_ne (by decide)
  have hcomponent : (Token.word component).text ≠ "Math" := h.component_ne (by decide)
  have hname : ∀ tokens, Dialect.dropNamespace (.word name :: .word "=" :: tokens)
      = .word name :: Dialect.dropNamespace (.word "=" :: tokens) := fun tokens =>
    Dialect.dropNamespace_append [.word name] tokens (by decide)
  simp only [componentDeclaration, Token.ofLine, List.map_cons, List.map_nil, List.cons_append,
    List.nil_append]
  rw [Dialect.dropNamespace_cons hkey, hname, Dialect.dropNamespace_cons (by decide),
    Dialect.dropNamespace_cons (by decide), Dialect.dropNamespace_cons (by decide),
    Dialect.dropNamespace_cons hcomponent]

theorem not_closing (h : DeclaresComponent key name component) {t : Token}
    (ht : t ∈ Token.ofLine (componentDeclaration key name component)) : t.text ≠ ")" := by
  have hkey : key ≠ ")" := h.key_ne (by decide)
  have hcomponent : component ≠ ")" := h.component_ne (by decide)
  obtain ⟨token, htoken, rfl⟩ := List.mem_map.mp ht
  simp only [componentDeclaration, List.mem_cons, List.not_mem_nil, or_false] at htoken
  rcases htoken with rfl | rfl | rfl | rfl | rfl | rfl
  · exact hkey
  · exact h.name_ne
  · decide
  · decide
  · decide
  · exact hcomponent

/-- The declaration is recognised where a semicolon at most is left of the line behind it. -/
theorem isInvocationComponent_iff (h : DeclaresComponent key name component) (rest : List Token) :
    isInvocationComponent (.word "=" :: .word "id" :: .word "." :: .word component :: rest) = true ↔
      Bare (Token.toLine rest) := by
  -- without the final semicolon nothing may follow the component
  have hmatch : ∀ (tokens more : List Token),
      dropFinalSemicolon tokens = .word "=" :: .word "id" :: .word "." :: .word component :: more →
      (isInvocationComponent tokens = true ↔ more = []) := by
    intro tokens more hfinal
    have haxis := h.axis
    cases more with
    | nil => simpa [isInvocationComponent, hfinal, Token.text] using haxis
    | cons t more => simp [isInvocationComponent, hfinal]
  rcases List.eq_nil_or_concat rest with rfl | ⟨front, last, rfl⟩
  · have hsemicolon : (Token.word component).text ≠ ";" := h.component_ne (by decide)
    have hfinal := dropFinalSemicolon_concat [.word "=", .word "id", .word "."] (.word component)
    rw [if_neg hsemicolon] at hfinal
    exact iff_of_true ((hmatch _ [] hfinal).mpr rfl) (.inl rfl)
  · have hfinal := dropFinalSemicolon_concat
      (.word "=" :: .word "id" :: .word "." :: .word component :: front) last
    rw [List.concat_eq_append]
    by_cases hlast : last.text = ";"
    · rw [if_pos hlast] at hfinal
      refine (hmatch _ front hfinal).trans ?_
      cases front with
      | nil => simp [Bare, Token.toLine, hlast]
      | cons t front => simp [Bare, Token.toLine]
    · rw [if_neg hlast] at hfinal
      refine (hmatch _ (front ++ [last]) hfinal).trans ?_
      cases front with
      | nil => simp [Bare, Token.toLine, hlast]
      | cons t front => simp [Bare, Token.toLine]

end DeclaresComponent

/-! ## The line around the declaration -/

/-- **The passes around a declaration.** The declaration comes through whole, with the same names declared in
front of it as if the line ended at its keyword. -/
theorem passes_around {key name component : String} (h : DeclaresComponent key name component)
    (front back : List Token) :
    ∃ earlier left, Dialect.Remains back left ∧
      Dialect.dropNamespace
          (Dialect.unwrapSwitch (front ++ (Token.ofLine (componentDeclaration key name component) ++ back)))
        = earlier ++ (Token.ofLine (componentDeclaration key name component) ++ Dialect.dropNamespace left) ∧
      (declaredNames (earlier ++ [.word key])).map Prod.fst
        = (declaredNames (Dialect.dropNamespace (Dialect.unwrapSwitch (front ++ [.word key])))).map Prod.fst := by
  have hopening : (Token.word key).text ≠ "(" := h.key_ne (by decide)
  have hclosing : (Token.word key).text ≠ ")" := h.key_ne (by decide)
  have hpoint : (Token.word key).text ≠ "." := h.key_ne (by decide)
  have hlast : ∀ tokens, Dialect.dropNamespace (tokens ++ [.word key])
      = Dialect.dropNamespace tokens ++ [.word key] := fun tokens =>
    Dialect.dropNamespace_append tokens [] hpoint
  have haround : ∀ tokens left,
      Dialect.dropNamespace (tokens ++ (Token.ofLine (componentDeclaration key name component) ++ left))
        = Dialect.dropNamespace tokens
          ++ (Token.ofLine (componentDeclaration key name component) ++ Dialect.dropNamespace left) := by
    intro tokens left
    rw [← h.dropNamespace_eq]
    exact Dialect.dropNamespace_append tokens _ hpoint
  rw [Dialect.unwrapSwitch_concat front hopening hclosing, hlast]
  have hcases := Dialect.unwrapSwitch_append front
    (Token.ofLine [name, "=", "id", ".", component] ++ back) hopening
  have hcons : .word key :: (Token.ofLine [name, "=", "id", ".", component] ++ back)
      = Token.ofLine (componentDeclaration key name component) ++ back := rfl
  rw [hcons] at hcases
  rcases hcases with hfront | ⟨hsame, hback | hstraddles⟩
  · exact ⟨_, back, .all, by rw [hfront, haround], rfl⟩
  · exact ⟨_, _, .unwrapped, by rw [hback, h.unwrapSwitch_eq, haround], by rw [hsame]⟩
  · obtain ⟨before, inside, between, behind, s, p, closing, hs, hp, htext, rfl, htokens, hresult⟩ := hstraddles
    -- the partner is none of the tokens of the declaration
    obtain ⟨more, rfl, rfl⟩ : ∃ more,
        between = Token.ofLine (componentDeclaration key name component) ++ more ∧
          back = more ++ closing :: behind := by
      rcases List.append_eq_append_iff.mp htokens with ⟨more, hbetween, hback⟩ | ⟨more, hdeclaration, hback⟩
      · exact ⟨more, hbetween, hback⟩
      · cases more with
        | nil => exact ⟨[], by rw [hdeclaration]; simp, hback.symm⟩
        | cons t more =>
          obtain ⟨rfl, -⟩ := List.cons.inj hback
          exact absurd htext (h.not_closing (by simp [hdeclaration]))
    refine ⟨_, _, .partner htext rfl, by rw [hresult, List.append_assoc _ more, haround], ?_⟩
    have hswitch : s.text ≠ "." := by rw [hs]; decide
    have hswitchName : s.text ≠ "Math" := by rw [hs]; decide
    have hopeningName : p.text ≠ "Math" := by rw [hp]; decide
    rw [hsame, Dialect.dropNamespace_append before _ hswitch, Dialect.dropNamespace_append before _ hswitch,
      Dialect.dropNamespace_cons hswitchName, Dialect.dropNamespace_cons hswitchName,
      Dialect.dropNamespace_cons hopeningName]
    simpa using declaredNames_without_parenthesis hs hp (Dialect.dropNamespace before)
      (Dialect.dropNamespace inside ++ [.word key])

/-- The names that a keyword of the line declares. -/
def declaredOn (line : Line) : List String :=
  (declaredNames (Dialect.prepare .current (Token.ofLine line))).map Prod.fst

/-- The names that an array literal of the line is assigned to. -/
def assignedOn (line : Line) : List String :=
  (literalTargets (Dialect.prepare .current (Token.ofLine line))).map Prod.fst

/-- Between `before` and `after`, outside of every array literal, a line declares a name with a component of
the invocation id, and the name has a type neither from the table nor from anything else on the line. -/
structure Introduces (types : TypeTable) (before after : Line) (key name component : String) : Prop
    extends DeclaresComponent key name component where
  outside : ∀ parts, Reads false before parts → ∀ content, Part.unclosed content ∉ parts
  unknown : types.get? name = none
  first : name ∉ declaredOn (before ++ [key])
  unassigned : name ∉ assignedOn (before ++ (componentDeclaration key name component ++ after))

/-- The table behind a line that is read for the first time, as a body line or as what a declaration line
has behind its brace. -/
inductive Leaves (types : TypeTable) (line : Line) : TypeTable → Prop where
  | body : Leaves types line (bodyLine .current .infer types line).2
  | declaration {role : Role} {whole : Line} {declaration : Declaration} {brace text : String}
      {table : TypeTable} (hparse : Declaration.parse whole = .ok declaration)
      (htail : declaration.tail = brace :: line)
      (hline : declarationLine .current .infer role types whole = .ok (text, table)) :
      Leaves types line table

theorem Leaves.eq_bodyTypes {types table : TypeTable} {line : Line} (h : Leaves types line table)
    (hline : line ≠ []) : table = bodyTypes .current .infer types line := by
  cases h with
  | body => rfl
  | @declaration _ _ declaration _ _ _ hparse htail hwhole =>
    obtain ⟨found, head, hfound, -, -, hpair⟩ := declarationLine_eq_ok_iff.mp hwhole
    obtain rfl : declaration = found := Except.ok.inj (hparse.symm.trans hfound)
    rw [htail] at hpair
    obtain ⟨second, rest, rfl⟩ := List.exists_cons_of_ne_nil hline
    exact (Prod.mk.inj hpair).2

/-- What a name has once a line is registered: its old type, that of the last literal it is assigned, or that
of its first declaration. -/
theorem get?_register (types : TypeTable) (tokens : List Token) (name : String) :
    (register types tokens).get? name
      = (types.get? name).or (((NameTable.ofEntries (literalTargets tokens)).get? name).or
          (NameTable.get? ⟨declaredNames tokens⟩ name)) := by
  have hline : NameTable.get? ⟨(lineTypes tokens).entries⟩ name
      = ((NameTable.ofEntries (literalTargets tokens)).get? name).or
          (NameTable.get? ⟨declaredNames tokens⟩ name) := NameTable.get?_insertAllNew _ _ name
  rw [register, NameTable.get?_insertAllNew, hline]

/-- A name that nothing else gives a type has, once the line is registered, the type that goes by what
follows its declaration. -/
theorem get?_register_declaration {types : TypeTable} {key name component : String}
    (h : DeclaresComponent key name component) {earlier rest tokens : List Token}
    (htokens : tokens = earlier ++ (Token.ofLine (componentDeclaration key name component) ++ rest))
    (hunknown : types.get? name = none) (hunassigned : name ∉ (literalTargets tokens).map Prod.fst)
    (hfirst : name ∉ (declaredNames (earlier ++ [.word key])).map Prod.fst) :
    (register types tokens).get? name = some (if Bare (Token.toLine rest) then .u32 else .f32) := by
  have hliterals : (NameTable.ofEntries (literalTargets tokens)).get? name = none :=
    NameTable.get?_insertAll_of_not_mem _ hunassigned
  obtain ⟨word, hword⟩ := h.exists_keyword
  obtain ⟨found, hdeclared, hfound⟩ := declaredNames_append earlier (.word key)
    (.word name :: .word "=" :: .word "id" :: .word "." :: .word component :: rest)
  rw [declaredNames_of_keyword _ hword] at hdeclared
  have hnone : NameTable.get? ⟨found⟩ name = none := by
    rw [← Option.not_isSome_iff_eq_none]
    intro hsome
    rw [← hfound] at hfirst
    exact hfirst (NameTable.contains_iff_mem_names.mp hsome)
  have htype : NameTable.get? ⟨declaredNames tokens⟩ name
      = some (if isInvocationComponent
          (.word "=" :: .word "id" :: .word "." :: .word component :: rest) then .u32 else .f32) := by
    have hline : declaredNames tokens = _ := (congrArg declaredNames htokens).trans hdeclared
    rw [hline, NameTable.get?_mk_append, hnone, Option.none_or, NameTable.get?_mk_cons]
    exact if_pos rfl
  rw [get?_register, hunknown, hliterals, htype, Option.none_or, Option.none_or]
  exact congrArg some (if_congr (h.isInvocationComponent_iff rest) rfl rfl)

namespace Introduces

variable {types : TypeTable} {before after : Line} {key name component : String}

/-- The parts of the line, and of the line up to the keyword. -/
theorem exists_parts (h : Introduces types before after key name component) :
    ∃ front back, Reads false after back ∧ Reads false (before ++ [key]) (front ++ [.word key]) ∧
      Reads false (before ++ (componentDeclaration key name component ++ after))
        (front ++ ((componentDeclaration key name component).map Part.word ++ back)) := by
  obtain ⟨front, hfront⟩ := exists_reads false before
  obtain ⟨back, hback⟩ := exists_reads false after
  have hbracket : key ≠ "[" := h.key_ne (by decide)
  have hequals : (key == "=") = false := beq_false_of_ne (h.key_ne (by decide))
  have hcomponent : (component == "=") = false := beq_false_of_ne (h.component_ne (by decide))
  refine ⟨front, back, hback, hfront.append_word (h.outside front hfront) hbracket (.nil _), ?_⟩
  refine hfront.append_word (h.outside front hfront) hbracket ?_
  rw [hequals]
  refine .word rfl <| .word (by simp) <| .word rfl <| .word rfl <| .word rfl ?_
  rwa [hcomponent]

/-- The type of the name, by what is left of the line behind the declaration. -/
theorem exists_left (h : Introduces types before after key name component)
    (hdirective : (before ++ (componentDeclaration key name component ++ after)).any isDirective = false) :
    ∃ back left, Reads false after back ∧ Dialect.Remains (back.map Part.token) left ∧
      (bodyTypes .current .infer types
          (before ++ (componentDeclaration key name component ++ after))).get? name
        = some (if Bare (Token.toLine (Dialect.dropNamespace left)) then .u32 else .f32) := by
  obtain ⟨front, back, hback, hkeyword, hline⟩ := h.exists_parts
  obtain ⟨earlier, left, hleft, hpasses, hnames⟩ :=
    passes_around h.toDeclaresComponent (front.map Part.token) (back.map Part.token)
  refine ⟨back, left, hback, hleft, ?_⟩
  have htokens : Dialect.dropNamespace (Dialect.unwrapSwitch
      ((front ++ ((componentDeclaration key name component).map Part.word ++ back)).map Part.token))
        = earlier ++ (Token.ofLine (componentDeclaration key name component) ++ Dialect.dropNamespace left) := by
    rw [List.map_append, List.map_append, ← hpasses]
    rfl
  have hlone : (before ++ (componentDeclaration key name component ++ after)).length ≠ 1 := by
    simp only [componentDeclaration, List.length_append, List.length_cons, List.length_nil]
    omega
  have hfirst := h.first
  rw [declaredOn, prepare_of_reads hkeyword, List.map_append] at hfirst
  have hunassigned := h.unassigned
  rw [assignedOn, prepare_of_reads hline] at hunassigned
  simp only [bodyTypes, prepared?_of_reads hline hlone hdirective]
  exact get?_register_declaration h.toDeclaresComponent htokens h.unknown hunassigned (hnames ▸ hfirst)

end Introduces

/-- **The rest of the line decides.** A name that is declared with a component of the invocation id, and that
nothing else gives a type, is a `u32` if the line ends with the declaration or with one semicolon behind it.
If any other token is left behind it, as of a further statement or of a brace that closes the function, the
name is an `f32`, even where the declaration has its semicolon. -/
theorem invocation_type_by_rest {types table : TypeTable} {before after : Line} {key name component : String}
    (h : Introduces types before after key name component)
    (hdirective : (before ++ (componentDeclaration key name component ++ after)).any isDirective = false)
    (hleaves : Leaves types (before ++ (componentDeclaration key name component ++ after)) table) :
    (Bare after → table.get? name = some .u32) ∧
      (¬ Bare (lasting after) → table.get? name = some .f32) := by
  have hline : before ++ (componentDeclaration key name component ++ after) ≠ [] := by
    simp [componentDeclaration]
  obtain ⟨back, left, hback, hleft, htype⟩ := h.exists_left hdirective
  rw [hleaves.eq_bodyTypes hline, htype]
  constructor
  · intro hbare
    rw [if_pos (hleft.bare (hback.bare_tokens hbare))]
  · intro hmore
    rw [if_neg fun hbare => hmore (hback.bare_of_tokens (hleft.bare_lasting hbare))]

/-- At the end of a line behind a `switch` and a literal, and in a function that is closed on its line. -/
theorem lastComponent_typed :
    Introduces ⟨[("a", .f32)]⟩ ["switch", "(", "Math", ".", "floor", "(", "a", ")", ")", "let", "v", "=", "[", "1",
        ",", "2", "]", ";"] [";"] "const" "i" "y" ∧
      (bodyLine .current .infer ⟨[("a", .f32)]⟩ ["switch", "(", "Math", ".", "floor", "(", "a", ")", ")", "let",
        "v", "=", "[", "1", ",", "2", "]", ";", "const", "i", "=", "id", ".", "y", ";"]).2.get? "i" = some .u32 ∧
      Introduces ⟨[("a", .f32)]⟩ [] ["\x7d"] "let" "i" "x;" ∧
      ∃ text table, declarationLine .current .infer (.helper (some .f32)) ⟨[("a", .f32)]⟩
          ["function", "f", "(", "a", ")", "\x7b", "let", "i", "=", "id", ".", "x;", "\x7d"] = .ok (text, table) ∧
        table.get? "i" = some .f32 := by
  have hend : Introduces ⟨[("a", .f32)]⟩ ["switch", "(", "Math", ".", "floor", "(", "a", ")", ")", "let", "v",
      "=", "[", "1", ",", "2", "]", ";"] [";"] "const" "i" "y" :=
    { keyword := by decide
      name_ne := by decide
      axis := by decide
      outside := fun _ hreads => hreads.not_unclosed (Nested.depthAfter?_eq (by decide) 0)
      unknown := by decide
      first := by decide
      unassigned := by decide }
  have hclosed : Introduces ⟨[("a", .f32)]⟩ [] ["\x7d"] "let" "i" "x;" :=
    { keyword := by decide
      name_ne := by decide
      axis := by decide
      outside := fun _ hreads => hreads.not_unclosed (Nested.depthAfter?_eq .nil 0)
      unknown := by decide
      first := by decide
      unassigned := by decide }
  have hparse : Declaration.parse
      ["function", "f", "(", "a", ")", "\x7b", "let", "i", "=", "id", ".", "x;", "\x7d"]
        = .ok ⟨"f", ["a"], ["\x7b", "let", "i", "=", "id", ".", "x;", "\x7d"]⟩ := rfl
  obtain ⟨text, table, hline⟩ : ∃ text table,
      declarationLine .current .infer (.helper (some .f32)) ⟨[("a", .f32)]⟩
        ["function", "f", "(", "a", ")", "\x7b", "let", "i", "=", "id", ".", "x;", "\x7d"] = .ok (text, table) :=
    ⟨_, _, rfl⟩
  refine ⟨hend, (invocation_type_by_rest hend (by decide) .body).1 (by decide), hclosed, text, table, hline, ?_⟩
  exact (invocation_type_by_rest hclosed (by decide) (.declaration hparse rfl hline)).2 (by decide)

/-- A further statement on the line takes the type away from a declaration that has ended. -/
theorem followedComponent_loses_type :
    split "let i = id.x; let j = 1;" = componentDeclaration "let" "i" "x;" ++ ["let", "j", "=", "1;"] ∧
      (bodyLine .current .infer ⟨[]⟩ (split "let i = id.x; let j = 1;")).2.get? "i" = some .f32 ∧
      (bodyLine .current .infer ⟨[]⟩ (split "let i = id.x; let j = 1;")).1
        = "var i: f32 = id.x; var j: f32 = 1;" := by
  have hsplit : split "let i = id.x; let j = 1;"
      = componentDeclaration "let" "i" "x;" ++ ["let", "j", "=", "1;"] := by
    decide
  refine ⟨hsplit, ?_, ?_⟩
  · rw [hsplit]
    decide
  · rw [hsplit]
    decide

end Generator

end KernelShader
