/-
`Keywords.lean` -- what stands behind a declaration keyword, in a line and after the passes.

The token behind a keyword is the name that gets a type, whatever it looks like. On lines where it is an
identifier, with `=` behind it or with a semicolon glued to it, this token can be followed from the line to the
table and to the text. None of the passes can part it from its keyword, since all they take away are
parentheses, points and what is in front of a point (`Spares`); only an array literal can hide the two together.
So what holds of the tokens behind the keywords of a line holds of every name that the line declares
(`of_mem_declaredNames`), and every keyword that is not hidden is written with its token and a type
(`typedName_mem_withTypes`).
-/
import KernelShader.Proofs.Generator.Conservation
import KernelShader.Proofs.Generator.Dialects
import KernelShader.Proofs.Generator.Sightings
import KernelShader.Text.WordChar

set_option autoImplicit false

namespace KernelShader

theorem Dialect.head?_cutAtLiteral (tokens : List Token) : (cutAtLiteral tokens).head? = tokens.head? := by
  fun_cases cutAtLiteral tokens with
  | case1 e b ts hplace => rfl
  | case2 e b ts hplace => rfl
  | case3 => rfl

namespace Generator

open Line

/-! ## Declarations in a line -/

/-- The words that begin a declaration. -/
def declarationKeywords : List String := ["let", "var", "const"]

/-- An identifier: letters, digits, `_` and `$`, and at least one of them. -/
def IsIdentifier (text : String) : Prop :=
  text ≠ "" ∧ text.toList.all (fun c => Text.isWordChar c || c == '$') = true

instance (text : String) : Decidable (IsIdentifier text) := inferInstanceAs (Decidable (_ ∧ _))

/-- The tokens behind a keyword declare an identifier: it is followed by `=`, or else a semicolon is glued to
it, and maybe more. The second argument is the token that the identifier is in. -/
inductive DeclaresAs : String → String → Line → Prop where
  | initialised {name : String} (hname : IsIdentifier name) (rest : Line) :
      DeclaresAs name name (name :: "=" :: rest)
  | bare {name : String} (hname : IsIdentifier name) (glued : String) (rest : Line) :
      DeclaresAs name (name ++ ";" ++ glued) ((name ++ ";" ++ glued) :: rest)

theorem IsIdentifier.not_mem_semicolon {text : String} (h : IsIdentifier text) : ';' ∉ text.toList := by
  intro hmem
  have hchar := List.all_eq_true.mp h.2 ';' hmem
  exact absurd hchar (by decide)

/-- The token has no semicolon exactly if it is the identifier. -/
theorem DeclaresAs.clean_iff {name token : String} {behind : Line} (h : DeclaresAs name token behind) :
    ';' ∉ token.toList ↔ token = name := by
  cases h with
  | initialised hname rest => exact iff_of_true hname.not_mem_semicolon rfl
  | bare hname glued rest =>
    have hmem : ';' ∈ (name ++ ";" ++ glued).toList := by simp
    refine iff_of_false (not_not.mpr hmem) fun heq => hname.not_mem_semicolon ?_
    exact heq ▸ hmem

/-- Every keyword of the line has a declaration behind it. -/
def WellDeclared (line : Line) : Prop :=
  ∀ before key behind, line = before ++ key :: behind → key ∈ declarationKeywords →
    ∃ name token, DeclaresAs name token behind

/-- The line declares the identifier, with this token. -/
def DeclaresIn (line : Line) (name token : String) : Prop :=
  ∃ before key behind, line = before ++ key :: behind ∧ key ∈ declarationKeywords ∧
    DeclaresAs name token behind

theorem wellDeclared_nil : WellDeclared [] := by
  intro before key behind hline
  simp at hline

theorem wellDeclared_cons_iff {token : String} {line : Line} :
    WellDeclared (token :: line) ↔
      (token ∈ declarationKeywords → ∃ name held, DeclaresAs name held line) ∧ WellDeclared line := by
  constructor
  · intro h
    refine ⟨h [] token line rfl, fun before key behind hline => ?_⟩
    exact h (token :: before) key behind (congrArg (token :: ·) hline)
  · rintro ⟨hfirst, hrest⟩ before key behind hline
    cases before with
    | nil =>
      obtain ⟨rfl, rfl⟩ := List.cons.inj hline
      exact hfirst
    | cons _ before => exact hrest before key behind (List.cons.inj hline).2

theorem isSome_keyword?_iff {t : Token} : (keyword? t).isSome = true ↔ t.text ∈ declarationKeywords := by
  unfold keyword? declarationKeywords
  split
  · simp_all
  · simp_all
  · simp_all
  · simp_all

/-! ## Tokens behind keywords -/

/-- A text that can stand behind a keyword: it has a semicolon in it or is an identifier. -/
def Firm (text : String) : Prop := ';' ∈ text.toList ∨ IsIdentifier text

instance (text : String) : Decidable (Firm text) := inferInstanceAs (Decidable (_ ∨ _))

theorem Firm.ne {text other : String} (h : Firm text) (hother : ¬ Firm other) : text ≠ other :=
  fun heq => hother (heq ▸ h)

/-- The first of the tokens has the property. It has a semicolon in it, or is an identifier with `=` behind
it. -/
def Stands (P : String → Prop) : List Token → Prop
  | [] => False
  | t :: rest =>
    P t.text ∧ (';' ∈ t.text.toList ∨ IsIdentifier t.text ∧ (rest.head?.map Token.text) = some "=")

/-- This is so behind every keyword. -/
def Declared (P : String → Prop) : List Token → Prop
  | [] => True
  | t :: rest => ((keyword? t).isSome = true → Stands P rest) ∧ Declared P rest

variable {P : String → Prop} {t key name p : Token} {tokens rest front behind : List Token}

theorem adjacent_cons_iff :
    [key, name] <:+: t :: rest ↔ (key = t ∧ ∃ more, rest = name :: more) ∨ [key, name] <:+: rest := by
  rw [List.infix_cons_iff, List.cons_prefix_cons]
  refine or_congr_left (and_congr_right fun _ => ⟨?_, ?_⟩)
  · rintro ⟨more, rfl⟩
    exact ⟨more, rfl⟩
  · rintro ⟨more, rfl⟩
    exact ⟨more, rfl⟩

theorem Stands.firm (h : Stands P (t :: rest)) : Firm t.text :=
  h.2.imp id And.left

/-- Of what follows the first token only a `=` matters. -/
theorem Stands.of_head {rest' : List Token} (h : Stands P (t :: rest))
    (hrest : ∀ equals more, rest = equals :: more → equals.text = "=" → rest'.head? = some equals) :
    Stands P (t :: rest') := by
  refine ⟨h.1, h.2.imp id fun hname => ⟨hname.1, ?_⟩⟩
  obtain ⟨equals, hhead, htext⟩ := Option.map_eq_some_iff.mp hname.2
  obtain ⟨more, hmore⟩ := List.head?_eq_some_iff.mp hhead
  rw [hrest equals more hmore htext, Option.map_some, htext]

theorem Declared.of_append (h : Declared P (front ++ tokens)) : Declared P tokens := by
  induction front with
  | nil => exact h
  | cons t front ih => exact ih h.2

/-- A keyword and the token behind it, somewhere in the line. -/
theorem Declared.stands (h : Declared P tokens) (hkey : (keyword? key).isSome = true)
    (hadjacent : [key, name] <:+: tokens) : ∃ rest, Stands P (name :: rest) := by
  obtain ⟨front, rest, rfl⟩ := hadjacent
  rw [List.append_assoc] at h
  exact ⟨rest, h.of_append.1 hkey⟩

/-- What is declared is not itself a keyword. -/
theorem Declared.keyword?_eq_none (h : Declared P (t :: rest)) (hstands : Stands P (t :: rest)) :
    keyword? t = none := by
  by_contra hsome
  rw [← ne_eq, Option.ne_none_iff_isSome] at hsome
  -- no keyword has a semicolon in it, and the `=` behind this one would have to be declared by it
  rcases hstands.2 with hsemicolon | ⟨-, hequals⟩
  · have hplain : ∀ word ∈ declarationKeywords, ';' ∉ word.toList := by decide
    exact hplain t.text (isSome_keyword?_iff.mp hsome) hsemicolon
  · obtain ⟨equals, hhead, htext⟩ := Option.map_eq_some_iff.mp hequals
    obtain ⟨more, rfl⟩ := List.head?_eq_some_iff.mp hhead
    exact (h.1 hsome).firm.ne (by decide) htext

theorem of_mem_declaredNames (h : Declared P tokens) {text : String}
    (hmem : text ∈ (declaredNames tokens).map Prod.fst) : P text := by
  induction tokens with
  | nil => exact absurd hmem List.not_mem_nil
  | cons t rest ih =>
    rw [declaredNames_cons, List.mem_append] at hmem
    rcases hmem with hfirst | hrest
    · unfold declaredFirst at hfirst
      split_ifs at hfirst with hkey
      · cases rest with
        | nil => exact absurd hfirst List.not_mem_nil
        | cons name rest =>
          obtain rfl : text = name.text := by simpa using hfirst
          exact (h.1 hkey).1
      · exact absurd hfirst List.not_mem_nil
    · exact ih h.2 hrest

theorem mem_declaredNames_of_adjacent (hkey : (keyword? key).isSome = true)
    (h : [key, name] <:+: tokens) : name.text ∈ (declaredNames tokens).map Prod.fst := by
  obtain ⟨front, rest, rfl⟩ := h
  rw [List.append_assoc]
  induction front with
  | nil =>
    rw [List.nil_append, List.cons_append, declaredNames_cons, hkey]
    exact List.mem_append_left _ List.mem_cons_self
  | cons t front ih => exact mem_declaredNames_cons t ih

/-- **Every keyword is written with its name and type**, provided that its name has one. -/
theorem typedName_mem_withTypes (types : TypeTable) {word : String} {type : ShaderType}
    (h : Declared P tokens) (hkey : keyword? key = some word) (hadjacent : [key, name] <:+: tokens)
    (htype : types.get? name.text = some type) :
    typedName word name.text type ∈ withTypes types tokens := by
  fun_induction withTypes types tokens with
  | case1 first second rest word' hfirst type' hsecond ih =>
    rcases adjacent_cons_iff.mp hadjacent with ⟨rfl, more, hmore⟩ | hlater
    · obtain ⟨rfl, rfl⟩ := List.cons.inj hmore
      obtain rfl := Option.some.inj (hkey.symm.trans hfirst)
      obtain rfl := Option.some.inj (htype.symm.trans hsecond)
      exact List.mem_cons_self
    · rcases adjacent_cons_iff.mp hlater with ⟨rfl, -⟩ | hlater
      · -- writing goes on behind the name, which is no keyword
        have hnone := h.2.keyword?_eq_none (h.1 (by rw [hfirst]; rfl))
        simp [hnone] at hkey
      · exact List.mem_cons_of_mem _ (ih h.2.2 hlater)
  | case2 first second rest word' hfirst hnone ih =>
    rcases adjacent_cons_iff.mp hadjacent with ⟨rfl, more, hmore⟩ | hlater
    · obtain ⟨rfl, rfl⟩ := List.cons.inj hmore
      simp [htype] at hnone
    · exact List.mem_cons_of_mem _ (ih h.2 hlater)
  | case3 first second rest hfirst ih =>
    rcases adjacent_cons_iff.mp hadjacent with ⟨rfl, -⟩ | hlater
    · simp [hfirst] at hkey
    · exact List.mem_cons_of_mem _ (ih h.2 hlater)
  | case4 t => exact absurd hadjacent.length_le (by simp)
  | case5 => exact absurd hadjacent.length_le (by simp)

/-! ## The second and the third pass -/

/-- The second line has the declarations of the first: what stands behind every keyword still does, and no
token is parted from the keyword in front of it. -/
structure Spares (ts us : List Token) : Prop where
  declared : ∀ {P : String → Prop}, Declared P ts → Declared P us
  together : ∀ {P : String → Prop} {key name : Token}, Declared P ts → (keyword? key).isSome = true →
    [key, name] <:+: ts → [key, name] <:+: us

theorem Spares.rfl {ts : List Token} : Spares ts ts := ⟨id, fun _ _ h => h⟩

theorem Spares.trans {ts us vs : List Token} (h : Spares ts us) (h' : Spares us vs) : Spares ts vs where
  declared hts := h'.declared (h.declared hts)
  together hts hkey hadjacent := h'.together (h.declared hts) hkey (h.together hts hkey hadjacent)

/-- A token that cannot be part of a declaration may go. -/
theorem spares_erase (front behind : List Token) (hfirm : ¬ Firm p.text) (hequals : p.text ≠ "=")
    (hkeyword : keyword? p = none) : Spares (front ++ p :: behind) (front ++ behind) where
  declared {P} h := by
    -- behind a keyword only the first two tokens matter, and `p` can be neither of them
    have hstands : ∀ front, Stands P (front ++ p :: behind) → Stands P (front ++ behind) := by
      rintro (_ | ⟨t, _ | ⟨u, front⟩⟩) hfront
      · exact absurd hfront.firm hfirm
      · refine ⟨hfront.1, hfront.2.imp id fun hname => ?_⟩
        exact absurd (Option.some.inj hname.2) hequals
      · exact hfront
    induction front with
    | nil => exact h.2
    | cons t front ih => exact ⟨fun hkey => hstands front (h.1 hkey), ih h.2⟩
  together {P key name} h hkey hadjacent := by
    have hname : name ≠ p := by
      obtain ⟨rest, hstands⟩ := h.stands hkey hadjacent
      exact fun heq => hfirm (heq ▸ hstands.firm)
    have hnot : key ≠ p := by
      rintro rfl
      simp [hkeyword] at hkey
    clear h
    induction front with
    | nil =>
      rcases adjacent_cons_iff.mp hadjacent with ⟨hhere, -⟩ | hlater
      · exact absurd hhere hnot
      · exact hlater
    | cons t front ih =>
      rcases adjacent_cons_iff.mp hadjacent with ⟨rfl, more, hmore⟩ | hlater
      · cases front with
        | nil => exact absurd (List.cons.inj hmore).1.symm hname
        | cons u front =>
          obtain ⟨rfl, -⟩ := List.cons.inj hmore
          exact adjacent_cons_iff.mpr (.inl ⟨rfl, front ++ behind, rfl⟩)
      · exact adjacent_cons_iff.mpr (.inr (ih hlater))

theorem spares_erase_parenthesis (front behind : List Token) (h : p.text ∈ ["(", ")"]) :
    Spares (front ++ p :: behind) (front ++ behind) := by
  have hplain : ∀ text ∈ ["(", ")"], ¬ Firm text ∧ text ≠ "=" ∧ text ∉ declarationKeywords := by decide
  obtain ⟨hfirm, hequals, hkeyword⟩ := hplain p.text h
  refine spares_erase front behind hfirm hequals ?_
  rw [← Option.not_isSome_iff_eq_none, isSome_keyword?_iff]
  exact hkeyword

theorem spares_unwrapSwitch (tokens : List Token) : Spares tokens (Dialect.unwrapSwitch tokens) := by
  rcases Dialect.unwrapSwitch_cases tokens with
    hsame | ⟨front, inside, behind, s, p, closing, -, hp, hclosing, rfl, hresult⟩
  · rw [hsame]
    exact .rfl
  · rw [hresult]
    have hopening : Spares (front ++ [s] ++ p :: (inside ++ closing :: behind)) _ :=
      spares_erase_parenthesis (front ++ [s]) (inside ++ closing :: behind) (by simp [hp])
    have hclosed : Spares (front ++ s :: inside ++ closing :: behind) _ :=
      spares_erase_parenthesis (front ++ s :: inside) behind (by simp [hclosing])
    simp only [List.append_assoc, List.cons_append, List.nil_append] at hopening hclosed
    exact hopening.trans hclosed

theorem spares_eraseP {text : String} (h : text ∈ ["(", ")"]) (tokens : List Token) :
    Spares tokens (tokens.eraseP (·.reads text)) := by
  rcases List.exists_or_eq_self_of_eraseP (·.reads text) tokens with
    hsame | ⟨p, front, behind, -, hp, rfl, hresult⟩
  · rw [hsame]
    exact .rfl
  · rw [hresult]
    exact spares_erase_parenthesis front behind (Token.text_of_reads hp ▸ h)

theorem spares_dropFirstParentheses (tokens : List Token) :
    Spares tokens (Dialect.dropFirstParentheses tokens) := by
  unfold Dialect.dropFirstParentheses
  split_ifs
  · exact (spares_eraseP (by decide) tokens).trans (spares_eraseP (by decide) _)
  · exact .rfl

/-- What is declared is not taken for a namespace. -/
theorem Stands.dropNamespace_cons (h : Stands P (t :: rest)) :
    Dialect.dropNamespace (t :: rest) = t :: Dialect.dropNamespace rest := by
  cases rest with
  | nil => rfl
  | cons second rest =>
    have hother : ¬ (t.reads "Math" && second.reads ".") = true := by
      intro hboth
      obtain ⟨hmath, hpoint⟩ := Bool.and_eq_true_iff.mp hboth
      -- the identifier `Math` has `=` behind it, and no point
      have htext := h.2
      rw [Token.text_of_reads hmath, List.head?_cons, Option.map_some, Token.text_of_reads hpoint] at htext
      exact absurd htext (by decide)
    rw [Dialect.dropNamespace, if_neg hother]

theorem Stands.dropNamespace (h : Stands P tokens) : Stands P (Dialect.dropNamespace tokens) := by
  cases tokens with
  | nil => exact h
  | cons t rest =>
    rw [h.dropNamespace_cons]
    refine h.of_head ?_
    rintro equals more rfl htext
    rw [Dialect.dropNamespace_cons (by rw [htext]; decide), List.head?_cons]

theorem spares_dropNamespace (tokens : List Token) : Spares tokens (Dialect.dropNamespace tokens) where
  declared {P} h := by
    fun_induction Dialect.dropNamespace tokens with
    | case1 m p ts hqualifier ih => exact ih h.2.2
    | case2 m p ts hother ih => exact ⟨fun hkey => (h.1 hkey).dropNamespace, ih h.2⟩
    | case3 => exact h
  together {P key name} h hkey hadjacent := by
    fun_induction Dialect.dropNamespace tokens with
    | case1 m p ts hqualifier ih =>
      obtain ⟨hmath, hpoint⟩ := Bool.and_eq_true_iff.mp hqualifier
      have hplain : ∀ text ∈ ["Math", "."], text ∉ declarationKeywords := by decide
      have hword := isSome_keyword?_iff.mp hkey
      rcases adjacent_cons_iff.mp hadjacent with ⟨rfl, -⟩ | hlater
      · exact absurd hword (hplain _ (by simp [Token.text_of_reads hmath]))
      · rcases adjacent_cons_iff.mp hlater with ⟨rfl, -⟩ | hlater
        · exact absurd hword (hplain _ (by simp [Token.text_of_reads hpoint]))
        · exact ih h.2.2 hlater
    | case2 m p ts hother ih =>
      rcases adjacent_cons_iff.mp hadjacent with ⟨rfl, more, hmore⟩ | hlater
      · obtain ⟨rfl, rfl⟩ := List.cons.inj hmore
        exact adjacent_cons_iff.mpr (.inl ⟨rfl, _, (h.1 hkey).dropNamespace_cons⟩)
      · exact adjacent_cons_iff.mpr (.inr (ih h.2 hlater))
    | case3 => exact hadjacent

/-! ## The first pass -/

theorem Stands.collapseFrom (h : Stands P tokens) (afterEquals : Bool) :
    Stands P (Dialect.collapseFrom (.outside afterEquals) tokens) := by
  -- neither what is declared nor the `=` behind it opens a literal
  have hkept : ∀ (afterEquals : Bool) (t : Token) (rest : List Token), t.text ≠ "[" →
      Dialect.collapseFrom (.outside afterEquals) (t :: rest)
        = t :: Dialect.collapseFrom (.outside (t.reads "=")) rest := by
    intro afterEquals t rest ht
    rw [Dialect.collapseFrom, if_neg (by simp [Token.reads, ht])]
  cases tokens with
  | nil => exact h
  | cons t rest =>
    rw [hkept afterEquals t rest (h.firm.ne (by decide))]
    refine h.of_head ?_
    rintro equals more rfl htext
    rw [hkept _ equals more (by rw [htext]; decide), List.head?_cons]

theorem declared_collapseFrom (scan : Dialect.Scan) (h : Declared P tokens) :
    Declared P (Dialect.collapseFrom scan tokens) := by
  have hliteral : ∀ {content rest : List Token}, Declared P rest → Declared P (Token.ofContent content :: rest) :=
    fun hrest => ⟨fun hkey => by simp [keyword?_ofContent] at hkey, hrest⟩
  induction tokens generalizing scan with
  | nil =>
    cases scan with
    | outside afterEquals => exact h
    | inside content depth => exact hliteral trivial
  | cons t rest ih =>
    rw [Dialect.collapseFrom_cons]
    cases scan with
    | inside content depth =>
      rw [Dialect.Scan.written]
      split_ifs
      · exact hliteral (ih _ h.2)
      · exact ih _ h.2
    | outside afterEquals =>
      rw [Dialect.Scan.written, Dialect.Scan.next]
      split_ifs
      · exact ih _ h.2
      · exact ⟨fun hkey => (h.1 hkey).collapseFrom _, ih _ h.2⟩

theorem Stands.cutAtLiteral (h : Stands P tokens) : Stands P (Dialect.cutAtLiteral tokens) := by
  cases tokens with
  | nil => exact h
  | cons t rest =>
    cases rest with
    | nil => exact h
    | cons second rest =>
      have hplace : ¬ (t.reads "=" && second.reads "[") = true := by
        simp [Token.reads, h.firm.ne (by decide : ¬ Firm "=")]
      rw [Dialect.cutAtLiteral, if_neg hplace]
      refine h.of_head fun equals more hrest _ => ?_
      rw [Dialect.head?_cutAtLiteral, hrest, List.head?_cons]

theorem declared_cutAtLiteral (h : Declared P tokens) : Declared P (Dialect.cutAtLiteral tokens) := by
  fun_induction Dialect.cutAtLiteral tokens with
  | case1 e b ts hplace =>
    have hequals : keyword? e = none := by
      rw [← Option.not_isSome_iff_eq_none, isSome_keyword?_iff,
        Token.text_of_reads (Bool.and_eq_true_iff.mp hplace).1]
      decide
    exact ⟨fun hkey => by simp [hequals] at hkey, fun hkey => by simp [keyword?_ofContent] at hkey, trivial⟩
  | case2 e b ts hplace ih => exact ⟨fun hkey => (h.1 hkey).cutAtLiteral, ih h.2⟩
  | case3 => exact h

/-- The dialect gets to what follows these tokens: no array literal is open behind them, and in the legacy
dialect, which ends a line with its first literal, none has begun. -/
def GetsPast : Dialect → Line → Prop
  | .current, before => Dialect.leavesOpen (Token.ofLine before) = false
  | .legacy, before => ¬ ["=", "["] <:+: before

theorem exists_collapseFrom_append (scan : Dialect.Scan) (before tokens : List Token) :
    ∃ front, Dialect.collapseFrom scan (before ++ tokens)
      = front ++ Dialect.collapseFrom (before.foldl Dialect.Scan.next scan) tokens := by
  induction before generalizing scan with
  | nil => exact ⟨[], rfl⟩
  | cons t before ih =>
    obtain ⟨front, hfront⟩ := ih (scan.next t)
    refine ⟨scan.written t ++ front, ?_⟩
    rw [List.cons_append, Dialect.collapseFrom_cons, hfront, List.foldl_cons, List.append_assoc]

theorem adjacent_collapseLiterals {before : List Token} (hopen : Dialect.leavesOpen before = false)
    (hkey : key.text ≠ "[") (hname : name.text ≠ "[") (behind : List Token) :
    [key, name] <:+: Dialect.collapseLiterals (before ++ key :: name :: behind) := by
  obtain ⟨front, hfront⟩ := exists_collapseFrom_append (.outside false) before (key :: name :: behind)
  rw [Dialect.collapseLiterals, hfront]
  unfold Dialect.leavesOpen at hopen
  cases hscan : before.foldl Dialect.Scan.next (.outside false) with
  | inside content depth => simp [hscan, Dialect.Scan.isInside] at hopen
  | outside afterEquals =>
    rw [Dialect.collapseFrom, if_neg (by simp [Token.reads, hkey]), Dialect.collapseFrom,
      if_neg (by simp [Token.reads, hname])]
    exact ⟨front, _, by rw [List.append_assoc]; rfl⟩

theorem adjacent_cutAtLiteral {before : Line} (hplain : ¬ ["=", "["] <:+: before) (hkey : Firm key.text)
    (hname : Firm name.text) (behind : List Token) :
    [key, name] <:+: Dialect.cutAtLiteral (Token.ofLine before ++ key :: name :: behind) := by
  have hchain : List.IsChain Token.Apart (Token.ofLine before ++ [key]) := by
    refine List.isChain_append.mpr ⟨Token.isChain_apart_iff.mpr ?_, List.isChain_singleton key, ?_⟩
    · rwa [Token.toLine_ofLine]
    · intro last hlast first hfirst hboth
      obtain rfl : key = first := by simpa using hfirst
      exact hkey.ne (by decide) hboth.2
  have hplace : ∀ {t : Token} (next : Token), Firm t.text → ¬ (t.reads "=" && next.reads "[") = true := by
    intro t next ht
    simp [Token.reads, ht.ne (by decide : ¬ Firm "=")]
  obtain ⟨more, hmore⟩ : ∃ more, Dialect.cutAtLiteral (name :: behind) = name :: more := by
    cases behind with
    | nil => exact ⟨[], rfl⟩
    | cons next behind => exact ⟨_, by rw [Dialect.cutAtLiteral, if_neg (hplace next hname)]⟩
  rw [Dialect.cutAtLiteral_append hchain, Dialect.cutAtLiteral, if_neg (hplace name hkey), hmore]
  exact ⟨Token.ofLine before, more, by rw [List.append_assoc]; rfl⟩

/-! ## Lines -/

/-- The pass that collapses literals. -/
def firstPass : Dialect → List Token → List Token
  | .current => Dialect.collapseLiterals
  | .legacy => Dialect.cutAtLiteral

theorem spares_prepare (dialect : Dialect) (tokens : List Token) :
    Spares (firstPass dialect tokens) (dialect.prepare tokens) := by
  cases dialect with
  | current => exact (spares_unwrapSwitch _).trans (spares_dropNamespace _)
  | legacy => exact (spares_dropFirstParentheses _).trans (spares_dropNamespace _)

theorem declared_firstPass (dialect : Dialect) (h : Declared P tokens) :
    Declared P (firstPass dialect tokens) := by
  cases dialect with
  | current => exact declared_collapseFrom (.outside false) h
  | legacy => exact declared_cutAtLiteral h

/-- A keyword that the dialect gets to stays with the token behind it. -/
theorem adjacent_prepare {dialect : Dialect} {before behind : Line} {key name : String}
    (h : Declared P (Token.ofLine (before ++ key :: name :: behind))) (hpast : GetsPast dialect before)
    (hkey : key ∈ declarationKeywords) :
    [.word key, .word name] <:+: dialect.prepare (Token.ofLine (before ++ key :: name :: behind)) := by
  have hsplit : Token.ofLine (before ++ key :: name :: behind)
      = Token.ofLine before ++ .word key :: .word name :: Token.ofLine behind := by
    simp [Token.ofLine]
  rw [hsplit] at h ⊢
  have hkeyword : (keyword? (.word key)).isSome = true := isSome_keyword?_iff.mpr hkey
  have hfirm : Firm (Token.word key).text := by
    have hall : ∀ word ∈ declarationKeywords, Firm word := by decide
    exact hall key hkey
  have hname : Firm (Token.word name).text := (h.of_append.1 hkeyword).firm
  refine (spares_prepare dialect _).together (declared_firstPass dialect h) hkeyword ?_
  cases dialect with
  | current =>
    exact adjacent_collapseLiterals hpast (hfirm.ne (by decide)) (hname.ne (by decide)) (Token.ofLine behind)
  | legacy => exact adjacent_cutAtLiteral hpast hfirm hname (Token.ofLine behind)

/-- The tokens behind the keywords of a line are those that the line declares identifiers with. -/
theorem declared_ofLine {line : Line} (h : WellDeclared line) :
    Declared (fun token => ∃ name, DeclaresIn line name token) (Token.ofLine line) := by
  have hsuffix : ∀ rest before, line = before ++ rest →
      Declared (fun token => ∃ name, DeclaresIn line name token) (Token.ofLine rest) := by
    intro rest
    induction rest with
    | nil => exact fun _ _ => trivial
    | cons key rest ih =>
      intro before hline
      refine ⟨fun hkey => ?_, ih (before ++ [key]) (by rw [hline, List.append_assoc]; rfl)⟩
      have hword : key ∈ declarationKeywords := isSome_keyword?_iff.mp hkey
      obtain ⟨name, token, hdeclares⟩ := h before key rest hline hword
      have hin : DeclaresIn line name token := ⟨before, key, rest, hline, hword, hdeclares⟩
      cases hdeclares with
      | initialised hname rest => exact ⟨⟨name, hin⟩, .inr ⟨hname, rfl⟩⟩
      | bare hname glued rest => exact ⟨⟨name, hin⟩, .inl (by simp [Token.text])⟩
  exact hsuffix line [] rfl

theorem eq_prepare_of_prepared? {dialect : Dialect} {line : Line}
    (h : prepared? dialect line = some tokens) : tokens = dialect.prepare (Token.ofLine line) := by
  unfold prepared? at h
  split_ifs at h
  exact (Option.some.inj h).symm

/-- The tokens of a line that is looked at. -/
theorem declared_of_prepared? {dialect : Dialect} {line : Line} (h : WellDeclared line)
    (hline : prepared? dialect line = some tokens) :
    Declared (fun token => ∃ name, DeclaresIn line name token) tokens := by
  rw [eq_prepare_of_prepared? hline]
  exact (spares_prepare dialect _).declared (declared_firstPass dialect (declared_ofLine h))

/-- **A declaration is written with the token that holds the identifier**, and a type, provided that the names
of the line have types. -/
theorem exists_typedName_of_declares {dialect : Dialect} {before behind : Line} {key name token : String}
    {types : TypeTable} (hwell : WellDeclared (before ++ key :: behind))
    (hdirective : (before ++ key :: behind).any isDirective = false) (hkey : key ∈ declarationKeywords)
    (hdeclares : DeclaresAs name token behind) (hpast : GetsPast dialect before)
    (htypes : ∀ tokens, prepared? dialect (before ++ key :: behind) = some tokens →
      ∀ text ∈ (declaredNames tokens).map Prod.fst, text ∈ types.names) :
    ∃ word type words, keyword? (.word key) = some word ∧ types.get? token = some type ∧
      bodyText dialect types (before ++ key :: behind) = Line.join words ∧
      typedName word token type ∈ words := by
  obtain ⟨rest, rfl⟩ : ∃ rest, behind = token :: rest := by
    cases hdeclares with
    | initialised => exact ⟨_, rfl⟩
    | bare => exact ⟨_, rfl⟩
  have hline : prepared? dialect (before ++ key :: token :: rest)
      = some (dialect.prepare (Token.ofLine (before ++ key :: token :: rest))) := by
    have hlength : (before ++ key :: token :: rest).length ≠ 1 := by
      simp only [List.length_append, List.length_cons]
      omega
    rw [prepared?, hdirective, decide_eq_false hlength]
    rfl
  have hadjacent : [Token.word key, .word token] <:+: _ := adjacent_prepare (declared_ofLine hwell) hpast hkey
  have hkeyword : (keyword? (.word key)).isSome = true := isSome_keyword?_iff.mpr hkey
  obtain ⟨word, hword⟩ := Option.isSome_iff_exists.mp hkeyword
  have hmem : token ∈ types.names := htypes _ hline token (mem_declaredNames_of_adjacent hkeyword hadjacent)
  obtain ⟨type, htype⟩ := NameTable.exists_get?_of_mem_names hmem
  have hwritten := typedName_mem_withTypes types (declared_of_prepared? hwell hline) hword hadjacent htype
  exact ⟨word, type, _, hword, htype, bodyText_of_some hline types, hwritten⟩

end Generator

end KernelShader
