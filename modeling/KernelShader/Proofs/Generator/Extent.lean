/-
`Extent.lean` -- how long an array can be that a line declares.

The only numbers that a function brings along are the lengths of its array literals, and a literal has fewer
commas than its line has tokens (`mem_prepare`). So unless a line has more tokens than can be written as a
number, the types that a reading adds to a table can all be written (`TypesWritable.bodyLines`).
-/
import KernelShader.Proofs.Declaration
import KernelShader.Proofs.Generator.Growth
import KernelShader.Proofs.Generator.Passes
import KernelShader.Proofs.Transcript

set_option autoImplicit false

namespace KernelShader

theorem Numeral.Writable.mono {m n : Nat} (h : Writable n) (hle : m ≤ n) : Writable m :=
  Nat.lt_of_le_of_lt hle h

/-! ## Tokens of a prepared line -/

namespace Dialect

/-- The token is a literal with a content of fewer tokens. -/
def ShortLiteral (bound : Nat) (t : Token) : Prop :=
  ∃ content, t = Token.ofContent content ∧ content.length < bound

theorem ShortLiteral.mono {m n : Nat} {t : Token} (h : ShortLiteral m t) (hle : m ≤ n) :
    ShortLiteral n t := by
  obtain ⟨content, ht, hlength⟩ := h
  exact ⟨content, ht, by omega⟩

/-- The tokens that a scan has taken off the line and not yet given back. -/
def Scan.held : Scan → Nat
  | .outside _ => 0
  | .inside content _ => content.length + 1

theorem mem_collapseFrom {scan : Scan} {tokens : List Token} {t : Token}
    (h : t ∈ collapseFrom scan tokens) : t ∈ tokens ∨ ShortLiteral (scan.held + tokens.length) t := by
  fun_induction collapseFrom scan tokens with
  | case1 => exact Or.inl h
  | case2 content depth => exact Or.inr ⟨content, List.mem_singleton.mp h, Nat.lt_succ_self _⟩
  | case3 afterEquals opening ts hopening ih =>
    refine (ih h).imp (List.mem_cons_of_mem opening) fun hshort => hshort.mono ?_
    simp only [Scan.held, List.length_nil, List.length_cons]
    omega
  | case4 afterEquals u ts hother ih =>
    rcases List.mem_cons.mp h with rfl | h
    · exact Or.inl List.mem_cons_self
    · refine (ih h).imp (List.mem_cons_of_mem u) fun hshort => hshort.mono ?_
      simp only [Scan.held, List.length_cons]
      omega
  | case5 content closing ts hclosing ih =>
    rcases List.mem_cons.mp h with rfl | h
    · exact Or.inr ⟨content, rfl, by simp only [Scan.held, List.length_cons]; omega⟩
    · refine (ih h).imp (List.mem_cons_of_mem closing) fun hshort => hshort.mono ?_
      simp only [Scan.held, List.length_cons]
      omega
  | case6 content closing ts hclosing depth ih =>
    refine (ih h).imp (List.mem_cons_of_mem closing) fun hshort => hshort.mono ?_
    simp only [Scan.held, List.length_append, List.length_cons, List.length_nil]
    omega
  | case7 content depth u ts hother ih =>
    refine (ih h).imp (List.mem_cons_of_mem u) fun hshort => hshort.mono ?_
    simp only [Scan.held, List.length_append, List.length_cons, List.length_nil]
    omega

theorem mem_cutAtLiteral {tokens : List Token} {t : Token} (h : t ∈ cutAtLiteral tokens) :
    t ∈ tokens ∨ ShortLiteral tokens.length t := by
  fun_induction cutAtLiteral tokens with
  | case1 e b ts hliteral =>
    rcases List.mem_cons.mp h with rfl | h
    · exact Or.inl List.mem_cons_self
    · have hle := (List.takeWhile_sublist (p := (!·.reads "]")) (l := ts)).length_le
      refine Or.inr ⟨_, List.mem_singleton.mp h, ?_⟩
      simp only [List.length_cons]
      omega
  | case2 e b ts hother ih =>
    rcases List.mem_cons.mp h with rfl | h
    · exact Or.inl List.mem_cons_self
    · refine (ih h).imp (List.mem_cons_of_mem e) fun hshort => hshort.mono ?_
      simp only [List.length_cons]
      omega
  | case3 => exact Or.inl h

theorem sublist_unwrapSwitch (tokens : List Token) : (unwrapSwitch tokens).Sublist tokens := by
  rcases unwrapSwitch_cases tokens with
    hsame | ⟨front, inside, behind, s, p, closing, -, -, -, rfl, hresult⟩
  · rw [hsame]
  · rw [hresult]
    refine List.Sublist.append_left (.cons_cons s (.cons p ?_)) front
    exact List.Sublist.append_left (List.sublist_cons_self closing behind) inside

theorem sublist_dropFirstParentheses (tokens : List Token) :
    (dropFirstParentheses tokens).Sublist tokens := by
  unfold dropFirstParentheses
  split
  · exact List.eraseP_sublist.trans List.eraseP_sublist
  · exact List.Sublist.refl tokens

theorem sublist_dropNamespace (tokens : List Token) : (dropNamespace tokens).Sublist tokens := by
  fun_induction dropNamespace tokens with
  | case1 m p ts hqualifier ih => exact .cons m (.cons p ih)
  | case2 m p ts hother ih => exact .cons_cons m ih
  | case3 => exact List.Sublist.refl _

/-- **What a prepared line is made of**: tokens of the line, and literals with fewer tokens than it. -/
theorem mem_prepare {dialect : Dialect} {tokens : List Token} {t : Token}
    (h : t ∈ dialect.prepare tokens) : t ∈ tokens ∨ ShortLiteral tokens.length t := by
  cases dialect with
  | current =>
    have hfirst := (sublist_unwrapSwitch _).subset ((sublist_dropNamespace _).subset h)
    refine (mem_collapseFrom hfirst).imp_right fun hshort => hshort.mono ?_
    simp only [Scan.held]
    omega
  | legacy =>
    exact mem_cutAtLiteral
      ((sublist_dropFirstParentheses _).subset ((sublist_dropNamespace _).subset h))

end Dialect

/-! ## The types of a line -/

namespace Generator

theorem exists_of_mem_literalTargets {tokens : List Token} {name : String} {type : ShaderType}
    (h : (name, type) ∈ literalTargets tokens) :
    ∃ text commas, .literal text commas ∈ tokens ∧ type = .ofCommas commas := by
  fun_induction literalTargets tokens with
  | case1 target equals value rest found ih =>
    rcases List.mem_append.mp h with h | h
    · cases value with
      | word text => exact absurd h List.not_mem_nil
      | literal text commas =>
        refine ⟨text, commas, by simp, ?_⟩
        by_cases hequals : equals.reads "=" = true
        · simp only [found, if_pos hequals, List.mem_singleton, Prod.mk.injEq] at h
          exact h.2
        · simp only [found, if_neg hequals, List.not_mem_nil] at h
    · obtain ⟨text, commas, hmem, htype⟩ := ih h
      exact ⟨text, commas, List.mem_cons_of_mem target hmem, htype⟩
  | case2 => exact absurd h List.not_mem_nil

theorem writable_of_mem_declaredNames {tokens : List Token} {name : String} {type : ShaderType}
    (h : (name, type) ∈ declaredNames tokens) : type.Writable := by
  fun_induction declaredNames tokens with
  | case1 key target rest found ih =>
    rcases List.mem_append.mp h with h | h
    · cases hkey : keyword? key with
      | none => simp only [found, hkey, List.not_mem_nil] at h
      | some word =>
        simp only [found, hkey, List.mem_singleton, Prod.mk.injEq] at h
        rw [h.2]
        split <;> exact trivial
    · exact ih h
  | case2 => exact absurd h List.not_mem_nil

variable {types : TypeTable} {dialect : Dialect} {phase : Phase}

theorem TypesWritable.register (h : TypesWritable types) {tokens : List Token}
    (htokens : ∀ text commas, .literal text commas ∈ tokens → Numeral.Writable ↑(commas + 1)) :
    TypesWritable (register types tokens) := by
  intro name type htype
  rw [get?_register_eq, Option.or_eq_some_iff, sightedType, Option.or_eq_some_iff] at htype
  rcases htype with hold | ⟨-, hliteral | ⟨-, hdeclared⟩⟩
  · exact h name type hold
  · have htarget := List.mem_reverse.mp (NameTable.mem_entries_of_get? (t := ⟨_⟩) hliteral)
    obtain ⟨text, commas, hmem, rfl⟩ := exists_of_mem_literalTargets htarget
    exact htokens text commas hmem
  · exact writable_of_mem_declaredNames (NameTable.mem_entries_of_get? (t := ⟨_⟩) hdeclared)

theorem TypesWritable.bodyTypes (h : TypesWritable types) {line : Line}
    (hline : Numeral.Writable line.length) : TypesWritable (bodyTypes dialect phase types line) := by
  unfold Generator.bodyTypes
  split
  · rename_i tokens hprepared
    refine h.register fun text commas hmem => hline.mono ?_
    unfold prepared? at hprepared
    split_ifs at hprepared
    rw [← Option.some.inj hprepared] at hmem
    rcases Dialect.mem_prepare hmem with hword | ⟨content, hcontent, hlength⟩
    · obtain ⟨token, -, htoken⟩ := List.mem_map.mp hword
      exact nomatch htoken
    · -- a content has no more commas than tokens
      have hcommas : commas = content.countP (·.reads ",") := (Token.literal.inj hcontent).2
      have hle := List.countP_le_length (p := (Token.reads · ",")) (l := content)
      rw [Token.ofLine, List.length_map] at hlength
      omega
  · exact h

theorem TypesWritable.bodyLines (h : TypesWritable types) {lines : List Line}
    (hlines : ∀ line ∈ lines, Numeral.Writable line.length) :
    TypesWritable (bodyLines dialect phase types lines).2 := by
  induction lines generalizing types with
  | nil => exact h
  | cons line rest ih =>
    exact ih (h.bodyTypes (hlines line List.mem_cons_self))
      fun other hother => hlines other (List.mem_cons_of_mem line hother)

theorem TypesWritable.tailLine (h : TypesWritable types) {tail : Line}
    (htail : Numeral.Writable tail.length) : TypesWritable (tailLine dialect phase types tail).2 := by
  rcases tail with _ | ⟨token, _ | ⟨second, rest⟩⟩
  · exact h
  · exact h
  · exact h.bodyTypes (htail.mono (Nat.le_succ _))

/-- **When a function can be written.** Nothing is asked of its lines but that they are not too long. -/
theorem exists_generate_of_lengths (dialect : Dialect) (phase : Phase) {role : Role} {first : Line}
    {rest : List Line} {declaration : Declaration} (hrole : role.Writable)
    (hparse : Declaration.parse first = .ok declaration)
    (hparams : ∀ p ∈ declaration.params, types.contains p = true) (htypes : TypesWritable types)
    (hlines : ∀ line ∈ first :: rest, Numeral.Writable line.length) :
    ∃ texts after, generate dialect phase role types (first :: rest) = .ok (texts, after) := by
  obtain ⟨hfirst, hrest⟩ := List.forall_mem_cons.mp hlines
  have htail : TypesWritable (tailLine dialect phase types declaration.tail).2 :=
    htypes.tailLine (hfirst.mono (Declaration.length_tail_le hparse))
  exact exists_generate hrole hparse hparams (htail.bodyLines hrest)

end Generator

end KernelShader
