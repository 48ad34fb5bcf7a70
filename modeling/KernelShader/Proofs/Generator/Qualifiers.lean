/-
`Qualifiers.lean` -- which `Math.` of a line is left when it is written.

The pass that takes qualifiers away looks at tokens, and it comes when every array literal is one token
already. So it takes every qualifier that stands outside of a literal and none that stands in one. Both
halves come from the same two facts, which every step of a body line keeps: each `Math` has its point
directly behind it, and the number of those inside the texts of other tokens stays the same. At the end no
token reads `Math` any more, and what is left are the qualifiers of the literals
(`qualifiers_only_in_literals`).
-/
import Mathlib.Algebra.GroupWithZero.Nat
import KernelShader.Proofs.Generator.Conservation

set_option autoImplicit false

namespace KernelShader

open Line

/-! ## Qualifiers of a line -/

namespace Line

/-- The number of places where `Math` stands directly in front of a point. -/
def qualifiers : Line → Nat
  | name :: point :: rest =>
    (if name = "Math" ∧ point = "." then 1 else 0) + qualifiers (point :: rest)
  | _ => 0

/-- Every `Math` stands directly in front of a point. -/
inductive Qualified : Line → Prop where
  | nil : Qualified []
  | cons {token : String} {rest : Line} (point : token = "Math" → rest.head? = some ".")
      (hrest : Qualified rest) : Qualified (token :: rest)

@[simp] theorem qualified_nil : Qualified [] := .nil

@[simp] theorem qualified_cons {token : String} {rest : Line} :
    Qualified (token :: rest) ↔ (token = "Math" → rest.head? = some ".") ∧ Qualified rest := by
  constructor
  · rintro (_ | ⟨point, hrest⟩)
    exact ⟨point, hrest⟩
  · rintro ⟨point, hrest⟩
    exact .cons point hrest

theorem qualifiers_eq_count {line : Line} (h : Qualified line) : qualifiers line = line.count "Math" := by
  fun_induction qualifiers line with
  | case1 name point rest ih =>
    obtain ⟨hname, hrest⟩ := qualified_cons.mp h
    rw [ih hrest, Nat.add_comm]
    by_cases hmath : name = "Math"
    · have hpoint : point = "." := by simpa using hname hmath
      simp [hmath, hpoint]
    · simp [hmath, List.count_cons_of_ne hmath]
  | case2 line hshort =>
    match line with
    | [] => rfl
    | [token] =>
      have hother : token ≠ "Math" := by simpa using h
      simp [hother]
    | name :: point :: rest => exact absurd rfl (hshort name point rest)

theorem qualified_of_not_mem {line : Line} (h : "Math" ∉ line) : Qualified line := by
  induction line with
  | nil => exact .nil
  | cons token rest ih =>
    refine .cons (fun hmath => absurd ?_ h) (ih fun hrest => h (List.mem_cons_of_mem token hrest))
    rw [hmath]
    exact List.mem_cons_self

namespace Qualified

theorem append {front back : Line} (hfront : Qualified front) (hback : Qualified back) :
    Qualified (front ++ back) := by
  induction hfront with
  | nil => exact hback
  | @cons token rest point hrest ih =>
    refine .cons (fun hmath => ?_) ih
    show (rest ++ back).head? = some "."
    rw [List.head?_append, point hmath]
    rfl

theorem back {front back : Line} (h : Qualified (front ++ back)) : Qualified back := by
  induction front with
  | nil => exact h
  | cons token rest ih => exact ih (qualified_cons.mp h).2

/-- What stands in front of another token than a point, and the line without this token, have their points
where they were. -/
theorem around {front back : Line} {token : String} (h : Qualified (front ++ token :: back))
    (hpoint : token ≠ ".") : Qualified front ∧ Qualified (front ++ back) := by
  induction front with
  | nil => exact ⟨.nil, (qualified_cons.mp h).2⟩
  | cons first rest ih =>
    obtain ⟨hfirst, hrest⟩ := qualified_cons.mp h
    obtain ⟨hfront, hwithout⟩ := ih hrest
    cases rest with
    | nil =>
      have hother : first ≠ "Math" := fun hmath => hpoint (by simpa using hfirst hmath)
      exact ⟨.cons (fun hmath => absurd hmath hother) hfront,
        .cons (fun hmath => absurd hmath hother) hwithout⟩
    | cons second rest => exact ⟨.cons hfirst hfront, .cons hfirst hwithout⟩

end Qualified

/-! ### Slots -/

theorem qualified_of_mem_splitOn {line slot : Line} (h : Qualified line) (hslot : slot ∈ line.splitOn ",") :
    Qualified slot := by
  induction line generalizing slot with
  | nil =>
    have hempty : slot = [] := by simpa [List.splitOn] using hslot
    rw [hempty]
    exact .nil
  | cons token line ih =>
    obtain ⟨htoken, hline⟩ := qualified_cons.mp h
    obtain ⟨first, rest, hslots⟩ := exists_splitOn line
    rw [splitOn_cons, hslots] at hslot
    rw [hslots] at ih
    split_ifs at hslot with hcomma
    · rcases List.mem_cons.mp hslot with rfl | hslot
      · exact .nil
      · exact ih hline hslot
    · rcases List.mem_cons.mp hslot with rfl | hslot
      · refine .cons (fun hmath => ?_) (ih hline List.mem_cons_self)
        -- the point behind the token begins the slot that the token is put in front of
        obtain ⟨tail, rfl⟩ := List.head?_eq_some_iff.mp (htoken hmath)
        obtain ⟨second, others, htail⟩ := exists_splitOn tail
        rw [splitOn_cons, htail] at hslots
        obtain ⟨rfl, -⟩ := List.cons.inj hslots
        rfl
      · exact ih hline (List.mem_cons_of_mem first hslot)

theorem intercalate_cons_cons (slot second : Line) (rest : List Line) :
    [","].intercalate (slot :: second :: rest) = slot ++ "," :: [","].intercalate (second :: rest) := by
  simp [List.intercalate]

theorem qualified_intercalate {slots : List Line} (h : ∀ slot ∈ slots, Qualified slot) :
    Qualified ([","].intercalate slots) := by
  induction slots with
  | nil => exact .nil
  | cons slot rest ih =>
    obtain ⟨hslot, hrest⟩ := List.forall_mem_cons.mp h
    cases rest with
    | nil => simpa [List.intercalate] using hslot
    | cons second rest =>
      rw [intercalate_cons_cons]
      exact hslot.append (.cons (fun hmath => absurd hmath (by decide)) (ih hrest))

theorem count_intercalate {token : String} (h : token ≠ ",") (slots : List Line) :
    ([","].intercalate slots).count token = (slots.map (List.count token)).sum := by
  induction slots with
  | nil => rfl
  | cons slot rest ih =>
    cases rest with
    | nil => simp [List.intercalate]
    | cons second rest =>
      rw [intercalate_cons_cons, List.count_append, List.count_cons_of_ne h.symm, ih]
      simp

/-- Leaving empty slots out loses nothing but commas. -/
theorem count_compact {token : String} (h : token ≠ ",") (line : Line) :
    (compact line).count token = line.count token := by
  have hempty : ∀ slots : List Line,
      ((slots.filter (!·.isEmpty)).map (List.count token)).sum = (slots.map (List.count token)).sum := by
    intro slots
    induction slots with
    | nil => rfl
    | cons slot rest ih =>
      cases slot with
      | nil => simpa using ih
      | cons first more => simpa using ih
  calc (compact line).count token
      = ((line.splitOn ",").map (List.count token)).sum := by
        rw [compact, count_intercalate h, hempty]
    _ = ([","].intercalate (line.splitOn ",")).count token := (count_intercalate h _).symm
    _ = line.count token := by rw [List.intercalate_splitOn]

theorem qualified_compact {line : Line} (h : Qualified line) : Qualified (compact line) :=
  qualified_intercalate fun _ hslot => qualified_of_mem_splitOn h (List.mem_filter.mp hslot).1

end Line

/-! ## Through the passes -/

/-- The number of `Math` in the text of a token that is not one itself. -/
def Token.inner (t : Token) : Nat :=
  if t.text = "Math" then 0 else (split t.text).count "Math"

theorem Token.inner_of_text {t : Token} {text : String} (h : t.text = text)
    (hinner : Token.inner (.word text) = 0) : t.inner = 0 := by
  rw [← hinner, Token.inner, Token.inner, h, Token.text]

namespace Dialect

theorem sum_inner_unwrapSwitch (tokens : List Token) :
    ((unwrapSwitch tokens).map Token.inner).sum = (tokens.map Token.inner).sum := by
  rcases unwrapSwitch_cases tokens with
    hsame | ⟨front, inside, behind, s, p, closing, -, hopening, hclosing, rfl, hresult⟩
  · rw [hsame]
  · have hp : p.inner = 0 := Token.inner_of_text hopening (by decide)
    have hc : closing.inner = 0 := Token.inner_of_text hclosing (by decide)
    simp [hresult, hp, hc]

theorem sum_inner_dropNamespace (tokens : List Token) :
    ((dropNamespace tokens).map Token.inner).sum = (tokens.map Token.inner).sum := by
  fun_induction dropNamespace tokens with
  | case1 m p ts hqualifier ih =>
    obtain ⟨hm, hp⟩ := Bool.and_eq_true_iff.mp hqualifier
    have hname : m.inner = 0 := Token.inner_of_text (Token.text_of_reads hm) (by decide)
    have hpoint : p.inner = 0 := Token.inner_of_text (Token.text_of_reads hp) (by decide)
    simp [ih, hname, hpoint]
  | case2 m p ts hother ih => simp only [List.map_cons, List.sum_cons, ih]
  | case3 => rfl

theorem qualified_unwrapSwitch {tokens : List Token} (h : Qualified (Token.toLine tokens)) :
    Qualified (Token.toLine (unwrapSwitch tokens)) := by
  rcases unwrapSwitch_cases tokens with
    hsame | ⟨front, inside, behind, s, p, closing, -, hopening, hclosing, rfl, hresult⟩
  · rwa [hsame]
  · -- first the closing parenthesis, then the opening one
    have hline : Qualified
        (Token.toLine (front ++ s :: p :: inside) ++ closing.text :: Token.toLine behind) := by
      simpa using h
    obtain ⟨-, hwithout⟩ := hline.around (by rw [hclosing]; decide)
    have hmore : Qualified (Token.toLine (front ++ [s]) ++ p.text :: Token.toLine (inside ++ behind)) := by
      simpa using hwithout
    obtain ⟨-, hneither⟩ := hmore.around (by rw [hopening]; decide)
    simpa [hresult] using hneither

/-- Where every `Math` has its point, the third pass leaves none. -/
theorem text_ne_of_mem_dropNamespace {tokens : List Token} (h : Qualified (Token.toLine tokens)) {t : Token}
    (ht : t ∈ dropNamespace tokens) : t.text ≠ "Math" := by
  fun_induction dropNamespace tokens with
  | case1 m p ts hqualifier ih =>
    obtain ⟨-, hrest⟩ := qualified_cons.mp h
    exact ih (qualified_cons.mp hrest).2 ht
  | case2 m p ts hother ih =>
    obtain ⟨hpoint, hrest⟩ := qualified_cons.mp h
    rcases List.mem_cons.mp ht with rfl | ht
    · intro hmath
      have hp : p.text = "." := by simpa using hpoint hmath
      exact hother (by simp [Token.reads, hmath, hp])
    · exact ih hrest ht
  | case3 ts hshort =>
    cases ts with
    | nil => exact absurd ht List.not_mem_nil
    | cons m rest =>
      cases rest with
      | nil =>
        rw [List.mem_singleton.mp ht]
        simpa using h
      | cons p rest => exact absurd rfl (hshort m p rest)

theorem dropNamespace_subset (tokens : List Token) : dropNamespace tokens ⊆ tokens := by
  fun_induction dropNamespace tokens with
  | case1 m p ts hqualifier ih => exact fun t ht => List.mem_cons_of_mem m (List.mem_cons_of_mem p (ih ht))
  | case2 m p ts hother ih => exact List.cons_subset_cons m ih
  | case3 => exact List.Subset.refl _

theorem unwrapSwitch_subset (tokens : List Token) : unwrapSwitch tokens ⊆ tokens := by
  rcases unwrapSwitch_cases tokens with hsame | ⟨front, inside, behind, s, p, closing, -, -, -, rfl, hresult⟩
  · rw [hsame]
    exact List.Subset.refl _
  · intro t ht
    simp only [hresult, List.mem_append, List.mem_cons] at ht ⊢
    tauto

end Dialect

namespace Line

theorem Reads.qualified_tokens {afterEquals : Bool} {line : Line} {parts : List Part}
    (h : Reads afterEquals line parts) (hline : Qualified line) :
    Qualified (Token.toLine (parts.map Part.token)) := by
  induction h with
  | nil => exact .nil
  | @word afterEquals token rest parts hplace hrest ih =>
    obtain ⟨hpoint, htail⟩ := qualified_cons.mp hline
    refine .cons (fun hmath => ?_) (ih htail)
    -- the point is the next part, since a literal begins with a bracket
    obtain ⟨tail, rfl⟩ := List.head?_eq_some_iff.mp (hpoint hmath)
    obtain ⟨more, hmore⟩ := exists_reads ("." == "=") tail
    rw [hrest.unique (.word (by simp) hmore)]
    rfl
  | literal hrest hcontent hbehind ih =>
    rw [hrest] at hline
    have hbehindBracket := (qualified_cons.mp hline).2.back
    exact .cons (fun hmath => absurd hmath (Token.text_ofContent_ne _ (by decide)))
      (ih (qualified_cons.mp hbehindBracket).2)
  | unclosed =>
    exact .cons (fun hmath => absurd hmath (Token.text_ofContent_ne _ (by decide))) .nil

theorem Reads.qualified_content {afterEquals : Bool} {line : Line} {parts : List Part}
    (h : Reads afterEquals line parts) (hline : Qualified line) {part : Part} (hpart : part ∈ parts) :
    Qualified part.content := by
  induction h with
  | nil => exact absurd hpart List.not_mem_nil
  | word hplace hrest ih =>
    rcases List.mem_cons.mp hpart with rfl | hpart
    · exact .nil
    · exact ih (qualified_cons.mp hline).2 hpart
  | literal hrest hcontent hbehind ih =>
    rw [hrest] at hline
    have hinside := (qualified_cons.mp hline).2
    rcases List.mem_cons.mp hpart with rfl | hpart
    · exact (hinside.around (by decide)).1
    · exact ih (qualified_cons.mp hinside.back).2 hpart
  | unclosed =>
    rw [List.mem_singleton.mp hpart]
    exact (qualified_cons.mp hline).2

/-- Inside the text of a part are the names that stand in the literal. -/
theorem Part.inner_token {part : Part} (h : ∀ token ∈ part.source, IsToken token) :
    part.token.inner = part.content.count "Math" := by
  have hliteral : ∀ content : Line, (∀ token ∈ content, IsToken token) →
      (Token.ofContent (Token.ofLine content)).inner = content.count "Math" := by
    intro content hcontent
    rw [Token.inner, if_neg (Token.text_ofContent_ne _ (by decide)), Token.split_ofContent hcontent]
    simp [count_compact]
  cases part with
  | word text =>
    have htext : split text = [text] := h text (List.mem_singleton_self text)
    simp only [Part.token, Part.content, Token.inner, Token.text, htext]
    split_ifs with hmath
    · rfl
    · simp [hmath]
  | literal content =>
    exact hliteral content fun token htoken =>
      h token (List.mem_cons_of_mem _ (List.mem_append_left _ htoken))
  | unclosed content => exact hliteral content fun token htoken => h token (List.mem_cons_of_mem _ htoken)

end Line

/-! ## Writing a line -/

namespace Generator

/-- The text has all its qualifiers with their points, and a colon behind it adds none. -/
structure Settled (text : String) : Prop where
  qualified : Qualified (split text)
  colon_qualified : Qualified (split (text ++ ":"))
  colon_count : (split (text ++ ":")).count "Math" = (split text).count "Math"

theorem settled_word {word : String} (h : IsToken word) (hmath : word ≠ "Math") : Settled word := by
  have hword : "Math" ∉ split word := by
    rw [h]
    simpa using hmath.symm
  have hcolon : "Math" ∉ split (word ++ ":") := by
    rcases cases_of_mem_splitChars h.toList_mem with ⟨c, hdelimiter, hc⟩ | ⟨-, hfree⟩
    · -- the colon is a token of its own
      have hapart : Apart word.toList ":".toList :=
        .inl ⟨[], c, by simp [isSeparator, hdelimiter], hc⟩
      have hlone : split ":" = [":"] := by decide
      rw [split_append hapart, h, hlone]
      simpa using hmath.symm
    · -- the colon is the last character of the one token
      have hlone : splitChars (word ++ ":").toList = [(word ++ ":").toList] := by
        refine splitChars_of_word (by simp) fun c hc => ?_
        rw [String.toList_append] at hc
        rcases List.mem_append.mp hc with hc | hc
        · exact hfree c hc
        · rw [List.mem_singleton.mp hc]
          decide
      have htoken : split (word ++ ":") = [word ++ ":"] := by
        rw [split, hlone]
        simp
      rw [htoken]
      intro hmem
      have hlast := congrArg (fun text => text.toList.getLast?) (List.mem_singleton.mp hmem)
      simp at hlast
  exact ⟨qualified_of_not_mem hword, qualified_of_not_mem hcolon,
    by rw [List.count_eq_zero.mpr hword, List.count_eq_zero.mpr hcolon]⟩

theorem settled_literal {content : Line} (h : ∀ token ∈ content, IsToken token)
    (hqualified : Qualified content) : Settled (Token.ofContent (Token.ofLine content)).text := by
  have hsplit := Token.split_ofContent h
  have hapart : Apart (Token.ofContent (Token.ofLine content)).text.toList ":".toList := by
    rw [Token.text_ofContent, String.toList_append]
    exact .inl ⟨_, ')', by decide, rfl⟩
  have hliteral : Qualified (split (Token.ofContent (Token.ofLine content)).text) := by
    rw [hsplit]
    have hclosing : Qualified (compact content ++ [")"]) :=
      (qualified_compact hqualified).append (qualified_of_not_mem (by decide))
    simpa using hclosing
  have hcolon : split (Token.ofContent (Token.ofLine content)).text ++ [":"]
      = split ((Token.ofContent (Token.ofLine content)).text ++ ":") := (split_append hapart).symm
  refine ⟨hliteral, ?_, ?_⟩
  · rw [← hcolon]
    exact hliteral.append (qualified_of_not_mem (by decide))
  · rw [← hcolon]
    simp

theorem not_mem_split_type (type : ShaderType) : "Math" ∉ split type.text := by
  intro hmath
  have hletter : 'M' ∈ type.text.toList := mem_of_mem_split hmath (by decide)
  have hkind : ∀ kind : ScalarKind, 'M' ∉ kind.word.toList := by
    intro kind
    cases kind with
    | f32 => decide
    | i32 => decide
    | u32 => decide
  cases type with
  | scalar kind => exact hkind kind hletter
  | array element length positive =>
    have hdigits : 'M' ∉ (toString length).toList := by
      intro hdigit
      have hrepr : 'M' ∈ (Nat.repr length).toList := hdigit
      rw [Nat.toList_repr] at hrepr
      exact absurd (Nat.isDigit_of_mem_toDigits (by decide) (by decide) hrepr) (by decide)
    simp only [ShaderType.text, String.toList_append, List.mem_append] at hletter
    rcases hletter with (((hfront | hword) | hcomma) | hlength) | hback
    · exact absurd hfront (by decide)
    · exact hkind element hword
    · exact absurd hcomma (by decide)
    · exact hdigits hlength
    · exact absurd hback (by decide)

theorem split_typedName (word name : String) (type : ShaderType) :
    split (typedName word name type) = split word ++ (split (name ++ ":") ++ split type.text) := by
  have hblank : isSeparator ' ' = true := by decide
  have hspaced : ∀ text : String, split (text ++ " ") = split text := by
    intro text
    rw [split_append (.inr ⟨' ', [], hblank, rfl⟩)]
    exact List.append_nil _
  have happart : ∀ text more : String, Apart (text ++ " ").toList more.toList := fun text more =>
    .inl ⟨text.toList, ' ', hblank, String.toList_append⟩
  have hcolon : ": " = ":" ++ " " := rfl
  have hpieces : typedName word name type = (word ++ " ") ++ (((name ++ ":") ++ " ") ++ type.text) := by
    rw [typedName, hcolon]
    simp only [String.append_assoc]
  rw [hpieces, split_append (happart _ _), split_append (happart _ _), hspaced, hspaced]

theorem not_mem_split_keyword {t : Token} {word : String} (h : keyword? t = some word) :
    "Math" ∉ split t.text ∧ "Math" ∉ split word :=
  of_keyword (p := fun text => "Math" ∉ split text) h (by decide) (by decide) (by decide)

/-- Keywords and types bring no qualifier into a line and take none away. -/
theorem qualified_withTypes (types : TypeTable) {tokens : List Token} (h : ∀ t ∈ tokens, Settled t.text) :
    Qualified ((withTypes types tokens).flatMap split) ∧
      ((withTypes types tokens).flatMap split).count "Math"
        = (tokens.map fun t => (split t.text).count "Math").sum := by
  fun_induction withTypes types tokens with
  | case1 key name rest word hkey type htype ih =>
    obtain ⟨hkeyText, hword⟩ := not_mem_split_keyword hkey
    have hname := h name (by simp)
    have htype := not_mem_split_type type
    obtain ⟨hqualified, hcount⟩ := ih fun t ht => h t (by simp [ht])
    rw [List.flatMap_cons, split_typedName]
    constructor
    · refine Qualified.append ?_ hqualified
      exact (qualified_of_not_mem hword).append (hname.colon_qualified.append (qualified_of_not_mem htype))
    · simp only [List.count_append, List.map_cons, List.sum_cons, hcount, hname.colon_count,
        List.count_eq_zero.mpr hword, List.count_eq_zero.mpr htype, List.count_eq_zero.mpr hkeyText]
      omega
  | case2 key name rest word hkey hnone ih =>
    obtain ⟨hkeyText, hword⟩ := not_mem_split_keyword hkey
    obtain ⟨hqualified, hcount⟩ := ih fun t ht => h t (List.mem_cons_of_mem key ht)
    rw [List.flatMap_cons, List.map_cons, List.sum_cons, List.count_append, hcount,
      List.count_eq_zero.mpr hword, List.count_eq_zero.mpr hkeyText]
    exact ⟨(qualified_of_not_mem hword).append hqualified, rfl⟩
  | case3 key name rest hkey ih =>
    obtain ⟨hqualified, hcount⟩ := ih fun t ht => h t (List.mem_cons_of_mem key ht)
    rw [List.flatMap_cons, List.map_cons, List.sum_cons, List.count_append, hcount]
    exact ⟨(h key List.mem_cons_self).qualified.append hqualified, rfl⟩
  | case4 t => simpa using (h t List.mem_cons_self).qualified
  | case5 => exact ⟨.nil, rfl⟩

/-- What is left of the tokens of a line behind the last pass. -/
theorem settled_of_mem {line : Line} {parts : List Part} (hreads : Reads false line parts)
    (htokens : ∀ token ∈ line, IsToken token) (hqualified : Qualified line) {t : Token}
    (ht : t ∈ Dialect.dropNamespace (Dialect.unwrapSwitch (parts.map Part.token))) :
    t.text ≠ "Math" ∧ Settled t.text := by
  have hother : t.text ≠ "Math" := Dialect.text_ne_of_mem_dropNamespace
    (Dialect.qualified_unwrapSwitch (hreads.qualified_tokens hqualified)) ht
  refine ⟨hother, ?_⟩
  have hmem := Dialect.unwrapSwitch_subset _ (Dialect.dropNamespace_subset _ ht)
  obtain ⟨part, hpart, rfl⟩ := List.mem_map.mp hmem
  have hsource := hreads.isToken_of_mem htokens hpart
  have hcontent := hreads.qualified_content hqualified hpart
  cases part with
  | word text => exact settled_word (hsource text (List.mem_singleton_self text)) hother
  | literal content =>
    exact settled_literal (fun token htoken =>
      hsource token (List.mem_cons_of_mem _ (List.mem_append_left _ htoken))) hcontent
  | unclosed content =>
    exact settled_literal (fun token htoken => hsource token (List.mem_cons_of_mem _ htoken)) hcontent

/-- **Qualifiers are left in literals and nowhere else.** On a body line where every `Math` has its point
directly behind it, the written line has as many qualifiers as there are in the array literals of the
line. In particular it has none exactly if no literal holds one. -/
theorem qualifiers_only_in_literals (text : String) (phase : Phase) (types : TypeTable)
    (hdirective : (split text).any isDirective = false) (hqualified : Qualified (split text)) :
    (∃! parts, Reads false (split text) parts) ∧
      ∀ parts, Reads false (split text) parts →
        qualifiers (split (bodyLine .current phase types (split text)).1)
          = (parts.flatMap Part.content).count "Math" := by
  refine ⟨existsUnique_reads _, fun parts hreads => ?_⟩
  have htokens : ∀ token ∈ split text, IsToken token := fun token => isToken_of_mem_split
  generalize split text = line at *
  by_cases hlone : line.length = 1
  · obtain ⟨token, rfl⟩ := List.length_eq_one_iff.mp hlone
    obtain rfl := reads_lone hreads
    have htext : split (bodyLine .current phase types [token]).1 = [token] :=
      htokens token (List.mem_singleton_self token)
    rw [htext]
    rfl
  · have hsettled := fun t => settled_of_mem hreads htokens hqualified (t := t)
    obtain ⟨hwritten, hcount⟩ := qualified_withTypes (bodyTypes .current phase types line)
      fun t ht => (hsettled t ht).2
    -- no token that is left reads `Math`, so all names are inside of other texts
    have hinner : ∀ t ∈ Dialect.dropNamespace (Dialect.unwrapSwitch (parts.map Part.token)),
        (split t.text).count "Math" = t.inner := by
      intro t ht
      rw [Token.inner, if_neg (hsettled t ht).1]
    have hparts : ∀ part ∈ parts, part.token.inner = part.content.count "Math" := fun part hpart =>
      Part.inner_token (hreads.isToken_of_mem htokens hpart)
    rw [bodyLine_of_reads hreads hlone hdirective, split_join, qualifiers_eq_count hwritten, hcount,
      List.map_congr_left hinner, Dialect.sum_inner_dropNamespace, Dialect.sum_inner_unwrapSwitch,
      List.map_map, List.count_flatMap]
    exact congrArg List.sum (List.map_congr_left hparts)

/-- One qualifier in a literal, which is left, and one in what a `switch` looks at, which is not. -/
theorem mixedQualifiers_counted :
    Qualified (split "let v = [Math.sqrt(x), 2]; switch (Math.floor(v))") ∧
      qualifiers (split (bodyLine .current .infer ⟨[]⟩
        (split "let v = [Math.sqrt(x), 2]; switch (Math.floor(v))")).1) = 1 := by
  have hsplit : split "let v = [Math.sqrt(x), 2]; switch (Math.floor(v))"
      = ["let", "v", "=", "[", "Math", ".", "sqrt", "(", "x", ")", ",", "2", "]", ";", "switch", "(", "Math",
        ".", "floor", "(", "v", ")", ")"] := by
    decide
  have hqualified : Qualified (split "let v = [Math.sqrt(x), 2]; switch (Math.floor(v))") := by
    rw [hsplit]
    simp
  have hreads : Reads false (split "let v = [Math.sqrt(x), 2]; switch (Math.floor(v))")
      [.word "let", .word "v", .word "=", .literal ["Math", ".", "sqrt", "(", "x", ")", ",", "2"], .word ";",
        .word "switch", .word "(", .word "Math", .word ".", .word "floor", .word "(", .word "v", .word ")",
        .word ")"] := by
    rw [hsplit]
    exact .word rfl <| .word rfl <| .word rfl <| .literal rfl (by decide) <| .word rfl <| .word rfl <|
      .word rfl <| .word rfl <| .word rfl <| .word rfl <| .word rfl <| .word rfl <| .word rfl <|
      .word rfl <| .nil _
  have hcount := (qualifiers_only_in_literals "let v = [Math.sqrt(x), 2]; switch (Math.floor(v))" .infer ⟨[]⟩
    (by rw [hsplit]; decide) hqualified).2 _ hreads
  exact ⟨hqualified, hcount.trans (by decide)⟩

/-- A qualifier in a literal is in the written line as it was in the source. -/
theorem literal_keeps_qualifier :
    split "let v = [Math.sqrt(x)];"
        = ["let", "v", "=", "[", "Math", ".", "sqrt", "(", "x", ")", "]", ";"] ∧
      (bodyLine .current .infer ⟨[]⟩ (split "let v = [Math.sqrt(x)];")).1
        = "var v: array<f32,1> = array(Math.sqrt ( x )) ;" ∧
      qualifiers (split (bodyLine .current .infer ⟨[]⟩ (split "let v = [Math.sqrt(x)];")).1) = 1 := by
  have hsplit : split "let v = [Math.sqrt(x)];"
      = ["let", "v", "=", "[", "Math", ".", "sqrt", "(", "x", ")", "]", ";"] := by
    decide
  have htext : (bodyLine .current .infer ⟨[]⟩ (split "let v = [Math.sqrt(x)];")).1
      = "var v: array<f32,1> = array(Math.sqrt ( x )) ;" := by
    rw [hsplit]
    decide +kernel
  refine ⟨hsplit, htext, ?_⟩
  rw [htext]
  decide +kernel

end Generator

end KernelShader
