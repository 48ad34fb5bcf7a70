/-
`LiteralLength.lean` -- the length of an array literal against its text.

A literal has two counts of its elements. Its length, which becomes the length of an array type, is one more
than the number of commas of its content. Its text has the slots between the commas, but not the empty ones.
Where every comma stands as a token of its own, the commas of the text are those between the slots that are
written (`commaCount_ofContent`), so the two counts agree just where no slot has been left out, or where there
is only one (`literal_length_matches_text`).
-/
import KernelShader.Proofs.Generator.Invocation
import KernelShader.Proofs.Generator.Literals
import KernelShader.Proofs.Generator.Sightings
import KernelShader.Proofs.Parameter.Commas

set_option autoImplicit false

namespace KernelShader

/-! ## No number -/

namespace Numeral

theorem trimSpace_eq_self {first last : Char} (hfirst : isSpace first = false) (hlast : isSpace last = false)
    (middle : List Char) : trimSpace (first :: (middle ++ [last])) = first :: (middle ++ [last]) := by
  have hreverse : (first :: (middle ++ [last])).reverse = last :: (middle.reverse ++ [first]) := by simp
  unfold trimSpace
  rw [List.dropWhile_cons_of_neg (by simp [hfirst]), hreverse,
    List.dropWhile_cons_of_neg (by simp [hlast])]
  simp

/-- A text that begins with this letter is no number: the letter is no sign, digit or point, and the words for
special numbers begin with others. -/
theorem readBinary?_eq_none {text : String}
    (h : ∀ cs, plain? text.toList = some cs → ∃ rest, cs = 'a' :: rest) : readBinary? text = none := by
  refine Option.bind_eq_none_iff.mpr fun cs hcs => ?_
  obtain ⟨rest, rfl⟩ := h cs hcs
  have hword : ∀ word : String, word.toList.head? ≠ some 'a' →
      String.ofList (('a' :: rest).map Char.toLower) ≠ word := by
    rintro word hhead rfl
    rw [String.toList_ofList, List.map_cons] at hhead
    exact hhead rfl
  have hspecial : ¬ (decide (String.ofList (('a' :: rest).map Char.toLower) = "inf")
      || decide (String.ofList (('a' :: rest).map Char.toLower) = "infinity")) = true := by
    rw [Bool.or_eq_true, decide_eq_true_eq, decide_eq_true_eq, not_or]
    exact ⟨hword "inf" (by decide), hword "infinity" (by decide)⟩
  have hdecimal : readDecimal? false ('a' :: rest) = none := rfl
  refine (if_neg hspecial).trans ((if_neg (hword "nan" (by decide))).trans ?_)
  exact congrArg (Option.map Decimal.toBinary) hdecimal

theorem readBinary?_array (inner : String) : readBinary? ("array(" ++ inner ++ ")") = none := by
  refine readBinary?_eq_none fun cs hcs => ?_
  have hchars : ("array(" ++ inner ++ ")").toList = 'a' :: (("rray(".toList ++ inner.toList) ++ [')']) := by
    rw [String.toList_append, String.toList_append]
    rfl
  have hplain : plainDigit 'a' = 'a' := by decide
  rw [plain?, hchars, trimSpace_eq_self (by decide) (by decide), List.map_cons, hplain,
    dropUnderscores.eq_def] at hcs
  simp only [Char.reduceEq, if_false] at hcs
  obtain ⟨rest, -, rfl⟩ := Option.map_eq_some_iff.mp hcs
  exact ⟨rest, rfl⟩

end Numeral

/-! ## Slots -/

namespace Line

/-- The slots between commas that hold something. -/
def filledSlots (line : Line) : List Line := (line.splitOn ",").filter (!·.isEmpty)

theorem length_splitOn (line : Line) : (line.splitOn ",").length = line.count "," + 1 := by
  induction line with
  | nil => rfl
  | cons token line ih =>
    rw [splitOn_cons]
    by_cases h : token = ","
    · simp [h, ih]
    · simp [h, ih]

theorem comma_not_mem_slot {line slot : Line} (h : slot ∈ line.splitOn ",") : "," ∉ slot := by
  induction line generalizing slot with
  | nil => simp_all [List.splitOn]
  | cons token line ih =>
    obtain ⟨first, rest, hslots⟩ := exists_splitOn line
    rw [hslots] at ih
    rw [splitOn_cons, hslots] at h
    split_ifs at h with hcomma
    · rcases List.mem_cons.mp h with rfl | h
      · exact List.not_mem_nil
      · exact ih h
    · rcases List.mem_cons.mp h with rfl | h
      · have hne : "," ≠ token := fun heq => hcomma (by simp [heq])
        exact List.not_mem_cons_of_ne_of_not_mem hne (ih List.mem_cons_self)
      · exact ih (List.mem_cons_of_mem first h)

/-- **Where the two counts agree.** As many slots are written as there are, or the one slot there is. -/
theorem length_filledSlots_iff (line : Line) :
    line.count "," + 1 = max 1 line.filledSlots.length ↔ Spaced line ∨ "," ∉ line := by
  have hle : line.filledSlots.length ≤ (line.splitOn ",").length := List.length_filter_le _ _
  have hall : line.filledSlots.length = (line.splitOn ",").length ↔ [] ∉ line.splitOn "," := by
    rw [filledSlots, List.length_filter_eq_length_iff]
    constructor
    · intro h hempty
      exact absurd (h [] hempty) (by decide)
    · intro h slot hslot
      cases slot with
      | nil => exact absurd hslot h
      | cons token slot => rfl
  have hcomma : line.count "," = 0 ↔ "," ∉ line := List.count_eq_zero
  rw [length_splitOn] at hle hall
  by_cases hline : line = []
  · subst hline
    exact iff_of_true rfl (.inr List.not_mem_nil)
  · rw [spaced_iff hline, ← hall, ← hcomma]
    omega

/-- Writing a line adds no characters but blanks. -/
theorem mem_spread {tokens : List (List Char)} {c : Char} (h : c ∈ spread tokens) :
    c = ' ' ∨ ∃ token ∈ tokens, c ∈ token := by
  have hblank : ∀ (p : Prop) [Decidable p] (t : List Char), c ∈ (if p then t else t ++ [' ']) →
      c = ' ' ∨ c ∈ t := by
    intro p _ t hmem
    split_ifs at hmem
    · exact .inr hmem
    · rcases List.mem_append.mp hmem with hmem | hmem
      · exact .inr hmem
      · exact .inl (List.mem_singleton.mp hmem)
  fun_induction spread tokens with
  | case1 => exact absurd h List.not_mem_nil
  | case2 => exact .inr ⟨_, List.mem_cons_self, h⟩
  | case3 t hpoint =>
    rcases List.mem_append.mp h with h | h
    · exact .inr ⟨t, List.mem_cons_self, h⟩
    · exact .inl (List.mem_singleton.mp h)
  | case4 t u ts ih =>
    rcases List.mem_append.mp h with h | h
    · exact (hblank _ t h).imp_right fun hmem => ⟨t, List.mem_cons_self, hmem⟩
    · rcases ih h with hspace | ⟨token, htoken, hmem⟩
      · exact .inl hspace
      · exact .inr ⟨token, List.mem_cons_of_mem t htoken, hmem⟩

theorem mem_join {line : Line} {c : Char} (h : c ∈ (join line).toList) :
    c = ' ' ∨ ∃ token ∈ line, c ∈ token.toList := by
  rw [join, String.toList_ofList, Text.trimRight, List.mem_reverse] at h
  have hspread := List.mem_reverse.mp ((List.dropWhile_sublist _).mem h)
  rcases mem_spread hspread with hspace | ⟨chars, hchars, hmem⟩
  · exact .inl hspace
  · obtain ⟨token, htoken, rfl⟩ := List.mem_map.mp hchars
    exact .inr ⟨token, htoken, hmem⟩

end Line

/-! ## The text of a literal -/

namespace Token

open Parameter

/-- The commas of a literal are those between the slots that are written. -/
theorem commaCount_ofContent {content : List Token}
    (h : ∀ t ∈ content, t.text = "," ∨ ',' ∉ t.text.toList) :
    commaCount (ofContent content).text = (toLine content).filledSlots.length - 1 := by
  -- no token of a slot is a comma, so none has a comma
  have hslot : ∀ slot ∈ (toLine content).filledSlots, commaCount (Line.join slot) = 0 := by
    intro slot hslot
    have hpiece : slot ∈ (toLine content).splitOn "," := (List.mem_filter.mp hslot).1
    refine commaCount_eq_zero fun hmem => ?_
    rcases Line.mem_join hmem with hblank | ⟨token, htoken, hmem⟩
    · exact absurd hblank (by decide)
    · have hcontent := Line.mem_of_mem_splitOn hpiece htoken
      obtain ⟨t, ht, rfl⟩ := List.mem_map.mp hcontent
      rcases h t ht with hcomma | hfree
      · rw [hcomma] at htoken
        exact Line.comma_not_mem_slot hpiece htoken
      · exact hfree hmem
  have hfront : commaCount "array(" = 0 := by decide
  have hback : commaCount ")" = 0 := by decide
  rw [text_ofContent, commaCount_append, commaCount_append, hfront, hback, Nat.zero_add, Nat.add_zero]
  change commaCount (",".intercalate ((toLine content).filledSlots.map Line.join)) = _
  cases hslots : (toLine content).filledSlots with
  | nil => rfl
  | cons first rest =>
    have hone : ∀ text ∈ (first :: rest).map Line.join, commaCount text + 1 = 1 := by
      intro text htext
      obtain ⟨slot, hmem, rfl⟩ := List.mem_map.mp htext
      rw [hslot slot (hslots ▸ hmem)]
    have hbetween : commaCount "," = 1 := by decide
    have hcount := commaCount_intercalate hbetween (Line.join first) (rest.map Line.join)
    rw [← List.map_cons, List.map_congr_left hone, List.map_const', List.sum_replicate_nat, List.length_map] at hcount
    rw [List.length_cons] at hcount ⊢
    omega

/-- A literal remembers the commas of its content. -/
theorem exists_ofContent (content : List Token) :
    ∃ text, ofContent content = .literal text ((toLine content).count ",") := by
  have hcount : content.countP (·.reads ",") = (toLine content).count "," := by
    rw [List.count, toLine, List.countP_map]
    rfl
  exact ⟨_, congrArg (Token.literal _) hcount⟩

end Token

/-! ## The type of a literal -/

namespace Generator

open Parameter

theorem literalTargets_cons (t : Token) (tokens : List Token) :
    ∃ found, literalTargets (t :: tokens) = found ++ literalTargets tokens := by
  match tokens with
  | [] => exact ⟨[], rfl⟩
  | [_] => exact ⟨[], rfl⟩
  | equals :: value :: rest => exact ⟨_, rfl⟩

theorem literalTargets_append (front tokens : List Token) :
    ∃ earlier, literalTargets (front ++ tokens) = earlier ++ literalTargets tokens := by
  induction front with
  | nil => exact ⟨[], rfl⟩
  | cons t front ih =>
    obtain ⟨found, hfound⟩ := literalTargets_cons t (front ++ tokens)
    obtain ⟨earlier, hearlier⟩ := ih
    refine ⟨found ++ earlier, ?_⟩
    rw [List.cons_append, hfound, hearlier, List.append_assoc]

/-- The name is assigned the literal on the line, and no other literal behind it. -/
def AssignedLast (tokens : List Token) (name : String) (literal : Token) : Prop :=
  ∃ front target equals behind, tokens = front ++ target :: equals :: literal :: behind ∧
    target.text = name ∧ equals.text = "=" ∧ name ∉ assignedNames (equals :: literal :: behind)

/-- A name that is new to the table gets the type of the last literal that it is assigned. -/
theorem AssignedLast.get?_register {tokens : List Token} {name text : String} {commas : Nat}
    (h : AssignedLast tokens name (.literal text commas)) {types : TypeTable} (hnew : name ∉ types.names) :
    (register types tokens).get? name = some (.ofCommas commas) := by
  obtain ⟨front, target, equals, behind, rfl, rfl, hequals, hlast⟩ := h
  obtain ⟨earlier, hearlier⟩ := literalTargets_append front (target :: equals :: .literal text commas :: behind)
  have hfound : literalTargets (target :: equals :: .literal text commas :: behind)
      = (target.text, .ofCommas commas) :: literalTargets (equals :: .literal text commas :: behind) := by
    rw [literalTargets]
    simp only [Token.reads, hequals, beq_self_eq_true, if_true, List.singleton_append]
  rw [Generator.get?_register, NameTable.get?_eq_none hnew, hearlier, hfound, NameTable.get?_ofEntries_last _ _ _ hlast]
  rfl

theorem mem_withTypes_cons (types : TypeTable) {t : Token} (h : keyword? t = none) (tokens : List Token) :
    t.text ∈ withTypes types (t :: tokens) := by
  cases tokens with
  | nil => exact List.mem_singleton.mpr rfl
  | cons name rest =>
    rw [withTypes, h]
    exact List.mem_cons_self

/-- A token that is no keyword and does not stand behind one is written as it is. -/
theorem mem_withTypes (types : TypeTable) {before t : Token} (hbefore : keyword? before = none)
    (ht : keyword? t = none) (front behind : List Token) :
    t.text ∈ withTypes types (front ++ before :: t :: behind) := by
  generalize htokens : front ++ before :: t :: behind = tokens
  fun_induction withTypes types tokens generalizing front with
  | case1 key name rest word hkey type htype ih =>
    cases front with
    | nil =>
      obtain ⟨rfl, -⟩ := List.cons.inj htokens
      simp [hbefore] at hkey
    | cons _ front =>
      obtain ⟨-, htokens⟩ := List.cons.inj htokens
      cases front with
      | nil =>
        obtain ⟨-, rfl⟩ := List.cons.inj htokens
        exact List.mem_cons_of_mem _ (mem_withTypes_cons types ht behind)
      | cons _ front => exact List.mem_cons_of_mem _ (ih front (List.cons.inj htokens).2)
  | case2 key name rest word hkey hnone ih =>
    cases front with
    | nil =>
      obtain ⟨rfl, -⟩ := List.cons.inj htokens
      simp [hbefore] at hkey
    | cons _ front => exact List.mem_cons_of_mem _ (ih front (List.cons.inj htokens).2)
  | case3 key name rest hkey ih =>
    cases front with
    | nil =>
      obtain ⟨-, htokens⟩ := List.cons.inj htokens
      obtain ⟨rfl, rfl⟩ := List.cons.inj htokens
      exact List.mem_cons_of_mem _ (mem_withTypes_cons types ht _)
    | cons _ front => exact List.mem_cons_of_mem _ (ih front (List.cons.inj htokens).2)
  | case4 last =>
    have hlength := congrArg List.length htokens
    rw [List.length_append, List.length_cons, List.length_cons, List.length_singleton] at hlength
    omega
  | case5 => simp at htokens

/-- A literal goes to the shader as it is. -/
theorem AssignedLast.mem_withTypes {tokens content : List Token} {name : String}
    (h : AssignedLast tokens name (.ofContent content)) (types : TypeTable) :
    (Token.ofContent content).text ∈ withTypes types tokens := by
  obtain ⟨front, target, equals, behind, rfl, -, hequals, -⟩ := h
  have hbefore : keyword? equals = none := keyword?_eq_none (by rw [hequals]; decide)
  have hmem :=
    Generator.mem_withTypes types hbefore (keyword?_ofContent content) (front ++ [target]) behind
  rwa [List.append_assoc, List.singleton_append] at hmem

theorem guess_ofContent (content : List Token) :
    guess (.text (Token.ofContent content).text)
      = .ofCommas (commaCount (Token.ofContent content).text) := by
  have hnumber : Numeral.readBinary? (Token.ofContent content).text = none := by
    rw [Token.text_ofContent]
    exact Numeral.readBinary?_array _
  simp only [guess, Value.isNumber, hnumber]
  rfl

/-- **The length of a literal against its text.** Let every comma of the content be a token of its own. Then the
text has a comma between any two slots that hold something, and no others. It shows as many elements as the
literal is long just where no comma is first, last or doubled, or where there is none. So it is for these
literals, and no others, that a name which a line assigns the literal gets the type that would be guessed from
the text which the line is given in the shader. -/
theorem literal_length_matches_text {content : List Token}
    (h : ∀ t ∈ content, t.text = "," ∨ ',' ∉ t.text.toList) :
    ∃ length, (Token.ofContent content).length? = some length ∧ 1 ≤ length ∧
      commaCount (Token.ofContent content).text = max 1 (Token.toLine content).filledSlots.length - 1 ∧
      (length = commaCount (Token.ofContent content).text + 1 ↔
        Line.Spaced (Token.toLine content) ∨ "," ∉ Token.toLine content) ∧
      ∀ types tokens name, AssignedLast tokens name (.ofContent content) → name ∉ types.names →
        ∃ type, (register types tokens).get? name = some type ∧
          (∃ positive, type = .array .f32 length positive) ∧
          (Token.ofContent content).text ∈ withTypes (register types tokens) tokens ∧
          (type = guess (.text (Token.ofContent content).text) ↔
            Line.Spaced (Token.toLine content) ∨ "," ∉ Token.toLine content) := by
  obtain ⟨text, hliteral⟩ := Token.exists_ofContent content
  have hcommas := Token.commaCount_ofContent h
  have hiff := Line.length_filledSlots_iff (Token.toLine content)
  have hwritten : commaCount (Token.ofContent content).text + 1
      = max 1 (Token.toLine content).filledSlots.length := by omega
  rw [← hwritten] at hiff
  refine ⟨(Token.toLine content).count "," + 1, by rw [hliteral]; rfl, Nat.le_add_left 1 _, by omega, hiff, ?_⟩
  intro types tokens name hassigned hnew
  refine ⟨.ofCommas ((Token.toLine content).count ","), ?_, ⟨_, rfl⟩, hassigned.mem_withTypes _, ?_⟩
  · rw [hliteral] at hassigned
    exact hassigned.get?_register hnew
  · rw [guess_ofContent, ← hiff, ShaderType.ofCommas, ShaderType.ofCommas, ShaderType.array.injEq]
    exact and_iff_right rfl

/-- The tokens of a declaration with a literal. -/
def literalDeclaration (content : Line) : List Token :=
  [.word "let", .word "v", .word "=", .ofContent (Token.ofLine content), .word ";"]

theorem assignedLast_literalDeclaration (content : Line) :
    AssignedLast (literalDeclaration content) "v" (.ofContent (Token.ofLine content)) :=
  ⟨[.word "let"], .word "v", .word "=", [.word ";"], rfl, rfl, rfl, List.not_mem_nil⟩

/-- With a comma too many the type has an element more than the text. -/
theorem doubled_comma_lengthens_type :
    (∃ type, (register ⟨[]⟩ (literalDeclaration ["1", ",", "2"])).get? "v" = some type ∧
      type = guess (.text "array(1,2)")) ∧
    ∃ type, (register ⟨[]⟩ (literalDeclaration ["1", ",", ",", "2"])).get? "v" = some type ∧
      type ≠ guess (.text "array(1,2)") := by
  have htext : (Token.ofContent (Token.ofLine ["1", ",", "2"])).text = "array(1,2)" := by decide
  have htext' : (Token.ofContent (Token.ofLine ["1", ",", ",", "2"])).text = "array(1,2)" := by decide
  have halone : ∀ t ∈ Token.ofLine ["1", ",", "2"], t.text = "," ∨ ',' ∉ t.text.toList := by decide
  have halone' : ∀ t ∈ Token.ofLine ["1", ",", ",", "2"], t.text = "," ∨ ',' ∉ t.text.toList := by decide
  obtain ⟨_, -, -, -, -, hregister⟩ := literal_length_matches_text halone
  obtain ⟨_, -, -, -, -, hregister'⟩ := literal_length_matches_text halone'
  rw [htext] at hregister
  rw [htext'] at hregister'
  obtain ⟨type, hget, -, -, hiff⟩ :=
    hregister ⟨[]⟩ _ "v" (assignedLast_literalDeclaration _) List.not_mem_nil
  obtain ⟨type', hget', -, -, hiff'⟩ :=
    hregister' ⟨[]⟩ _ "v" (assignedLast_literalDeclaration _) List.not_mem_nil
  refine ⟨⟨type, hget, hiff.mpr (.inl ⟨by decide, by decide, by decide⟩)⟩, type', hget', ?_⟩
  intro heq
  rcases hiff'.mp heq with hspaced | hfree
  · exact hspaced.apart (by decide)
  · exact hfree (by decide)

end Generator

end KernelShader
