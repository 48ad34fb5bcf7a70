/-
`ShaderType.lean` -- reading a type is the inverse of writing it.

There are many ways to write a type: blanks may stand around every part, and a length may have leading
zeros and use the digits of any script. They are said here by a grammar, `Spells`, which mentions no
reader. The reader goes through a text part by part, and every part is ended by a character that cannot
belong to it: a blank is no digit, and neither begins or ends any of the other parts. So what the reader
takes is exactly what the grammar has (`readArray?_eq_some_iff`), and the text of a type, which is one of
the ways to write it, is read as that type.
-/
import Mathlib.Data.Nat.Digits.Defs
import KernelShader.Proofs.Line
import KernelShader.ShaderType.Reader

set_option autoImplicit false

namespace KernelShader

/-! ## Blanks -/

namespace Text

/-- The text consists of blanks. -/
def Blanks (cs : List Char) : Prop := ∀ c ∈ cs, isBlank c = true

instance (cs : List Char) : Decidable (Blanks cs) :=
  decidable_of_iff (cs.all isBlank = true) List.all_eq_true

/-- The text does not begin with a blank. -/
def Tight (cs : List Char) : Prop := ∀ c, cs.head? = some c → isBlank c = false

theorem Blanks.nil : Blanks [] := fun _ hc => absurd hc List.not_mem_nil

theorem trimLeft_eq_iff {cs rest : List Char} :
    trimLeft cs = rest ↔ ∃ gap, cs = gap ++ rest ∧ Blanks gap ∧ Tight rest := by
  unfold trimLeft
  constructor
  · rintro rfl
    refine ⟨cs.takeWhile isBlank, List.takeWhile_append_dropWhile.symm, ?_, fun c hc => ?_⟩
    · exact fun c hc => List.all_eq_true.mp List.all_takeWhile c hc
    · have hhead := List.head?_dropWhile_not isBlank cs
      rw [hc] at hhead
      simpa using hhead
  · rintro ⟨gap, rfl, hgap, htight⟩
    rw [List.dropWhile_append_of_pos hgap]
    cases rest with
    | nil => rfl
    | cons c rest => exact List.dropWhile_cons_of_neg (by simp [htight c rfl])

/-- Trimming does not reach beyond a character that is not a blank. -/
theorem trimRight_append_of_last {front : List Char} {c : Char} (h : isBlank c = false)
    (more : List Char) : trimRight (front ++ [c] ++ more) = front ++ [c] ++ trimRight more := by
  unfold trimRight
  rw [List.reverse_append, List.dropWhile_append]
  by_cases hempty : (more.reverse.dropWhile isBlank).isEmpty = true
  · rw [if_pos hempty, List.isEmpty_iff.mp hempty, List.reverse_append, List.reverse_singleton,
      List.singleton_append, List.dropWhile_cons_of_neg (by rw [h]; exact Bool.false_ne_true)]
    simp only [List.reverse_cons, List.reverse_reverse, List.reverse_nil, List.append_nil]
  · rw [if_neg hempty, List.reverse_append, List.reverse_reverse]

theorem Blanks.trimRight_eq {cs : List Char} (h : Blanks cs) : trimRight cs = [] := by
  have hreverse : ∀ c ∈ cs.reverse, isBlank c = true := fun c hc => h c (List.mem_reverse.mp hc)
  rw [trimRight, ← List.append_nil cs.reverse, List.dropWhile_append_of_pos hreverse]
  rfl

/-- Trimming finds a text between blanks if it neither begins nor ends with one. -/
theorem trim_append {front core back : List Char} (hfront : Blanks front) (hback : Blanks back)
    (htight : Tight core) (hlast : ∃ before c, core = before ++ [c] ∧ isBlank c = false) :
    trim (front ++ core ++ back) = core := by
  obtain ⟨before, c, rfl, hc⟩ := hlast
  have hbegins : Tight (before ++ [c] ++ back) := by
    intro b hb
    refine htight b ?_
    cases before with
    | nil => exact hb
    | cons b' before => exact hb
  have hleft : trimLeft (front ++ (before ++ [c]) ++ back) = before ++ [c] ++ back :=
    trimLeft_eq_iff.mpr ⟨front, by simp, hfront, hbegins⟩
  rw [trim, hleft, trimRight_append_of_last hc, hback.trimRight_eq, List.append_nil]

/-- A text is what is left of it after trimming, between blanks. -/
theorem exists_trim (cs : List Char) :
    ∃ front back, cs = front ++ trim cs ++ back ∧ Blanks front ∧ Blanks back := by
  obtain ⟨front, hcs, hfront, -⟩ := trimLeft_eq_iff.mp (rfl : trimLeft cs = trimLeft cs)
  obtain ⟨back, hrest, hback⟩ := Line.exists_blanks (trimLeft cs)
  refine ⟨front, back, ?_, hfront, hback⟩
  rw [trim, List.append_assoc, hrest]
  exact hcs

/-! ## Digits -/

theorem digitValue?_lt {c : Char} {value : Nat} (h : digitValue? c = some value) : value < 10 := by
  obtain ⟨range, -, rfl⟩ := Option.map_eq_some_iff.mp h
  exact Nat.mod_lt _ (by decide)

theorem digitValue?_of_plain {c : Char} (h : c.isDigit = true) :
    digitValue? c = some (c.toNat - '0'.toNat) := by
  have hrange : 48 ≤ c.toNat ∧ c.toNat ≤ 57 := Char.isDigit_iff_toNat.mp h
  have hfirst : (⟨0x30, 0x39⟩ : CodeRange).contains c = true := by simp [CodeRange.contains, hrange]
  have hfind : digitRanges.find? (·.contains c) = some ⟨0x30, 0x39⟩ := List.find?_cons_of_pos hfirst
  have hsmall : (c.toNat - 48) % 10 = c.toNat - 48 := Nat.mod_eq_of_lt (by omega)
  rw [digitValue?, hfind, Option.map_some, hsmall]
  rfl

/-- The blanks as a table. -/
def blankRanges : List CodeRange :=
  CodeRange.table [(9, 13), (28, 32), (0x85, 0x85), (0xA0, 0xA0), (0x1680, 0x1680), (0x2000, 0x200A),
    (0x2028, 0x2028), (0x2029, 0x2029), (0x202F, 0x202F), (0x205F, 0x205F), (0x3000, 0x3000)]

theorem isBlank_eq_any (c : Char) : isBlank c = blankRanges.any (·.contains c) := by
  have hpoint : ∀ n k : Nat, (n == k) = (decide (k ≤ n) && decide (n ≤ k)) := by
    intro n k
    rw [Bool.eq_iff_iff]
    simp only [beq_iff_eq, Bool.and_eq_true, decide_eq_true_eq]
    omega
  simp only [isBlank, hpoint, Bool.or_assoc]
  simp [blankRanges, CodeRange.table, CodeRange.contains]

/-- No blank is a digit of any script. -/
theorem isDigit_of_isBlank {c : Char} (h : isBlank c = true) : isDigit c = false := by
  have hapart : blankRanges.all (fun blanks => digitRanges.all fun digits =>
      blanks.last < digits.first || digits.last < blanks.first) = true := by decide
  rw [isBlank_eq_any, List.any_eq_true] at h
  obtain ⟨blanks, hblanks, hblank⟩ := h
  have hnone : digitRanges.find? (·.contains c) = none := by
    refine List.find?_eq_none.mpr fun digits hdigits => ?_
    have hout : blanks.last < digits.first ∨ digits.last < blanks.first := by
      simpa using List.all_eq_true.mp (List.all_eq_true.mp hapart blanks hblanks) digits hdigits
    simp only [CodeRange.contains, Bool.and_eq_true, decide_eq_true_eq] at hblank ⊢
    omega
  rw [isDigit, digitValue?, hnone]
  rfl

theorem not_isBlank_of_isDigit {c : Char} (h : isDigit c = true) : isBlank c = false := by
  cases hblank : isBlank c with
  | false => rfl
  | true => simp [isDigit_of_isBlank hblank] at h

/-- A run of digits ends where something else begins. -/
theorem takeWhile_isDigit {digits rest : List Char} (hdigits : ∀ c ∈ digits, isDigit c = true)
    (hrest : ∀ c, rest.head? = some c → isDigit c = false) :
    (digits ++ rest).takeWhile isDigit = digits := by
  rw [List.takeWhile_append_of_pos hdigits]
  cases rest with
  | nil => simp
  | cons c rest => simp [hrest c rfl]

end Text

/-! ## Numerals

The number that digits denote is said by their values and the rule of positions alone. The reader takes a
detour: it first makes the digits plain ones. -/

namespace ShaderType

open Text

/-- The digits, of any script, denote the number. -/
def Denotes (digits : List Char) (n : Nat) : Prop :=
  digits ≠ [] ∧
    ∃ values : List Nat, digits.map digitValue? = values.map some ∧ n = Nat.ofDigits 10 values.reverse

theorem plainDigit_eq {c : Char} {value : Nat} (h : digitValue? c = some value) :
    Numeral.plainDigit c = Nat.digitChar value := by
  rw [Numeral.plainDigit, h]

theorem plainDigit_of_plain {c : Char} (h : c.isDigit = true) : Numeral.plainDigit c = c := by
  have hrange : 48 ≤ c.toNat ∧ c.toNat ≤ 57 := Char.isDigit_iff_toNat.mp h
  rw [plainDigit_eq (digitValue?_of_plain h)]
  apply Char.toNat_inj.mp
  rw [Nat.toNat_digitChar_of_lt_ten (n := c.toNat - '0'.toNat) (by simp; omega)]
  simp
  omega

theorem foldl_values {digits : List Char} {values : List Nat}
    (h : digits.map digitValue? = values.map some) (start : Nat) :
    Nat.ofDigitChars 10 (digits.map Numeral.plainDigit) start
      = values.foldl (fun n value => value + 10 * n) start := by
  induction digits generalizing values start with
  | nil =>
    obtain rfl : values = [] := by simpa using h.symm
    simp
  | cons c digits ih =>
    obtain ⟨value, rest, rfl, hc, hrest⟩ := List.map_eq_cons_iff.mp h.symm
    have hvalue : digitValue? c = some value := hc.symm
    rw [List.map_cons, plainDigit_eq hvalue,
      Nat.ofDigitChars_cons_digitChar_of_lt_ten (digitValue?_lt hvalue), ih hrest.symm, List.foldl_cons,
      Nat.add_comm value]

/-- The value that the reader gives to digits. -/
theorem lengthValue_eq {digits : List Char} {values : List Nat}
    (h : digits.map digitValue? = values.map some) :
    lengthValue digits = Nat.ofDigits 10 values.reverse := by
  have hfold : lengthValue digits = Nat.ofDigitChars 10 (digits.map Numeral.plainDigit) 0 := rfl
  rw [hfold, foldl_values h, Nat.ofDigits_eq_foldr, List.foldr_reverse]
  rfl

theorem exists_values {digits : List Char} (h : ∀ c ∈ digits, isDigit c = true) :
    ∃ values : List Nat, digits.map digitValue? = values.map some := by
  refine ⟨digits.map fun c => (digitValue? c).getD 0, ?_⟩
  rw [List.map_map]
  refine List.map_congr_left fun c hc => ?_
  obtain ⟨value, hvalue⟩ := Option.isSome_iff_exists.mp (h c hc)
  simp [hvalue]

theorem denotes_iff {digits : List Char} {n : Nat} :
    Denotes digits n ↔
      digits ≠ [] ∧ (∀ c ∈ digits, isDigit c = true) ∧ lengthValue digits = n := by
  refine and_congr_right fun _ => ?_
  constructor
  · rintro ⟨values, hvalues, rfl⟩
    refine ⟨fun c hc => ?_, lengthValue_eq hvalues⟩
    have hmem : digitValue? c ∈ values.map some := hvalues ▸ List.mem_map_of_mem hc
    obtain ⟨value, -, hvalue⟩ := List.mem_map.mp hmem
    rw [isDigit, ← hvalue]
    rfl
  · rintro ⟨hdigits, rfl⟩
    obtain ⟨values, hvalues⟩ := exists_values hdigits
    exact ⟨values, hvalues, lengthValue_eq hvalues⟩

/-- The decimal text of a number denotes it. -/
theorem denotes_toDigits (n : Nat) : Denotes (Nat.toDigits 10 n) n := by
  have hplain : ∀ c ∈ Nat.toDigits 10 n, c.isDigit = true := fun c hc =>
    Nat.isDigit_of_mem_toDigits (by decide) (by decide) hc
  have hsame : (Nat.toDigits 10 n).map Numeral.plainDigit = Nat.toDigits 10 n :=
    (List.map_congr_left fun c hc => plainDigit_of_plain (hplain c hc)).trans (List.map_id _)
  refine denotes_iff.mpr ⟨Nat.toDigits_ne_nil, fun c hc => ?_, ?_⟩
  · rw [isDigit, digitValue?_of_plain (hplain c hc)]
    rfl
  · have hvalue : lengthValue (Nat.toDigits 10 n)
        = Nat.ofDigitChars 10 ((Nat.toDigits 10 n).map Numeral.plainDigit) 0 := rfl
    rw [hvalue, hsame, Nat.ofDigitChars_ten_toDigits]

/-- A number has at most as many digits as any digits that denote it. -/
theorem Denotes.length_toDigits_le {digits : List Char} {n : Nat} (h : Denotes digits n) :
    (Nat.toDigits 10 n).length ≤ digits.length := by
  obtain ⟨hne, values, hvalues, rfl⟩ := h
  have hlength : values.reverse.length = digits.length := by
    have := congrArg List.length hvalues
    simpa using this.symm
  have hsmall : ∀ value ∈ values.reverse, value < 10 := by
    intro value hvalue
    have hmem : some value ∈ digits.map digitValue? :=
      hvalues ▸ List.mem_map_of_mem (List.mem_reverse.mp hvalue)
    obtain ⟨c, -, hc⟩ := List.mem_map.mp hmem
    exact digitValue?_lt hc
  rw [Nat.length_toDigits_le_iff (by decide) (List.length_pos_iff.mpr hne), ← hlength]
  exact Nat.ofDigits_lt_base_pow_length (by decide) hsmall

/-! ## The grammar -/

/-- The text is `array`, `<`, an element, a comma, digits and `>`, with blanks between them or not. -/
def SpellsArray (cs : List Char) (element : ScalarKind) (digits : List Char) : Prop :=
  ∃ gap₁ gap₂ gap₃ gap₄ gap₅ : List Char,
    (∀ gap ∈ [gap₁, gap₂, gap₃, gap₄, gap₅], Blanks gap) ∧
    cs = "array".toList ++ (gap₁ ++ (['<'] ++ (gap₂ ++ (element.word.toList ++ (gap₃ ++ ([','] ++
      (gap₄ ++ (digits ++ (gap₅ ++ ['>'])))))))))

/-- The ways to write a type, without blanks around the whole. -/
inductive Spells : List Char → ShaderType → Prop where
  | scalar (kind : ScalarKind) : Spells kind.word.toList (.scalar kind)
  | array {cs digits : List Char} {element : ScalarKind} {length : Nat} (positive : 0 < length)
      (hparts : SpellsArray cs element digits) (hdigits : Denotes digits length) :
      Spells cs (.array element length positive)

/-- The text is a way to write the type, between blanks or not. -/
def Written (text : String) (t : ShaderType) : Prop :=
  ∃ front core back : List Char,
    text.toList = front ++ core ++ back ∧ Blanks front ∧ Blanks back ∧ Spells core t

/-! ## The parts of an array -/

theorem expect?_eq_some_iff {front cs rest : List Char} :
    expect? front cs = some rest ↔ ∃ gap, cs = front ++ (gap ++ rest) ∧ Blanks gap ∧ Tight rest := by
  unfold expect?
  constructor
  · intro h
    split_ifs at h with hfront
    obtain ⟨more, rfl⟩ := List.isPrefixOf_iff_prefix.mp hfront
    rw [List.drop_left] at h
    obtain ⟨gap, rfl, hgap, htight⟩ := trimLeft_eq_iff.mp (Option.some.inj h)
    exact ⟨gap, rfl, hgap, htight⟩
  · rintro ⟨gap, rfl, hgap, htight⟩
    rw [if_pos (List.isPrefixOf_iff_prefix.mpr (List.prefix_append front _)), List.drop_left,
      trimLeft_eq_iff.mpr ⟨gap, rfl, hgap, htight⟩]

/-- The three words have the same length, so a text begins with one of them at most. -/
theorem eq_of_word_append {kind other : ScalarKind} {rest more : List Char}
    (h : kind.word.toList ++ rest = other.word.toList ++ more) : kind = other := by
  have hlength : ∀ k : ScalarKind, k.word.toList.length = 3 := by
    intro k
    cases k with
    | f32 => rfl
    | i32 => rfl
    | u32 => rfl
  have hinjective : ∀ k l : ScalarKind, k.word.toList = l.word.toList → k = l := by
    intro k l
    cases k <;> cases l <;> decide
  exact hinjective kind other (List.append_inj_left h ((hlength kind).trans (hlength other).symm))

theorem expectKind?_eq_some_iff {cs rest : List Char} {kind : ScalarKind} :
    expectKind? cs = some (kind, rest) ↔ expect? kind.word.toList cs = some rest := by
  have hsound : ∀ other more, expectKind? cs = some (other, more) →
      expect? other.word.toList cs = some more := by
    intro other more h
    obtain ⟨found, -, hfound⟩ := List.exists_of_findSome?_eq_some h
    obtain ⟨rest', hrest, hpair⟩ := Option.map_eq_some_iff.mp hfound
    obtain ⟨rfl, rfl⟩ := Prod.mk.inj hpair
    exact hrest
  refine ⟨hsound kind rest, fun h => ?_⟩
  -- some word is found, since that of `kind` is there to be found, and no other can be
  have hkind : kind ∈ ScalarKind.all := by
    cases kind with
    | f32 => decide
    | i32 => decide
    | u32 => decide
  have hsome : (expectKind? cs).isSome = true := by
    rw [expectKind?, List.findSome?_isSome_iff]
    exact ⟨kind, hkind, by rw [h]; rfl⟩
  obtain ⟨⟨other, more⟩, hfound⟩ := Option.isSome_iff_exists.mp hsome
  have hother := hsound other more hfound
  obtain ⟨_, hcs, -, -⟩ := expect?_eq_some_iff.mp h
  obtain ⟨_, hcs', -, -⟩ := expect?_eq_some_iff.mp hother
  obtain rfl := eq_of_word_append (hcs.symm.trans hcs')
  rw [hfound, Option.some.inj (h.symm.trans hother)]

theorem tight_cons {c : Char} (h : isBlank c = false) (rest : List Char) : Tight (c :: rest) := by
  intro first hfirst
  obtain rfl : c = first := by simpa using hfirst
  exact h

theorem tight_word (kind : ScalarKind) (rest : List Char) : Tight (kind.word.toList ++ rest) := by
  cases kind with
  | f32 => exact tight_cons (by decide) _
  | i32 => exact tight_cons (by decide) _
  | u32 => exact tight_cons (by decide) _

theorem tight_digits {digits : List Char} (hne : digits ≠ []) (h : ∀ c ∈ digits, isDigit c = true)
    (rest : List Char) : Tight (digits ++ rest) := by
  obtain ⟨c, more, rfl⟩ := List.exists_cons_of_ne_nil hne
  exact tight_cons (not_isBlank_of_isDigit (h c List.mem_cons_self)) _

/-- **Reading an array.** -/
theorem readArray?_eq_some_iff {cs digits : List Char} {element : ScalarKind} :
    readArray? cs = some (element, digits) ↔
      digits ≠ [] ∧ (∀ c ∈ digits, isDigit c = true) ∧ SpellsArray cs element digits := by
  simp only [readArray?, Option.bind_eq_bind, Option.bind_eq_some_iff, Prod.exists,
    expectKind?_eq_some_iff, expect?_eq_some_iff]
  constructor
  · rintro ⟨_, ⟨gap₁, rfl, hgap₁, -⟩, _, ⟨gap₂, rfl, hgap₂, -⟩, kind, _, ⟨gap₃, rfl, hgap₃, -⟩, cs,
      ⟨gap₄, rfl, hgap₄, -⟩, h⟩
    split_ifs at h with hempty hclosing
    obtain ⟨rfl, rfl⟩ := Prod.mk.inj (Option.some.inj h)
    obtain ⟨gap₅, hrest, hgap₅, -⟩ := trimLeft_eq_iff.mp hclosing
    have hcs : cs.takeWhile isDigit ++ (gap₅ ++ ['>']) = cs := by
      rw [← hrest]
      exact List.prefix_iff_eq_append.mp (List.takeWhile_prefix isDigit)
    refine ⟨by simpa using hempty, fun c hc => List.all_eq_true.mp List.all_takeWhile c hc,
      gap₁, gap₂, gap₃, gap₄, gap₅, ?_, ?_⟩
    · simp [hgap₁, hgap₂, hgap₃, hgap₄, hgap₅]
    · rw [hcs]
  · rintro ⟨hne, hdigits, gap₁, gap₂, gap₃, gap₄, gap₅, hgaps, rfl⟩
    simp only [List.forall_mem_cons] at hgaps
    obtain ⟨hgap₁, hgap₂, hgap₃, hgap₄, hgap₅, -⟩ := hgaps
    refine ⟨_, ⟨gap₁, rfl, hgap₁, tight_cons (by decide) _⟩, _, ⟨gap₂, rfl, hgap₂, tight_word element _⟩,
      element, _, ⟨gap₃, rfl, hgap₃, tight_cons (by decide) _⟩, _,
      ⟨gap₄, rfl, hgap₄, tight_digits hne hdigits _⟩, ?_⟩
    -- the digits end at a blank or at the bracket
    have hends : ∀ c, (gap₅ ++ ['>']).head? = some c → isDigit c = false := by
      intro c hc
      cases gap₅ with
      | nil =>
        obtain rfl : '>' = c := by simpa using hc
        decide
      | cons b gap₅ =>
        obtain rfl : b = c := by simpa using hc
        exact isDigit_of_isBlank (hgap₅ b List.mem_cons_self)
    have hclosing : trimLeft (gap₅ ++ ['>']) = ['>'] :=
      trimLeft_eq_iff.mpr ⟨gap₅, rfl, hgap₅, tight_cons (by decide) _⟩
    rw [takeWhile_isDigit hdigits hends, List.drop_left, hclosing]
    simpa using hne

/-! ## Reading and writing -/

theorem ofWord?_eq_some_iff {word : String} {kind : ScalarKind} :
    ScalarKind.ofWord? word = some kind ↔ word = kind.word := by
  constructor
  · intro h
    have hfound : (kind.word == word) = true :=
      List.find?_some (p := fun k : ScalarKind => k.word == word) h
    exact (eq_of_beq hfound).symm
  · rintro rfl
    cases kind with
    | f32 => decide
    | i32 => decide
    | u32 => decide

theorem ofLength_eq_ok_iff {element : ScalarKind} {length : Nat} {t : ShaderType} :
    ofLength element length = .ok t ↔ ∃ positive, t = .array element length positive := by
  unfold ofLength
  simp only [Int.toNat_natCast]
  constructor
  · intro h
    split_ifs at h with positive
    exact ⟨positive, (Except.ok.inj h).symm⟩
  · rintro ⟨positive, rfl⟩
    rw [dif_pos positive]

theorem spellsArray_ne_word {cs digits : List Char} {element : ScalarKind}
    (h : SpellsArray cs element digits) (kind : ScalarKind) : cs ≠ kind.word.toList := by
  obtain ⟨gap₁, gap₂, gap₃, gap₄, gap₅, -, rfl⟩ := h
  cases kind with
  | f32 => simp [ScalarKind.word]
  | i32 => simp [ScalarKind.word]
  | u32 => simp [ScalarKind.word]

/-- Whatever is read is a way to write the result. -/
theorem spells_of_read {text : String} {t : ShaderType} (h : read text = .ok t) :
    Spells (trim text.toList) t := by
  unfold read at h
  simp only at h
  split at h
  · rename_i kind hkind
    obtain rfl := Except.ok.inj h
    have hcore : trim text.toList = kind.word.toList := by
      rw [← ofWord?_eq_some_iff.mp hkind, String.toList_ofList]
    rw [hcore]
    exact .scalar kind
  · split at h
    · rename_i element digits hparts
      split_ifs at h
      obtain ⟨positive, rfl⟩ := ofLength_eq_ok_iff.mp h
      obtain ⟨hne, hdigits, hspells⟩ := readArray?_eq_some_iff.mp hparts
      exact .array positive hspells (denotes_iff.mpr ⟨hne, hdigits, rfl⟩)
    · exact nomatch h

theorem read_of_word {text : String} {kind : ScalarKind} (h : trim text.toList = kind.word.toList) :
    read text = .ok (.scalar kind) := by
  have hkind : ScalarKind.ofWord? (String.ofList (trim text.toList)) = some kind := by
    rw [ofWord?_eq_some_iff, h, String.ofList_toList]
  unfold read
  simp only [hkind]

theorem read_of_array {text : String} {element : ScalarKind} {digits : List Char} {length : Nat}
    (positive : 0 < length) (hparts : SpellsArray (trim text.toList) element digits)
    (hdigits : Denotes digits length) (hfit : digits.length ≤ Numeral.maxDigits) :
    read text = .ok (.array element length positive) := by
  have hword : ScalarKind.ofWord? (String.ofList (trim text.toList)) = none := by
    cases hkind : ScalarKind.ofWord? (String.ofList (trim text.toList)) with
    | none => rfl
    | some kind =>
      refine absurd ?_ (spellsArray_ne_word hparts kind)
      rw [← ofWord?_eq_some_iff.mp hkind, String.toList_ofList]
  obtain ⟨hne, hall, rfl⟩ := denotes_iff.mp hdigits
  have harray := readArray?_eq_some_iff.mpr ⟨hne, hall, hparts⟩
  unfold read
  simp only [hword, harray]
  rw [if_neg (Nat.not_lt.mpr hfit)]
  exact ofLength_eq_ok_iff.mpr ⟨positive, rfl⟩

namespace Spells

theorem tight {cs : List Char} {t : ShaderType} (h : Spells cs t) : Tight cs := by
  cases h with
  | scalar kind => simpa using tight_word kind []
  | array positive hparts hdigits =>
    obtain ⟨gap₁, gap₂, gap₃, gap₄, gap₅, -, rfl⟩ := hparts
    exact tight_cons (by decide) _

/-- A type ends in a character that is not a blank. -/
theorem exists_last {cs : List Char} {t : ShaderType} (h : Spells cs t) :
    ∃ before c, cs = before ++ [c] ∧ isBlank c = false := by
  cases h with
  | scalar kind =>
    cases kind with
    | f32 => exact ⟨['f', '3'], '2', by decide, by decide⟩
    | i32 => exact ⟨['i', '3'], '2', by decide, by decide⟩
    | u32 => exact ⟨['u', '3'], '2', by decide, by decide⟩
  | array positive hparts hdigits =>
    obtain ⟨gap₁, gap₂, gap₃, gap₄, gap₅, -, rfl⟩ := hparts
    simp only [← List.append_assoc]
    exact ⟨_, '>', rfl, by decide⟩

theorem trim_eq {front core back : List Char} {t : ShaderType} (h : Spells core t)
    (hfront : Blanks front) (hback : Blanks back) : trim (front ++ core ++ back) = core :=
  trim_append hfront hback h.tight h.exists_last

end Spells

/-- The text of an array is spelled without blanks and with the plain digits of its length. -/
theorem spellsArray_text (element : ScalarKind) (length : Nat) (positive : 0 < length) :
    SpellsArray (text (.array element length positive)).toList element (Nat.toDigits 10 length) := by
  refine ⟨[], [], [], [], [], by simp [Blanks.nil], ?_⟩
  have hlength : (toString length).toList = Nat.toDigits 10 length := Nat.toList_repr
  have hfront : "array<".toList = "array".toList ++ ['<'] := by decide
  rw [text, String.toList_append, String.toList_append, String.toList_append, String.toList_append,
    hlength, hfront]
  simp only [List.append_assoc, List.nil_append]
  rfl

/-- The text of a type is a way to write it. -/
theorem spells_text (t : ShaderType) : Spells t.text.toList t := by
  cases t with
  | scalar kind => exact .scalar kind
  | array element length positive =>
    exact .array positive (spellsArray_text element length positive) (denotes_toDigits length)

theorem trim_text (t : ShaderType) : trim t.text.toList = t.text.toList := by
  simpa using (spells_text t).trim_eq Blanks.nil Blanks.nil

/-- The length of the type, if it has one, has no more digits than a numeral may have. -/
def Printable : ShaderType → Prop
  | .scalar _ => True
  | .array _ length _ => (Nat.toDigits 10 length).length ≤ Numeral.maxDigits

theorem Printable.read_text {t : ShaderType} (h : t.Printable) : read t.text = .ok t := by
  have htrim := trim_text t
  cases t with
  | scalar kind => exact read_of_word htrim
  | array element length positive =>
    refine read_of_array positive ?_ (denotes_toDigits length) h
    rw [htrim]
    exact spellsArray_text element length positive

/-! ## What is accepted -/

/-- No run of digits in the text is longer than a numeral may be. -/
def RunsFit (text : String) : Prop :=
  ∀ run, run <:+: text.toList → (∀ c ∈ run, isDigit c = true) → run.length ≤ Numeral.maxDigits

theorem RunsFit.digits_le {text : String} (h : RunsFit text) {front core back digits : List Char}
    {element : ScalarKind} {length : Nat} (htext : text.toList = front ++ core ++ back)
    (hparts : SpellsArray core element digits) (hdigits : Denotes digits length) :
    digits.length ≤ Numeral.maxDigits := by
  refine h digits ?_ (denotes_iff.mp hdigits).2.1
  obtain ⟨gap₁, gap₂, gap₃, gap₄, gap₅, -, rfl⟩ := hparts
  refine ⟨front ++ ("array".toList ++ gap₁ ++ ['<'] ++ gap₂ ++ element.word.toList ++ gap₃ ++ [','] ++ gap₄),
    gap₅ ++ ['>'] ++ back, ?_⟩
  rw [htext]
  simp only [List.append_assoc]

theorem written_of_read {text : String} {t : ShaderType} (h : read text = .ok t) : Written text t := by
  obtain ⟨front, back, htext, hfront, hback⟩ := exists_trim text.toList
  exact ⟨front, _, back, htext, hfront, hback, spells_of_read h⟩

namespace Written

variable {text : String} {t : ShaderType}

theorem read_eq (h : Written text t) (hfit : RunsFit text) : read text = .ok t := by
  obtain ⟨front, core, back, htext, hfront, hback, hspells⟩ := h
  have htrim : trim text.toList = core := by
    rw [htext]
    exact hspells.trim_eq hfront hback
  cases hspells with
  | scalar kind => exact read_of_word htrim
  | array positive hparts hdigits =>
    rw [← htrim] at hparts
    exact read_of_array positive hparts hdigits (hfit.digits_le htext (htrim ▸ hparts) hdigits)

/-- What is written in a text that fits can be printed: the digits of a length are never fewer than those
that are needed. -/
theorem printable (h : Written text t) (hfit : RunsFit text) : t.Printable := by
  obtain ⟨front, core, back, htext, -, -, hspells⟩ := h
  cases hspells with
  | scalar kind => trivial
  | array positive hparts hdigits =>
    exact hdigits.length_toDigits_le.trans (hfit.digits_le htext hparts hdigits)

end Written

/-- **Reading undoes writing and accepts the grammar.** A type that can be printed is read from its text,
so no two such types have the same text. A text with runs of digits that fit is read as a type exactly if
it is a way to write that type between blanks, and then the text of the type is read as that type too. -/
theorem read_inverts_text :
    (∀ t : ShaderType, t.Printable → read t.text = .ok t) ∧
    (∀ t u : ShaderType, t.Printable → u.Printable → t.text = u.text → t = u) ∧
    ∀ text : String, RunsFit text →
      (∀ t, read text = .ok t ↔ Written text t) ∧ ∀ t, read text = .ok t → read t.text = .ok t := by
  refine ⟨fun t ht => ht.read_text, fun t u ht hu htext => ?_, fun text hfit => ⟨fun t => ?_, fun t h => ?_⟩⟩
  · exact Except.ok.inj (ht.read_text.symm.trans (htext ▸ hu.read_text))
  · exact ⟨written_of_read, fun h => h.read_eq hfit⟩
  · exact ((written_of_read h).printable hfit).read_text

/-- At a text with blanks of several sorts, a leading zero and a digit of another script. -/
theorem spacedArray_read :
    read "\t array <\u00a0u32 ,0\u0663 > " = .ok (.array .u32 3 (by decide)) ∧
      read "array<u32,3>" = .ok (.array .u32 3 (by decide)) := by
  have hfit : RunsFit "\t array <\u00a0u32 ,0\u0663 > " := by
    intro run hrun _
    exact hrun.length_le.trans (by decide)
  have hdigits : Denotes ['0', '\u0663'] 3 := ⟨by decide, [0, 3], by decide, by decide⟩
  have hparts : SpellsArray "array <\u00a0u32 ,0\u0663 >".toList .u32 ['0', '\u0663'] :=
    ⟨[' '], ['\u00a0'], [' '], [], [' '], by decide, by decide⟩
  have hwritten : Written "\t array <\u00a0u32 ,0\u0663 > " (.array .u32 3 (by decide)) :=
    ⟨['\t', ' '], _, [' '], by decide, by decide, by decide, .array (by decide) hparts hdigits⟩
  have hread := ((read_inverts_text.2.2 _ hfit).1 _).mpr hwritten
  have htext : ShaderType.text (.array .u32 3 (by decide)) = "array<u32,3>" := by decide
  refine ⟨hread, ?_⟩
  rw [← htext]
  exact (read_inverts_text.2.2 _ hfit).2 _ hread

end ShaderType

end KernelShader
