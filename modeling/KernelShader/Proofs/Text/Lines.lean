/-
`Lines.lean` -- where lines end, and what is left when the shared indentation is gone.

The lines of a text and its fields between line breaks differ only in empty ones: a carriage return with a
newline behind it makes one line end and two fields, and nothing comes after a last line end where there is
one more field (`filter_lines`). Fields are the easier of the two, because they can be taken apart at every
break (`fields_append`).

Indentation is taken off newline by newline, and what is taken off is made of spaces and tabs only. Putting
more of them in front of every line makes the margin longer by as much, so that the same lines are left as
before (`dedent_indentFrom`). Lines of nothing but indentation have to be looked at apart, since they do not
count for the margin and are emptied in any case.
-/
import Mathlib.Tactic.SplitIfs
import KernelShader.Text.Lines

set_option autoImplicit false

namespace KernelShader.Text

/-! ## Fields -/

theorem extendFirst_append (c : Char) {xs : List (List Char)} (h : xs ≠ []) (ys : List (List Char)) :
    extendFirst c (xs ++ ys) = extendFirst c xs ++ ys := by
  cases xs with
  | nil => exact absurd rfl h
  | cons first rest => rfl

section Fields

variable (separates : Char → Bool)

theorem fields_ne_nil (cs : List Char) : fields separates cs ≠ [] := by
  cases cs with
  | nil => simp [fields]
  | cons c cs =>
    unfold fields
    split_ifs
    · simp
    · cases fields separates cs with
      | nil => simp [extendFirst]
      | cons first rest => simp [extendFirst]

theorem exists_fields (cs : List Char) : ∃ first rest, fields separates cs = first :: rest :=
  List.exists_cons_of_ne_nil (fields_ne_nil separates cs)

variable {separates}

/-- A text falls apart at a separator. -/
theorem fields_append {d : Char} (h : separates d = true) (cs ds : List Char) :
    fields separates (cs ++ d :: ds) = fields separates cs ++ fields separates ds := by
  induction cs with
  | nil => simp [fields, h]
  | cons c cs ih =>
    by_cases hc : separates c = true
    · simp [fields, hc, ih]
    · simp [fields, hc, ih, extendFirst_append c (fields_ne_nil separates cs)]

/-- What holds no separator goes to the first field. -/
theorem fields_append_of_free {front : List Char} (h : ∀ c ∈ front, separates c = false)
    {cs first : List Char} {rest : List (List Char)} (hcs : fields separates cs = first :: rest) :
    fields separates (front ++ cs) = (front ++ first) :: rest := by
  induction front with
  | nil => exact hcs
  | cons c front ih =>
    obtain ⟨hc, hfront⟩ := List.forall_mem_cons.mp h
    simp [fields, hc, ih hfront, extendFirst]

theorem fields_of_free {cs : List Char} (h : ∀ c ∈ cs, separates c = false) :
    fields separates cs = [cs] := by
  have hfields := fields_append_of_free h (show fields separates [] = [] :: [] from rfl)
  rwa [List.append_nil] at hfields

end Fields

/-- The fields with their separator between them are the text. -/
theorem intercalate_fields (d : Char) (cs : List Char) :
    List.intercalate [d] (fields (· == d) cs) = cs := by
  induction cs with
  | nil => rfl
  | cons c cs ih =>
    obtain ⟨first, rest, hfields⟩ := exists_fields (· == d) cs
    by_cases hc : c = d
    · rw [fields, if_pos (by simp [hc]), List.intercalate_cons_of_ne_nil (fields_ne_nil _ cs), ih, hc]
      rfl
    · rw [fields, if_neg (by simp [hc])]
      rw [hfields] at ih ⊢
      rw [extendFirst, ← ih]
      cases rest with
      | nil => simp
      | cons second rest => simp

/-! ## Lines and fields -/

/-- A text is one line without break, or begins with such a line and a break. -/
theorem lineBreak_induction {P : List Char → Prop}
    (unbroken : ∀ line : List Char, (∀ c ∈ line, isLineBreak c = false) → P line)
    (broken : ∀ (line : List Char) (d : Char) (rest : List Char),
      (∀ c ∈ line, isLineBreak c = false) → isLineBreak d = true → P rest → P (line ++ d :: rest))
    (cs : List Char) : P cs := by
  -- the first line is carried along until a break comes
  suffices h : ∀ line : List Char, (∀ c ∈ line, isLineBreak c = false) → P (line ++ cs) from
    h [] (by simp)
  induction cs with
  | nil =>
    intro line hline
    rw [List.append_nil]
    exact unbroken line hline
  | cons c cs ih =>
    intro line hline
    by_cases hc : isLineBreak c = true
    · exact broken line c cs hline hc (ih [] (by simp))
    · have hlonger : ∀ d ∈ line ++ [c], isLineBreak d = false :=
        List.forall_mem_append.mpr ⟨hline, by simpa using hc⟩
      simpa using ih (line ++ [c]) hlonger

/-- Lists with the same first stretch that go on alike but for empty ones are alike but for empty ones. -/
theorem filter_eq_of_headD_eq {xs ys : List (List Char)} (hhead : xs.headD [] = ys.headD [])
    (htail : xs.tail.filter (!·.isEmpty) = ys.tail.filter (!·.isEmpty)) :
    xs.filter (!·.isEmpty) = ys.filter (!·.isEmpty) := by
  have hbegin : ∀ zs : List (List Char),
      zs.filter (!·.isEmpty) = (zs.headD [] :: zs.tail).filter (!·.isEmpty) := by
    intro zs
    cases zs with
    | nil => rfl
    | cons first rest => rfl
  rw [hbegin xs, hbegin ys, hhead, List.filter_cons, List.filter_cons, htail]

theorem extendFirst_eq (c : Char) (xs : List (List Char)) :
    extendFirst c xs = (c :: xs.headD []) :: xs.tail := by
  cases xs with
  | nil => rfl
  | cons first rest => rfl

/-- Lines and fields begin alike, and go on alike but for empty ones. The first of them has to be told
apart from the others, because that is where the next character goes. -/
theorem lines_and_fields (cs : List Char) :
    (lines cs).headD [] = (fields isLineBreak cs).headD [] ∧
      (lines cs).tail.filter (!·.isEmpty) = (fields isLineBreak cs).tail.filter (!·.isEmpty) := by
  fun_induction lines cs with
  | case1 => exact ⟨rfl, rfl⟩
  | case2 cs ih =>
    have hfields : fields isLineBreak ('\r' :: '\n' :: cs) = [] :: [] :: fields isLineBreak cs := by
      simp [fields, show isLineBreak '\r' = true from by decide, show isLineBreak '\n' = true from by decide]
    rw [hfields]
    -- the second of the two fields is empty and does not count
    refine ⟨rfl, ?_⟩
    rw [List.tail_cons, List.tail_cons, List.filter_cons_of_neg (by simp)]
    exact filter_eq_of_headD_eq ih.1 ih.2
  | case3 c cs hother hbreak ih =>
    rw [fields, if_pos hbreak]
    exact ⟨rfl, filter_eq_of_headD_eq ih.1 ih.2⟩
  | case4 c cs hother hbreak ih =>
    rw [fields, if_neg hbreak, extendFirst_eq, extendFirst_eq, ih.1]
    exact ⟨rfl, ih.2⟩

/-- **Lines that hold something** are the fields between line breaks that do. -/
theorem filter_lines (cs : List Char) :
    (lines cs).filter (!·.isEmpty) = (fields isLineBreak cs).filter (!·.isEmpty) := by
  obtain ⟨hhead, htail⟩ := lines_and_fields cs
  exact filter_eq_of_headD_eq hhead htail

/-- A line holds no line break. -/
theorem not_isLineBreak_of_mem_lines {cs line : List Char} (hline : line ∈ lines cs) {c : Char}
    (hc : c ∈ line) : isLineBreak c = false := by
  fun_induction lines cs generalizing line with
  | case1 => exact absurd hline List.not_mem_nil
  | case2 cs ih =>
    rcases List.mem_cons.mp hline with rfl | hline
    · exact absurd hc List.not_mem_nil
    · exact ih hline hc
  | case3 d cs hother hbreak ih =>
    rcases List.mem_cons.mp hline with rfl | hline
    · exact absurd hc List.not_mem_nil
    · exact ih hline hc
  | case4 d cs hother hbreak ih =>
    cases hlines : lines cs with
    | nil =>
      rw [hlines, extendFirst, List.mem_singleton] at hline
      rw [hline, List.mem_singleton] at hc
      simpa [hc] using hbreak
    | cons first rest =>
      rw [hlines, extendFirst] at hline
      rw [hlines] at ih
      rcases List.mem_cons.mp hline with rfl | hline
      · rcases List.mem_cons.mp hc with rfl | hc
        · simpa using hbreak
        · exact ih List.mem_cons_self hc
      · exact ih (List.mem_cons_of_mem first hline) hc

/-! ## The margin -/

theorem commonFront_begins (as bs : List Char) :
    commonFront as bs <+: as ∧ commonFront as bs <+: bs := by
  fun_induction commonFront as bs with
  | case1 as c bs ih => exact ⟨List.cons_prefix_cons.mpr ⟨rfl, ih.1⟩, List.cons_prefix_cons.mpr ⟨rfl, ih.2⟩⟩
  | case2 => exact ⟨List.nil_prefix, List.nil_prefix⟩
  | case3 => exact ⟨List.nil_prefix, List.nil_prefix⟩

theorem commonFront_append (front as bs : List Char) :
    commonFront (front ++ as) (front ++ bs) = front ++ commonFront as bs := by
  induction front with
  | nil => rfl
  | cons c front ih => simp [commonFront, ih]

@[simp] theorem margin_nil_cons (rest : List (List Char)) : margin ([] :: rest) = margin rest := rfl

theorem margin_cons {line : List Char} (h : line ≠ []) (rest : List (List Char)) :
    margin (line :: rest)
      = some ((margin rest).elim (line.takeWhile isIndent) (commonFront (line.takeWhile isIndent))) := by
  rw [margin, if_neg (by simpa using h)]
  cases margin rest with
  | none => rfl
  | some shared => rfl

/-- There is no margin exactly if no line holds something. -/
theorem margin_eq_none_iff {ls : List (List Char)} : margin ls = none ↔ ∀ line ∈ ls, line = [] := by
  induction ls with
  | nil => simp [margin]
  | cons line rest ih =>
    by_cases hline : line = []
    · simp [hline, ih]
    · simp [margin_cons hline, hline]

/-- The indentation of every line that holds something begins with the margin. -/
theorem margin_begins {ls : List (List Char)} {shared : List Char} (h : margin ls = some shared)
    {line : List Char} (hline : line ∈ ls) (hne : line ≠ []) : shared <+: line.takeWhile isIndent := by
  induction ls generalizing shared with
  | nil => exact absurd hline List.not_mem_nil
  | cons first rest ih =>
    by_cases hfirst : first = []
    · rw [hfirst, margin_nil_cons] at h
      rcases List.mem_cons.mp hline with rfl | hline
      · exact absurd hfirst hne
      · exact ih h hline
    · rw [margin_cons hfirst] at h
      cases hrest : margin rest with
      | none =>
        rw [hrest] at h
        rcases List.mem_cons.mp hline with rfl | hline
        · rw [← Option.some.inj h]; exact List.prefix_rfl
        · exact absurd (margin_eq_none_iff.mp hrest line hline) hne
      | some others =>
        rw [hrest] at h
        obtain ⟨hleft, hright⟩ := commonFront_begins (first.takeWhile isIndent) others
        rw [← Option.some.inj h]
        rcases List.mem_cons.mp hline with rfl | hline
        · exact hleft
        · exact hright.trans (ih hrest hline)

/-- The margin is made of spaces and tabs. -/
theorem isIndent_of_mem_margin {ls : List (List Char)} {shared : List Char} (h : margin ls = some shared)
    {c : Char} (hc : c ∈ shared) : isIndent c = true := by
  -- a margin is the front of the indentation of some line
  have hline : ∃ line ∈ ls, line ≠ [] := by
    have hsome : ¬ ∀ line ∈ ls, line = [] := by
      intro hnone
      rw [margin_eq_none_iff.mpr hnone] at h
      simp at h
    simpa using hsome
  obtain ⟨line, hmem, hne⟩ := hline
  exact List.all_eq_true.mp List.all_takeWhile c ((margin_begins h hmem hne).mem hc)

/-! ## Taking off -/

theorem dropFront_nil (front : List Char) : dropFront front [] = [] := by
  unfold dropFront
  split_ifs
  · exact List.drop_nil
  · rfl

theorem exists_dropFront (front line : List Char) :
    ∃ gap, (gap = front ∨ gap = []) ∧ gap ++ dropFront front line = line := by
  unfold dropFront
  split_ifs with hbegins
  · obtain ⟨rest, rfl⟩ := List.isPrefixOf_iff_prefix.mp hbegins
    exact ⟨front, .inl rfl, by rw [List.drop_left]⟩
  · exact ⟨[], .inr rfl, rfl⟩

/-- A line loses indentation in front, and nothing else. -/
theorem exists_gap {shared : List Char} (hshared : ∀ c ∈ shared, isIndent c = true) (line : List Char) :
    ∃ gap, (∀ c ∈ gap, isIndent c = true) ∧ gap ++ dropFront shared (clearIndentOnly line) = line := by
  unfold clearIndentOnly
  split_ifs with hall
  · -- all of the line is indentation, and all of it goes
    exact ⟨line, List.all_eq_true.mp hall, by rw [dropFront_nil, List.append_nil]⟩
  · obtain ⟨gap, hgap, hline⟩ := exists_dropFront shared line
    refine ⟨gap, fun c hc => ?_, hline⟩
    rcases hgap with rfl | rfl
    · exact hshared c hc
    · exact absurd hc List.not_mem_nil

/-- The newline-separated lines of a text, with those emptied that hold only indentation. -/
def clearedLines (text : List Char) : List (List Char) :=
  (fields (· == '\n') text).map clearIndentOnly

theorem dedent_eq (text : List Char) :
    dedent text = List.intercalate ['\n']
      ((clearedLines text).map (dropFront ((margin (clearedLines text)).getD []))) := rfl

/-- The same indentation is taken off all lines. -/
theorem exists_dedent (text : List Char) :
    ∃ shared, (∀ c ∈ shared, isIndent c = true) ∧ dedent text = List.intercalate ['\n']
      ((fields (· == '\n') text).map fun line => dropFront shared (clearIndentOnly line)) := by
  refine ⟨(margin (clearedLines text)).getD [], fun c hc => ?_, ?_⟩
  · cases hmargin : margin (clearedLines text) with
    | none => simp [hmargin] at hc
    | some shared => exact isIndent_of_mem_margin hmargin (by simpa [hmargin] using hc)
  · rw [dedent_eq, clearedLines, List.map_map]
    rfl

/-! ## More indentation -/

/-- Puts `front` before a line that holds something. -/
def indentLine (front line : List Char) : List Char :=
  if line.isEmpty then [] else front ++ line

@[simp] theorem indentLine_nil (front : List Char) : indentLine front [] = [] := rfl

theorem indentLine_of_ne {line : List Char} (h : line ≠ []) (front : List Char) :
    indentLine front line = front ++ line := by
  simp [indentLine, h]

section Indent

variable {front : List Char} (hfront : ∀ c ∈ front, isIndent c = true)

include hfront

/-- More indentation in front of every line is as much more margin. -/
theorem margin_indentLine (ls : List (List Char)) :
    margin (ls.map (indentLine front)) = (margin ls).map (front ++ ·) := by
  induction ls with
  | nil => rfl
  | cons line rest ih =>
    by_cases hline : line = []
    · simpa [hline] using ih
    · have hlonger : front ++ line ≠ [] := List.append_ne_nil_of_right_ne_nil front hline
      have hindent : (front ++ line).takeWhile isIndent = front ++ line.takeWhile isIndent :=
        List.takeWhile_append_of_pos hfront
      rw [List.map_cons, indentLine_of_ne hline, margin_cons hlonger, ih, hindent, margin_cons hline]
      cases margin rest with
      | none => rfl
      | some shared => simp [commonFront_append]

theorem clearIndentOnly_append (line : List Char) :
    clearIndentOnly (front ++ line) = indentLine front (clearIndentOnly line) := by
  have hall : (front ++ line).all isIndent = line.all isIndent := by
    rw [List.all_append, List.all_eq_true.mpr hfront, Bool.true_and]
  unfold clearIndentOnly
  rw [hall]
  by_cases hline : line.all isIndent = true
  · simp [hline]
  · -- a line that is not all indentation is not empty
    have hne : line ≠ [] := by rintro rfl; simp at hline
    simp [hline, indentLine_of_ne hne]

end Indent

/-- Behind the same front, a line loses what it loses without it, if it begins with that. -/
theorem dropFront_append {shared line : List Char} (h : shared <+: line) (front : List Char) :
    dropFront (front ++ shared) (front ++ line) = dropFront shared line := by
  have hlonger : front ++ shared <+: front ++ line := (List.prefix_append_right_inj front).mpr h
  rw [dropFront, if_pos (List.isPrefixOf_iff_prefix.mpr hlonger), dropFront,
    if_pos (List.isPrefixOf_iff_prefix.mpr h), List.length_append, List.drop_length_add_append]

/-- What is left of a text is told by its cleared lines, and more indentation in front of those that hold
something makes no difference. -/
theorem dedent_eq_of_clearedLines {front : List Char} (hfront : ∀ c ∈ front, isIndent c = true)
    {text text' : List Char} (h : clearedLines text' = (clearedLines text).map (indentLine front)) :
    dedent text' = dedent text := by
  rw [dedent_eq, dedent_eq, h, margin_indentLine hfront, List.map_map]
  congr 1
  apply List.map_congr_left
  intro line hline
  cases hmargin : margin (clearedLines text) with
  | none =>
    rw [margin_eq_none_iff.mp hmargin line hline]
    rfl
  | some shared =>
    by_cases hne : line = []
    · simp [hne, dropFront_nil]
    · have hbegins : shared <+: line :=
        (margin_begins hmargin hline hne).trans (List.takeWhile_prefix isIndent)
      rw [Function.comp_apply, indentLine_of_ne hne]
      exact dropFront_append hbegins front

/-- Puts `front` before every line of a text. Behind a line break at the end of the text there may be said
to be an empty line or none, so what is put there is given apart, as `last`. -/
def indentFrom (front last : List Char) : Bool → List Char → List Char
  | atStart, [] => if atStart then last else []
  | atStart, c :: cs => (if atStart then front else []) ++ c :: indentFrom front last (isLineBreak c) cs

/-- At the start of a line `front` stands before what would come otherwise. -/
theorem indentFrom_true {front last : List Char} {cs : List Char} (h : cs ≠ []) :
    indentFrom front last true cs = front ++ indentFrom front last false cs := by
  cases cs with
  | nil => exact absurd rfl h
  | cons c cs => rfl

theorem isIndent_iff {c : Char} : isIndent c = true ↔ c = ' ' ∨ c = '\t' := by
  simp [isIndent]

theorem ne_newline_of_isIndent {c : Char} (h : isIndent c = true) : (c == '\n') = false := by
  rcases isIndent_iff.mp h with rfl | rfl
  · decide
  · decide

/-- From the middle of a line on: what is left of the line stays, and every later line is indented. -/
def IndentsLater (front last cs : List Char) : Prop :=
  ∃ first rest rest', fields (· == '\n') cs = first :: rest ∧
    fields (· == '\n') (indentFrom front last false cs) = first :: rest' ∧
    rest'.map clearIndentOnly = (rest.map clearIndentOnly).map (indentLine front)

section IndentText

variable {front last : List Char} (hfront : ∀ c ∈ front, isIndent c = true)
  (hlast : ∀ c ∈ last, isIndent c = true)

include hfront hlast

/-- If the later lines are indented, then from the start of a line on all lines are. -/
theorem IndentsLater.clearedLines_eq {cs : List Char} (h : IndentsLater front last cs) :
    clearedLines (indentFrom front last true cs) = (clearedLines cs).map (indentLine front) := by
  by_cases hcs : cs = []
  · subst hcs
    -- the one line there is holds nothing, and `last` is as good as nothing
    have hfields : fields (· == '\n') last = [last] :=
      fields_of_free fun c hc => ne_newline_of_isIndent (hlast c hc)
    have hcleared : clearIndentOnly last = [] := if_pos (List.all_eq_true.mpr hlast)
    have hindented : indentFrom front last true [] = last := rfl
    rw [hindented, clearedLines, hfields, List.map_singleton, hcleared]
    rfl
  · obtain ⟨first, rest, rest', hfields, hlater, hrest⟩ := h
    have hfree : ∀ c ∈ front, (c == '\n') = false := fun c hc => ne_newline_of_isIndent (hfront c hc)
    rw [indentFrom_true hcs, clearedLines, fields_append_of_free hfree hlater, List.map_cons, hrest,
      clearIndentOnly_append hfront, clearedLines, hfields, List.map_cons, List.map_cons]

theorem indentsLater {cs : List Char} (hcs : ∀ c ∈ cs, isLineBreak c = true → c = '\n') :
    IndentsLater front last cs := by
  induction cs with
  | nil => exact ⟨[], [], [], rfl, rfl, rfl⟩
  | cons c cs ih =>
    obtain ⟨hc, hothers⟩ := List.forall_mem_cons.mp hcs
    by_cases hnewline : c = '\n'
    · -- a line ends here, and the next one begins
      subst hnewline
      have hindented : indentFrom front last false ('\n' :: cs) = '\n' :: indentFrom front last true cs := rfl
      refine ⟨[], fields (· == '\n') cs, fields (· == '\n') (indentFrom front last true cs), rfl, ?_, ?_⟩
      · rw [hindented]; rfl
      · exact (ih hothers).clearedLines_eq hfront hlast
    · obtain ⟨first, rest, rest', hfields, hlater, hrest⟩ := ih hothers
      have hbreak : isLineBreak c = false := by simpa using mt hc hnewline
      refine ⟨c :: first, rest, rest', ?_, ?_, hrest⟩
      · simp [fields, hnewline, hfields, extendFirst]
      · simp [indentFrom, hbreak, fields, hnewline, hlater, extendFirst]

/-- **Indentation in front of every line** is taken off again, if newlines are the only line breaks. -/
theorem dedent_indentFrom {cs : List Char} (hcs : ∀ c ∈ cs, isLineBreak c = true → c = '\n') :
    dedent (indentFrom front last true cs) = dedent cs :=
  dedent_eq_of_clearedLines hfront ((indentsLater hfront hlast hcs).clearedLines_eq hfront hlast)

end IndentText

end KernelShader.Text
