/-
`Joining.lean` -- cutting a text that has been put together.

Cutting looks at one character after the other and forgets everything at a separator, which is a blank or
a delimiter. So a text may be cut in two places before it is cut into tokens, as long as one of the two
parts begins or ends with a separator where they meet (`split_append`). Writing a line puts a blank between
two tokens unless one of them is a point, which is a separator itself. That is why a line that is written
and cut again gives the tokens of its words in a row, whatever the words are (`split_join`), and gives the
line back if its words are tokens.
-/
import Mathlib.Tactic.SplitIfs
import KernelShader.Proofs.Line
import KernelShader.Proofs.Text.Lines

set_option autoImplicit false

namespace KernelShader.Line

open Text

/-! ## Stretches

The tokens of a text are the non-empty ones among its stretches, and unlike the tokens the stretches follow
the characters one by one. -/

/-- The pieces of all fields of a text, empty ones too. -/
def stretches (cs : List Char) : List (List Char) :=
  (fields isBlank cs).flatMap pieces

/-- The characters between which a text falls apart. -/
def isSeparator (c : Char) : Bool := isBlank c || isDelimiter c

/-- What a separator leaves of itself: a delimiter is a token, a blank is not. -/
def mark (c : Char) : List (List Char) :=
  if isBlank c then [] else [[c]]

theorem isBlank_of_isDelimiter {c : Char} (h : isDelimiter c = true) : isBlank c = false := by
  cases hblank : isBlank c with
  | false => rfl
  | true => rw [isDelimiter_eq_false (p := isBlank) (by decide) hblank] at h; exact h.symm

theorem pieces_ne_nil (cs : List Char) : pieces cs ≠ [] := by
  obtain ⟨first, rest, hpieces, -⟩ := exists_pieces cs
  rw [hpieces]
  exact List.cons_ne_nil first rest

theorem stretches_ne_nil (cs : List Char) : stretches cs ≠ [] := by
  obtain ⟨first, rest, hfields⟩ := List.exists_cons_of_ne_nil (fields_ne_nil isBlank cs)
  rw [stretches, hfields, List.flatMap_cons]
  exact List.append_ne_nil_of_left_ne_nil (pieces_ne_nil first) _

theorem stretches_cons_of_separator {c : Char} (h : isSeparator c = true) (cs : List Char) :
    stretches (c :: cs) = [] :: (mark c ++ stretches cs) := by
  unfold stretches mark
  by_cases hblank : isBlank c = true
  · simp [fields, hblank, pieces]
  · -- a delimiter begins a field and falls off it again
    have hdelimiter : isDelimiter c = true := by simpa [isSeparator, hblank] using h
    obtain ⟨first, rest, hfields⟩ := List.exists_cons_of_ne_nil (fields_ne_nil isBlank cs)
    simp [fields, hblank, hfields, extendFirst, pieces, hdelimiter]

theorem stretches_cons_of_not_separator {c : Char} (h : isSeparator c = false) (cs : List Char) :
    stretches (c :: cs) = extendFirst c (stretches cs) := by
  obtain ⟨hblank, hdelimiter⟩ := Bool.or_eq_false_iff.mp h
  obtain ⟨first, rest, hfields⟩ := List.exists_cons_of_ne_nil (fields_ne_nil isBlank cs)
  have hfirst : fields isBlank (c :: cs) = (c :: first) :: rest := by
    simp [fields, hblank, hfields, extendFirst]
  have hpieces : pieces (c :: first) = extendFirst c (pieces first) := by
    simp [pieces, hdelimiter]
  rw [stretches, hfirst, List.flatMap_cons, hpieces, stretches, hfields, List.flatMap_cons,
    extendFirst_append c (pieces_ne_nil first)]

/-- A text falls apart in front of a separator. -/
theorem stretches_append {d : Char} (h : isSeparator d = true) (cs ds : List Char) :
    stretches (cs ++ d :: ds) = stretches cs ++ (mark d ++ stretches ds) := by
  induction cs with
  | nil => rw [List.nil_append, stretches_cons_of_separator h]; rfl
  | cons c cs ih =>
    cases hc : isSeparator c with
    | true =>
      rw [List.cons_append, stretches_cons_of_separator hc, ih, stretches_cons_of_separator hc]
      simp
    | false =>
      rw [List.cons_append, stretches_cons_of_not_separator hc, ih, stretches_cons_of_not_separator hc,
        extendFirst_append c (stretches_ne_nil cs)]

/-- A stretch is made of characters of the text, and no blanks. -/
theorem mem_of_mem_stretches {cs t : List Char} (ht : t ∈ stretches cs) {c : Char} (hc : c ∈ t) :
    c ∈ cs ∧ isBlank c = false := by
  induction cs generalizing t with
  | nil =>
    have hempty : t = [] := by simpa [stretches, fields, pieces] using ht
    rw [hempty] at hc
    exact absurd hc List.not_mem_nil
  | cons d cs ih =>
    have hlater : ∀ {u}, u ∈ stretches cs → c ∈ u → c ∈ d :: cs ∧ isBlank c = false := by
      intro u hu hcu
      exact ⟨List.mem_cons_of_mem d (ih hu hcu).1, (ih hu hcu).2⟩
    cases hd : isSeparator d with
    | true =>
      rw [stretches_cons_of_separator hd] at ht
      simp only [List.mem_cons, List.mem_append, mark] at ht
      rcases ht with rfl | hmark | hrest
      · exact absurd hc List.not_mem_nil
      · split_ifs at hmark with hblank
        · exact absurd hmark List.not_mem_nil
        · rw [List.mem_singleton.mp hmark, List.mem_singleton] at hc
          exact ⟨hc ▸ List.mem_cons_self, by simpa [hc] using hblank⟩
      · exact hlater hrest hc
    | false =>
      obtain ⟨first, rest, hstretches⟩ := List.exists_cons_of_ne_nil (stretches_ne_nil cs)
      rw [stretches_cons_of_not_separator hd, hstretches, extendFirst] at ht
      rw [hstretches] at hlater
      rcases List.mem_cons.mp ht with rfl | hrest
      · rcases List.mem_cons.mp hc with rfl | hfirst
        · exact ⟨List.mem_cons_self, (Bool.or_eq_false_iff.mp hd).1⟩
        · exact hlater List.mem_cons_self hfirst
      · exact hlater (List.mem_cons_of_mem first hrest) hc

/-! ## Tokens of characters -/

/-- Empty words have no tokens, so the tokens are the stretches that hold something. -/
theorem splitChars_eq (cs : List Char) : splitChars cs = (stretches cs).filter (!·.isEmpty) := by
  have hwords : ∀ all : List (List Char),
      ((all.filter (!·.isEmpty)).flatMap pieces).filter (!·.isEmpty)
        = (all.flatMap pieces).filter (!·.isEmpty) := by
    intro all
    induction all with
    | nil => rfl
    | cons word rest ih =>
      cases word with
      | nil => simpa [pieces] using ih
      | cons c cs => simpa [List.filter_append] using ih
  exact hwords (fields isBlank cs)

theorem filter_mark (c : Char) : (mark c).filter (!·.isEmpty) = mark c := by
  unfold mark
  split_ifs
  · rfl
  · rfl

@[simp] theorem splitChars_nil : splitChars [] = [] := rfl

theorem splitChars_cons_of_separator {c : Char} (h : isSeparator c = true) (cs : List Char) :
    splitChars (c :: cs) = mark c ++ splitChars cs := by
  rw [splitChars_eq, stretches_cons_of_separator h, splitChars_eq, List.filter_cons_of_neg (by simp),
    List.filter_append, filter_mark]

theorem splitChars_append_cons {d : Char} (h : isSeparator d = true) (cs ds : List Char) :
    splitChars (cs ++ d :: ds) = splitChars cs ++ splitChars (d :: ds) := by
  rw [splitChars_cons_of_separator h, splitChars_eq, stretches_append h, splitChars_eq, splitChars_eq,
    List.filter_append, List.filter_append, filter_mark]

/-- The two texts do not run together: there is a separator where they meet. -/
def Apart (cs ds : List Char) : Prop :=
  (∃ front d, isSeparator d = true ∧ cs = front ++ [d]) ∨ ∃ d back, isSeparator d = true ∧ ds = d :: back

theorem splitChars_append {cs ds : List Char} (h : Apart cs ds) :
    splitChars (cs ++ ds) = splitChars cs ++ splitChars ds := by
  rcases h with ⟨front, d, hd, rfl⟩ | ⟨d, back, hd, rfl⟩
  · -- cut in front of the separator on both sides, and then behind it
    rw [List.append_assoc, List.singleton_append, splitChars_append_cons hd, splitChars_append_cons hd,
      splitChars_cons_of_separator hd, splitChars_cons_of_separator hd, splitChars_nil]
    simp
  · exact splitChars_append_cons hd cs back

/-- Blanks at the end of a text are lost. -/
theorem splitChars_append_of_blank (cs : List Char) {ds : List Char} (h : ∀ c ∈ ds, isBlank c = true) :
    splitChars (cs ++ ds) = splitChars cs := by
  induction ds generalizing cs with
  | nil => rw [List.append_nil]
  | cons d ds ih =>
    obtain ⟨hd, hds⟩ := List.forall_mem_cons.mp h
    have hnothing : splitChars ds = [] := ih [] hds
    rw [splitChars_append_cons (by simp [isSeparator, hd]),
      splitChars_cons_of_separator (by simp [isSeparator, hd]), hnothing, mark, if_pos hd]
    simp

/-- A text without separators is one token. -/
theorem splitChars_of_word {cs : List Char} (hne : cs ≠ [])
    (h : ∀ c ∈ cs, isSeparator c = false) : splitChars cs = [cs] := by
  have hone : stretches cs = [cs] := by
    clear hne
    induction cs with
    | nil => rfl
    | cons c cs ih =>
      obtain ⟨hc, hcs⟩ := List.forall_mem_cons.mp h
      rw [stretches_cons_of_not_separator hc, ih hcs, extendFirst]
  rw [splitChars_eq, hone]
  simpa using hne

/-- A delimiter is one token. -/
theorem splitChars_of_delimiter {c : Char} (h : isDelimiter c = true) : splitChars [c] = [[c]] := by
  rw [splitChars_cons_of_separator (by simp [isSeparator, h]), mark,
    if_neg (by simp [isBlank_of_isDelimiter h])]
  rfl

/-- A token is a delimiter, or it holds something and no separator. -/
theorem cases_of_mem_splitChars {cs t : List Char} (h : t ∈ splitChars cs) :
    (∃ c, isDelimiter c = true ∧ t = [c]) ∨ t ≠ [] ∧ ∀ c ∈ t, isSeparator c = false := by
  rcases isPiece_of_mem_splitChars h with hdelimiter | hfree
  · exact .inl hdelimiter
  · rw [splitChars_eq] at h
    obtain ⟨hstretch, hne⟩ := List.mem_filter.mp h
    refine .inr ⟨by simpa using hne, fun c hc => ?_⟩
    rw [isSeparator, hfree c hc, (mem_of_mem_stretches hstretch hc).2]
    rfl

/-- **Tokens stay tokens.** Cutting a token gives the token. -/
theorem splitChars_of_mem {cs t : List Char} (h : t ∈ splitChars cs) : splitChars t = [t] := by
  rcases cases_of_mem_splitChars h with ⟨c, hdelimiter, rfl⟩ | ⟨hne, hfree⟩
  · exact splitChars_of_delimiter hdelimiter
  · exact splitChars_of_word hne hfree

/-! ## Writing and cutting again -/

theorem splitChars_trimRight (cs : List Char) : splitChars (trimRight cs) = splitChars cs := by
  obtain ⟨blanks, hsplit, hblank⟩ := exists_blanks cs
  calc splitChars (trimRight cs)
      = splitChars (trimRight cs ++ blanks) := (splitChars_append_of_blank _ hblank).symm
    _ = splitChars cs := by rw [hsplit]

/-- Tokens that are spread out do not run together, whatever they are made of. -/
theorem splitChars_spread (ts : List (List Char)) :
    splitChars (spread ts) = ts.flatMap splitChars := by
  have hpoint : isSeparator '.' = true := by decide
  have hblank : isSeparator ' ' = true := by decide
  -- one blank more behind a token is one separator more, and no token
  have hspaced : ∀ t : List Char, splitChars (t ++ [' ']) = splitChars t := by
    intro t
    rw [splitChars_append_cons hblank]
    exact List.append_nil _
  fun_induction spread ts with
  | case1 => rfl
  | case2 => rfl
  | case3 t hother => simp [hspaced]
  | case4 t u ts ih =>
    rw [List.flatMap_cons, ← ih]
    split_ifs with htight
    · refine splitChars_append ?_
      rcases Bool.or_eq_true_iff.mp htight with ht | hu
      · exact .inl ⟨[], '.', hpoint, by simpa using ht⟩
      · -- what is spread out after this token begins with the point
        have hu : u = ['.'] := by simpa using hu
        refine .inr ⟨'.', spread ts, hpoint, ?_⟩
        subst hu
        cases ts with
        | nil => rfl
        | cons v vs => simp [spread]
    · rw [splitChars_append (.inl ⟨t, ' ', hblank, rfl⟩), hspaced]

theorem split_ofList (cs : List Char) :
    split (String.ofList cs) = (splitChars cs).map String.ofList := by
  rw [split, String.toList_ofList]

/-- The text is one token. -/
def IsToken (text : String) : Prop := split text = [text]

theorem IsToken.toList_mem {text : String} (h : IsToken text) :
    text.toList ∈ splitChars text.toList := by
  have hmem : text ∈ split text := by
    rw [h]
    exact List.mem_singleton_self text
  obtain ⟨t, ht, htext⟩ := List.mem_map.mp hmem
  have htoList : text.toList = t := by rw [← htext, String.toList_ofList]
  rwa [htoList] at ht ⊢

theorem isToken_of_mem_split {text token : String} (h : token ∈ split text) : IsToken token := by
  obtain ⟨t, ht, rfl⟩ := List.mem_map.mp h
  rw [IsToken, split_ofList, splitChars_of_mem ht]
  rfl

/-- Tokens are made of characters of the text. -/
theorem mem_of_mem_split {text token : String} (h : token ∈ split text) {c : Char}
    (hc : c ∈ token.toList) : c ∈ text.toList := by
  obtain ⟨t, ht, rfl⟩ := List.mem_map.mp h
  rw [String.toList_ofList] at hc
  rw [splitChars_eq] at ht
  exact (mem_of_mem_stretches (List.mem_filter.mp ht).1 hc).1

theorem split_append {s t : String} (h : Apart s.toList t.toList) :
    split (s ++ t) = split s ++ split t := by
  rw [split, String.toList_append, splitChars_append h, List.map_append, split, split]

/-- **Writing and cutting again.** The tokens of a line that has been written are those of its words. -/
theorem split_join (line : Line) : split (join line) = line.flatMap split := by
  rw [join, split_ofList, splitChars_trimRight, splitChars_spread, List.flatMap_map,
    List.map_flatMap]
  rfl

theorem flatMap_split_of_tokens {line : Line} (h : ∀ token ∈ line, IsToken token) :
    line.flatMap split = line := by
  induction line with
  | nil => rfl
  | cons token rest ih =>
    obtain ⟨htoken, hrest⟩ := List.forall_mem_cons.mp h
    rw [List.flatMap_cons, ih hrest, htoken, List.singleton_append]

/-- Putting texts in a row with a separator between them, which is a token there unless it is a blank. -/
theorem split_intercalate {between : String} {d : Char} (hd : isSeparator d = true)
    (hbetween : between.toList = [d]) (texts : List String) :
    split (between.intercalate texts) = (split between).intercalate (texts.map split) := by
  induction texts with
  | nil => rfl
  | cons text rest ih =>
    cases rest with
    | nil => simp
    | cons second rest =>
      have hfront : Apart (text ++ between).toList (between.intercalate (second :: rest)).toList :=
        .inl ⟨text.toList, d, hd, by rw [String.toList_append, hbetween]⟩
      have hback : Apart text.toList between.toList := .inr ⟨d, [], hd, hbetween⟩
      rw [String.intercalate_cons_cons, split_append hfront, split_append hback, ih]
      simp [List.intercalate]

end KernelShader.Line
