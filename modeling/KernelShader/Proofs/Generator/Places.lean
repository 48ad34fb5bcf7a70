/-
`Places.lean` -- where the type of a name stands in the text of a function.

Let the type of one name in a table vary and leave everything else as it is. Then the text of every line
is a text with places that are filled with the type: at each place the name and a colon stand before it,
and what is between the places does not depend on the type at all (`fill`, `Varies`). How many places
there are can be read off the tokens: one for each time that writing takes a keyword together with the
name behind it (`typedNames`), and on the declaration line one more for each parameter of that name.

Reading off has to follow writing. Writing goes through a line in pairs where it types a name and in
single steps elsewhere, so that in `let let x` the second keyword is a name if the table knows it and
opens a declaration if not. Blanks depend on the tokens next to them and are dropped at the end of a line;
neither reaches into a place, because a typed name is never a point and a type never ends in a blank.
-/
import Mathlib.Algebra.GroupWithZero.Nat
import KernelShader.Proofs.ShaderType
import KernelShader.Proofs.Generator.Replay

set_option autoImplicit false

namespace KernelShader.Generator

open NameTable Text

/-! ## Texts with places -/

/-- A text with places for the type of a name. Before each place stand a text of its own, the name and a
colon; after the last there is some more text. -/
def fill (name type : List Char) : List (List Char) → List Char → List Char
  | [], last => last
  | front :: fronts, last => front ++ name ++ [':', ' '] ++ type ++ fill name type fronts last

theorem fill_append (name type : List Char) (fronts more : List (List Char)) (last : List Char) :
    fill name type (fronts ++ more) last = fill name type fronts (fill name type more last) := by
  induction fronts with
  | nil => rfl
  | cons front rest ih => rw [List.cons_append, fill, fill, ih]

theorem fill_last_append (name type : List Char) (fronts : List (List Char))
    (last more : List Char) :
    fill name type fronts (last ++ more) = fill name type fronts last ++ more := by
  induction fronts with
  | nil => rfl
  | cons front rest ih => rw [fill, fill, ih, List.append_assoc _ _ more]

theorem fill_front_append (name type more front : List Char) (fronts : List (List Char))
    (last : List Char) :
    fill name type ((more ++ front) :: fronts) last
      = more ++ fill name type (front :: fronts) last := by
  simp only [fill, List.append_assoc]

/-- Each place adds the length of the type. -/
theorem length_fill (name type : List Char) (fronts : List (List Char)) (last : List Char) :
    (fill name type fronts last).length
      = (fill name [] fronts last).length + fronts.length * type.length := by
  induction fronts with
  | nil => simp only [fill, List.length_nil, Nat.zero_mul, Nat.add_zero]
  | cons front rest ih =>
    simp only [fill, List.length_append, List.length_cons, List.length_nil, ih, Nat.add_mul]
    omega

/-- Two fillings agree only if there is no place or nothing changes. -/
theorem fill_eq_fill_iff {name old new : List Char} {fronts : List (List Char)}
    {last : List Char} :
    fill name old fronts last = fill name new fronts last ↔ fronts = [] ∨ old = new := by
  constructor
  · intro h
    cases fronts with
    | nil => exact Or.inl rfl
    | cons front rest =>
      right
      have hlength : old.length = new.length := by
        have hlengths := congrArg List.length h
        rw [length_fill name old, length_fill name new, List.length_cons] at hlengths
        exact Nat.eq_of_mul_eq_mul_left (Nat.succ_pos rest.length) (Nat.add_left_cancel hlengths)
      simp only [fill, List.append_assoc] at h
      have hplace := List.append_cancel_left (List.append_cancel_left (List.append_cancel_left h))
      exact (List.append_inj hplace hlength).1
  · rintro (rfl | rfl)
    · rfl
    · rfl

/-- The text depends on the type only in that the type is put into a number of places behind the name. -/
def Varies (name : String) (places : Nat) (text : ShaderType → List Char) : Prop :=
  ∃ fronts last, fronts.length = places ∧
    ∀ type, text type = fill name.toList type.text.toList fronts last

namespace Varies

variable {name : String} {n m : Nat} {F G : ShaderType → List Char}

theorem const (name : String) (text : List Char) : Varies name 0 fun _ => text :=
  ⟨[], text, rfl, fun _ => rfl⟩

theorem place (name : String) (front : List Char) :
    Varies name 1 fun type => front ++ name.toList ++ [':', ' '] ++ type.text.toList := by
  refine ⟨[front], [], rfl, fun type => ?_⟩
  simp only [fill, List.append_nil]

theorem congr (h : Varies name n F) (heq : ∀ type, G type = F type) : Varies name n G := by
  obtain ⟨fronts, last, hn, hF⟩ := h
  exact ⟨fronts, last, hn, fun type => (heq type).trans (hF type)⟩

theorem append (hF : Varies name n F) (hG : Varies name m G) :
    Varies name (n + m) fun type => F type ++ G type := by
  obtain ⟨fronts, last, hn, hF⟩ := hF
  obtain ⟨fronts', last', hm, hG⟩ := hG
  -- the end of the first text runs on into the first front of the second
  cases fronts' with
  | nil =>
    refine ⟨fronts, last ++ last', ?_, fun type => ?_⟩
    · rw [hn, ← hm, List.length_nil, Nat.add_zero]
    · simp only [hF, hG, fill_last_append]
      rfl
  | cons front rest =>
    refine ⟨fronts ++ (last ++ front) :: rest, last', ?_, fun type => ?_⟩
    · rw [← hn, ← hm, List.length_append, List.length_cons, List.length_cons]
    · simp only [hF, hG, fill_append, fill_front_append, fill_last_append]

theorem append_text {F G : ShaderType → String} (hF : Varies name n fun type => (F type).toList)
    (hG : Varies name m fun type => (G type).toList) :
    Varies name (n + m) fun type => (F type ++ G type).toList :=
  (hF.append hG).congr fun _ => String.toList_append

/-- A text changes with the type exactly if it has a place and the type's text changes. -/
theorem ne_iff (h : Varies name n F) (old new : ShaderType) :
    F old ≠ F new ↔ 0 < n ∧ old.text ≠ new.text := by
  obtain ⟨fronts, last, rfl, hF⟩ := h
  rw [hF, hF, Ne, fill_eq_fill_iff, not_or, List.length_pos_iff, String.toList_inj]

end Varies

/-! ## Types and blanks -/

theorem trimRight_fill (name : List Char) (type : ShaderType) (fronts : List (List Char))
    (last : List Char) :
    trimRight (fill name type.text.toList fronts last)
      = fill name type.text.toList fronts (trimRight last) := by
  obtain ⟨start, c, htext, hc⟩ := (ShaderType.spells_text type).exists_last
  induction fronts with
  | nil => rfl
  | cons front rest ih =>
    have hassoc : ∀ more, fill name type.text.toList (front :: rest) more
        = front ++ name ++ [':', ' '] ++ start ++ [c] ++ fill name type.text.toList rest more := by
      intro more
      rw [fill, htext]
      simp only [List.append_assoc]
    rw [hassoc, hassoc, trimRight_append_of_last hc, ih]

theorem Varies.trimRight {name : String} {n : Nat} {F : ShaderType → List Char}
    (h : Varies name n F) : Varies name n fun type => trimRight (F type) := by
  obtain ⟨fronts, last, hn, hF⟩ := h
  refine ⟨fronts, Text.trimRight last, hn, fun type => ?_⟩
  simp only [hF, trimRight_fill]

/-! ## Names that are written with a type -/

/-- A piece of a written line: a fixed text, or a keyword with the name whose type varies. -/
inductive Piece where
  | fixed (text : String)
  | typed (word : String)

namespace Piece

/-- The text of a piece. -/
def text (name : String) (type : ShaderType) : Piece → String
  | .fixed text => text
  | .typed word => typedName word name type

/-- The number of places in a piece. -/
def places : Piece → Nat
  | .fixed _ => 0
  | .typed _ => 1

/-- The piece is a point. -/
def isPoint : Piece → Bool
  | .fixed text => text.toList = ['.']
  | .typed _ => false

theorem varies (name : String) (p : Piece) :
    Varies name p.places fun type => (p.text name type).toList := by
  cases p with
  | fixed text => exact Varies.const name text.toList
  | typed word =>
    refine (Varies.place name (word.toList ++ [' '])).congr fun type => ?_
    simp only [text, typedName, String.toList_append]
    rfl

theorem toList_text_eq_point_iff (name : String) (type : ShaderType) (p : Piece) :
    (p.text name type).toList = ['.'] ↔ p.isPoint = true := by
  cases p with
  | fixed text => simp only [Piece.text, isPoint, decide_eq_true_eq]
  | typed word =>
    constructor
    · intro h
      have hlength := congrArg List.length h
      simp only [text, typedName, String.toList_append, List.length_append] at hlength
      have hcolon : (": ".toList).length = 2 := by decide
      have hpoint : ['.'].length = 1 := rfl
      omega
    · intro h
      exact nomatch h

end Piece

/-- The pieces of a line under a table in which the type of the name varies. -/
def pieces (types : TypeTable) (name : String) : List Token → List Piece
  | key :: second :: rest =>
    match keyword? key with
    | some word =>
      match types.get? second.text with
      | some type =>
        (if second.text = name then .typed word else .fixed (typedName word second.text type))
          :: pieces types name rest
      | none => .fixed word :: pieces types name (second :: rest)
    | none => .fixed key.text :: pieces types name (second :: rest)
  | [t] => [.fixed t.text]
  | [] => []

/-- Whatever type the name has, the line is written as its pieces. -/
theorem withTypes_insert {types : TypeTable} {name : String} (h : types.contains name = true)
    (type : ShaderType) (tokens : List Token) :
    withTypes (types.insert name type) tokens
      = (pieces types name tokens).map (Piece.text name type) := by
  fun_induction pieces types name tokens with
  | case1 key second rest word hkey old hold ih =>
    rw [withTypes, hkey, List.map_cons, ← ih]
    by_cases hname : second.text = name
    · rw [if_pos hname]
      simp only [hname, get?_insert_self, Piece.text]
    · rw [if_neg hname]
      simp only [get?_insert_of_ne _ _ hname, hold, Piece.text]
  | case2 key second rest word hkey hnone ih =>
    have hname : second.text ≠ name := by
      rintro rfl
      rw [contains, hnone] at h
      exact Bool.false_ne_true h
    rw [withTypes, hkey, List.map_cons, ← ih]
    simp only [get?_insert_of_ne _ _ hname, hnone, Piece.text]
  | case3 key second rest hkey ih =>
    rw [withTypes, hkey, List.map_cons, ← ih]
    rfl
  | case4 t => rfl
  | case5 => rfl

/-- The places of a line are the times that the name is written with its type. -/
theorem places_pieces (types : TypeTable) (name : String) (tokens : List Token) :
    ((pieces types name tokens).map Piece.places).sum = (typedNames types tokens).count name := by
  fun_induction pieces types name tokens with
  | case1 key second rest word hkey old hold ih =>
    have hcontains : types.contains second.text = true := by rw [contains, hold, Option.isSome_some]
    rw [typedNames, hkey, hcontains, Option.isSome_some, Bool.and_self, if_pos rfl, List.map_cons,
      List.sum_cons, ih, List.count_cons]
    by_cases hname : second.text = name
    · rw [if_pos hname, if_pos (by rw [hname, beq_self_eq_true]), Piece.places, Nat.add_comm]
    · rw [if_neg hname, if_neg (by rw [beq_iff_eq]; exact hname), Piece.places, Nat.zero_add,
        Nat.add_zero]
  | case2 key second rest word hkey hnone ih =>
    have hcontains : types.contains second.text = false := by rw [contains, hnone, Option.isSome_none]
    rw [typedNames, hcontains, Bool.and_false, if_neg Bool.false_ne_true, List.map_cons,
      List.sum_cons, ih, Piece.places, Nat.zero_add]
  | case3 key second rest hkey ih =>
    rw [typedNames, hkey, Option.isSome_none, Bool.false_and, if_neg Bool.false_ne_true, List.map_cons,
      List.sum_cons, ih, Piece.places, Nat.zero_add]
  | case4 t => rfl
  | case5 => rfl

theorem varies_spread (name : String) (ps : List Piece) :
    Varies name (ps.map Piece.places).sum
      fun type => Line.spread ((ps.map (Piece.text name type)).map String.toList) := by
  induction ps with
  | nil => exact Varies.const name []
  | cons p rest ih =>
    cases rest with
    | nil =>
      by_cases hpoint : p.isPoint = true
      · refine (p.varies name).congr fun type => ?_
        exact if_pos ((p.toList_text_eq_point_iff name type).mpr hpoint)
      · refine ((p.varies name).append (Varies.const name [' '])).congr fun type => ?_
        exact if_neg fun h => hpoint ((p.toList_text_eq_point_iff name type).mp h)
    | cons q rest =>
      rw [List.map_cons, List.sum_cons]
      refine Varies.append (F := fun type => if (p.text name type).toList = ['.'] ||
        (q.text name type).toList = ['.'] then (p.text name type).toList
        else (p.text name type).toList ++ [' ']) ?_ ih
      by_cases hpoint : (p.isPoint || q.isPoint) = true
      · refine (p.varies name).congr fun type => if_pos ?_
        simpa only [Bool.or_eq_true, decide_eq_true_eq, Piece.toList_text_eq_point_iff] using hpoint
      · refine ((p.varies name).append (Varies.const name [' '])).congr fun type => if_neg ?_
        simpa only [Bool.or_eq_true, decide_eq_true_eq, Piece.toList_text_eq_point_iff] using hpoint

/-! ## Body lines -/

theorem bodyText_of_some {dialect : Dialect} {line : Line} {tokens : List Token}
    (h : prepared? dialect line = some tokens) (types : TypeTable) :
    bodyText dialect types line = Line.join (withTypes types tokens) := by
  unfold bodyText
  split
  · exact nomatch h
  · rw [h]

theorem bodyText_of_none {dialect : Dialect} {line : Line} (h : prepared? dialect line = none)
    (types types' : TypeTable) : bodyText dialect types line = bodyText dialect types' line := by
  unfold bodyText
  rw [h]

/-- **The places on a body line.** -/
theorem varies_bodyText (dialect : Dialect) {types : TypeTable} {name : String}
    (h : types.contains name = true) (line : Line) :
    Varies name ((lineNames dialect types line).count name)
      fun type => (bodyText dialect (types.insert name type) line).toList := by
  unfold lineNames
  cases hline : prepared? dialect line with
  | none =>
    refine (Varies.const name (bodyText dialect types line).toList).congr fun type => ?_
    rw [bodyText_of_none hline]
  | some tokens =>
    simp only [Option.elim_some, ← places_pieces]
    refine (varies_spread name (pieces types name tokens)).trimRight.congr fun type => ?_
    simp only [bodyText_of_some hline, withTypes_insert h, Line.join, String.toList_ofList]

end KernelShader.Generator
