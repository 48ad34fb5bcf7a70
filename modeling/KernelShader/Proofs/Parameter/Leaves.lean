/-
`Leaves.lean` -- what the guess from an argument counts.

The guess for a list goes by its text: one more than the number of commas in it. In the text of a list there is
a comma between neighbours, and no other unless an element brings one. Numbers, truth values and the absent value
bring none, nor does a text without commas, quotes and escapes included. So through any nesting the guess counts
the leaves of the list (`guess_counts_leaves`), where a list without elements is a leaf as well.
-/
import Mathlib.Data.List.Forall2
import KernelShader.Proofs.Parameter.Commas

set_option autoImplicit false

namespace KernelShader

/-! ## Texts without commas -/

theorem Text.comma_not_mem_hexDigits (width n : Nat) : ',' ∉ Text.hexDigits width n := by
  have hdigit : ∀ m < 16, ',' ≠ Nat.digitChar m := by decide
  induction width generalizing n with
  | zero => exact List.not_mem_nil
  | succ width ih =>
    rw [hexDigits, List.mem_append, List.mem_singleton, not_or]
    exact ⟨ih _, hdigit _ (Nat.mod_lt n (by decide))⟩

/-- Inside quotes only a comma gives a comma. -/
theorem Text.comma_not_mem_quotedChar {mark c : Char} (h : c ≠ ',') : ',' ∉ Text.quotedChar mark c := by
  have hcode : ',' ∉ codeEscape c := by
    simp only [codeEscape]
    split_ifs
    · simp [comma_not_mem_hexDigits]
    · simp [comma_not_mem_hexDigits]
    · simp [comma_not_mem_hexDigits]
  unfold quotedChar
  split_ifs
  · simp [h.symm]
  · decide
  · decide
  · decide
  · simp [h.symm]
  · exact hcode

theorem Text.comma_not_mem_quoted {text : String} (h : ',' ∉ text.toList) :
    ',' ∉ (Text.quoted text).toList := by
  have hmark : ',' ≠ quoteMark text.toList := by
    unfold quoteMark
    split_ifs
    · decide
    · decide
  rw [quoted, String.toList_ofList, quotedChars, List.mem_append, List.mem_singleton, not_or]
  refine ⟨List.not_mem_cons_of_ne_of_not_mem hmark fun hmem => ?_, hmark⟩
  obtain ⟨c, hc, hmem⟩ := List.mem_flatMap.mp hmem
  exact comma_not_mem_quotedChar (fun heq => h (heq ▸ hc)) hmem

theorem comma_not_mem_toDigits (n : Nat) : ',' ∉ Nat.toDigits 10 n := fun h =>
  absurd (Nat.isDigit_of_mem_toDigits (by decide) (by decide) h) (by decide)

theorem comma_not_mem_int (n : Int) : ',' ∉ (toString n).toList := by
  cases n with
  | ofNat n =>
    have htext : (toString (Int.ofNat n)).toList = Nat.toDigits 10 n := Nat.toList_repr
    rw [htext]
    exact comma_not_mem_toDigits n
  | negSucc n =>
    have htext : (toString (Int.negSucc n)).toList = '-' :: Nat.toDigits 10 (n + 1) := by
      have hminus : toString (Int.negSucc n) = "-" ++ Nat.repr (n + 1) := rfl
      rw [hminus, String.toList_append, Nat.toList_repr]
      rfl
    rw [htext]
    exact List.not_mem_cons_of_ne_of_not_mem (by decide) (comma_not_mem_toDigits (n + 1))

theorem comma_not_mem_zeros (n : Nat) : ',' ∉ List.replicate n '0' := fun h =>
  absurd (List.eq_of_mem_replicate h) (by decide)

namespace Scientific

variable {s : Scientific}

theorem comma_not_mem_pieces (h : ',' ∉ s.digits) : ',' ∉ s.pieces.1 ∧ ',' ∉ s.pieces.2 := by
  unfold pieces
  split_ifs
  · exact ⟨(by decide : ',' ∉ ['0']), by simp [h]⟩
  · have hpadded : ∀ width, ',' ∉ padRight width s.digits := by
      intro width
      rw [padRight, List.mem_append, not_or]
      exact ⟨h, comma_not_mem_zeros _⟩
    exact ⟨fun hmem => hpadded _ (List.mem_of_mem_take hmem), fun hmem => hpadded _ (List.mem_of_mem_drop hmem)⟩

theorem comma_not_mem_positional (h : ',' ∉ s.digits) (point : Bool) : ',' ∉ s.positional point := by
  obtain ⟨hwhole, hfraction⟩ := comma_not_mem_pieces h
  unfold positional
  split
  · rename_i whole heq
    rw [heq] at hwhole
    split_ifs
    · simp [hwhole]
    · exact hwhole
  · rename_i whole fraction _ heq
    rw [heq] at hwhole hfraction
    simp [hwhole, hfraction]

theorem comma_not_mem_exponential (h : ',' ∉ s.digits) : ',' ∉ s.exponential := by
  have hexponent : ',' ∉ s.exponentText 2 := by
    unfold exponentText
    refine List.not_mem_cons_of_ne_of_not_mem ?_ ?_
    · split_ifs
      · decide
      · decide
    · rw [padLeft, List.mem_append, not_or]
      exact ⟨comma_not_mem_zeros _, comma_not_mem_toDigits _⟩
  unfold exponential
  split
  · rename_i d e ds heq
    rw [heq] at h
    simp only [List.mem_cons, not_or] at h
    simp [h, hexponent]
  · simp [h, hexponent]

end Scientific

theorem comma_not_mem_digitsBy (count : Shortest.Window → Nat) (format : BinaryFormat) (mantissa : Nat)
    (exponent : Int) : ',' ∉ (Shortest.digitsBy count format mantissa exponent).digits := by
  unfold Shortest.digitsBy
  split_ifs
  · decide
  · intro hmem
    have hdigits := List.mem_reverse.mp ((List.dropWhile_sublist _).mem (List.mem_reverse.mp hmem))
    exact comma_not_mem_toDigits _ hdigits

theorem NumberLayout.comma_not_mem_write (layout : NumberLayout) (format : BinaryFormat) (x : Binary) :
    ',' ∉ (layout.write format x).toList := by
  cases x with
  | finite negative mantissa exponent =>
    have hdigits := comma_not_mem_digitsBy Shortest.Window.enough format mantissa exponent
    have hbody : ',' ∉ (if layout.isPositional mantissa exponent
        then (Shortest.ofNumber format mantissa exponent).positional layout.point
        else (Shortest.ofNumber format mantissa exponent).exponential) := by
      split_ifs
      · exact Scientific.comma_not_mem_positional hdigits layout.point
      · exact Scientific.comma_not_mem_exponential hdigits
    rw [write, String.toList_ofList]
    cases negative with
    | true => exact List.not_mem_cons_of_ne_of_not_mem (by decide) hbody
    | false => exact hbody
  | infinite negative =>
    cases negative with
    | true => exact (by decide : ',' ∉ "-inf".toList)
    | false => exact (by decide : ',' ∉ "inf".toList)
  | nan negative => exact (by decide : ',' ∉ "nan".toList)

/-! ## Nested lists -/

namespace Value

/-- Lists, nested in any way, of numbers, truth values, absent values and texts without commas. The integers
are those that are not too long to be written. -/
inductive Plain : Value → Prop where
  | none : Plain .none
  | bool (b : Bool) : Plain (.bool b)
  | int {n : Int} (h : (Numeral.writeInt? n).isSome) : Plain (.int n)
  | real (x : Binary) : Plain (.real x)
  | text {s : String} (h : ',' ∉ s.toList) : Plain (.text s)
  | list {items : List Value} (h : ∀ v ∈ items, Plain v) : Plain (.list items)

mutual

/-- The leaves of a nested list, from left to right: what is no list, and the lists without elements. -/
def leaves : Value → List Value
  | .list [] => [.list []]
  | .list (v :: vs) => v.leaves ++ leavesAll vs
  | v => [v]

/-- The leaves of several values. -/
def leavesAll : List Value → List Value
  | [] => []
  | v :: vs => v.leaves ++ leavesAll vs

end

theorem leavesAll_eq (vs : List Value) : leavesAll vs = vs.flatMap leaves := by
  induction vs with
  | nil => rfl
  | cons v vs ih => rw [leavesAll, ih, List.flatMap_cons]

theorem shownAll_eq (vs : List Value) : shownAll vs = vs.map shown := by
  induction vs with
  | nil => rfl
  | cons v vs ih => rw [shownAll, ih, List.map_cons]

open Parameter

/-- **The text of a nested list has a comma between any two neighbouring leaves.** -/
theorem Plain.commaCount_shown {v : Value} (h : Plain v) : commaCount v.shown + 1 = v.leaves.length := by
  induction h with
  | none => rfl
  | bool b => cases b <;> rfl
  | @int n h =>
    rw [shown, commaCount_eq_zero (comma_not_mem_int n)]
    rfl
  | real x =>
    rw [shown, Binary.text, Binary.textIn, commaCount_eq_zero (NumberLayout.comma_not_mem_write _ _ _)]
    rfl
  | text h =>
    rw [shown, commaCount_eq_zero (Text.comma_not_mem_quoted h)]
    rfl
  | @list items h ih =>
    have hopening : commaCount "[" = 0 := by decide
    have hclosing : commaCount "]" = 0 := by decide
    rw [shown, commaCount_append, commaCount_append, hopening, hclosing, Nat.zero_add, Nat.add_zero]
    cases items with
    | nil => rfl
    | cons first rest =>
      -- by induction every element counts its own leaves
      have hparts : ((first :: rest).map shown).map (fun text => commaCount text + 1)
          = (first :: rest).map fun v => v.leaves.length := by
        rw [List.map_map]
        exact List.map_congr_left ih
      have hbetween : commaCount ", " = 1 := by decide
      have hrow := commaCount_intercalate hbetween first.shown (rest.map shown)
      rw [← List.map_cons (f := shown), hparts] at hrow
      rw [shownAll_eq, hrow, leaves, leavesAll_eq, ← List.flatMap_cons, List.length_flatMap]

end Value

/-! ## The guess -/

namespace Parameter

open Value

theorem guess_list {items : List Value} (h : Plain (.list items)) :
    guess (.list items) = .ofCommas ((leaves (.list items)).length - 1) := by
  rw [← h.commaCount_shown, Nat.add_sub_cancel]
  rfl

/-- **The guess counts leaves.** A call whose arguments are nested lists of numbers, truth values, absent values
and texts without commas is never refused, and the guess for each argument is an array with as many elements
as the argument has leaves, of which there is at least one. -/
theorem guess_counts_leaves {arguments : List Value}
    (h : ∀ v ∈ arguments, Plain v ∧ ∃ items, v = .list items) :
    ∃ types, guessAll (.list arguments) = .ok types ∧
      List.Forall₂ (fun v type => guess v = type ∧ 1 ≤ v.leaves.length ∧
        ∃ positive, type = .array .f32 v.leaves.length positive) arguments types := by
  refine ⟨arguments.map guess, rfl, ?_⟩
  rw [List.forall₂_map_right_iff, List.forall₂_same]
  intro v hv
  obtain ⟨hplain, items, rfl⟩ := h v hv
  have hone : 1 ≤ (leaves (.list items)).length := by
    rw [← hplain.commaCount_shown]
    exact Nat.le_add_left 1 _
  refine ⟨rfl, hone, hone, ?_⟩
  rw [guess_list hplain, ShaderType.ofCommas, ShaderType.array.injEq]
  exact ⟨rfl, Nat.sub_add_cancel hone⟩

/-- A list with lists in it, one of them without elements. -/
def nestedArgument : Value :=
  .list [.int (-7), .list [], .list [.text "x y", .list [.none, .real (.finite false 1 (-1))]], .bool true]

theorem nestedArgument_counted :
    guessAll (.list [nestedArgument, .list []]) = .ok [.ofCommas 5, .ofCommas 0] := by
  have hint : Plain (.int (-7)) := .int (by decide +kernel)
  have hinner : Plain (.list [.text "x y", .list [.none, .real (.finite false 1 (-1))]]) := by
    refine .list (List.forall_mem_cons.mpr ⟨.text (by decide), List.forall_mem_singleton.mpr ?_⟩)
    exact .list (List.forall_mem_cons.mpr ⟨.none, List.forall_mem_singleton.mpr (.real _)⟩)
  have hempty : Plain (.list []) := .list fun v hv => absurd hv List.not_mem_nil
  have hnested : Plain nestedArgument :=
    .list (List.forall_mem_cons.mpr ⟨hint, List.forall_mem_cons.mpr ⟨hempty,
      List.forall_mem_cons.mpr ⟨hinner, List.forall_mem_singleton.mpr (.bool true)⟩⟩⟩)
  have hboth : ∀ v ∈ [nestedArgument, .list []], Plain v ∧ ∃ items, v = .list items :=
    List.forall_mem_cons.mpr ⟨⟨hnested, _, rfl⟩, List.forall_mem_singleton.mpr ⟨hempty, [], rfl⟩⟩
  obtain ⟨types, htypes, hcounted⟩ := guess_counts_leaves hboth
  rw [htypes]
  cases hcounted with
  | cons hfirst hrest =>
    obtain ⟨-, -, _, rfl⟩ := hfirst
    cases hrest with
    | cons hsecond hrest =>
      obtain ⟨-, -, _, rfl⟩ := hsecond
      cases hrest
      rfl

end Parameter

end KernelShader
