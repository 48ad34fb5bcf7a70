/-
`Commas.lean` -- commas in a text that is put together from others.

A guess from text takes one more than the number of commas for the number of elements. This way of counting
goes with writing elements in a row: whatever stands between two of them, as long as it has one comma, the row
counts as many elements as its parts do together (`commaCount_intercalate`).
-/
import Mathlib.Algebra.GroupWithZero.Nat
import KernelShader.Parameter

set_option autoImplicit false

namespace KernelShader.Parameter

theorem commaCount_append (front back : String) :
    commaCount (front ++ back) = commaCount front + commaCount back := by
  rw [commaCount, String.toList_append, List.count_append]
  rfl

theorem commaCount_eq_zero {text : String} (h : ',' ∉ text.toList) : commaCount text = 0 :=
  List.count_eq_zero.mpr h

/-- A row counts as many elements as its parts together. -/
theorem commaCount_intercalate {between : String} (h : commaCount between = 1) (first : String)
    (rest : List String) :
    commaCount (between.intercalate (first :: rest)) + 1
      = ((first :: rest).map fun text => commaCount text + 1).sum := by
  induction rest generalizing first with
  | nil => rw [String.intercalate_singleton, List.map_singleton, List.sum_singleton]
  | cons second rest ih =>
    rw [String.intercalate_cons_cons, commaCount_append, commaCount_append, h, List.map_cons, List.sum_cons,
      ← ih second]
    omega

end KernelShader.Parameter
