/-
`Writer.lean` -- which numbers and types can be written.

Writing has one limit and one fault. `Writable` says the limit without the writer, so that it can be asked
of a type on record; a type that meets it is written as its text, and any other ends the writing.
-/
import KernelShader.Proofs.Outcome
import KernelShader.ShaderType.Writer

set_option autoImplicit false

namespace KernelShader

/-- The fault of a number that is too long. -/
abbrev Fault.IsUnprintable (fault : Fault) : Prop := fault = .numeralUnprintable

/-! ## Numbers -/

namespace Numeral

/-- The number has no more digits than can be written. -/
def Writable (n : Int) : Prop := n.natAbs < Nat.pow 10 maxDigits

instance (n : Int) : Decidable (Writable n) := inferInstanceAs (Decidable (_ < _))

theorem writeInt?_eq_some_iff {n : Int} {text : String} :
    writeInt? n = some text ↔ Writable n ∧ text = toString n := by
  unfold writeInt? Writable
  generalize Nat.pow 10 maxDigits = bound
  by_cases h : n.natAbs < bound
  · rw [if_pos h, Option.some.injEq, and_iff_right h, eq_comm]
  · simp only [h, if_false, false_and, reduceCtorEq]

theorem write_eq_ok_iff {n : Int} {text : String} :
    write n = .ok text ↔ Writable n ∧ text = toString n := by
  refine Iff.trans ?_ writeInt?_eq_some_iff
  unfold write
  generalize writeInt? n = written
  cases written with
  | none => simp only [reduceCtorEq]
  | some digits => simp only [Except.ok.injEq, Option.some.injEq]

theorem failsWith_write (n : Int) : Check.FailsWith Fault.IsUnprintable (write n) := by
  unfold write
  split
  · exact .ok _
  · exact .error rfl

end Numeral

/-! ## Types -/

namespace ShaderType

/-- The length of an array has no more digits than can be written. -/
def Writable : ShaderType → Prop
  | .scalar _ => True
  | .array _ length _ => Numeral.Writable length

instance : DecidablePred Writable
  | .scalar _ => inferInstanceAs (Decidable True)
  | .array _ length _ => inferInstanceAs (Decidable (Numeral.Writable length))

/-- A type that can be written is written as its text. -/
theorem write_eq_ok_iff {type : ShaderType} {text : String} :
    type.write = .ok text ↔ type.Writable ∧ text = type.text := by
  cases type with
  | scalar kind =>
    rw [write, Except.ok.injEq]
    exact ⟨fun h => ⟨trivial, h.symm⟩, fun h => h.2.symm⟩
  | array element length positive =>
    have hlength : toString (length : Int) = toString length := rfl
    unfold write
    constructor
    · intro h
      obtain ⟨digits, hdigits, htext⟩ := Check.bind_eq_ok_iff.mp h
      obtain ⟨hwritable, rfl⟩ := Numeral.write_eq_ok_iff.mp hdigits
      exact ⟨hwritable, (Except.ok.inj htext).symm⟩
    · rintro ⟨hwritable, rfl⟩
      exact Check.bind_eq_ok_iff.mpr
        ⟨toString length, Numeral.write_eq_ok_iff.mpr ⟨hwritable, hlength.symm⟩, rfl⟩

theorem Writable.write {type : ShaderType} (h : type.Writable) : type.write = .ok type.text :=
  write_eq_ok_iff.mpr ⟨h, rfl⟩

theorem failsWith_write (type : ShaderType) :
    Check.FailsWith Fault.IsUnprintable type.write := by
  cases type with
  | scalar kind => exact .ok _
  | array element length positive =>
    exact (Numeral.failsWith_write length).bind fun digits _ => .ok _

end ShaderType

end KernelShader
