/-
`Writer.lean` -- numbers and types written into a shader: `str` of a number and of a type.

A number with more than `Numeral.maxDigits` digits has no text. Group numbers and array lengths come from
the caller in any size, so every text that holds one may fail to be written.
-/
import KernelShader.Fault

set_option autoImplicit false

namespace KernelShader

/-- Writes an integer, if it is not too long. -/
def Numeral.write (n : Int) : Except Fault String :=
  match writeInt? n with
  | some text => .ok text
  | none => .error .numeralUnprintable

/-- Writes a type, if the length of an array is not too long. -/
def ShaderType.write : ShaderType → Except Fault String
  | .scalar kind => .ok kind.word
  | .array element length _ => do
    let length ← Numeral.write length
    return "array<" ++ element.word ++ "," ++ length ++ ">"

end KernelShader
