/-
`Reader.lean` -- reading a shader type from text: `parse_type`; and from host data: `host_element_type`.

Blanks around the whole do not matter. A scalar is its word; an array is the word `array`, then in angle
brackets an element word, a comma and a length, with blanks allowed around each of these parts but not in
front of `array` once the outer ones are gone. The length may use the decimal digits of any script.
-/
import KernelShader.Fault

set_option autoImplicit false

namespace KernelShader.ShaderType

open Text

/-- Takes a given front part off, and the blanks behind it. -/
def expect? (front cs : List Char) : Option (List Char) :=
  if front.isPrefixOf cs then some (trimLeft (cs.drop front.length)) else none

/-- Takes a scalar word off, and the blanks behind it. The three words have the same length, so at most
one of them can be in front. -/
def expectKind? (cs : List Char) : Option (ScalarKind × List Char) :=
  ScalarKind.all.findSome? fun kind => (expect? kind.word.toList cs).map (kind, ·)

/-- The element kind and the digits of the length in the text of an array. -/
def readArray? (cs : List Char) : Option (ScalarKind × List Char) := do
  let cs ← expect? "array".toList cs
  let cs ← expect? ['<'] cs
  let (kind, cs) ← expectKind? cs
  let cs ← expect? [','] cs
  let digits := cs.takeWhile isDigit
  if digits.isEmpty then none
  else if trimLeft (cs.drop digits.length) = ['>'] then some (kind, digits) else none

/-- The value of a run of digits of any script. -/
def lengthValue (digits : List Char) : Nat :=
  Numeral.digitsValue (digits.map Numeral.plainDigit)

/-- The array type of a length, which has to be positive. -/
def ofLength (element : ScalarKind) (length : Int) : Except Fault ShaderType :=
  if h : 0 < length.toNat then .ok (.array element length.toNat h) else .error (.arrayLength length)

/-- Reads a type. -/
def read (text : String) : Except Fault ShaderType :=
  let cs := trim text.toList
  match ScalarKind.ofWord? (String.ofList cs) with
  | some kind => .ok (.scalar kind)
  | none =>
    match readArray? cs with
    | some (element, digits) =>
      if Numeral.maxDigits < digits.length then .error (.numeralTooLong digits.length)
      else ofLength element (lengthValue digits)
    | none => .error (.unsupportedType text)

/-- The type that a value of the host program names or is (`parse_type`). -/
def ofValue : Value → Except Fault ShaderType
  | .type t => .ok t
  | .text s => read s
  | v => .error (.typeNotText v.kindName)

/-- The scalar type of a word, or the fault that there is none. -/
def scalarOfWord (word : String) : Except Fault ScalarKind :=
  match ScalarKind.ofWord? word with
  | some kind => .ok kind
  | none => .error (.unsupportedScalar word)

/-- The scalar kind of the elements of host data, which has to be an array of 32-bit numbers
(`host_element_type`). -/
def ofHostData : Value → Except Fault (ScalarKind × HostArray)
  | .array a =>
    match a.element.scalarKind? with
    | some kind => .ok (kind, a)
    | none => .error (.hostElement a.element.name)
  | v => .error (.hostNotArray v.kindName)

end KernelShader.ShaderType
