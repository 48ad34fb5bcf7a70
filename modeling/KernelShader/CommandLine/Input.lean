/-
`Input.lean` -- the inputs named on the command line: `parse_input`, and their `_header`.

An input is written as a name, `=`, and numbers with commas between. All its numbers are read before any
is brought into the element type, and blanks around the name do not belong to it.
-/
import KernelShader.CommandLine.Arguments
import KernelShader.ShaderSource

set_option autoImplicit false

namespace KernelShader.CommandLine

open Text

/-- A named array for a storage buffer. -/
structure NamedArray where
  name : String
  array : HostArray
  deriving DecidableEq, Repr

/-- The numbers of an input as texts, and its name, from `NAME=v1,v2,...`. -/
def splitSpec (spec : String) : Except Fault (String × List String) :=
  match splitEquals spec.toList with
  | (c :: name, some (v :: values)) =>
    .ok (String.ofList (trim (c :: name)), commaParts (String.ofList (v :: values)))
  | _ => .error (.inputSpec spec)

/-- Reads one number of an input. -/
def readNumber (text : String) : Except Fault Cell :=
  match Numeral.readBinary? text with
  | some x => .ok (.real x)
  | none => .error (.notNumber text)

/-- Reads an input; its numbers are brought into the given kind (`parse_input`). -/
def readInput (kind : Option ScalarKind) (spec : String) : Except Fault NamedArray := do
  let (name, texts) ← splitSpec spec
  let cells ← texts.mapM readNumber
  match kind with
  | some kind =>
    return ⟨name, .ofCells (HostElement.ofScalarKind kind) [cells.length] cells
      (HostArray.length_eq_count cells)⟩
  | none => throw .elementMissing

/-- Reads an input that may have no text. -/
def readInput? (kind : Option ScalarKind) : Option String → Except Fault NamedArray
  | some spec => readInput kind spec
  | none => throw .inputMissing

/-- Numbers as they are printed. -/
def cellsText (cells : List Cell) : String :=
  "[" ++ ", ".intercalate (cells.map Cell.text) ++ "]"

/-- The bindings that the inputs get when they are registered in order (`_header`). -/
def inputHeader (inputs : List NamedArray) : Except Fault (List String) :=
  inputs.zipIdx.mapM fun (input, index) =>
    let element := match input.array.element.scalarKind? with
      | some kind => kind.word
      | none => ""
    bindingDeclaration 0 index input.name element

end KernelShader.CommandLine
