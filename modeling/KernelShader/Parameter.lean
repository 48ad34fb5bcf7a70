/-
`Parameter.lean` -- the types of a function's parameters: `resolve_param_types`,
`infer_call_site_types` and `infer_argument_type`.

They come from a table that declares them, by name or in order, or are guessed from the arguments of a
call, or are all plain numbers. The guess looks at text only: a number, or a text that reads as one, is a
number, and everything else is an array with one element more than its text has commas, whatever the
value really holds.
-/
import KernelShader.ShaderType.Reader
import KernelShader.NameTable

set_option autoImplicit false

namespace KernelShader

/-- The types of the variables of a function, in the order in which they were first seen. -/
abbrev TypeTable := NameTable ShaderType

namespace Parameter

/-! ## Guessing from arguments -/

/-- The number of commas in a text. -/
def commaCount (text : String) : Nat := text.toList.count ','

/-- The type guessed for one argument (`infer_argument_type`). -/
def guess (argument : Value) : ShaderType :=
  if argument.isNumber then .f32
  else match argument with
    | .text s => if (Numeral.readBinary? s).isSome then .f32 else .ofCommas (commaCount s)
    | v => .ofCommas (commaCount v.shown)

/-- The types guessed for the arguments of a call (`infer_call_site_types`). -/
def guessAll (arguments : Value) : Except Fault (List ShaderType) :=
  match arguments.items? with
  | some items => .ok (items.map guess)
  | none => .error .noItems

/-! ## Declared types -/

/-- The types of the parameters from a table that names them. It has to name each and no other. -/
def fromNames (params : List String) (declared : List (String × Value)) :
    Except Fault (List ShaderType) := do
  let missing := params.filter fun p => (declared.lookup p).isNone
  if !missing.isEmpty then throw (.missingTypes missing)
  let extra := (declared.map Prod.fst).filter (!params.contains ·)
  if !extra.isEmpty then throw (.unknownParameters extra)
  params.mapM fun p => ShaderType.ofValue ((declared.lookup p).getD .none)

/-- The types from a sequence that lists them. -/
def fromSequence (declared : Value) : Except Fault (List ShaderType) :=
  match declared.items? with
  | some items => items.mapM ShaderType.ofValue
  | none => .error .noItems

/-- The types for the parameters: from arguments if there are any, else as declared, else all numbers. -/
def types (params : List String) : (declared arguments : Value) → Except Fault (List ShaderType)
  | .none, .none => .ok (params.map fun _ => .f32)
  | .text s, .none => .error (.declaredText s)
  | .table entries, .none => fromNames params entries
  | declared, .none => fromSequence declared
  | .none, arguments => guessAll arguments
  | _, _ => .error .typesAndArguments

/-- The type table of the parameters, in their order (`resolve_param_types`). A name that comes twice keeps
its first place and gets its last type. -/
def resolve (params : List String) (declared arguments : Value) : Except Fault TypeTable := do
  let types ← types params declared arguments
  if types.length ≠ params.length then throw (.typeCount params.length types.length)
  return .ofEntries (params.zip types)

end Parameter

end KernelShader
