/-
`Transcript.lean` -- functions that have been read, kept for writing them again:
`FunctionTranscript` and `TranscriptStore`.

A transcript holds the token lines of a function and its type table. Once it is recorded the function is
never read from text again: a change of type is made in the table, and replaying the lines against the
table gives the new text. A store keeps the transcripts in the order in which they were recorded, with at
most one entry point among them.
-/
import KernelShader.Generator
import KernelShader.ShaderSource
import KernelShader.Workgroup

set_option autoImplicit false

namespace KernelShader

/-- What a recorded function is. A helper has a return type. -/
inductive FunctionKind where
  | helper (returns : Option ShaderType)
  | entry
  deriving DecidableEq, Repr

/-- A function that has been read. The workgroup size is kept as it was given; only an entry point uses
it. -/
structure Transcript where
  name : String
  lines : List Line
  types : TypeTable
  kind : FunctionKind
  workgroup : List Int
  deriving DecidableEq, Repr

namespace Transcript

/-- The function is the entry point. -/
def isEntry (t : Transcript) : Bool := t.kind == .entry

/-- The return type of a helper. -/
def returns (t : Transcript) : Option ShaderType :=
  match t.kind with
  | .helper returns => returns
  | .entry => none

/-- The place of the function in the shader; an entry point needs a proper workgroup size. -/
def generatorRole (t : Transcript) : Except Fault Generator.Role :=
  match t.kind with
  | .helper returns => .ok (.helper returns)
  | .entry => do
    let size ← Workgroup.size (.list (t.workgroup.map .int))
    return .entry size.volume

/-- The text of the function and the transcript with the table it leaves. -/
def write (phase : Generator.Phase) (dialect : Dialect) (t : Transcript) :
    Except Fault (String × Transcript) := do
  let role ← t.generatorRole
  let (lines, types) ← Generator.generate dialect phase role t.types t.lines
  return ("\n".intercalate lines, { t with types })

/-- The text of the function written again from its table. -/
def replay (dialect : Dialect) (t : Transcript) : Except Fault String :=
  (t.write .replay dialect).map Prod.fst

/-- The name under which the return type of a helper is changed. -/
def returnName : String := "return"

/-- Gives an existing variable, or the return value of a helper, a type; tells whether that changed it. -/
def edit (t : Transcript) (variableName : String) (type : ShaderType) :
    Except Fault (Bool × Transcript) :=
  let editVariable : Except Fault (Bool × Transcript) :=
    match t.types.get? variableName with
    | some old => .ok (old != type, { t with types := t.types.insert variableName type })
    | none => .error (.unknownVariable t.name variableName)
  match t.kind with
  | .helper returns =>
    if variableName = returnName then .ok (returns != some type, { t with kind := .helper (some type) })
    else editVariable
  | .entry => editVariable

end Transcript

/-! ## The store -/

/-- The recorded functions, in order. -/
abbrev Store := NameTable Transcript

/-- The text of each function by name. -/
abbrev Bodies := NameTable String

namespace Store

/-- The entry point. -/
def entry? (s : Store) : Option Transcript := s.values.find? (·.isEntry)

/-- The functions that are not the entry point. -/
def helpers (s : Store) : List Transcript := s.values.filter (!·.isEntry)

/-- The transcript of a function. -/
def get (s : Store) (name : String) : Except Fault Transcript :=
  match s.get? name with
  | some t => .ok t
  | none => .error (.unknownFunction name)

/-- Records a function under its name, which has to be new; a second entry point is refused. -/
def record (s : Store) (t : Transcript) : Except Fault Store := do
  if s.contains t.name then throw (.duplicateFunction t.name)
  match t.isEntry, s.entry? with
  | true, some entry => throw (.secondEntry entry.name)
  | _, _ => return s.insert t.name t

/-- Gives a variable of a function the type that a value names. -/
def edit (s : Store) (name variableName : String) (type : Value) : Except Fault (Bool × Store) := do
  let t ← get s name
  let type ← ShaderType.ofValue type
  let (changed, t) ← t.edit variableName type
  return (changed, s.insert name t)

/-- The text of every function written again, in order. -/
def replay (dialect : Dialect) (s : Store) : Except Fault Bodies := do
  let bodies ← s.values.mapM fun t => do return (t.name, ← t.replay dialect)
  return .ofEntries bodies

/-- The shader of the recorded functions with the given texts: helpers in order, the entry point last. -/
def assemble (header : List String) (s : Store) (bodies : Bodies) : Except Fault ShaderSource := do
  let body (t : Transcript) : Except Fault String :=
    match bodies.get? t.name with
    | some text => .ok text
    | none => .error (.missingBody t.name)
  let functions ← s.helpers.mapM body
  let entryPoint ← s.entry?.mapM body
  return { header, functions, entryPoint }

/-- The shader with every function written again. -/
def regenerate (header : List String) (dialect : Dialect) (s : Store) : Except Fault ShaderSource := do
  assemble header s (← replay dialect s)

end Store

end KernelShader
