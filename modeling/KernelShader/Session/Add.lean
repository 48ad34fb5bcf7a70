/-
`Add.lean` -- reading functions into a session: `add_function` and `add_entry_point`.

A function is checked, its parameters are typed, it is written for the first time, which fills its type
table, and only then is it recorded. Nothing of the session changes before that.
-/
import KernelShader.Session.Basic
import KernelShader.Source

set_option autoImplicit false

namespace KernelShader.Session

/-- Reads a function: its transcript with the filled table, and its text. -/
def read (dialect : Dialect) (source : String) (declared arguments : Value) (kind : FunctionKind)
    (workgroup : List Int) : Except Fault (Transcript × String) := do
  let lines := Source.tokenLines source
  Declaration.check lines
  let declaration ← Declaration.parse (lines.headD [])
  let types ← Parameter.resolve declaration.params declared arguments
  let transcript : Transcript := { name := declaration.name, lines, types, kind, workgroup }
  let (body, transcript) ← transcript.write .infer dialect
  return (transcript, body)

/-- Reads a function and records it with its text (`_translate`). -/
def add (source : String) (declared arguments : Value) (kind : FunctionKind)
    (workgroup : List Int) : SessionM String := do
  let s ← get
  let (transcript, body) ← liftExcept (read s.config.dialect source declared arguments kind workgroup)
  let store ← liftExcept (s.store.record transcript)
  set { s with store, bodies := s.bodies.insert transcript.name body }
  invalidate
  report (.added transcript.name body)
  return body

/-- Reads a helper function. Its parameters are typed as declared, or after the arguments of a call. -/
def addFunction (source : String) (returns declared arguments : Value) : SessionM String := do
  let returns ← liftExcept (ShaderType.ofValue returns)
  add source declared arguments (.helper (some returns)) [1, 1, 1]

/-- Reads the entry point, of which there is only one. -/
def addEntryPoint (source : String) (size declared : Value) : SessionM String := do
  match (← get).store.entry? with
  | some entry => throw (.entryDefined entry.name)
  | none =>
    let size ← liftExcept (Workgroup.size size)
    add source declared .none .entry (size.toList.map Int.ofNat)

end KernelShader.Session
