/-
`Basic.lean` -- a `Session`: the functions read so far, their text, and the rig they are to run on.

The text of every function is cached when it is read, so showing the shader costs nothing and does not
see edits of types until they are confirmed. The compiled artifact and its bind groups are kept until
something they depend on changes.
-/
import KernelShader.Rig.Dispatch
import KernelShader.Rig.Register
import KernelShader.Transcript
import KernelShader.Adapter

set_option autoImplicit false

namespace KernelShader

/-- The settings of a session. -/
structure Config where
  label : String := libraryName
  powerPreference : String := "high-performance"
  dialect : Dialect := .current
  deriving DecidableEq, Repr

/-- A session. `edited` says that a type has changed since the texts were last written. -/
structure Session where
  config : Config
  rig : Rig
  store : Store := .empty
  bodies : Bodies := .empty
  edited : Bool := false
  artifact : Option Artifact := none
  bindGroups : Option (List (Ref .group)) := none

/-- A computation in a session. What it did remains when it fails. -/
abbrev SessionM := ExceptT Fault (StateM Session)

namespace Session

/-- A session on a device that may be missing. -/
def fresh (config : Config) (device : Option Device) : Session :=
  { config, rig := { device, label := config.label } }

/-- A session on a device acquired for it. -/
def create (config : Config) (acquisition : Acquisition) : Except Fault Session :=
  match acquisition.outcome with
  | .ok device =>
    .ok { config, rig := { device := some device, label := config.label, log := acquisition.log } }
  | .error refusal => .error refusal.fault

/-- Works on the rig of the session. -/
def onRig {α : Type} (work : RigM α) : SessionM α := do
  let s ← get
  let (outcome, rig) := work.run.run s.rig
  set { s with rig }
  liftExcept outcome

/-- Puts an event on the log. -/
def report (e : Event) : SessionM Unit := onRig (Rig.report e)

/-- Forgets the compiled artifact and its bind groups (`_invalidate`). -/
def invalidate : SessionM Unit :=
  modify fun s => { s with artifact := none, bindGroups := none }

/-! ## The shader -/

/-- The shader as it stands: the bindings of the inputs and the cached text of every function. -/
def source (s : Session) : Except Fault ShaderSource := do
  let header ← s.rig.header
  s.store.assemble header s.bodies

/-- The text of the shader as it stands (`shader_code`). -/
def shaderText (s : Session) : Except Fault String :=
  s.source.map ShaderSource.text

/-- The types of the variables of a function (`list_variables`). -/
def variableTypes (s : Session) (function : String) : Except Fault TypeTable :=
  (s.store.get function).map (·.types)

/-! ## Buffers -/

/-- Registers an input. -/
def registerInput (name : String) (data group : Value) : SessionM Input := do
  let input ← onRig (Rig.registerInput name data group)
  invalidate
  return input

/-- Registers an output linked to an input. -/
def registerOutput (name link : String) (data : Value) : SessionM Output := do
  let output ← onRig (Rig.registerOutput name link data)
  invalidate
  return output

/-- Forgets the artifact and gives back all buffers. -/
def close : SessionM Unit := do
  invalidate
  onRig Rig.release

end Session

end KernelShader
