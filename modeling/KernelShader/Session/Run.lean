/-
`Run.lean` -- building, dispatching and reading results in a session: `build`, `execute`, `run`,
`read_back` and `read_back_async`.

Building compiles the shader only if there is no artifact for exactly this text, entry point and set of
inputs; the bind groups are made anew each time. Whatever is kept is dropped before compiling starts, so a
failed compilation leaves nothing stale behind.
-/
import KernelShader.Session.Basic

set_option autoImplicit false

namespace KernelShader.Session

/-- The artifact at hand, if it is the one for the given shader. -/
def usable? (s : Session) (text entryPoint : String) (signature : Signature) : Option Artifact :=
  s.artifact.filter (·.matches text entryPoint signature)

/-- Compiles the shader for the inputs registered now. -/
def compile (text entryPoint : String) (signature : Signature) : SessionM Artifact := do
  invalidate
  report (.compiling text)
  let layout ← onRig Rig.buildLayout
  let artifact ← onRig (Rig.compile text entryPoint layout signature)
  modify fun s => { s with artifact := some artifact }
  return artifact

/-- The artifact for the shader as it stands, with fresh bind groups. -/
def build : SessionM Artifact := do
  let s ← get
  match s.store.entry? with
  | none => throw .noEntry
  | some entry =>
    let text ← liftExcept s.shaderText
    let signature := s.rig.signature
    let artifact ← match s.usable? text entry.name signature with
      | some artifact => pure artifact
      | none => compile text entry.name signature
    let groups ← onRig (Rig.buildGroups artifact.layout)
    modify fun s => { s with bindGroups := some groups }
    return artifact

/-- Dispatches what has been built. -/
def dispatchBuilt (counts : Value) : SessionM Unit := do
  let s ← get
  match s.artifact, s.bindGroups with
  | some artifact, some groups => onRig (Rig.execute artifact groups counts)
  | _, _ => pure ()

/-- Dispatches the shader, building it first if it is not built. -/
def execute (counts : Value) : SessionM Unit := do
  let s ← get
  if s.artifact.isNone || s.bindGroups.isNone then
    let _ ← build
  dispatchBuilt counts

/-- Reads all outputs. -/
def readBack (waiting : Waiting) : SessionM (NameTable Rig.Reading) :=
  onRig (Rig.readBack waiting)

/-- Builds, dispatches and reads all outputs. -/
def run (counts : Value) : SessionM (NameTable Rig.Reading) := do
  let _ ← build
  execute counts
  readBack .sync

end KernelShader.Session
