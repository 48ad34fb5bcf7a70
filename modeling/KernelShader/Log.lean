/-
`Log.lean` -- what the library reports while it works.

Events are recorded as what happened; their level, their channel and their wording are read off later.
-/
import KernelShader.Value

set_option autoImplicit false

namespace KernelShader

/-- The name under which the library reports, and labels what it makes unless told otherwise. -/
def libraryName : String := "pywgsl"

/-- Something worth reporting. -/
inductive Event where
  | deviceFound (description : String)
  | inputBound (name : String) (group binding : Nat) (element : ScalarKind) (size : Nat)
  | outputBound (name link : String) (size : Nat)
  | pipelineBuilt (label entryPoint : String)
  | dispatched (entryPoint : String) (counts : List Nat)
  | regenerated (name body : String)
  | added (name body : String)
  | unchanged
  | compiling (text : String)
  deriving DecidableEq, Repr

namespace Event

/-- Milestones are information, everything else is detail. -/
def level : Event → String
  | .deviceFound _ | .pipelineBuilt .. | .dispatched .. => "INFO"
  | _ => "DEBUG"

/-- The part of the library an event belongs to. -/
def channel : Event → String
  | .deviceFound _ => "device"
  | .inputBound .. | .outputBound .. => "buffers"
  | .pipelineBuilt .. => "pipeline"
  | .dispatched .. => "dispatch"
  | .regenerated .. => "transcript"
  | .added .. | .unchanged | .compiling _ => "session"

/-- The wording of an event. -/
def message : Event → String
  | .deviceFound description => s!"using GPU: {description}"
  | .inputBound name group binding element size =>
    s!"input {name} -> @group({group}) @binding({binding}) array<{element.word}> ({size} bytes)"
  | .outputBound name link size => s!"output {name} <- {link} ({size} bytes)"
  | .pipelineBuilt label entryPoint => s!"built pipeline {label} (entry point {entryPoint})"
  | .dispatched entryPoint counts =>
    s!"dispatched {entryPoint} with workgroups {Value.tupleText (counts.map toString)}"
  | .regenerated name body => s!"regenerated {name}:\n{body}"
  | .added name body => s!"translated {name}:\n{body}"
  | .unchanged => "confirm: no edits, shader unchanged"
  | .compiling text => s!"compiling shader:\n{text}"

/-- An event on one record. -/
def record (e : Event) : String := s!"{e.level} {libraryName}.{e.channel}: {e.message}"

end Event

end KernelShader
