/-
`Dispatch.lean` -- running a compiled shader and reading the results: `CommandDispatcher.execute`,
`read_back` and `read_back_async`.

A dispatch encodes one compute pass and one copy for every output, and submits them together. Nothing
reaches memory before the submission, so a dispatch that fails on the way has changed nothing. Reading
back maps one output at a time and unmaps it again whether or not it could be read.
-/
import KernelShader.Rig.Pipeline
import KernelShader.Workgroup

set_option autoImplicit false

namespace KernelShader.Rig

/-! ## Dispatch -/

/-- Encodes the compute pass: pipeline, bind groups at their indices, counts. -/
def encodePass (label : String) (encoder : Ref .encoder) (pipeline : Ref .pipeline)
    (groups : List (Ref .group)) (counts : List Nat) : DeviceM Unit := do
  let pass ← Device.beginPass encoder s!"{label} pass"
  Device.setPipeline pass pipeline
  groups.zipIdx.forM fun (group, index) => Device.setGroup pass index group
  Device.dispatch pass counts
  Device.endPass pass

/-- Encodes the copy from an output's input. -/
def encodeCopy (encoder : Ref .encoder) (o : Output) : RigM Unit := do
  let source ← liftExcept ((← get).input o.link)
  onDevice (Device.copy encoder source.buffer o.buffer source.size)

/-- Runs a compiled shader once with the given workgroup counts. -/
def execute (artifact : Artifact) (groups : List (Ref .group)) (counts : Value) : RigM Unit := do
  let counts ← liftExcept (Workgroup.counts counts)
  let r ← get
  let encoder ← onDevice (Device.createEncoder s!"{r.label} encoder")
  onDevice (encodePass r.label encoder artifact.pipeline groups counts)
  r.outputs.values.forM (encodeCopy encoder)
  let commands ← onDevice (Device.finish encoder)
  onDevice (Device.submit commands)
  modify fun r => { r with submitted := true }
  report (.dispatched artifact.entryPoint counts)

/-! ## Reading back -/

/-- What an output held: the kind of its elements and its bytes. -/
structure Reading where
  element : ScalarKind
  bytes : Bytes
  deriving DecidableEq, Repr

/-- The numbers that a reading holds. -/
def Reading.cells (r : Reading) : List Cell :=
  (Bytes.toWords r.bytes).map (Cell.ofWord r.element)

/-- Reads the contents of a mapped buffer, which have to be whole words. -/
def readMapped (buffer : Ref .buffer) : RigM Bytes := do
  let bytes ← onDevice (Device.readMapped buffer)
  if bytes.length % 4 ≠ 0 then throw .partialElement
  return bytes

/-- Reads one output. The buffer is unmapped before a failure to read it is passed on, and a failure to
unmap it takes precedence. -/
def readOutput (waiting : Waiting) (o : Output) : RigM (String × Reading) :=
  match o.buffer with
  | none => throw .bufferReleased
  | some buffer => do
    onDevice (Device.map waiting buffer)
    let outcome ← observing (readMapped buffer)
    onDevice (Device.unmap buffer)
    let bytes ← liftExcept outcome
    return (o.name, ⟨o.element, bytes⟩)

/-- Reads all outputs, in order of registration, once something has been dispatched. -/
def readBack (waiting : Waiting) : RigM (NameTable Reading) := do
  let r ← get
  if !r.submitted then throw .notDispatched
  let readings ← r.outputs.values.mapM (readOutput waiting)
  return .ofEntries readings

end KernelShader.Rig
