/-
`Basic.lean` -- a device as a state that answers calls.

Every call is put on the trace first, then fails if the device is to fail at it, and only then takes
effect; a failing call hands out no object. Which calls fail is given by a function of the calls so far
and the call itself, so any pattern of failures is covered.

Commands are only collected until they are submitted. Submitting runs them in the order in which they
were encoded: a compute pass applies the device's kernel to the buffers its bind groups were created
with, a copy writes one buffer over the front of another and does nothing if either is gone.
-/
import KernelShader.Device.Kernel
import KernelShader.Fault

set_option autoImplicit false

namespace KernelShader

/-- A compute pass while it is being encoded, or afterwards. -/
structure ComputePass where
  encoder : Ref .encoder
  groups : List (Ref .group) := []
  counts : List Nat := []
  deriving DecidableEq, Repr

/-- An encoded command. -/
inductive Command where
  | compute (groups : List (Ref .group)) (counts : List Nat)
  | copy (source target : Option (Ref .buffer)) (size : Nat)
  deriving DecidableEq, Repr

/-- Which calls fail, and how, after the calls made so far. -/
abbrev Failures := List Call → Call → Option (DeviceFaultKind × String)

/-- No call fails. -/
def Failures.none : Failures := fun _ _ => Option.none

/-- Every call of the given name fails from now on. -/
def Failures.add (failures : Failures) (method : String) (kind : DeviceFaultKind)
    (message : String) : Failures :=
  fun before call => if call.method = method then some (kind, message) else failures before call

/-- A device. Objects without state of their own are only counted. -/
structure Device where
  kernel : Kernel := Kernel.idle
  failures : Failures := Failures.none
  trace : List Call := []
  memory : Memory := []
  groups : List (List (Option (Ref .buffer))) := []
  layouts : Nat := 0
  shaders : Nat := 0
  pipelineLayouts : Nat := 0
  pipelines : Nat := 0
  encoders : List (List Command) := []
  passes : List ComputePass := []
  commands : List (List Command) := []

/-- A conversation with a device. What it did to the device remains when it fails. -/
abbrev DeviceM := ExceptT Fault (StateM Device)

namespace Device

/-- Puts a call on the trace, and fails if the device is to fail at it. -/
def perform (call : Call) : DeviceM Unit := do
  let d ← get
  set { d with trace := d.trace ++ [call] }
  match d.failures d.trace call with
  | some (kind, message) => throw (.device kind message)
  | none => pure ()

/-! ## Buffers -/

/-- A new buffer, filled with zeros. -/
def createBuffer (label : String) (size usage : Nat) : DeviceM (Ref .buffer) := do
  perform (.createBuffer label size usage)
  modifyGet fun d => (⟨d.memory.length⟩, { d with memory := d.memory ++ [Bytes.zeros size] })

/-- Writes data over the front of a buffer. -/
def writeBuffer (buffer : Ref .buffer) (data : Bytes) : DeviceM Unit := do
  perform (.writeBuffer buffer 0 data)
  modify fun d => { d with memory := d.memory.modify buffer.index (Bytes.overwrite data) }

/-- Maps a buffer for reading. -/
def map (waiting : Waiting) (buffer : Ref .buffer) : DeviceM Unit :=
  perform (.map waiting buffer)

/-- The contents of a mapped buffer. -/
def readMapped (buffer : Ref .buffer) : DeviceM Bytes := do
  perform (.readMapped buffer)
  return (← get).memory.getD buffer.index []

/-- Ends the mapping of a buffer. -/
def unmap (buffer : Ref .buffer) : DeviceM Unit :=
  perform (.unmap buffer)

/-- Gives a buffer back to the device. -/
def destroy (buffer : Ref .buffer) : DeviceM Unit :=
  perform (.destroy buffer)

/-! ## Layouts and pipelines -/

/-- A layout for a bind group with the given binding numbers. -/
def createLayout (label : String) (bindings : List Nat) : DeviceM (Ref .layout) := do
  perform (.createLayout label bindings)
  modifyGet fun d => (⟨d.layouts⟩, { d with layouts := d.layouts + 1 })

/-- A bind group with the given slots. -/
def createGroup (label : String) (layout : Ref .layout) (entries : List GroupEntry) :
    DeviceM (Ref .group) := do
  perform (.createGroup label layout entries)
  modifyGet fun d =>
    (⟨d.groups.length⟩, { d with groups := d.groups ++ [entries.map (·.buffer)] })

/-- A shader module with the given text. -/
def createShader (label code : String) : DeviceM (Ref .shader) := do
  perform (.createShader label code)
  modifyGet fun d => (⟨d.shaders⟩, { d with shaders := d.shaders + 1 })

/-- The layout of a pipeline. -/
def createPipelineLayout (label : String) (layouts : List (Ref .layout)) :
    DeviceM (Ref .pipelineLayout) := do
  perform (.createPipelineLayout label layouts)
  modifyGet fun d => (⟨d.pipelineLayouts⟩, { d with pipelineLayouts := d.pipelineLayouts + 1 })

/-- A compute pipeline. -/
def createPipeline (label : String) (layout : Ref .pipelineLayout) (shader : Ref .shader)
    (entryPoint : String) : DeviceM (Ref .pipeline) := do
  perform (.createPipeline label layout shader entryPoint)
  modifyGet fun d => (⟨d.pipelines⟩, { d with pipelines := d.pipelines + 1 })

/-! ## Commands -/

/-- An encoder without commands. -/
def createEncoder (label : String) : DeviceM (Ref .encoder) := do
  perform (.createEncoder label)
  modifyGet fun d => (⟨d.encoders.length⟩, { d with encoders := d.encoders ++ [[]] })

/-- Starts a compute pass. -/
def beginPass (encoder : Ref .encoder) (label : String) : DeviceM (Ref .pass) := do
  perform (.beginPass encoder label)
  modifyGet fun d => (⟨d.passes.length⟩, { d with passes := d.passes ++ [{ encoder }] })

/-- Chooses the pipeline of a pass. -/
def setPipeline (pass : Ref .pass) (pipeline : Ref .pipeline) : DeviceM Unit :=
  perform (.setPipeline pass pipeline)

/-- Changes a pass that is being encoded. -/
def modifyPass (pass : Ref .pass) (f : ComputePass → ComputePass) : DeviceM Unit :=
  modify fun d => { d with passes := d.passes.modify pass.index f }

/-- Adds a command to an encoder. -/
def encode (encoder : Ref .encoder) (command : Command) : DeviceM Unit :=
  modify fun d => { d with encoders := d.encoders.modify encoder.index (· ++ [command]) }

/-- Sets the bind group at an index; indices come in ascending order. -/
def setGroup (pass : Ref .pass) (index : Nat) (group : Ref .group) : DeviceM Unit := do
  perform (.setGroup pass index group)
  modifyPass pass fun p => { p with groups := p.groups ++ [group] }

/-- Sets the workgroup counts of a pass. -/
def dispatch (pass : Ref .pass) (counts : List Nat) : DeviceM Unit := do
  perform (.dispatch pass counts)
  modifyPass pass fun p => { p with counts }

/-- Ends a pass, which makes it a command of its encoder. -/
def endPass (pass : Ref .pass) : DeviceM Unit := do
  perform (.endPass pass)
  match (← get).passes[pass.index]? with
  | some p => encode p.encoder (.compute p.groups p.counts)
  | none => pure ()

/-- Encodes a copy of the first `size` bytes of a buffer to the front of another. -/
def copy (encoder : Ref .encoder) (source target : Option (Ref .buffer)) (size : Nat) :
    DeviceM Unit := do
  perform (.copy encoder source target size)
  encode encoder (.copy source target size)

/-- Ends an encoder and hands out its commands. -/
def finish (encoder : Ref .encoder) : DeviceM (Ref .commands) := do
  perform (.finish encoder)
  modifyGet fun d =>
    (⟨d.commands.length⟩, { d with commands := d.commands ++ [d.encoders.getD encoder.index []] })

/-- The memory after a command. -/
def runCommand (d : Device) (memory : Memory) : Command → Memory
  | .compute groups counts =>
    d.kernel.run (groups.map fun group => d.groups.getD group.index []) counts memory
  | .copy (some source) (some target) size =>
    let data := (memory.getD source.index []).take size
    memory.modify target.index (Bytes.overwrite data)
  | .copy _ _ _ => memory

/-- Runs collected commands. -/
def submit (commands : Ref .commands) : DeviceM Unit := do
  perform (.submit [commands])
  modify fun d =>
    { d with memory := (d.commands.getD commands.index []).foldl (runCommand d) d.memory }

end Device

end KernelShader
