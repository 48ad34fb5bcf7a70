/-
`Basic.lean` -- a device together with the buffers registered on it: the state of `BufferManager`.

Inputs are storage buffers that the shader reads and writes. Outputs are staging buffers: each is linked
to an input, and after a dispatch that input's contents are copied into it for the host to read. Binding
numbers are given in order of registration across all groups.

This file has the state and the views of it that need no device.
-/
import KernelShader.Device.Basic
import KernelShader.HostSize
import KernelShader.Log
import KernelShader.NameTable
import KernelShader.ShaderSource
import KernelShader.ShaderType.Reader

set_option autoImplicit false

namespace KernelShader

/-- A registered input. Its buffer is gone once it has been released. -/
structure Input where
  name : String
  element : ScalarKind
  size : Nat
  group : Nat
  binding : Nat
  buffer : Option (Ref .buffer)
  deriving DecidableEq, Repr

/-- A registered output, linked to the input whose contents it receives. -/
structure Output where
  name : String
  element : ScalarKind
  size : Nat
  link : String
  buffer : Option (Ref .buffer)
  deriving DecidableEq, Repr

/-- The place of an input in the shader. -/
structure Slot where
  name : String
  group : Nat
  binding : Nat
  deriving DecidableEq, Repr

/-- The places of all inputs, in order of registration: what a pipeline is built for. -/
abbrev Signature := List Slot

/-- A device, if there is one, with the buffers registered on it and what has been done so far. -/
structure Rig where
  device : Option Device := none
  label : String := libraryName
  inputs : NameTable Input := .empty
  outputs : NameTable Output := .empty
  nextBinding : Nat := 0
  submitted : Bool := false
  log : List Event := []

/-- A computation on a rig. What it did remains when it fails. -/
abbrev RigM := ExceptT Fault (StateM Rig)

namespace Rig

/-! ## Views -/

/-- The places of the inputs. -/
def signature (r : Rig) : Signature :=
  r.inputs.values.map fun i => ⟨i.name, i.group, i.binding⟩

/-- The declarations of the inputs in the shader, if all their numbers can be written (`header_lines`). -/
def header (r : Rig) : Except Fault (List String) :=
  r.inputs.values.mapM fun i => bindingDeclaration i.group i.binding i.name i.element.word

/-- The greatest group in use; without inputs there is still group zero. -/
def topGroup (r : Rig) : Nat :=
  r.inputs.values.foldl (fun top i => max top i.group) 0

/-- All groups from zero to the greatest in use. A host has no room for so many of them that the list
could not be made; that limit on its memory is left out. -/
def groups (r : Rig) : List Nat := List.range (r.topGroup + 1)

/-- The inputs of a group. -/
def groupInputs (r : Rig) (group : Nat) : List Input :=
  r.inputs.values.filter (·.group == group)

/-- The input of a name. -/
def input (r : Rig) (name : String) : Except Fault Input :=
  match r.inputs.get? name with
  | some i => .ok i
  | none => .error (.unknownInput name)

/-- The calls made to the device so far. -/
def trace (r : Rig) : List Call :=
  match r.device with
  | some d => d.trace
  | none => []

/-! ## Talking to the device -/

/-- Puts an event on the log. -/
def report (e : Event) : RigM Unit :=
  modify fun r => { r with log := r.log ++ [e] }

/-- The reason given when there is no device. -/
def noDevice : Fault := .unavailable "No device is bound to this session"

/-- Holds a conversation with the device, which has to be there. -/
def onDevice {α : Type} (conversation : DeviceM α) : RigM α := do
  let r ← get
  match r.device with
  | none => throw noDevice
  | some d =>
    let (outcome, d) := conversation.run.run d
    set { r with device := some d }
    liftExcept outcome

end Rig

end KernelShader
