/-
`Register.lean` -- registering buffers, and giving them back: `register_input`, `register_output` and
`release`.

All checks come before the first call to the device, and the tables change after the last one, so a
registration that fails leaves them as they were. Inputs and outputs share one space of names. A buffer
given back stays registered without a buffer behind it.
-/
import KernelShader.Rig.Basic

set_option autoImplicit false

namespace KernelShader.Rig

/-! ## Checks -/

/-- The name is not taken (`_check_name`). -/
def checkName (r : Rig) (name : String) : Except Fault Unit :=
  if r.inputs.contains name || r.outputs.contains name then .error (.duplicateBuffer name)
  else .ok ()

/-- The group that a value gives: an integer from zero up, and not a truth value. -/
def checkGroup (name : String) (v : Value) : Except Fault Nat :=
  match v with
  | .int n => if 0 ≤ n then .ok n.toNat else .error (.badGroup name v)
  | _ => .error (.badGroup name v)

/-- What an input is registered with, if everything about it is in order. -/
def checkInput (r : Rig) (name : String) (data group : Value) :
    Except Fault (ScalarKind × HostArray × Nat) := do
  let (element, array) ← ShaderType.ofHostData data
  r.checkName name
  if array.byteCount = 0 then throw (.emptyInput name)
  let group ← checkGroup name group
  return (element, array, group)

/-- What an output is registered with: the input it is linked to and its own size. -/
def checkOutput (r : Rig) (name link : String) (data : Value) : Except Fault (Input × Nat) := do
  match r.inputs.get? link with
  | none => throw (.unknownLink name link)
  | some source =>
    r.checkName name
    let size ← data.byteSize
    if size < source.size then throw (.outputTooSmall name size link source.size)
    return (source, size)

/-! ## Registration -/

/-- A storage buffer that can be copied from and to. -/
def inputUsage : Nat := 140

/-- A buffer that can be copied to and mapped for reading. -/
def outputUsage : Nat := 9

/-- Registers an input and sends its data to the device. -/
def registerInput (name : String) (data group : Value) : RigM Input := do
  let r ← get
  let (element, array, group) ← liftExcept (r.checkInput name data group)
  let size := array.byteCount
  let buffer ← onDevice (Device.createBuffer name size inputUsage)
  onDevice (Device.writeBuffer buffer (Bytes.ofWords array.words))
  let input : Input := ⟨name, element, size, group, r.nextBinding, some buffer⟩
  modify fun r => { r with inputs := r.inputs.insert name input, nextBinding := r.nextBinding + 1 }
  report (.inputBound name group input.binding element size)
  return input

/-- Registers an output linked to an input. -/
def registerOutput (name link : String) (data : Value) : RigM Output := do
  let r ← get
  let (source, size) ← liftExcept (r.checkOutput name link data)
  let buffer ← onDevice (Device.createBuffer name size outputUsage)
  let output : Output := ⟨name, source.element, size, link, some buffer⟩
  modify fun r => { r with outputs := r.outputs.insert name output }
  report (.outputBound name link size)
  return output

/-! ## Release -/

/-- Gives back the buffer of an input, if it still has one. -/
def releaseInput (i : Input) : RigM Unit :=
  match i.buffer with
  | none => pure ()
  | some buffer => do
    onDevice (Device.destroy buffer)
    modify fun r => { r with inputs := r.inputs.insert i.name { i with buffer := none } }

/-- Gives back the buffer of an output, if it still has one. -/
def releaseOutput (o : Output) : RigM Unit :=
  match o.buffer with
  | none => pure ()
  | some buffer => do
    onDevice (Device.destroy buffer)
    modify fun r => { r with outputs := r.outputs.insert o.name { o with buffer := none } }

/-- Gives back all buffers, inputs first. It stops at the first that the device will not take. -/
def release : RigM Unit := do
  let r ← get
  r.inputs.values.forM releaseInput
  r.outputs.values.forM releaseOutput

end KernelShader.Rig
