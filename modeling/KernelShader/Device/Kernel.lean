/-
`Kernel.lean` -- what a dispatched shader does to memory.

Shaders are not run here. A device is given a kernel instead, any function from the bound buffers and the
dispatch counts to a change of memory, and applies it wherever a real device would run the shader.
-/
import KernelShader.Device.Call

set_option autoImplicit false

namespace KernelShader

/-- The contents of all buffers, in the order of their numbers. -/
abbrev Memory := List Bytes

/-- The change of memory made by a compute pass with the given buffers in its bind groups. -/
abbrev Kernel := List (List (Option (Ref .buffer))) → List Nat → Memory → Memory

namespace Kernel

/-- Changes one buffer. -/
def onBuffer (f : Bytes → Bytes) (buffer : Ref .buffer) (memory : Memory) : Memory :=
  memory.modify buffer.index f

/-- The memory that a kernel leaves. It changes what buffers hold; it makes no buffer, takes none away
and leaves their sizes as they are. -/
def run (kernel : Kernel) (groups : List (List (Option (Ref .buffer)))) (counts : List Nat)
    (memory : Memory) : Memory :=
  let after := kernel groups counts memory
  memory.mapIdx fun index bytes => Bytes.overwrite ((after.getD index []).take bytes.length) bytes

/-- Leaves memory alone. -/
def idle : Kernel := fun _ _ memory => memory

/-- Twice a 32-bit real, on its word: the exponent goes up by one, a number without leading bit is
shifted, what would be too large becomes infinite, and a NaN becomes quiet and keeps its payload. -/
def doubleWord (word : UInt32) : UInt32 :=
  let sign := word &&& 0x80000000
  let magnitude := word &&& 0x7FFFFFFF
  if 0x7F800000 < magnitude then word ||| 0x00400000
  else if magnitude == 0x7F800000 then word
  else if 0x7F000000 ≤ magnitude then sign ||| 0x7F800000
  else if magnitude < 0x00800000 then sign ||| (magnitude <<< 1)
  else word + 0x00800000

/-- Doubles the reals at the front of the first buffer of the first group, as many as there are
workgroups along the first axis. -/
def doubleReals : Kernel := fun groups counts memory =>
  match groups with
  | (some buffer :: _) :: _ => onBuffer (Bytes.mapWords doubleWord (counts.headD 0)) buffer memory
  | _ => memory

/-- Adds one to every word of every bound buffer, around from the greatest to zero. -/
def incrementWords : Kernel := fun groups _ memory =>
  (groups.flatten.filterMap id).foldl
    (fun memory buffer => onBuffer (fun bytes => bytes.mapWords (· + 1) bytes.length) buffer memory)
    memory

end Kernel

end KernelShader
