/-
`Workgroup.lean` -- workgroup sizes and dispatch counts: `normalize_workgroup_size` and
`normalize_counts`.

Both are one to three positive integers, given as a single integer or as a sequence. A size is filled up
with ones to three components and enters the shader as their product; counts are handed to the device as
they are. A truth value alone counts as an integer when the sequence is formed and is refused afterwards.
-/
import KernelShader.Fault

set_option autoImplicit false

namespace KernelShader.Workgroup

/-- The components that a value gives: an integer stands for itself alone. -/
def components (v : Value) : Except Fault (List Value) :=
  match v.int? with
  | some _ => .ok [v]
  | none =>
    match v.items? with
    | some items => .ok items
    | none => .error .noItems

/-- A positive integer, or the fault `refuse` names. -/
def positive (refuse : Value → Fault) (v : Value) : Except Fault Nat :=
  match v with
  | .int n => if 1 ≤ n then .ok n.toNat else .error (refuse v)
  | _ => .error (refuse v)

/-- One to three positive integers, under the given faults for their number and for one of them. -/
def dimensions (arity : Nat → Fault) (refuse : Value → Fault) (v : Value) :
    Except Fault (List Nat) := do
  let items ← components v
  if items.isEmpty || 3 < items.length then throw (arity items.length)
  items.mapM (positive refuse)

/-- A workgroup size of three components. -/
structure Size where
  x : Nat
  y : Nat
  z : Nat
  deriving DecidableEq, Repr

/-- The components of a size. -/
def Size.toList (s : Size) : List Nat := [s.x, s.y, s.z]

/-- The number of invocations in a workgroup. -/
def Size.volume (s : Size) : Nat := s.x * s.y * s.z

/-- Fills up with ones. -/
def Size.ofDimensions (dims : List Nat) : Size :=
  ⟨dims.getD 0 1, dims.getD 1 1, dims.getD 2 1⟩

/-- The workgroup size that a value gives. -/
def size (v : Value) : Except Fault Size :=
  (dimensions .sizeArity .sizeComponent v).map Size.ofDimensions

/-- The dispatch counts that a value gives. -/
def counts (v : Value) : Except Fault (List Nat) :=
  dimensions .countArity .countComponent v

end KernelShader.Workgroup
