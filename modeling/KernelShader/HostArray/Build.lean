/-
`Build.lean` -- host arrays from numbers that are given one after another.

Integers have to lie in the range of the element type, whatever its byte order. Reals among integers are
cut to their whole parts, which have to lie there too. A shape may leave one length open, which the number
of elements then decides; all lengths together have to use up the numbers exactly.
-/
import KernelShader.Fault

set_option autoImplicit false

namespace KernelShader

/-! ## Ranges -/

namespace HostElement

/-- The elements are integers. -/
def isWhole (e : HostElement) : Bool := e.family == .signed || e.family == .unsigned

/-- An integer type has room for an integer. -/
def holds (e : HostElement) (n : Int) : Bool :=
  if e.family = .unsigned then 0 ≤ n && n < (1 <<< (8 * e.bytes) : Nat)
  else -(1 <<< (8 * e.bytes - 1) : Nat) ≤ n && n < (1 <<< (8 * e.bytes - 1) : Nat)

/-- The type of a signed machine word. -/
def machineWord : HostElement := ⟨.signed, 8, false⟩

/-- An integer that is to become an element. If the type has no room for it, a machine word may still have;
only then is the integer itself mentioned. -/
def checkInt (e : HostElement) (n : Int) : Except Fault Cell :=
  if e.isWhole then
    if e.holds n then .ok (.int n)
    else .error (if machineWord.holds n then .numberRange n e.word else .wordRange)
  else if e.family = .boolean then .ok (.int n)
  else match BinaryFormat.double.ofInt n with
    | .infinite _ => .error .realRange
    | _ => .ok (.int n)

/-- A real that is to become an element. Among integers its whole part counts. -/
def checkReal (e : HostElement) (x : Binary) : Except Fault Cell :=
  if e.isWhole then
    match x with
    | .nan _ => .error .wholeOfNan
    | .infinite _ => .error .wholeOfInfinity
    | x => e.checkInt x.truncate
  else .ok (.real x)

/-- A number that is to become an element. -/
def checkCell (e : HostElement) : Cell → Except Fault Cell
  | .int n => e.checkInt n
  | .real x => e.checkReal x

end HostElement

namespace HostArray

/-! ## Shapes -/

/-- The shape if it has room for just the given number of elements. -/
def fitShape (size : Nat) (lengths : List Int) (shape : List Nat) :
    Except Fault { shape : List Nat // size = count shape } :=
  if h : size = count shape then .ok ⟨shape, h⟩ else .error (.shapeSize size lengths)

/-- The shape for the given number of elements; a negative length is an open one. -/
def resolveShape (size : Nat) (lengths : List Int) :
    Except Fault { shape : List Nat // size = count shape } :=
  let known := count ((lengths.filter (0 ≤ ·)).map Int.toNat)
  if maxAxes < lengths.length then .error (.tooManyAxes lengths.length)
  else match lengths.countP (· < 0) with
    | 0 => fitShape size lengths (lengths.map Int.toNat)
    | 1 =>
      if known = 0 then .error (.shapeSize size lengths)
      else fitShape size lengths (lengths.map fun n => if n < 0 then size / known else n.toNat)
    | _ => .error .openLengths

/-- The array of the given numbers under a shape, along a single axis if none is given. -/
def build (element : HostElement) (lengths : Option (List Int)) (cells : List Cell) :
    Except Fault HostArray := do
  let cells ← cells.mapM element.checkCell
  let ⟨shape, h⟩ ← match lengths with
    | some lengths => resolveShape cells.length lengths
    | none => pure ⟨[cells.length], length_eq_count cells⟩
  return ofCells element shape cells h

/-- Every `step`-th row, if there are rows and the step leads somewhere. -/
def every? (a : HostArray) (step : Int) : Except Fault HostArray :=
  if a.shape.isEmpty then .error .badIndex
  else if step = 0 then .error .idleStep
  else .ok (a.every step)

end HostArray

end KernelShader
