/-
`HostSize.lean` -- how many bytes a host value takes when it is laid out as an array, its `nbytes`.

An output buffer is sized by a value of any shape. Nested sequences make the axes, of which there are not
too many, and have to be regular. All leaves get one element type, the narrowest that has room for each in
turn: numbers widen as far as they must, numbers among texts become texts, and anything else makes every
element a machine address.
-/
import KernelShader.Fault

set_option autoImplicit false

namespace KernelShader

/-! ## Element types with room for several kinds of leaf -/

namespace HostElement

/-- The bytes of the narrowest real type with room for the numbers of a type. -/
def realBytes (e : HostElement) : Nat :=
  match e.family with
  | .boolean => 0
  | .signed | .unsigned => if e.bytes = 1 then 2 else if e.bytes = 2 then 4 else 8
  | .real => e.bytes
  | .complex => e.bytes / 2

/-- The narrowest type with room for the numbers of two types; signed and unsigned numbers of the widest
kind only have a real type in common. -/
def join (a b : HostElement) : HostElement :=
  let signedWith (signed unsigned : Nat) : HostElement :=
    if unsigned < signed then ⟨.signed, signed, false⟩
    else if unsigned < 8 then ⟨.signed, 2 * unsigned, false⟩
    else ⟨.real, 8, false⟩
  match a.family, b.family with
  | .boolean, _ => b
  | _, .boolean => a
  | .signed, .signed => ⟨.signed, max a.bytes b.bytes, false⟩
  | .unsigned, .unsigned => ⟨.unsigned, max a.bytes b.bytes, false⟩
  | .signed, .unsigned => signedWith a.bytes b.bytes
  | .unsigned, .signed => signedWith b.bytes a.bytes
  | f, g =>
    let width := max a.realBytes b.realBytes
    if f = .complex || g = .complex then ⟨.complex, 2 * max 4 width, false⟩ else ⟨.real, width, false⟩

/-- The characters that a number of the type may need as text. -/
def characters (e : HostElement) : Nat :=
  match e.family with
  | .boolean => 5
  | .signed => if e.bytes = 1 then 4 else if e.bytes = 2 then 6 else if e.bytes = 4 then 11 else 21
  | .unsigned => if e.bytes = 1 then 3 else if e.bytes = 2 then 5 else if e.bytes = 4 then 10 else 20
  | .real => 32
  | .complex => 64

end HostElement

/-- What an element of a laid-out value holds: a number, a text of bounded length, or an address. -/
inductive Leaf where
  | number (element : HostElement)
  | text (length : Nat)
  | address
  deriving DecidableEq, Repr

namespace Leaf

/-- An element with room for either of two. -/
def join : Leaf → Leaf → Leaf
  | .number a, .number b => .number (a.join b)
  | .text m, .text n => .text (max m n)
  | .text n, .number e => .text (max n e.characters)
  | .number e, .text n => .text (max n e.characters)
  | _, _ => .address

/-- The bytes of an element; texts take four for each character and at least one character. -/
def bytes : Leaf → Nat
  | .number e => e.bytes
  | .text length => 4 * max 1 length
  | .address => 8

end Leaf

/-! ## Shapes -/

/-- What is known of a value whose parts are looked at in order. The way to the first end, a leaf or an
empty sequence, gives the axes; then they are settled, and what follows can only take some away.

`axes` are the lengths found on that way, of which the first `depth` are common to everything seen. `ragged`
tells that some part does not fit. `element` has room for every leaf so far. `block` is the first array
among the parts, its place and its shape. -/
structure Survey where
  axes : List Nat := []
  settled : Bool := false
  depth : Nat := HostArray.maxAxes
  ragged : Bool := false
  element : Option Leaf := none
  block : Option (Nat × List Nat) := none
  deriving DecidableEq, Repr

namespace Survey

/-- The axes that two shapes share, from the outermost in. -/
def sharedAxes : List Nat → List Nat → List Nat
  | a :: as, b :: bs => if a = b then a :: sharedAxes as bs else []
  | _, _ => []

/-- The axes that all parts have. -/
def shape (s : Survey) : List Nat := s.axes.take s.depth

/-- A sequence at the given place fits: there is an axis for it, and it has the right length. -/
def admits (s : Survey) (place length : Nat) : Bool :=
  place < s.depth && (!s.settled || s.axes[place]? == some length)

/-- Goes into a sequence that fits. An empty one ends the axes where it stands. -/
def enter (s : Survey) (place length : Nat) : Survey :=
  { s with
    axes := if s.settled then s.axes else s.axes ++ [length]
    settled := s.settled || length == 0
    depth := if length = 0 then place + 1 else s.depth }

/-- Passes over a sequence that does not fit. -/
def refuse (s : Survey) (place : Nat) : Survey :=
  { s with settled := true, depth := place, ragged := true }

/-- Takes a part with axes of its own, none if it is a leaf. It has to end where the others do. -/
def add (s : Survey) (place : Nat) (lengths : List Nat) (leaf : Leaf) : Survey :=
  let kept := lengths.take (s.depth - place)
  let axes := if s.settled then s.axes else s.axes ++ kept
  let depth := place + (sharedAxes (axes.drop place) kept).length
  { s with
    axes
    settled := true
    depth
    ragged := s.ragged || kept != lengths || (s.settled && depth != s.depth)
    element := some (match s.element with
      | some seen => seen.join leaf
      | none => leaf) }

/-- Takes a leaf. -/
def addLeaf (s : Survey) (place : Nat) (leaf : Leaf) : Survey := s.add place [] leaf

/-- Takes an array. -/
def addArray (s : Survey) (place : Nat) (a : HostArray) : Survey :=
  { s.add place a.shape (.number a.element) with block := s.block <|> some (place, a.shape) }

/-- A shape without leading axes of length one, as far as it has more axes than there is room for. -/
def trim (room : Nat) : List Nat → List Nat
  | [] => []
  | n :: inner => if room ≤ inner.length && n = 1 then trim room inner else n :: inner

/-- An array whose axes go on behind the end that an empty sequence has set cannot be put in its place. -/
def clash? (s : Survey) : Option Fault :=
  s.block.bind fun (place, lengths) =>
    if s.depth < place + lengths.length then
      some (.shapeClash (trim (s.depth - place) lengths) (s.shape.drop place))
    else none

/-- The bytes of everything seen. -/
def byteSize (s : Survey) : Except Fault Nat :=
  if s.ragged then
    .error (if s.depth = HostArray.maxAxes then .tooDeep else .raggedShape s.shape)
  else match s.clash? with
    | some fault => .error fault
    | none => .ok (HostArray.count s.shape * (s.element.map Leaf.bytes).getD 0)

end Survey

namespace Value

/-- The leaf for an integer: the first of the two 64-bit types that has room for it, else an address. -/
def intLeaf (n : Int) : Leaf :=
  if -0x8000000000000000 ≤ n && n < 0x8000000000000000 then .number ⟨.signed, 8, false⟩
  else if 0 ≤ n && n < 0x10000000000000000 then .number ⟨.unsigned, 8, false⟩
  else .address

mutual

/-- Looks at a value at the given place, counted in sequences around it. -/
def survey (s : Survey) (place : Nat) : Value → Survey
  | .bool _ => s.addLeaf place (.number ⟨.boolean, 1, false⟩)
  | .int n => s.addLeaf place (intLeaf n)
  | .real _ => s.addLeaf place (.number ⟨.real, 8, false⟩)
  | .text t => s.addLeaf place (.text t.length)
  | .list items | .tuple items =>
    if s.admits place items.length then surveyAll (s.enter place items.length) (place + 1) items
    else s.refuse place
  | .array a => s.addArray place a
  | .cell element _ => s.addLeaf place (.number element)
  | .none => s.addLeaf place .address
  | .table _ => s.addLeaf place .address
  | .type _ => s.addLeaf place .address

/-- Looks at values next to each other. -/
def surveyAll (s : Survey) (place : Nat) : List Value → Survey
  | [] => s
  | v :: vs => surveyAll (survey s place v) place vs

end

/-- The bytes of a value laid out as an array. -/
def byteSize (v : Value) : Except Fault Nat := (survey {} 0 v).byteSize

end Value

end KernelShader
