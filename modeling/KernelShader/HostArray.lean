/-
`HostArray.lean` -- arrays of numbers on the host side.

A host array has an element type, a shape and its numbers in row-major order, one for each place that the
shape has; what follows from the shape alone comes before the arrays. Only three element types
can go into a device buffer: the 32-bit real, signed and unsigned numbers in the machine's own byte order.
All others are recognised by name so that they can be refused by name, and so that their size and their
text can be told.
-/
import KernelShader.ShaderType
import KernelShader.Number.Shortest

set_option autoImplicit false

namespace KernelShader

/-! ## Element types -/

/-- The families of host numbers. -/
inductive NumberFamily where
  | boolean
  | signed
  | unsigned
  | real
  | complex
  deriving DecidableEq, Repr

/-- The element type of a host array: a family, the bytes of one element, and whether they are in the
byte order that is not the machine's. -/
structure HostElement where
  family : NumberFamily
  bytes : Nat
  swapped : Bool
  deriving DecidableEq, Repr

namespace HostElement

/-- The name of an element type without regard to byte order. -/
def word (e : HostElement) : String :=
  let bits := toString (8 * e.bytes)
  match e.family with
  | .boolean => "bool"
  | .signed => "int" ++ bits
  | .unsigned => "uint" ++ bits
  | .real => "float" ++ bits
  | .complex => "complex" ++ bits

/-- The code of an element type: a letter for the family and the bytes. -/
def code (e : HostElement) : String :=
  let letter := match e.family with
    | .boolean => "b"
    | .signed => "i"
    | .unsigned => "u"
    | .real => "f"
    | .complex => "c"
  letter ++ toString e.bytes

/-- The name of an element type. Byte order shows only when it is not the machine's. -/
def name (e : HostElement) : String :=
  if e.swapped then ">" ++ e.code else e.word

/-- The element types in the machine's byte order. -/
def ordinary : List HostElement :=
  [⟨.real, 4, false⟩, ⟨.signed, 4, false⟩, ⟨.unsigned, 4, false⟩, ⟨.real, 8, false⟩,
   ⟨.signed, 8, false⟩, ⟨.unsigned, 8, false⟩, ⟨.real, 2, false⟩, ⟨.signed, 2, false⟩,
   ⟨.unsigned, 2, false⟩, ⟨.signed, 1, false⟩, ⟨.unsigned, 1, false⟩, ⟨.boolean, 1, false⟩,
   ⟨.complex, 8, false⟩, ⟨.complex, 16, false⟩]

/-- The element type of a name, which may be a word, or a code with a byte order mark in front. -/
def ofName? (name : String) : Option HostElement :=
  (ordinary.find? fun e => e.word == name || "<" ++ e.code == name) <|>
    (ordinary.find? fun e => ">" ++ e.code == name).map fun e => { e with swapped := true }

/-- The scalar kind that a buffer of such elements has. -/
def scalarKind? (e : HostElement) : Option ScalarKind :=
  if e.swapped || e.bytes ≠ 4 then none
  else match e.family with
    | .real => some .f32
    | .signed => some .i32
    | .unsigned => some .u32
    | _ => none

/-- The element type whose buffers have a scalar kind. -/
def ofScalarKind : ScalarKind → HostElement
  | .f32 => ⟨.real, 4, false⟩
  | .i32 => ⟨.signed, 4, false⟩
  | .u32 => ⟨.unsigned, 4, false⟩

/-- The type is understood when an array's text does not mention it: the widest signed, real and complex
types and truth values. -/
def isUnderstood (e : HostElement) : Bool :=
  !e.swapped && match e.family with
    | .boolean => true
    | .signed | .real => e.bytes == 8
    | .complex => e.bytes == 16
    | .unsigned => false

/-- The binary format of real elements. -/
def format (e : HostElement) : BinaryFormat :=
  let width := if e.family = .complex then e.bytes / 2 else e.bytes
  if width = 2 then .half else if width = 4 then .single else .double

end HostElement

/-! ## Cells -/

/-- One number of a host array. -/
inductive Cell where
  | int (n : Int)
  | real (x : Binary)
  deriving DecidableEq, Repr

namespace Cell

/-- The number is zero. -/
def isZero : Cell → Bool
  | .int n => n == 0
  | .real (.finite _ mantissa _) => mantissa == 0
  | .real _ => false

/-- Brings a number into an element type: real types round, integer types cut toward zero and keep the
low bits. -/
def cast (e : HostElement) (c : Cell) : Cell :=
  let whole := match c with
    | .int n => n
    | .real x => x.truncate
  match e.family with
  | .boolean =>
    .int (if c.isZero then 0 else 1)
  | .signed => .int (whole.bmod (1 <<< (8 * e.bytes)))
  | .unsigned => .int (whole % (1 <<< (8 * e.bytes) : Nat))
  | .real | .complex =>
    .real (e.format.convert (match c with
      | .int n => BinaryFormat.double.ofInt n
      | .real x => x))

/-- The 32-bit word of a number of a 32-bit type. -/
def toWord : Cell → UInt32
  | .int n => UInt32.ofInt n
  | .real x => x.toWord

/-- The number that a word of a buffer of the given kind stands for. -/
def ofWord : ScalarKind → UInt32 → Cell
  | .f32, word => .real (Binary.ofWord word)
  | .i32, word => .int word.toInt32.toInt
  | .u32, word => .int word.toNat

/-- The number as a host number: reals are widened and written in full. -/
def text : Cell → String
  | .int n => toString n
  | .real x => x.text

/-- The number of an array on its own. -/
def scalarText (e : HostElement) (c : Cell) : String :=
  match e.family, c with
  | .boolean, .int n => if n = 0 then "False" else "True"
  | _, .int n => toString n
  | .complex, .real x => x.complexText e.format
  | _, .real x => x.textIn e.format

/-- The number as text among other text: reals are widened first. -/
def insertedText (e : HostElement) (c : Cell) : String :=
  match e.family, c with
  | .complex, .real x => (BinaryFormat.double.convert x).complexText BinaryFormat.double
  | _, .real x => x.text
  | _, _ => c.scalarText e

/-- The number with its element type. -/
def typedText (e : HostElement) (c : Cell) : String :=
  let body := c.scalarText e
  match e.family with
  | .boolean => "np." ++ body ++ "_"
  | .complex => "np." ++ e.word ++ if body.startsWith "(" then body else "(" ++ body ++ ")"
  | _ => "np." ++ e.word ++ "(" ++ body ++ ")"

end Cell

/-! ## Shapes -/

namespace HostArray

/-- The greatest number of axes. -/
def maxAxes : Nat := 64

/-- The number of elements that a shape has room for. -/
def count (shape : List Nat) : Nat := shape.foldr (· * ·) 1

theorem count_cons (length : Nat) (inner : List Nat) :
    count (length :: inner) = length * count inner := rfl

theorem count_append (outer inner : List Nat) :
    count (outer ++ inner) = count outer * count inner := by
  induction outer with
  | nil => exact (Nat.one_mul _).symm
  | cons length outer ih => rw [List.cons_append, count_cons, count_cons, ih, Nat.mul_assoc]

theorem count_singleton (length : Nat) : count [length] = length := Nat.mul_one length

theorem length_eq_count (cells : List Cell) : cells.length = count [cells.length] :=
  (count_singleton _).symm

theorem count_reverse (shape : List Nat) : count shape.reverse = count shape := by
  induction shape with
  | nil => rfl
  | cons length inner ih =>
    rw [List.reverse_cons, count_append, ih, count_singleton, count_cons, Nat.mul_comm]

/-- The number of slots between neighbours along each axis. -/
def strides : List Nat → List Nat
  | [] => []
  | _ :: inner => count inner :: strides inner

/-- The axes of a shape, each a length and a stride. -/
def axes (shape : List Nat) : List (Nat × Nat) := shape.zip (strides shape)

/-- The slots reached by walking the axes in row-major order. -/
def slots : List (Nat × Nat) → Nat → List Nat
  | [], start => [start]
  | (length, stride) :: axes, start =>
    (List.range length).flatMap fun i => slots axes (start + i * stride)

/-- There is one slot for every element. -/
theorem length_slots (axes : List (Nat × Nat)) (start : Nat) :
    (slots axes start).length = count (axes.map Prod.fst) := by
  induction axes generalizing start with
  | nil => rfl
  | cons axis axes ih =>
    obtain ⟨length, stride⟩ := axis
    rw [slots, List.length_flatMap, List.map_cons, count_cons]
    simp only [ih, List.map_const', List.length_range, List.sum_replicate_nat]

/-- The distance from the first to the last slot of a walk. -/
def span (axes : List (Nat × Nat)) : Nat :=
  axes.foldr (fun axis rest => (axis.1 - 1) * axis.2 + rest) 0

theorem span_append (outer inner : List (Nat × Nat)) :
    span (outer ++ inner) = span outer + span inner := by
  induction outer with
  | nil => exact (Nat.zero_add _).symm
  | cons axis outer ih =>
    have hcons : ∀ rest, span (axis :: rest) = (axis.1 - 1) * axis.2 + span rest := fun _ => rfl
    rw [List.cons_append, hcons, hcons, ih, Nat.add_assoc]

theorem span_reverse (axes : List (Nat × Nat)) : span axes.reverse = span axes := by
  induction axes with
  | nil => rfl
  | cons axis axes ih =>
    have hcons : ∀ rest, span (axis :: rest) = (axis.1 - 1) * axis.2 + span rest := fun _ => rfl
    rw [List.reverse_cons, span_append, ih, hcons, hcons]
    exact Nat.add_comm _ _

theorem le_of_mem_slots {axes : List (Nat × Nat)} {start slot : Nat}
    (h : slot ∈ slots axes start) : slot ≤ start + span axes := by
  induction axes generalizing start with
  | nil => exact Nat.le_of_eq (List.mem_singleton.mp h)
  | cons axis axes ih =>
    obtain ⟨length, stride⟩ := axis
    obtain ⟨i, hi, hslot⟩ := List.mem_flatMap.mp h
    have hbound : i ≤ length - 1 := Nat.le_sub_one_of_lt (List.mem_range.mp hi)
    calc slot ≤ start + i * stride + span axes := ih hslot
      _ ≤ start + (length - 1) * stride + span axes :=
        Nat.add_le_add_right (Nat.add_le_add_left (Nat.mul_le_mul_right stride hbound) start) _
      _ = start + span ((length, stride) :: axes) := Nat.add_assoc _ _ _

theorem map_fst_axes (shape : List Nat) : (axes shape).map Prod.fst = shape := by
  induction shape with
  | nil => rfl
  | cons length inner ih => exact congrArg (length :: ·) ih

theorem span_axes_lt {shape : List Nat} (h : 0 < count shape) : span (axes shape) < count shape := by
  induction shape with
  | nil => exact Nat.one_pos
  | cons length inner ih =>
    rw [count_cons] at h ⊢
    have hlength : 0 < length := Nat.pos_of_mul_pos_right h
    have hinner : span (axes inner) < count inner := ih (Nat.pos_of_mul_pos_left h)
    calc span (axes (length :: inner)) = (length - 1) * count inner + span (axes inner) := rfl
      _ < (length - 1) * count inner + count inner := Nat.add_lt_add_left hinner _
      _ = (length - 1 + 1) * count inner := (Nat.succ_mul _ _).symm
      _ = length * count inner := by rw [Nat.sub_add_cancel hlength]

/-- The axes of a shape, walked in reverse, reach each its slots only. -/
theorem lt_of_mem_slots_reverse {shape : List Nat} {slot : Nat}
    (h : slot ∈ slots (axes shape).reverse 0) : slot < count shape := by
  have hlength : 0 < (slots (axes shape).reverse 0).length := List.length_pos_of_mem h
  rw [length_slots, List.map_reverse, map_fst_axes, count_reverse] at hlength
  have hslot : slot ≤ 0 + span (axes shape).reverse := le_of_mem_slots h
  rw [Nat.zero_add, span_reverse] at hslot
  exact Nat.lt_of_le_of_lt hslot (span_axes_lt hlength)

/-- The slots of one row after another. -/
def rowSlots (width : Nat) (rows : List Nat) : List Nat :=
  rows.flatMap fun row => (List.range width).map (row * width + ·)

theorem length_rowSlots (width : Nat) (rows : List Nat) :
    (rowSlots width rows).length = rows.length * width := by
  unfold rowSlots
  simp only [List.length_flatMap, List.length_map, List.length_range, List.map_const',
    List.sum_replicate_nat]

theorem lt_of_mem_rowSlots {width total slot : Nat} {rows : List Nat} (hrows : ∀ row ∈ rows, row < total)
    (h : slot ∈ rowSlots width rows) : slot < total * width := by
  obtain ⟨row, hrow, hslot⟩ := List.mem_flatMap.mp h
  obtain ⟨column, hcolumn, rfl⟩ := List.mem_map.mp hslot
  calc row * width + column < row * width + width :=
        Nat.add_lt_add_left (List.mem_range.mp hcolumn) _
    _ = (row + 1) * width := (Nat.succ_mul row width).symm
    _ ≤ total * width := Nat.mul_le_mul_right width (hrows row hrow)

end HostArray

/-! ## Arrays -/

/-- A host array: its numbers in row-major order under a shape, as many as the shape has room for. -/
structure HostArray where
  element : HostElement
  shape : List Nat
  cells : List Cell
  whole : cells.length = HostArray.count shape
  deriving DecidableEq, Repr

namespace HostArray

/-- The array of the given numbers, each brought into the element type. -/
def ofCells (element : HostElement) (shape : List Nat) (cells : List Cell)
    (h : cells.length = count shape) : HostArray :=
  ⟨element, shape, cells.map (Cell.cast element), (List.length_map _).trans h⟩

/-- The bytes of the whole array. -/
def byteCount (a : HostArray) : Nat := count a.shape * a.element.bytes

/-- The words of an array of 32-bit numbers. -/
def words (a : HostArray) : List UInt32 := a.cells.map Cell.toWord

/-- The array of the numbers in the given slots. -/
def gather (a : HostArray) (shape slots : List Nat) (hslots : ∀ slot ∈ slots, slot < count a.shape)
    (hlength : slots.length = count shape) : HostArray :=
  let table := a.cells.toArray
  have hsize : ∀ slot ∈ slots, slot < table.size := by
    intro slot hslot
    rw [List.size_toArray, a.whole]
    exact hslots slot hslot
  { element := a.element
    shape
    cells := slots.pmap (fun slot (h : slot < table.size) => table[slot]) hsize
    whole := (List.length_pmap ..).trans hlength }

/-- The array with its axes in reverse order. -/
def transpose (a : HostArray) : HostArray :=
  a.gather a.shape.reverse (slots (axes a.shape).reverse 0) (fun _ => lt_of_mem_slots_reverse) (by
    rw [length_slots, List.map_reverse, map_fst_axes])

/-- The array of the given rows. -/
def takeRows (a : HostArray) {total : Nat} {inner : List Nat} (hshape : a.shape = total :: inner)
    (rows : List Nat) (hrows : ∀ row ∈ rows, row < total) : HostArray :=
  a.gather (rows.length :: inner) (rowSlots (count inner) rows)
    (by
      intro slot hslot
      rw [hshape, count_cons]
      exact lt_of_mem_rowSlots hrows hslot)
    (length_rowSlots _ _)

/-- Every `step`-th row, counted from the end if the step is negative. The step is not zero. -/
def every (a : HostArray) (step : Int) : HostArray :=
  match hshape : a.shape with
  | [] => a
  | total :: _ =>
    let kept := (List.range total).filter (· % step.natAbs == 0)
    have hkept : ∀ row ∈ kept, row < total := fun _ h =>
      List.mem_range.mp (List.mem_filter.mp h).1
    if step < 0 then
      a.takeRows hshape (kept.map (total - 1 - ·)) (by
        intro row hrow
        obtain ⟨other, hother, rfl⟩ := List.mem_map.mp hrow
        exact Nat.lt_of_le_of_lt (Nat.sub_le _ _)
          (Nat.sub_one_lt_of_lt (Nat.lt_of_le_of_lt (Nat.zero_le other) (hkept other hother))))
    else a.takeRows hshape kept hkept

/-- One row of an array. -/
def row (a : HostArray) {total : Nat} {inner : List Nat} (hshape : a.shape = total :: inner)
    (row : Nat) (hrow : row < total) : HostArray :=
  a.gather inner (rowSlots (count inner) [row])
    (by
      intro slot hslot
      rw [hshape, count_cons]
      refine lt_of_mem_rowSlots (fun other hother => ?_) hslot
      rw [List.mem_singleton.mp hother]
      exact hrow)
    (by rw [length_rowSlots, List.length_singleton, Nat.one_mul])

/-- The rows of an array with at least one axis. -/
def rows? (a : HostArray) : Option (List HostArray) :=
  match hshape : a.shape with
  | [] => none
  | total :: _ =>
    some ((List.range total).pmap (a.row hshape) fun _ => List.mem_range.mp)

/-- The text of a shape. -/
def shapeText (shape : List Nat) : String :=
  match shape with
  | [n] => "(" ++ toString n ++ ",)"
  | _ => "(" ++ ", ".intercalate (shape.map toString) ++ ")"

/-- The text of lengths that are asked for, open ones negative. Open lengths in front are left out. -/
def lengthsText (lengths : List Int) : String :=
  let words := (lengths.dropWhile (· < 0)).map fun n => if n < 0 then "newaxis" else toString n
  "(" ++ ",".intercalate words ++ (if lengths.length = 1 && !words.isEmpty then ",)" else ")")

end HostArray

end KernelShader
