/-
`Text.lean` -- the text of host arrays.

The numbers of an array line up: a way of writing is chosen for all of them together, after a first look
at every number that will be shown. Reals have at most eight digits behind the point. They get an exponent
all together if one of them is very large or very small or if they differ too much; then they also get
equally many digits, those of the exact value, which may be more than are needed to tell it.

Rows are broken where a line would become too long, and stand on lines of their own inside a larger array.
Of more than a thousand numbers only three at each end of an axis are shown. The element type is mentioned
unless it is understood, the shape where it cannot be seen.
-/
import KernelShader.HostArray

set_option autoImplicit false

namespace KernelShader

/-! ## Columns of reals -/

/-- The way in which the reals of an array are written: with the given number of digits behind the point
and in the exponent, or positionally if there is none; in both cases filled up with blanks to `left`
characters before and `right` characters behind the point. -/
structure RealColumn where
  exponential : Option (Nat × Nat)
  left : Nat
  right : Nat
  deriving DecidableEq, Repr

namespace RealColumn

/-- The digits behind the point that are shown at most. -/
def maxPlaces : Nat := 8

/-- A finite number without its sign. -/
structure Magnitude where
  mantissa : Nat
  exponent : Int
  deriving DecidableEq, Repr

/-- The sign and magnitude of a finite number. -/
def finite? : Binary → Option (Bool × Magnitude)
  | .finite negative mantissa exponent => some (negative, ⟨mantissa, exponent⟩)
  | _ => none

/-- Two magnitudes as whole multiples of the same power of two. -/
def Magnitude.aligned (a b : Magnitude) : Nat × Nat :=
  let low := min a.exponent b.exponent
  (a.mantissa <<< (a.exponent - low).toNat, b.mantissa <<< (b.exponent - low).toNat)

/-- The first magnitude is less than the second. -/
def Magnitude.less (a b : Magnitude) : Bool :=
  let (m, n) := a.aligned b
  m < n

/-- The greatest and the least of several magnitudes. -/
def extremes : List Magnitude → Option (Magnitude × Magnitude)
  | [] => none
  | m :: ms =>
    some (ms.foldl (fun (top, bottom) m =>
      (if top.less m then m else top, if m.less bottom then m else bottom)) (m, m))

/-- The quotient of two magnitudes, rounded into the format, is more than a thousand. -/
def Magnitude.dwarfs (format : BinaryFormat) (a b : Magnitude) : Bool :=
  let (m, n) := a.aligned b
  match format.round false m n with
  | .finite _ mantissa exponent => !magnitudeBelow mantissa exponent 1000 1 &&
      mantissa <<< exponent.toNat != 1000 <<< (-exponent).toNat
  | _ => true

/-- The magnitude is less than a ten-thousandth, as the format has it. -/
def Magnitude.isTiny (format : BinaryFormat) (m : Magnitude) : Bool :=
  match finite? (format.convert (BinaryFormat.double.round false 1 10000)) with
  | some (_, bound) => m.less bound
  | none => false

/-- Reals of the format with these magnitudes, zero not counted, are written with exponents. -/
def wantsExponents (format : BinaryFormat) (magnitudes : List Magnitude) : Bool :=
  match extremes magnitudes with
  | none => false
  | some (top, bottom) =>
    !magnitudeBelow top.mantissa top.exponent (Nat.pow 10 (min maxPlaces format.decimals)) 1
      || bottom.isTiny format || top.dwarfs format bottom

/-- The digits for positional notation. -/
def positionalDigits (format : BinaryFormat) (m : Magnitude) : Scientific :=
  Shortest.digitsBy (fun w => min w.enough (w.lead + 1 + maxPlaces).toNat) format m.mantissa m.exponent

/-- The digits for notation with an exponent, as few as possible. -/
def fewDigits (format : BinaryFormat) (m : Magnitude) : Scientific :=
  Shortest.digitsBy (fun w => min w.enough (maxPlaces + 1)) format m.mantissa m.exponent

/-- The digits for notation with an exponent, with the given number of digits behind the point. -/
def fixedDigits (format : BinaryFormat) (places : Nat) (m : Magnitude) : Scientific :=
  Shortest.digitsBy (fun _ => places + 1) format m.mantissa m.exponent

/-- The greatest of several numbers. -/
def greatest (ns : List Nat) : Nat := ns.foldl max 0

/-- The length of a sign. -/
def signLength (negative : Bool) : Nat := if negative then 1 else 0

/-- The column for finite reals alone. -/
def ofFinite (format : BinaryFormat) (reals : List (Bool × Magnitude)) : RealColumn :=
  if reals.isEmpty then ⟨none, 0, 0⟩
  else if wantsExponents format ((reals.map Prod.snd).filter (·.mantissa != 0)) then
    let digits := reals.map fun (_, m) => fewDigits format m
    let places := greatest (digits.map (·.digits.length - 1))
    let width := greatest (digits.map fun s => (s.exponentText 2).length - 1)
    ⟨some (places, width), greatest (reals.map fun (negative, _) => 1 + signLength negative),
      width + 2 + places⟩
  else
    let pieces := reals.map fun (negative, m) => (signLength negative, (positionalDigits format m).pieces)
    ⟨none, greatest (pieces.map fun (sign, whole, _) => sign + whole.length),
      greatest (pieces.map fun (_, _, fraction) => fraction.length)⟩

/-- The text of a real that is not finite. -/
def specialText : Binary → String
  | .infinite true => "-inf"
  | .infinite false => "inf"
  | _ => "nan"

/-- The column for reals. Infinities and NaN may need more room; with any of them there is room for all
three, the negative infinity only where there is one. -/
def ofReals (format : BinaryFormat) (xs : List Binary) : RealColumn :=
  let reals := xs.filterMap finite?
  let column := ofFinite format reals
  if reals.length = xs.length then column
  else
    let room := 3 + signLength (xs.contains (.infinite true)) - (column.right + 1)
    { column with left := max column.left room }

/-- Blanks in front, up to a width. -/
def alignRight (width : Nat) (cs : List Char) : List Char :=
  List.replicate (width - cs.length) ' ' ++ cs

/-- Blanks behind, up to a width. -/
def alignLeft (width : Nat) (cs : List Char) : List Char :=
  cs ++ List.replicate (width - cs.length) ' '

/-- A real in its column. -/
def write (c : RealColumn) (format : BinaryFormat) (x : Binary) : List Char :=
  match finite? x with
  | none => alignRight (c.left + c.right + 1) (specialText x).toList
  | some (negative, m) =>
    let sign := if negative then ['-'] else []
    match c.exponential with
    | some (places, width) =>
      let s := fixedDigits format places m
      let digits := padRight (places + 1) s.digits
      alignRight c.left (sign ++ digits.take 1) ++ '.' :: (digits.drop 1).take places
        ++ 'e' :: s.exponentText width
    | none =>
      let (whole, fraction) := (positionalDigits format m).pieces
      alignRight c.left (sign ++ whole) ++ '.' :: alignLeft c.right fraction

end RealColumn

namespace HostArray

/-! ## Cells -/

/-- The reals among numbers. -/
def realsOf (cells : List Cell) : List Binary :=
  cells.filterMap fun
    | .real x => some x
    | .int _ => none

/-- How the numbers of an array are written, decided on those that are shown. A truth value in an array
without axes needs no alignment. -/
def cellWriter (e : HostElement) (scalar : Bool) (shown : List Cell) : Cell → String :=
  let column := RealColumn.ofReals e.format (realsOf shown)
  let width := RealColumn.greatest (shown.map fun c => (c.scalarText e).length)
  fun c => String.ofList (match e.family, c with
    | .boolean, _ => RealColumn.alignRight (if scalar then 0 else 5) (c.scalarText e).toList
    | _, .int _ => RealColumn.alignRight width (c.scalarText e).toList
    | .complex, .real x => column.write e.format x ++ "+0.j".toList
    | _, .real x => column.write e.format x)

/-! ## Lines -/

/-- The number of elements at which an array is still shown whole. -/
def wholeLimit : Nat := 1000

/-- The number of elements shown at each end of a long axis. -/
def edge : Nat := 3

/-- The axis is shown by its ends only. -/
def isLong (length : Nat) : Bool := 2 * edge < length

/-- The rows of an array, as lists of numbers. -/
def rowCells (length width : Nat) (cells : List Cell) : List (List Cell) :=
  (List.range length).map fun i => (cells.drop (i * width)).take width

/-- The ends of a list. -/
def ends {α : Type} (xs : List α) : List α := xs.take edge ++ xs.drop (xs.length - edge)

/-- The numbers at the ends of every axis. -/
def corners : List Nat → List Cell → List Cell
  | [], cells => cells
  | length :: inner, cells =>
    let rows := rowCells length (count inner) cells
    (if isLong length then ends rows else rows).flatMap (corners inner)

/-- The pieces of an axis, with dots in the middle if it is shown by its ends. -/
def elide (cut : Bool) (pieces : List String) : List String :=
  if cut && isLong pieces.length then
    pieces.take edge ++ ["..."] ++ pieces.drop (pieces.length - edge)
  else pieces

/-- How an array is laid out: what stands between elements, and whether long axes are cut. -/
structure Frame where
  separator : String
  cut : Bool

/-- Adds words to a line, beginning a new one at the indentation when the next does not fit. The lines
finished so far come first. -/
def fill (separator : String) (width indent : Nat) : (lines line : String) → List String → String
  | lines, line, [] => lines ++ line
  | lines, line, word :: words =>
    let full := width < line.length + word.length && indent < line.length
    let lines := if full then lines ++ line.trimAsciiEnd.toString ++ "\n" else lines
    let line := if full then String.ofList (List.replicate indent ' ') else line
    fill separator width indent lines (line ++ word ++ if words.isEmpty then "" else separator) words

/-- The brackets of an array. The lines of a row hang at `indent` and leave room for a closing bracket;
larger axes put each part on a line of its own, with empty lines between parts that are not rows. -/
def bracketed (frame : Frame) (write : Cell → String) :
    (shape : List Nat) → (cells : List Cell) → (indent width : Nat) → String
  | [], cells, _, _ => String.join (cells.map write)
  | [_], cells, indent, width =>
    let words := elide frame.cut (cells.map write)
    "[" ++ ((fill frame.separator (width - 1) indent "" (String.ofList (List.replicate indent ' '))
      words).drop indent).toString ++ "]"
  | length :: next :: inner, cells, indent, width =>
    let rows := (rowCells length (count (next :: inner)) cells).map fun row =>
      bracketed frame write (next :: inner) row (indent + 1) (width - 1)
    let breaks := String.ofList (List.replicate (inner.length + 1) '\n')
    let between := frame.separator.trimAsciiEnd.toString ++ breaks
      ++ String.ofList (List.replicate indent ' ')
    "[" ++ between.intercalate (elide frame.cut rows) ++ "]"

/-- The length of a line. -/
def lineWidth : Nat := 75

/-- The numbers of an array in brackets, in lines that hang at `indent`. -/
def bodyText (a : HostArray) (separator : String) (indent width : Nat) : String :=
  if count a.shape = 0 then "[]"
  else
    let cut := decide (wholeLimit < count a.shape)
    let shown := if cut then corners a.shape a.cells else a.cells
    bracketed ⟨separator, cut⟩ (cellWriter a.element a.shape.isEmpty shown) a.shape a.cells indent width

/-- The text of an array as plain text; one without axes is like its number. -/
def plainText (a : HostArray) : String :=
  match a.shape, a.cells with
  | [], [c] => c.scalarText a.element
  | _, _ => a.bodyText " " 1 lineWidth

/-- What has to be mentioned besides the numbers. -/
def remarks (a : HostArray) : List String :=
  let size := count a.shape
  (if (size = 0 && a.shape ≠ [0]) || wholeLimit < size then ["shape=" ++ shapeText a.shape] else []) ++
  (if !a.element.isUnderstood || size = 0 then
    ["dtype=" ++ if a.element.swapped then "'" ++ a.element.name ++ "'" else a.element.name]
   else [])

/-- The length of the last line of a text. -/
def lastLineLength (text : String) : Nat :=
  (text.toList.reverse.takeWhile (· != '\n')).length

/-- The text of an array with all that is needed to tell it from others. The remarks go on a line of
their own where they do not fit. -/
def text (a : HostArray) : String :=
  let opening := "array("
  let body := opening ++ a.bodyText ", " (opening.length + 1) (lineWidth - 1)
  let remarks := ", ".intercalate a.remarks ++ ")"
  if a.remarks.isEmpty then body ++ ")"
  else
    let body := body ++ ","
    let space := if lineWidth < lastLineLength body + remarks.length + 1 then
        "\n" ++ String.ofList (List.replicate opening.length ' ')
      else " "
    body ++ space ++ remarks

end HostArray

end KernelShader
