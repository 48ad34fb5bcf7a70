/-
`Shortest.lean` -- writing a binary number with the fewest digits that read back as it.

The reals that round to a given number form an interval around it, and the digits to write are the
shortest decimal inside. Scaled by `10 ^ 1076` the number, both ends of its interval and every decimal
grid of interest are integers (the format has no bit below `2 ^ -1074`, and the ends need two more), so
membership and distance are decided exactly. On the grid of `n` leading digits only the two neighbours of
the number can be inside when any point is; of two that are, the nearer is taken. The same choice gives
any other number of digits, fewer or more than are needed.

What is done with the digits is a matter of layout and stands in one record at the end.
-/
import KernelShader.Number.Binary

set_option autoImplicit false

namespace KernelShader

/-! ## The digits -/

/-- A decimal in scientific form: the digits with the point after the first, times `10 ^ exponent`. -/
structure Scientific where
  digits : List Char
  exponent : Int
  deriving DecidableEq, Repr

namespace Shortest

/-- The scale at which all quantities are integers. -/
def scale : Nat := 1076

/-- A positive number and the ends of its interval, scaled. The ends belong to the interval exactly if
the mantissa is even. -/
structure Window where
  value : Nat
  low : Nat
  high : Nat
  closed : Bool
  deriving DecidableEq, Repr

/-- The interval of reals that round to `mantissa * 2 ^ exponent`. Below a power of two the neighbour is
only half as far away. -/
def Window.ofNumber (format : BinaryFormat) (mantissa : Nat) (exponent : Int) : Window :=
  let quarter := Nat.pow 10 scale <<< (exponent - 2).toNat >>> (2 - exponent).toNat
  let below := if mantissa = 1 <<< (format.precision - 1) && format.minExponent < exponent then 1 else 2
  { value := 4 * mantissa * quarter
    low := (4 * mantissa - below) * quarter
    high := (4 * mantissa + 2) * quarter
    closed := mantissa % 2 = 0 }

/-- The scaled decimal `x` rounds to the window's number. -/
def Window.contains (w : Window) (x : Nat) : Bool :=
  if w.closed then w.low ≤ x && x ≤ w.high else w.low < x && x < w.high

/-- One of the two neighbours of the number on the grid of multiples of `step`, as a multiple: the one in
the window if there is just one, otherwise the nearer. A tie goes to the even multiple. -/
def Window.pick (w : Window) (step : Nat) : Nat :=
  let floor := w.value / step
  match w.contains (floor * step), w.contains ((floor + 1) * step) with
  | true, false => floor
  | false, true => floor + 1
  | _, _ => roundHalfEven w.value step

/-- A neighbour of the number on the grid is in the window. -/
def Window.reaches (w : Window) (step : Nat) : Bool :=
  let floor := w.value / step
  w.contains (floor * step) || w.contains ((floor + 1) * step)

/-- The number of digits of the scaled number. -/
def Window.places (w : Window) : Nat := (Nat.toDigits 10 w.value).length

/-- The power of ten of the first digit. -/
def Window.lead (w : Window) : Int := (w.places : Int) - 1 - scale

/-- The first grid that reaches the window, by its number of digits, trying one more each time. -/
def Window.search (w : Window) (places : Nat) : (tries digits : Nat) → Nat
  | 0, digits => digits
  | tries + 1, digits =>
    if w.reaches (Nat.pow 10 (places - digits)) then digits else w.search places tries (digits + 1)

/-- The fewest digits that read back as the number. Seventeen are enough for every number of the formats
here. -/
def Window.enough (w : Window) : Nat := w.search w.places 16 1

/-- Drops the zeros at the end. -/
def dropTrailingZeros (cs : List Char) : List Char :=
  (cs.reverse.dropWhile (· == '0')).reverse

/-- The number to the given number of digits, without zeros at the end. -/
def Window.decimal (w : Window) (count : Nat) : Scientific :=
  let cut := w.places - count
  let digits := Nat.toDigits 10 (w.pick (Nat.pow 10 cut))
  ⟨dropTrailingZeros digits, (digits.length : Int) - 1 + cut - scale⟩

/-- The decimal for `mantissa * 2 ^ exponent` with as many digits as `count` asks for. -/
def digitsBy (count : Window → Nat) (format : BinaryFormat) (mantissa : Nat) (exponent : Int) :
    Scientific :=
  if mantissa = 0 then ⟨['0'], 0⟩
  else
    let w := Window.ofNumber format mantissa exponent
    w.decimal (count w)

/-- The shortest decimal that reads back as `mantissa * 2 ^ exponent` in the format. -/
def ofNumber (format : BinaryFormat) (mantissa : Nat) (exponent : Int) : Scientific :=
  digitsBy Window.enough format mantissa exponent

end Shortest

/-! ## Layout -/

/-- Fills up with zeros on the right. -/
def padRight (width : Nat) (cs : List Char) : List Char :=
  cs ++ List.replicate (width - cs.length) '0'

/-- Fills up with zeros on the left. -/
def padLeft (width : Nat) (cs : List Char) : List Char :=
  List.replicate (width - cs.length) '0' ++ cs

namespace Scientific

/-- The digits in front of the point and those behind it, of which there may be none. -/
def pieces (s : Scientific) : List Char × List Char :=
  if s.exponent < 0 then (['0'], List.replicate (-s.exponent - 1).toNat '0' ++ s.digits)
  else
    let whole := s.exponent.toNat + 1
    let digits := padRight whole s.digits
    (digits.take whole, digits.drop whole)

/-- Positional notation; a whole number has a point and a zero behind it, or nothing. -/
def positional (point : Bool) (s : Scientific) : List Char :=
  match s.pieces with
  | (whole, []) => if point then whole ++ ['.', '0'] else whole
  | (whole, fraction) => whole ++ '.' :: fraction

/-- The exponent with its sign and at least `width` digits. -/
def exponentText (width : Nat) (s : Scientific) : List Char :=
  (if s.exponent < 0 then '-' else '+') :: padLeft width (Nat.toDigits 10 s.exponent.natAbs)

/-- Notation with an exponent; a single digit has no point after it. -/
def exponential (s : Scientific) : List Char :=
  let front := match s.digits with
    | d :: e :: ds => d :: '.' :: e :: ds
    | ds => ds
  front ++ 'e' :: s.exponentText 2

end Scientific

/-- The decimal digits that every number of the format keeps. -/
def BinaryFormat.decimals (format : BinaryFormat) : Nat := (format.precision - 1) * 30103 / 100000

/-- How numbers are written: positionally from a ten-thousandth up to below `upper`, with an exponent
otherwise; `point` says whether a whole number in positional notation shows a point. -/
structure NumberLayout where
  upper : Nat
  point : Bool
  deriving DecidableEq, Repr

/-- The layout for single numbers of a format: the narrow formats change to an exponent as soon as not
all digits of a whole number are kept. -/
def NumberLayout.ofFormat (format : BinaryFormat) (point : Bool) : NumberLayout :=
  ⟨Nat.pow 10 (if format.decimals < 8 then format.decimals else 16), point⟩

/-- The number `mantissa * 2 ^ exponent` is less than `num / den`. -/
def magnitudeBelow (mantissa : Nat) (exponent : Int) (num den : Nat) : Bool :=
  (mantissa * den) <<< exponent.toNat < num <<< (-exponent).toNat

/-- The number is written positionally. -/
def NumberLayout.isPositional (layout : NumberLayout) (mantissa : Nat) (exponent : Int) : Bool :=
  mantissa == 0 ||
    magnitudeBelow mantissa exponent layout.upper 1 && !magnitudeBelow mantissa exponent 1 10000

/-- The text of a number of a format in a layout, with the fewest digits that read back as it. -/
def NumberLayout.write (layout : NumberLayout) (format : BinaryFormat) (x : Binary) : String :=
  match x with
  | .finite negative mantissa exponent =>
    let digits := Shortest.ofNumber format mantissa exponent
    let body := if layout.isPositional mantissa exponent then digits.positional layout.point
      else digits.exponential
    String.ofList (if negative then '-' :: body else body)
  | .infinite negative => if negative then "-inf" else "inf"
  | .nan _ => "nan"

/-- The text of a number of a format. -/
def Binary.textIn (format : BinaryFormat) (x : Binary) : String :=
  (NumberLayout.ofFormat format true).write format x

/-- The text of a number as a host number. -/
def Binary.text (x : Binary) : String :=
  (BinaryFormat.double.convert x).textIn BinaryFormat.double

/-- The text of a complex number of a format that has no imaginary part. Nothing but that part is
written for zero. -/
def Binary.complexText (format : BinaryFormat) (x : Binary) : String :=
  match x with
  | .finite false 0 _ => "0j"
  | _ => "(" ++ (NumberLayout.ofFormat format false).write format x ++ "+0j)"

end KernelShader
