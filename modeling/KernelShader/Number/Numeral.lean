/-
`Numeral.lean` -- reading integers and decimal fractions from text.

Numerals may stand between blanks, carry a sign, use the decimal digits of any script, and have single
underscores between digits. The four separators U+001C to U+001F are blanks between words but not around
numerals. Fractions also know `inf`, `infinity` and `nan` in any case.

A decimal is read exactly, as digits and a power of ten, and rounded once.
-/
import KernelShader.Text.Blank
import KernelShader.Text.Digit
import KernelShader.Number.Binary

set_option autoImplicit false

namespace KernelShader.Numeral

open Text

/-! ## Preparing the text -/

/-- The blanks that may stand around a numeral. -/
def isSpace (c : Char) : Bool :=
  isBlank c && !(28 ≤ c.toNat && c.toNat ≤ 31)

/-- Drops the spaces on both sides. -/
def trimSpace (cs : List Char) : List Char :=
  ((cs.dropWhile isSpace).reverse.dropWhile isSpace).reverse

/-- A digit of any script as the ASCII digit of its value. -/
def plainDigit (c : Char) : Char :=
  match digitValue? c with
  | some value => Nat.digitChar value
  | none => c

/-- Takes out the underscores, each of which has to stand between two digits. The flag says whether the
character before was a digit. -/
def dropUnderscores : Bool → List Char → Option (List Char)
  | _, [] => some []
  | afterDigit, c :: cs =>
    if c = '_' then
      match cs with
      | d :: _ => if afterDigit && d.isDigit then dropUnderscores false cs else none
      | [] => none
    else (dropUnderscores c.isDigit cs).map (c :: ·)

/-- A numeral's text without space and underscores, in ASCII digits. -/
def plain? (cs : List Char) : Option (List Char) :=
  dropUnderscores false ((trimSpace cs).map plainDigit)

/-- Splits off a sign; `true` is minus. -/
def splitSign : List Char → Bool × List Char
  | '-' :: cs => (true, cs)
  | '+' :: cs => (false, cs)
  | cs => (false, cs)

/-- The value of a run of ASCII digits. -/
def digitsValue (cs : List Char) : Nat :=
  cs.foldl (fun n c => 10 * n + (c.toNat - '0'.toNat)) 0

/-! ## Integers -/

/-- The most digits an integer may have in text. -/
def maxDigits : Nat := 4300

/-- Reads an integer of at most `maxDigits` digits. -/
def readInt? (text : String) : Option Int := do
  let cs ← plain? text.toList
  let (negative, digits) := splitSign cs
  if digits.isEmpty || !digits.all Char.isDigit || maxDigits < digits.length then none
  else
    let magnitude : Int := digitsValue digits
    some (if negative then -magnitude else magnitude)

/-- Writes an integer, if it has at most `maxDigits` digits. -/
def writeInt? (n : Int) : Option String :=
  if n.natAbs < Nat.pow 10 maxDigits then some (toString n) else none

/-! ## Decimals -/

/-- The decimal `± digits * 10 ^ exponent`. -/
structure Decimal where
  negative : Bool
  digits : Nat
  exponent : Int
  deriving DecidableEq, Repr

/-- The host number nearest to a decimal. The two bounds on the position of the leading digit lie
outside the format on both sides, and keep the powers of ten small. -/
def Decimal.toBinary (d : Decimal) : Binary :=
  let lead : Int := (Nat.toDigits 10 d.digits).length + d.exponent
  if d.digits = 0 || lead < -330 then .finite d.negative 0 BinaryFormat.double.minExponent
  else if 310 < lead then .infinite d.negative
  else BinaryFormat.double.round d.negative (d.digits * Nat.pow 10 d.exponent.toNat)
    (Nat.pow 10 (-d.exponent).toNat)

/-- Reads an exponent part: nothing, or `e`, a sign and digits. -/
def readExponent? : List Char → Option Int
  | [] => some 0
  | c :: cs =>
    let (negative, digits) := splitSign cs
    if (c = 'e' || c = 'E') && !digits.isEmpty && digits.all Char.isDigit then
      let magnitude : Int := digitsValue digits
      some (if negative then -magnitude else magnitude)
    else none

/-- Reads digits with an optional point and an optional exponent part. -/
def readDecimal? (negative : Bool) (cs : List Char) : Option Decimal := do
  let whole := cs.takeWhile Char.isDigit
  let (fraction, rest) := match cs.dropWhile Char.isDigit with
    | '.' :: tail => (tail.takeWhile Char.isDigit, tail.dropWhile Char.isDigit)
    | tail => ([], tail)
  if whole.isEmpty && fraction.isEmpty then none
  else
    let exponent ← readExponent? rest
    some ⟨negative, digitsValue (whole ++ fraction), exponent - fraction.length⟩

/-- Reads a host number. -/
def readBinary? (text : String) : Option Binary := do
  let cs ← plain? text.toList
  let (negative, body) := splitSign cs
  let word := String.ofList (body.map Char.toLower)
  if word = "inf" || word = "infinity" then some (.infinite negative)
  else if word = "nan" then some (.nan negative)
  else (readDecimal? negative body).map Decimal.toBinary

end KernelShader.Numeral
