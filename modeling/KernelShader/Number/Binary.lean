/-
`Binary.lean` -- binary floating-point numbers as exact data, and rounding into a format.

A finite number is a mantissa times a power of two, held as the two integers, so everything done to it
here is integer arithmetic and nothing is lost on the way. A format bounds the two; the only place where
a value changes is `BinaryFormat.round`, which takes an exact quotient to the nearest number of the
format and an exact half to the even mantissa.
-/

set_option autoImplicit false

namespace KernelShader

/-- A binary floating-point number. The finite ones are `± mantissa * 2 ^ exponent`. -/
inductive Binary where
  | finite (negative : Bool) (mantissa : Nat) (exponent : Int)
  | infinite (negative : Bool)
  | nan (negative : Bool)
  deriving DecidableEq, Repr

/-- A format: its finite numbers have a mantissa below `2 ^ precision` and an exponent between the two
bounds, and either the mantissa has its top bit set or the exponent is the least one. -/
structure BinaryFormat where
  precision : Nat
  minExponent : Int
  maxExponent : Int
  deriving DecidableEq, Repr

/-- The 32-bit format of shader numbers. -/
def BinaryFormat.single : BinaryFormat := ⟨24, -149, 104⟩

/-- The 64-bit format of host numbers. -/
def BinaryFormat.double : BinaryFormat := ⟨53, -1074, 971⟩

/-- The 16-bit format, which occurs in host arrays only. -/
def BinaryFormat.half : BinaryFormat := ⟨11, -24, 5⟩

/-! ## Rounding -/

/-- The integer nearest to `num / den`, the even one of two that are equally near. -/
def roundHalfEven (num den : Nat) : Nat :=
  let quotient := num / den
  let rest := num % den
  if 2 * rest < den then quotient
  else if den < 2 * rest then quotient + 1
  else if quotient % 2 = 0 then quotient else quotient + 1

/-- The exponent of the greatest power of two that is at most `num / den`, for positive arguments. -/
def floorLogTwo (num den : Nat) : Int :=
  let estimate : Int := (Nat.log2 num : Int) - (Nat.log2 den : Int)
  if num <<< (-estimate).toNat < den <<< estimate.toNat then estimate - 1 else estimate

/-- The number of the format nearest to `num / den`, with the given sign. -/
def BinaryFormat.round (format : BinaryFormat) (negative : Bool) (num den : Nat) : Binary :=
  if num = 0 then .finite negative 0 format.minExponent
  else
    let exponent := max format.minExponent (floorLogTwo num den - (format.precision - 1))
    let mantissa := roundHalfEven (num <<< (-exponent).toNat) (den <<< exponent.toNat)
    -- rounding up may reach the next power of two
    let (mantissa, exponent) :=
      if mantissa = 1 <<< format.precision then (mantissa / 2, exponent + 1) else (mantissa, exponent)
    if format.maxExponent < exponent then .infinite negative else .finite negative mantissa exponent

/-- Rounds a number of any format into this one. -/
def BinaryFormat.convert (format : BinaryFormat) : Binary → Binary
  | .finite negative mantissa exponent =>
    format.round negative (mantissa <<< exponent.toNat) (1 <<< (-exponent).toNat)
  | .infinite negative => .infinite negative
  | .nan negative => .nan negative

/-- Rounds an integer into the format. -/
def BinaryFormat.ofInt (format : BinaryFormat) (n : Int) : Binary :=
  format.round (n < 0) n.natAbs 1

/-- The integer part, cut toward zero. Infinities and NaN have none and give zero. -/
def Binary.truncate : Binary → Int
  | .finite negative mantissa exponent =>
    let magnitude : Int := (mantissa <<< exponent.toNat >>> (-exponent).toNat : Nat)
    if negative then -magnitude else magnitude
  | .infinite _ => 0
  | .nan _ => 0

/-! ## 32-bit words

The exponent field of a word counts from the least exponent, and the leading bit of a full mantissa adds
one to it, so the fields of a finite number are one sum. -/

/-- The word of a number of the 32-bit format. -/
def Binary.toWord (x : Binary) : UInt32 :=
  let signed (negative : Bool) (magnitude : Nat) : UInt32 :=
    UInt32.ofNat (magnitude + if negative then 0x80000000 else 0)
  match x with
  | .finite negative mantissa exponent =>
    signed negative ((exponent - BinaryFormat.single.minExponent).toNat * 0x800000 + mantissa)
  | .infinite negative => signed negative 0x7F800000
  | .nan negative => signed negative 0x7FC00000

/-- The number a word of the 32-bit format stands for. -/
def Binary.ofWord (word : UInt32) : Binary :=
  let negative : Bool := 0x80000000 ≤ word.toNat
  let field : Nat := word.toNat / 0x800000 % 0x100
  let fraction : Nat := word.toNat % 0x800000
  if field = 255 then (if fraction = 0 then .infinite negative else .nan negative)
  else if field = 0 then .finite negative fraction BinaryFormat.single.minExponent
  else .finite negative (0x800000 + fraction) (BinaryFormat.single.minExponent + field - 1)

end KernelShader
