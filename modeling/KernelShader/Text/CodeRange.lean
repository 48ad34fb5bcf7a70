/-
`CodeRange.lean` -- character classes given as lists of code point ranges.

A Unicode property is a set of code points, and the published tables list it as ranges with both ends
included. The classes of this library that go beyond a handful of characters (decimal digits, word
characters, characters without a printed form) are such lists; this file says what being in one means.
-/

set_option autoImplicit false

namespace KernelShader.Text

/-- A run of code points, both ends included. -/
structure CodeRange where
  first : Nat
  last : Nat
  deriving DecidableEq, Repr

/-- The range holds the code point of `c`. -/
def CodeRange.contains (range : CodeRange) (c : Char) : Bool :=
  range.first ≤ c.toNat && c.toNat ≤ range.last

/-- Reads a table written as pairs of ends. -/
def CodeRange.table (ends : List (Nat × Nat)) : List CodeRange :=
  ends.map fun (first, last) => ⟨first, last⟩

/-- Some range of the table holds the code point of `c`. -/
def CodeRange.covers (ranges : List CodeRange) (c : Char) : Bool :=
  ranges.any (·.contains c)

end KernelShader.Text
