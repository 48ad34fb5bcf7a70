/-
`Blank.lean` -- blank characters, and cutting text at characters of a class.

Everything the reader of kernel source does with space goes through one set of blanks: the ASCII
controls from tab to carriage return, the four separators U+001C to U+001F, space, next line, and the
space characters of the general category Z. The zero-width space and the byte order mark are not in it,
so they stay inside the word they stand in.

All functions work on `List Char`, by recursion on the list, because what is proved about tokens is
proved by the same recursion.
-/

set_option autoImplicit false

namespace KernelShader.Text

/-! ## The set of blanks -/

/-- The characters that separate words. -/
def isBlank (c : Char) : Bool :=
  let n := c.toNat
  (9 ≤ n && n ≤ 13) || (28 ≤ n && n ≤ 32) || n == 0x85 || n == 0xA0 || n == 0x1680
    || (0x2000 ≤ n && n ≤ 0x200A) || n == 0x2028 || n == 0x2029 || n == 0x202F || n == 0x205F
    || n == 0x3000

/-! ## Trimming -/

/-- Drops the blanks in front. -/
def trimLeft (cs : List Char) : List Char :=
  cs.dropWhile isBlank

/-- Drops the blanks at the end. -/
def trimRight (cs : List Char) : List Char :=
  (cs.reverse.dropWhile isBlank).reverse

/-- Drops the blanks on both sides. -/
def trim (cs : List Char) : List Char :=
  trimRight (trimLeft cs)

/-! ## Fields and words

`fields` keeps every stretch between two separators, empty ones too, so a text with `n` separators has
`n + 1` fields. `words` are the fields between blanks that hold something. -/

/-- Puts `c` in front of the first stretch of a list of stretches. -/
def extendFirst (c : Char) : List (List Char) → List (List Char)
  | [] => [[c]]
  | first :: rest => (c :: first) :: rest

/-- The stretches of the text between the characters that satisfy `separates`. -/
def fields (separates : Char → Bool) : List Char → List (List Char)
  | [] => [[]]
  | c :: cs => if separates c then [] :: fields separates cs else extendFirst c (fields separates cs)

/-- The non-empty stretches between blanks. -/
def words (cs : List Char) : List (List Char) :=
  (fields isBlank cs).filter (!·.isEmpty)

end KernelShader.Text
