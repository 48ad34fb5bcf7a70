/-
`Quoted.lean` -- a text in quotes, the way messages and token dumps show it.

Single quotes, unless the text holds a single quote and no double quote. Inside, the chosen quote and the
backslash get a backslash, three controls have a letter, and a character without a printed form is shown
by its code in two, four or eight hexadecimal digits, the fewest that fit.
-/
import KernelShader.Text.Printable

set_option autoImplicit false

namespace KernelShader.Text

/-- The low `width` hexadecimal digits of `n`, high digit first. -/
def hexDigits : Nat → Nat → List Char
  | 0, _ => []
  | width + 1, n => hexDigits width (n / 16) ++ [Nat.digitChar (n % 16)]

/-- The code of a character without a printed form. -/
def codeEscape (c : Char) : List Char :=
  let n := c.toNat
  if n < 0x100 then '\\' :: 'x' :: hexDigits 2 n
  else if n < 0x10000 then '\\' :: 'u' :: hexDigits 4 n
  else '\\' :: 'U' :: hexDigits 8 n

/-- One character inside quotes of the kind `mark`. -/
def quotedChar (mark c : Char) : List Char :=
  if c = mark || c = '\\' then ['\\', c]
  else if c = '\t' then ['\\', 't']
  else if c = '\n' then ['\\', 'n']
  else if c = '\r' then ['\\', 'r']
  else if isPrintable c then [c]
  else codeEscape c

/-- The quote a text is put in. -/
def quoteMark (cs : List Char) : Char :=
  if cs.contains '\'' && !cs.contains '"' then '"' else '\''

/-- The characters of a quoted text, quotes included. -/
def quotedChars (cs : List Char) : List Char :=
  let mark := quoteMark cs
  mark :: cs.flatMap (quotedChar mark) ++ [mark]

/-- A text in quotes. -/
def quoted (text : String) : String :=
  String.ofList (quotedChars text.toList)

/-- Texts in quotes, in square brackets. -/
def quotedList (texts : List String) : String :=
  "[" ++ ", ".intercalate (texts.map quoted) ++ "]"

end KernelShader.Text
