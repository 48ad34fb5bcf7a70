/-
`Lines.lean` -- the lines of a text, and taking away the indentation they share.

Two notions of line meet here and differ on purpose. Indentation is judged between newline characters
only, and only spaces and tabs indent. The lines handed on afterwards end at any of ten characters, so a
form feed or a line separator ends a line although indentation has not been taken off behind it.
-/
import KernelShader.Text.Blank

set_option autoImplicit false

namespace KernelShader.Text

/-! ## Lines -/

/-- The characters that end a line. The unit separator U+001F does not, though it is a blank. -/
def isLineBreak (c : Char) : Bool :=
  let n := c.toNat
  (10 ≤ n && n ≤ 13) || (28 ≤ n && n ≤ 30) || n == 0x85 || n == 0x2028 || n == 0x2029

/-- The lines of a text without their ends. A carriage return with a newline behind it is one end, and
a text that ends in a line end has no empty line after it. -/
def lines : List Char → List (List Char)
  | [] => []
  | '\r' :: '\n' :: cs => [] :: lines cs
  | c :: cs => if isLineBreak c then [] :: lines cs else extendFirst c (lines cs)

/-! ## Indentation -/

/-- Spaces and tabs indent, nothing else does. -/
def isIndent (c : Char) : Bool :=
  c == ' ' || c == '\t'

/-- A line of nothing but indentation counts as empty. -/
def clearIndentOnly (line : List Char) : List Char :=
  if line.all isIndent then [] else line

/-- The longest common front part of two lists. -/
def commonFront : List Char → List Char → List Char
  | a :: as, b :: bs => if a = b then a :: commonFront as bs else []
  | _, _ => []

/-- The indentation shared by all the lines that hold something, `none` if no line does. -/
def margin : List (List Char) → Option (List Char)
  | [] => none
  | line :: rest =>
    if line.isEmpty then margin rest
    else match margin rest with
      | none => some (line.takeWhile isIndent)
      | some shared => some (commonFront (line.takeWhile isIndent) shared)

/-- Takes `front` off a line that starts with it, and leaves any other line alone. -/
def dropFront (front line : List Char) : List Char :=
  if front.isPrefixOf line then line.drop front.length else line

/-- Takes the shared indentation off the newline-separated lines of a text, and empties the lines that
hold only indentation. -/
def dedent (text : List Char) : List Char :=
  let cleared := (fields (· == '\n') text).map clearIndentOnly
  List.intercalate ['\n'] (cleared.map (dropFront ((margin cleared).getD [])))

end KernelShader.Text
