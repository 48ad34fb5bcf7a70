/-
`Line.lean` -- a source line as tokens: cutting it up, `split_line`, and writing it again, `join_tokens`.

There is no grammar. A line is cut at blanks, and the words between at the six delimiters
`( ) [ ] , .`, which stay as tokens of their own. Writing puts a blank after every token except around a
point, so that member access stays tight; cutting undoes that, because neither blanks nor points can hide
inside a token.
-/
import KernelShader.Text.Blank

set_option autoImplicit false

namespace KernelShader

/-- The tokens of one line. -/
abbrev Line := List String

namespace Line

open Text

/-! ## Cutting -/

/-- The characters that are tokens of their own. -/
def isDelimiter (c : Char) : Bool :=
  c == '(' || c == ')' || c == '[' || c == ']' || c == ',' || c == '.'

/-- Cuts a word at its delimiters and keeps them; stretches between may be empty. -/
def pieces : List Char → List (List Char)
  | [] => [[]]
  | c :: cs => if isDelimiter c then [] :: [c] :: pieces cs else extendFirst c (pieces cs)

/-- The tokens of a line of characters. -/
def splitChars (cs : List Char) : List (List Char) :=
  ((words cs).flatMap pieces).filter (!·.isEmpty)

/-- The tokens of a line of text (`split_line`). -/
def split (text : String) : Line :=
  (splitChars text.toList).map String.ofList

/-! ## Writing -/

/-- The tokens in a row, a blank after each that neither is a point nor stands before one. -/
def spread : List (List Char) → List Char
  | [] => []
  | [t] => if t = ['.'] then t else t ++ [' ']
  | t :: u :: ts => (if t = ['.'] || u = ['.'] then t else t ++ [' ']) ++ spread (u :: ts)

/-- The text of a line of tokens: spread out, without blanks at the end (`join_tokens`). -/
def join (line : Line) : String :=
  String.ofList (trimRight (spread (line.map String.toList)))

/-- The tokens with single blanks between, as messages show a line. -/
def spaced (line : Line) : String :=
  " ".intercalate line

end Line

end KernelShader
