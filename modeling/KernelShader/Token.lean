/-
`Token.lean` -- tokens on their way from a source line to a shader line: words and `ArrayLiteral`s.

A token is a word of the source line or an array literal that has been collapsed into one token. A
literal is written with the elements that are there, while its length is one more than its commas: the
two differ exactly when a slot between commas is empty.
-/
import KernelShader.ShaderType
import KernelShader.Line

set_option autoImplicit false

namespace KernelShader

/-- A word of a line, or a collapsed array literal with the number of its commas. -/
inductive Token where
  | word (text : String)
  | literal (text : String) (commas : Nat)
  deriving DecidableEq, Repr

namespace Token

/-- The text of a token. -/
def text : Token → String
  | .word text => text
  | .literal text _ => text

/-- The token reads as the given text. -/
def reads (t : Token) (text : String) : Bool := t.text == text

/-- The length that a literal is given, `none` for a word. -/
def length? : Token → Option Nat
  | .word _ => none
  | .literal _ commas => some (commas + 1)

/-- The tokens of a line as words. -/
def ofLine (line : Line) : List Token := line.map .word

/-- The texts of tokens. -/
def toLine (tokens : List Token) : Line := tokens.map text

/-- The slots of a literal: the stretches of its content between commas. -/
def slots : List Token → List (List Token)
  | [] => [[]]
  | t :: ts =>
    if t.reads "," then [] :: slots ts
    else match slots ts with
      | [] => [[t]]
      | first :: rest => (t :: first) :: rest

/-- The array literal with the given content (`ArrayLiteral`). Empty slots count for its length and are not
written. -/
def ofContent (content : List Token) : Token :=
  let elements := ((slots content).filter (!·.isEmpty)).map fun slot => Line.join (toLine slot)
  .literal ("array(" ++ ",".intercalate elements ++ ")") (content.countP (·.reads ","))

end Token

end KernelShader
