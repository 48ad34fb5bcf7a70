/-
`Source.lean` -- source text as token lines, and files of several functions: `tokenize` and
`split_functions`.

The token lines of a text are its non-empty lines after the shared indentation is gone. A file holds one
function after the other; each starts at a line that begins with the word `function` and reaches to the
next such line. What stands before the first belongs to none.
-/
import KernelShader.Text.Lines
import KernelShader.Text.WordChar
import KernelShader.Line

set_option autoImplicit false

namespace KernelShader.Source

open Text

/-- The lines of a text without the indentation they share. -/
def bareLines (text : String) : List (List Char) :=
  lines (dedent text.toList)

/-- The token lines of a text (`tokenize`); lines without tokens do not count. -/
def tokenLines (text : String) : List Line :=
  ((bareLines text).map fun cs => (Line.splitChars cs).map String.ofList).filter (!·.isEmpty)

/-! ## Several functions -/

/-- The line begins with `function` as a whole word. -/
def startsFunction (line : List Char) : Bool :=
  let word := "function".toList
  word.isPrefixOf line && match line.drop word.length with
    | [] => true
    | c :: _ => !isWordChar c

/-- Groups lines into functions, from the last line back: the second part holds the functions found so
far, the first the lines that belong to a function whose start is still to come. -/
def groupLines : List (List Char) → List (List Char) × List (List (List Char))
  | [] => ([], [])
  | line :: rest =>
    let (pending, functions) := groupLines rest
    if startsFunction line then ([], (line :: pending) :: functions) else (line :: pending, functions)

/-- The text of each function of a file (`split_functions`). -/
def functions (text : String) : List String :=
  (groupLines (bareLines text)).2.map fun chunk =>
    String.ofList (trimRight (List.intercalate ['\n'] chunk))

end KernelShader.Source
