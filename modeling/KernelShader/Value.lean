/-
`Value.lean` -- the values a caller may hand over where a shape has to be checked first.

Workgroup sizes, dispatch counts, type tables, call-site arguments and the data of buffers come from the
host program as they are. Each place accepts a few shapes of value and refuses the rest with a message
that names or shows what it got, so a value can be shown, named and walked through.
-/
import KernelShader.HostArray.Text
import KernelShader.Text.Quoted

set_option autoImplicit false

namespace KernelShader

/-- A value of the host program. -/
inductive Value where
  | none
  | bool (b : Bool)
  | int (n : Int)
  | real (x : Binary)
  | text (s : String)
  | list (items : List Value)
  | tuple (items : List Value)
  | table (entries : List (String × Value))
  | array (a : HostArray)
  | cell (element : HostElement) (c : Cell)
  | type (t : ShaderType)
  deriving Inhabited

namespace Value

/-- The name of a value's kind. -/
def kindName : Value → String
  | .none => "NoneType"
  | .bool _ => "bool"
  | .int _ => "int"
  | .real _ => "float"
  | .text _ => "str"
  | .list _ => "list"
  | .tuple _ => "tuple"
  | .table _ => "dict"
  | .array _ => "ndarray"
  | .cell element _ => element.word
  | .type (.scalar _) => "Scalar"
  | .type (.array ..) => "Array"

/-- A truth value as it is shown. -/
def boolText (b : Bool) : String := if b then "True" else "False"

/-- A shader type as it is shown among host values. -/
def typeText : ShaderType → String
  | .scalar kind => "Scalar(kind='" ++ kind.word ++ "')"
  | .array element length _ =>
    "Array(element=Scalar(kind='" ++ element.word ++ "'), length=" ++ toString length ++ ")"

/-- Several shown values in round brackets; a single one keeps a comma. -/
def tupleText : List String → String
  | [item] => "(" ++ item ++ ",)"
  | items => "(" ++ ", ".intercalate items ++ ")"

mutual

/-- A value as it is shown: texts in quotes, containers in their brackets. -/
def shown : Value → String
  | .none => "None"
  | .bool b => boolText b
  | .int n => toString n
  | .real x => x.text
  | .text s => Text.quoted s
  | .list items => "[" ++ ", ".intercalate (shownAll items) ++ "]"
  | .tuple items => tupleText (shownAll items)
  | .table entries => "\x7b" ++ ", ".intercalate (shownEntries entries) ++ "\x7d"
  | .array a => a.text
  | .cell element c => c.typedText element
  | .type t => typeText t

/-- Every value of a list as it is shown. -/
def shownAll : List Value → List String
  | [] => []
  | v :: vs => v.shown :: shownAll vs

/-- Every entry of a table as it is shown. -/
def shownEntries : List (String × Value) → List String
  | [] => []
  | (key, v) :: entries => (Text.quoted key ++ ": " ++ v.shown) :: shownEntries entries

end

/-- A value as plain text: a text is itself, a type its shader text. -/
def plain : Value → String
  | .text s => s
  | .type t => t.text
  | .cell element c => c.scalarText element
  | .array a => a.plainText
  | v => v.shown

/-- The values met by walking through a value, `none` if it cannot be walked through. A text gives its
characters, a table its names. -/
def items? : Value → Option (List Value)
  | .list items => some items
  | .tuple items => some items
  | .text s => some (s.toList.map fun c => .text (String.singleton c))
  | .table entries => some (entries.map fun (key, _) => .text key)
  | .array a =>
    match a.shape with
    | [_] => some (a.cells.map (.cell a.element))
    | _ => a.rows?.map (·.map .array)
  | _ => Option.none

/-- The value is a number. Truth values are not, though they count as integers elsewhere. -/
def isNumber : Value → Bool
  | .int _ => true
  | .real _ => true
  | .cell element _ => element.family != .boolean
  | _ => false

/-- The integer that a value is; truth values are the integers zero and one. -/
def int? : Value → Option Int
  | .int n => some n
  | .bool b => some (if b then 1 else 0)
  | _ => Option.none

/-- The value stands for nothing: the absent value, falsehood, zero, and whatever is empty. -/
def isVoid : Value → Bool
  | .none => true
  | .bool b => !b
  | .int n => n == 0
  | .real (.finite _ mantissa _) => mantissa == 0
  | .text s => s.isEmpty
  | .list items => items.isEmpty
  | .tuple items => items.isEmpty
  | .table entries => entries.isEmpty
  | _ => false

end Value

end KernelShader
