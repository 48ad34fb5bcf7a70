/-
`ShaderType.lean` -- the types a shader variable can have, `Scalar` and `Array`, and their text.

A scalar of one of three kinds, or an array of such scalars with a fixed, positive length. The length
comes from counting commas in a literal, never from the size of a host value, and counting starts at one,
so positivity is part of the type.
-/

set_option autoImplicit false

namespace KernelShader

/-- The scalar kinds. -/
inductive ScalarKind where
  | f32
  | i32
  | u32
  deriving DecidableEq, Repr

/-- The word of a scalar kind. -/
def ScalarKind.word : ScalarKind → String
  | .f32 => "f32"
  | .i32 => "i32"
  | .u32 => "u32"

/-- All scalar kinds, in the order in which they are listed. -/
def ScalarKind.all : List ScalarKind := [.f32, .i32, .u32]

/-- The scalar kind of a word. -/
def ScalarKind.ofWord? (word : String) : Option ScalarKind :=
  ScalarKind.all.find? (·.word == word)

/-- The type of a shader variable. -/
inductive ShaderType where
  | scalar (kind : ScalarKind)
  | array (element : ScalarKind) (length : Nat) (positive : 0 < length)
  deriving DecidableEq, Repr

namespace ShaderType

/-- The plain number type, which everything without better knowledge gets. -/
def f32 : ShaderType := .scalar .f32

/-- The type of a component of the invocation id. -/
def u32 : ShaderType := .scalar .u32

/-- The array of numbers whose literal has the given number of commas. -/
def ofCommas (commas : Nat) : ShaderType := .array .f32 (commas + 1) commas.succ_pos

/-- The text of a type. -/
def text : ShaderType → String
  | .scalar kind => kind.word
  | .array element length _ => "array<" ++ element.word ++ "," ++ toString length ++ ">"

end ShaderType

end KernelShader
