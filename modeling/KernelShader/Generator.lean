/-
`Generator.lean` -- the token lines of a function as lines of shader text: `FunctionCodeGenerator` and
`EntryPointGenerator`.

Every line is turned on its own, first the declaration, then the body. A body line goes through the
passes of its dialect; then, the first time a function is read, the names it declares get a type in the
function's type table; then every declaration keyword is written together with its name and the type the
table has for it.

Reading a function fills its table and replaying it leaves the table alone, and that is the only
difference between the two, so a replay with the table that a first reading left behind writes the same
lines.
-/
import KernelShader.Dialect
import KernelShader.Declaration
import KernelShader.Parameter
import KernelShader.ShaderType.Writer

set_option autoImplicit false

namespace KernelShader.Generator

/-- Whether a line may add to the type table. -/
inductive Phase where
  | infer
  | replay
  deriving DecidableEq, Repr

/-- What a function is in the shader: a helper with what it returns, or the entry point with the number
of invocations in a workgroup. -/
inductive Role where
  | helper (returns : Option ShaderType)
  | entry (invocations : Nat)
  deriving DecidableEq, Repr

/-! ## Declarations in a line -/

/-- The shader's word for a declaration keyword. -/
def keyword? (t : Token) : Option String :=
  match t.text with
  | "let" => some "var"
  | "var" => some "var"
  | "const" => some "let"
  | _ => none

/-- The text without the semicolons at its end. -/
def dropSemicolons (text : String) : String :=
  String.ofList (text.toList.reverse.dropWhile (· == ';')).reverse

/-- Without one semicolon at the end. -/
def dropFinalSemicolon (tokens : List Token) : List Token :=
  if (tokens.getLast?.map (·.reads ";")).getD false then tokens.dropLast else tokens

/-- The tokens assign a component of the invocation id and nothing more (`_is_invocation_component`). -/
def isInvocationComponent (tokens : List Token) : Bool :=
  match (dropFinalSemicolon tokens).map Token.text with
  | [equals, id, point, component] =>
    equals == "=" && id == "id" && point == "."
      && ["x", "y", "z"].contains (dropSemicolons component)
  | _ => false

/-- The names that an array literal of the line is assigned to, with the type of the literal. -/
def literalTargets : List Token → List (String × ShaderType)
  | name :: equals :: value :: rest =>
    let found := match value with
      | .literal _ commas => if equals.reads "=" then [(name.text, .ofCommas commas)] else []
      | .word _ => []
    found ++ literalTargets (equals :: value :: rest)
  | _ => []

/-- The names that a keyword of the line declares, with the type they have without a literal. -/
def declaredNames : List Token → List (String × ShaderType)
  | key :: name :: rest =>
    let found := match keyword? key with
      | some _ => [(name.text, if isInvocationComponent rest then .u32 else .f32)]
      | none => []
    found ++ declaredNames (name :: rest)
  | _ => []

/-- The types that a line gives to names: the last literal assigned to a name decides, and only without
one the first declaration. -/
def lineTypes (tokens : List Token) : TypeTable :=
  (NameTable.ofEntries (literalTargets tokens)).insertAllNew (declaredNames tokens)

/-- Adds the names of a line to the table (`_register_line_types`). A name that is there already keeps its
type. -/
def register (types : TypeTable) (tokens : List Token) : TypeTable :=
  types.insertAllNew (lineTypes tokens).entries

/-! ## Writing a line -/

/-- A declaration keyword with its name and type. -/
def typedName (key name : String) (type : ShaderType) : String :=
  key ++ " " ++ name ++ ": " ++ type.text

/-- Writes declaration keywords in the shader's words, with name and type where the table has the name
(`_rewrite`). A keyword at the very end of a line stays as it is. -/
def withTypes (types : TypeTable) : List Token → Line
  | key :: name :: rest =>
    match keyword? key with
    | some word =>
      match types.get? name.text with
      | some type => typedName word name.text type :: withTypes types rest
      | none => word :: withTypes types (name :: rest)
    | none => key.text :: withTypes types (name :: rest)
  | [t] => [t.text]
  | [] => []

/-- A directive such as `'use strict'` has no counterpart in a shader. -/
def isDirective (token : String) : Bool :=
  token == "'use" || token == "\"use"

/-- The tokens a body line is written from, `none` if the line is a lone token or a directive, which are
not looked at. -/
def prepared? (dialect : Dialect) (line : Line) : Option (List Token) :=
  if line.length = 1 || line.any isDirective then none
  else some (dialect.prepare (Token.ofLine line))

/-- The text of a body line under a table. -/
def bodyText (dialect : Dialect) (types : TypeTable) (line : Line) : String :=
  match line with
  | [token] => token
  | _ =>
    match prepared? dialect line with
    | some tokens => Line.join (withTypes types tokens)
    | none => ""

/-- The table after a body line. -/
def bodyTypes (dialect : Dialect) (phase : Phase) (types : TypeTable) (line : Line) : TypeTable :=
  match phase, prepared? dialect line with
  | .infer, some tokens => register types tokens
  | _, _ => types

/-- A body line: its text, written after its names have got their types, and the table it leaves. -/
def bodyLine (dialect : Dialect) (phase : Phase) (types : TypeTable) (line : Line) :
    String × TypeTable :=
  let after := bodyTypes dialect phase types line
  (bodyText dialect after line, after)

/-! ## Writing types -/

/-- A parameter or variable with its type. -/
def parameterText (types : TypeTable) (name : String) : Except Fault String :=
  match types.get? name with
  | some type => type.write.map (name ++ ": " ++ ·)
  | none => .error (.untypedParameter name)

/-- The names that `withTypes` takes together with the keyword in front of them and gives a type. -/
def typedNames (types : TypeTable) : List Token → List String
  | key :: name :: rest =>
    if (keyword? key).isSome && types.contains name.text then name.text :: typedNames types rest
    else typedNames types (name :: rest)
  | _ => []

/-- The names that a body line writes with a type. -/
def lineNames (dialect : Dialect) (types : TypeTable) (line : Line) : List String :=
  (prepared? dialect line).elim [] (typedNames types)

/-- A body line, if every type in it can be written (`_gen_body_line`). -/
def writeLine (dialect : Dialect) (phase : Phase) (types : TypeTable) (line : Line) :
    Except Fault (String × TypeTable) := do
  let (text, after) := bodyLine dialect phase types line
  let _ ← (lineNames dialect after line).mapM (parameterText after)
  return (text, after)

/-! ## The declaration line -/

/-- The parameter by which an entry point knows its invocation. -/
def invocationParameter : String := "@builtin(global_invocation_id) id: vec3<u32>"

/-- What a helper returns. -/
def returnText : Option ShaderType → Except Fault String
  | some type => type.write
  | none => .ok "None"

/-- The head of a function: its name, its typed parameters and its place in the shader
(`_declaration_head`, with `_param_list`). -/
def headText (role : Role) (types : TypeTable) (declaration : Declaration) : Except Fault String :=
  match role with
  | .helper returns => do
    let params ← declaration.params.mapM (parameterText types)
    let result ← returnText returns
    return "fn " ++ declaration.name ++ "(" ++ ", ".intercalate params ++ ") -> " ++ result
  | .entry invocations => do
    let size ← Numeral.write invocations
    let params ← declaration.params.mapM (parameterText types)
    return "@compute @workgroup_size(" ++ size ++ ") fn " ++ declaration.name ++ "("
      ++ ", ".intercalate (params ++ [invocationParameter]) ++ ")"

/-- A brace and the text behind it, if there is any. -/
def braced (body : String) : String :=
  " \x7b" ++ (if body.isEmpty then "" else " " ++ body)

/-- What follows the head on the declaration line: if the line goes on after the parameters, a brace and
what follows the first token behind them as a body line. -/
def writeTail (dialect : Dialect) (phase : Phase) (types : TypeTable) :
    Line → Except Fault (String × TypeTable)
  | [] => .ok ("", types)
  | [_] => .ok (" \x7b", types)
  | _ :: rest => do
    let (body, after) ← writeLine dialect phase types rest
    return (braced body, after)

/-- The declaration line: the head and what follows it (`_gen_declaration`). -/
def declarationLine (dialect : Dialect) (phase : Phase) (role : Role) (types : TypeTable)
    (line : Line) : Except Fault (String × TypeTable) := do
  let declaration ← Declaration.parse line
  let head ← headText role types declaration
  let (tail, after) ← writeTail dialect phase types declaration.tail
  return (head ++ tail, after)

/-! ## Whole functions -/

/-- The body lines of a function, the table going from each to the next. -/
def writeLines (dialect : Dialect) (phase : Phase) :
    TypeTable → List Line → Except Fault (List String × TypeTable)
  | types, [] => .ok ([], types)
  | types, line :: rest => do
    let (text, types) ← writeLine dialect phase types line
    let (texts, types) ← writeLines dialect phase types rest
    return (text :: texts, types)

/-- The lines of a function, the first of which is its declaration, and the table they leave. -/
def generate (dialect : Dialect) (phase : Phase) (role : Role) (types : TypeTable) :
    List Line → Except Fault (List String × TypeTable)
  | [] => .ok ([], types)
  | first :: rest => do
    let (head, types) ← declarationLine dialect phase role types first
    let (body, types) ← writeLines dialect phase types rest
    return (head :: body, types)

end KernelShader.Generator
