/-
`Declaration.lean` -- the declaration line of a function, and checking a whole function:
`parse_declaration`, `declaration_tail` and `validate`.

A declaration is `function`, a name, an opening parenthesis, parameters, and a closing parenthesis, with
whatever follows it on the line. The closing parenthesis is the first one anywhere on the line, which
decides what a line such as `function ) ( a` declares: a function named `)` without parameters.
-/
import KernelShader.Fault
import KernelShader.Line

set_option autoImplicit false

namespace KernelShader

/-- What a declaration line declares, with the tokens after the parameter list. -/
structure Declaration where
  name : String
  params : List String
  tail : Line
  deriving DecidableEq, Repr

namespace Declaration

/-- The tokens in front of the first closing parenthesis. -/
def front (line : Line) : Line := line.takeWhile (· != ")")

/-- The tokens behind the first closing parenthesis. -/
def behind (line : Line) : Line := (line.dropWhile (· != ")")).drop 1

/-- The tokens behind the parameter list, which has to be closed (`declaration_tail`). -/
def tailOf (line : Line) : Except Fault Line :=
  if ")" ∈ line then .ok (behind line) else .error .noClosingParenthesis

/-- Reads a declaration line (`parse_declaration`). -/
def parse (line : Line) : Except Fault Declaration :=
  match line with
  | keyword :: name :: rest =>
    if keyword ≠ "function" then .error (.notDeclaration line.spaced)
    else if rest.head? ≠ some "(" then .error (.missingParenthesis name)
    else if ")" ∉ line then .error (.unclosedParameters name)
    else .ok ⟨name, ((front line).drop 3).filter (· != ","), behind line⟩
  | _ => .error (.notDeclaration line.spaced)

/-! ## Checking a function -/

/-- The line has as many opening as closing brackets of the kind. -/
def balances (bracket : Bracket) (line : Line) : Bool :=
  line.count bracket.opening == line.count bracket.closing

/-- The brackets that do not balance on a line, round ones before square ones. -/
def imbalance? (line : Line) : Option Bracket :=
  [Bracket.round, Bracket.square].find? (!balances · line)

/-- Every line balances; the first that does not is reported under its number. -/
def checkBalance : Nat → List Line → Except Fault Unit
  | _, [] => .ok ()
  | number, line :: rest =>
    match imbalance? line with
    | some bracket => .error (.unbalanced bracket number line.spaced)
    | none => checkBalance (number + 1) rest

/-- Checks the token lines of a function: a declaration that opens its body, if anything, with a brace,
and balanced lines after it (`validate`). -/
def check : List Line → Except Fault Unit
  | [] => .error .emptySource
  | first :: rest => do
    let declaration ← parse first
    match declaration.tail with
    | token :: _ => if token ≠ "\x7b" then throw (.unexpectedTail token declaration.name)
    | [] => pure ()
    checkBalance 1 rest

end Declaration

end KernelShader
