/-
`Family.lean` -- the families of fault that a caller can name.

A family has a name, and the names under which it may be caught, from its own outward. A fault of a family
can be made from any values; its text is what is shown of them. Two families show the first value only,
and a missing device always comes with advice.
-/
import KernelShader.Fault

set_option autoImplicit false

namespace KernelShader

/-- The families of fault, `general` around all others. -/
inductive Family where
  | general
  | deviceUnavailable
  | unsupportedType
  | malformedSource
  | unknownLink
  | unknownVariable
  | compileFailed
  | layoutMismatch
  deriving DecidableEq, Repr

namespace Family

/-- All families. -/
def all : List Family :=
  [.general, .deviceUnavailable, .unsupportedType, .malformedSource, .unknownLink, .unknownVariable,
   .compileFailed, .layoutMismatch]

/-- The name of a family. -/
def name : Family → String
  | .general => "PyWGSLError"
  | .deviceUnavailable => "DeviceUnavailable"
  | .unsupportedType => "UnsupportedType"
  | .malformedSource => "MalformedSource"
  | .unknownLink => "UnknownLink"
  | .unknownVariable => "UnknownVariable"
  | .compileFailed => "CompileError"
  | .layoutMismatch => "LayoutMismatch"

/-- The family of a name. -/
def ofName? (name : String) : Option Family := all.find? (·.name == name)

/-- The general sorts of failure that a family counts as besides. -/
def sorts : Family → List String
  | .deviceUnavailable => ["RuntimeError"]
  | .unsupportedType => ["TypeError"]
  | .malformedSource => ["ValueError"]
  | .unknownLink | .unknownVariable => ["KeyError", "LookupError"]
  | .general | .compileFailed | .layoutMismatch => []

/-- The names under which a fault of a family may be caught, from the narrowest to the widest. -/
def caughtAs (f : Family) : List String :=
  (if f = .general then [] else [f.name]) ++ [general.name] ++ f.sorts ++ ["Exception", "BaseException"]

/-- The family of a kind of fault, if it belongs to one. -/
def ofKind? : FaultKind → Option Family
  | .malformedSource => some .malformedSource
  | .unsupportedType => some .unsupportedType
  | .unknownLink => some .unknownLink
  | .unknownVariable => some .unknownVariable
  | .compileFailed => some .compileFailed
  | .layoutMismatch => some .layoutMismatch
  | .deviceUnavailable => some .deviceUnavailable
  | _ => none

/-! ## Faults made from values -/

/-- What is shown of values: nothing of none, the value itself of one, all in brackets of several. -/
def valuesText : List Value → String
  | [] => ""
  | [v] => v.plain
  | vs => Value.tupleText (Value.shownAll vs)

/-- The reason that goes with a missing device: a single value, or an empty text. More are refused. -/
def reasonOf : List Value → Except Fault Value
  | [] => .ok (.text "")
  | [v] => .ok v
  | _ => .error .tooManyValues

/-- The reason is not worth mentioning. Of an array that can only be asked if it has a single number. -/
def isIdle : Value → Except Fault Bool
  | .array a =>
    match a.cells with
    | [] => .error .truthOfNone
    | [c] => .ok c.isZero
    | _ => .error .truthOfMany
  | v => .ok v.isVoid

/-- A value put into a text. An array without axes goes in as its number. -/
def inserted : Value → String
  | .array a =>
    match a.shape, a.cells with
    | [], [c] => c.insertedText a.element
    | _, _ => a.plainText
  | v => v.plain

/-- The reason that a fault of the family made from values carries. -/
def reason? (f : Family) (values : List Value) : Except Fault (Option Value) :=
  match f with
  | .deviceUnavailable => (reasonOf values).map some
  | _ => .ok none

/-- The text of a fault of the family made from values. -/
def text (f : Family) (values : List Value) : Except Fault String :=
  match f with
  | .deviceUnavailable => do
    let reason ← reasonOf values
    return unavailableText (if ← isIdle reason then "" else inserted reason)
  | .unknownLink | .unknownVariable => .ok (valuesText (values.take 1))
  | _ => .ok (valuesText values)

end Family

end KernelShader
