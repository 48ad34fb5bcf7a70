/-
`Operation.lean` -- everything that can be done to a session, as data: a case for each method of
`Session`.

An operation is a request with its arguments, and running it gives an answer or a fault and the session
afterwards, whichever of the two it was. The sessions that can come about at all are those that a list of
operations leads to from a fresh one.
-/
import KernelShader.Session.Add
import KernelShader.Session.Edit
import KernelShader.Session.Run

set_option autoImplicit false

namespace KernelShader.Session

/-- A request to a session. -/
inductive Operation where
  | registerInput (name : String) (data group : Value)
  | registerOutput (name link : String) (data : Value)
  | addFunction (source : String) (returns declared arguments : Value)
  | addEntryPoint (source : String) (size declared : Value)
  | listVariables (function : String)
  | submitEdit (function variableName : String) (type : Value)
  | confirm
  | regenerate
  | build
  | execute (counts : Value)
  | run (counts : Value)
  | readBack (waiting : Waiting)
  | close

/-- What an operation answers. -/
inductive Answer where
  | input (i : Input)
  | output (o : Output)
  | body (text : String)
  | types (table : TypeTable)
  | changed (b : Bool)
  | source (s : ShaderSource)
  | artifact (a : Artifact)
  | readings (r : NameTable Rig.Reading)
  | done
  deriving DecidableEq

/-- Carries out an operation. -/
def perform : Operation → SessionM Answer
  | .registerInput name data group => Answer.input <$> registerInput name data group
  | .registerOutput name link data => Answer.output <$> registerOutput name link data
  | .addFunction source returns declared arguments =>
    Answer.body <$> addFunction source returns declared arguments
  | .addEntryPoint source size declared => Answer.body <$> addEntryPoint source size declared
  | .listVariables function => do
    return .types (← liftExcept ((← get).variableTypes function))
  | .submitEdit function variableName type =>
    Answer.changed <$> submitEdit function variableName type
  | .confirm => Answer.source <$> confirm
  | .regenerate => Answer.source <$> regenerate
  | .build => Answer.artifact <$> build
  | .execute counts => do
    execute counts
    return .done
  | .run counts => Answer.readings <$> run counts
  | .readBack waiting => Answer.readings <$> readBack waiting
  | .close => do
    close
    return .done

/-- The answer to an operation, and the session after it. -/
def answer (s : Session) (operation : Operation) : Except Fault Answer × Session :=
  (perform operation).run.run s

/-- The session after operations, each carried out whether or not those before it failed. -/
def after (s : Session) (operations : List Operation) : Session :=
  operations.foldl (fun s operation => (s.answer operation).2) s

/-- The session comes about from a fresh one by operations. -/
def Reachable (s : Session) : Prop :=
  ∃ config device operations, s = (fresh config device).after operations

end KernelShader.Session
