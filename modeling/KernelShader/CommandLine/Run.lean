/-
`Run.lean` -- what the program does with its settings: `main` and `translate`.

The source is cut into functions, one of which is the entry point, and shown as tokens, as a shader, or as
the results of running it with the given inputs. Everything is worked out before anything is printed,
except that results are printed before the buffers are given back.

Faults that are about what the user asked for end the program with a message; any other passes through.
-/
import KernelShader.CommandLine.Help
import KernelShader.CommandLine.Input
import KernelShader.CommandLine.SourceFile
import KernelShader.Fault.Family
import KernelShader.Session.Add
import KernelShader.Session.Run

set_option autoImplicit false

namespace KernelShader.CommandLine

open Text

/-! ## Modes -/

/-- The declaration of a function's text, on its first line. -/
def declarationOf (text : String) : Except Fault Declaration :=
  match Source.tokenLines text with
  | first :: _ => Declaration.parse first
  | [] => .error .badIndex

/-- The name of the entry point: as set, else that of the last function. -/
def mainName (s : Settings) (functions : List String) : Except Fault String :=
  match s.main with
  | some name => if name.isEmpty then lastName else .ok name
  | none => lastName
where
  /-- The name of the last function. -/
  lastName : Except Fault String := (declarationOf (functions.getLastD "")).map (·.name)

/-- The token lines of every function, each followed by an empty line. -/
def tokensText (functions : List String) : String :=
  String.join (functions.map fun text =>
    String.join ((Source.tokenLines text).map fun line => quotedList line ++ "\n") ++ "\n")

/-- A type as it is set; without a setting an empty list stands in its place. -/
def typeValue : Option String → Value
  | some text => .text text
  | none => .list []

/-- Reads one function into a session, as the entry point if it has its name. -/
def addOne (s : Settings) (main text : String) : SessionM Unit := do
  let declaration ← liftExcept (declarationOf text)
  if declaration.name = main then
    let _ ← Session.addEntryPoint text (.tuple (s.workgroup.map .int)) .none
  else
    let types := declaration.params.map fun _ => typeValue s.paramType
    let _ ← Session.addFunction text (typeValue s.returnType) (.list types) .none

/-- Reads all functions into a session (`translate`). -/
def addAll (s : Settings) (main : String) (functions : List String) : SessionM Unit :=
  functions.forM (addOne s main)

/-- The settings of the session. -/
def sessionConfig (s : Settings) : Config :=
  { dialect := if s.legacy then .legacy else .current }

/-- Registers an input and an output for it. -/
def registerPair (input : NamedArray) : SessionM Unit := do
  let _ ← Session.registerInput input.name (.array input.array) (.int 0)
  let _ ← Session.registerOutput (input.name ++ "_out") input.name (.array input.array)

/-- The number of workgroups: as set, else one for each number of the first input. -/
def workgroupCount (s : Settings) (inputs : List NamedArray) : Int :=
  match s.dispatch with
  | some n => if n = 0 then fallback else n
  | none => fallback
where
  /-- The number without a setting. -/
  fallback : Int :=
    match inputs with
    | input :: _ => input.array.cells.length
    | [] => 1

/-- Registers the inputs, reads the functions and runs the shader. -/
def runAll (s : Settings) (main : String) (functions : List String) (inputs : List NamedArray) :
    SessionM (NameTable Rig.Reading) := do
  inputs.forM registerPair
  addAll s main functions
  Session.run (.int (workgroupCount s inputs))

/-- The results of a run. -/
def resultsText (readings : NameTable Rig.Reading) : String :=
  String.join (readings.entries.map fun (name, reading) =>
    "  " ++ name ++ ": " ++ cellsText reading.cells ++ "\n")

/-! ## The program -/

/-- How the program went: what it printed, the calls it made to a device, what it reported, and the fault
it ended with, if any. -/
structure Report where
  out : String := ""
  calls : List Call := []
  log : List Event := []
  fault : Option Fault := none

/-- How a session's part of the program went. -/
def reportOf {α : Type} (outcome : Except Fault α) (session : Session) (print : α → String) :
    Report :=
  { out := match outcome with
      | .ok a => print a
      | .error _ => ""
    calls := session.rig.trace
    log := session.rig.log
    fault := match outcome with
      | .ok _ => none
      | .error fault => some fault }

/-- Reads the functions and puts the declarations of the inputs in front of their texts. -/
def showShader (s : Settings) (main : String) (functions : List String) (inputs : List NamedArray) :
    SessionM String := do
  addAll s main functions
  let header ← liftExcept (inputHeader inputs)
  let text ← liftExcept (← get).shaderText
  return "\n".intercalate (header ++ [text])

/-- Shows the shader without a device. -/
def emitShader (s : Settings) (main : String) (functions : List String) (inputs : List NamedArray) :
    Report :=
  let (outcome, session) :=
    (showShader s main functions inputs).run.run (Session.fresh (sessionConfig s) none)
  reportOf outcome session id

/-- Runs the shader on a device of the machine, prints the results, and gives the buffers back. -/
def emitRun (machine : Machine) (s : Settings) (main : String) (functions : List String)
    (inputs : List NamedArray) : Report :=
  let acquisition := machine.acquire .sync (sessionConfig s).powerPreference
  match Session.create (sessionConfig s) acquisition with
  | .error fault => { calls := acquisition.calls, log := acquisition.log, fault := some fault }
  | .ok session =>
    let (outcome, session) := (runAll s main functions inputs).run.run session
    match outcome with
    | .error _ => reportOf outcome session resultsText
    | .ok readings =>
      let (outcome, session) := Session.close.run.run session
      { reportOf outcome session (fun _ => "") with out := resultsText readings }

/-- Does what the mode asks for with the functions of a source; without a mode, nothing. -/
def emit (machine : Machine) (s : Settings) (functions : List String) (specs : List (Option String)) :
    Report :=
  let prepared : Except Fault (List NamedArray × String) := do
    let inputs ← specs.mapM (readInput? s.element)
    return (inputs, ← mainName s functions)
  match prepared with
  | .error fault => { fault := some fault }
  | .ok (inputs, main) =>
    match s.emit with
    | some .tokens => { out := tokensText functions }
    | some .wgsl => emitShader s main functions inputs
    | some .run => emitRun machine s main functions inputs
    | none => {}

/-- The faults that are about what the user asked for. -/
def isUserFault (fault : Fault) : Bool :=
  (Family.ofKind? fault.kind).isSome || fault.kind == .badValue || fault.kind == .badArgument

/-- The end of the program: the exit code, or the fault that passed through it, with all that was
written and all calls to a device. -/
structure Outcome where
  exit : Except Fault Nat
  out : String := ""
  err : String := ""
  calls : List Call := []

/-- Reads the report of a mode as an end of the program. Events are written for a verbose run only. -/
def Outcome.ofReport (s : Settings) (r : Report) : Outcome :=
  let log := if s.verbose then String.join (r.log.map fun e => e.record ++ "\n") else ""
  match r.fault with
  | none => { exit := .ok 0, out := r.out, err := log, calls := r.calls }
  | some fault =>
    if isUserFault fault then
      { exit := .ok 1, out := r.out, err := log ++ "Error: " ++ fault.message ++ "\n",
        calls := r.calls }
    else { exit := .error fault, out := r.out, err := log, calls := r.calls }

/-- Runs the program with settings. -/
def runSettings (openFile : String → FileAnswer) (machine : Machine) (s : Settings) : Outcome :=
  match source? openFile s with
  | .error fault => { exit := .error fault }
  | .ok none => { exit := .ok 1, out := helpText }
  | .ok (some (text, specs)) =>
    let functions := Source.functions text
    if functions.isEmpty then { exit := .ok 1, err := "No 'function' definitions found\n" }
    else .ofReport s (emit machine s functions specs)

/-- Runs the program with arguments. -/
def run (openFile : String → FileAnswer) (machine : Machine) (arguments : List String) : Outcome :=
  match Request.ofArguments arguments with
  | .help => { exit := .ok 0, out := helpText }
  | .usage message => { exit := .ok 2, err := usageError message }
  | .run settings => runSettings openFile machine settings

end KernelShader.CommandLine
