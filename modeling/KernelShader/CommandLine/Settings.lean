/-
`Settings.lean` -- the options of the command line and what they set; `parse_workgroup_size`.

Each option has its spellings, takes one value or none, and changes the settings; an unsuitable value is
refused with a message about it. The mark `--` in the place of a value takes away what is set, and nothing
is checked then; what the program does without it shows only where it is needed.
-/
import KernelShader.HostArray
import KernelShader.Fault

set_option autoImplicit false

namespace KernelShader.CommandLine

/-- What the program prints. -/
inductive Emit where
  | tokens
  | wgsl
  | run
  deriving DecidableEq, Repr

/-- The word of a mode. -/
def Emit.word : Emit → String
  | .tokens => "tokens"
  | .wgsl => "wgsl"
  | .run => "run"

/-- All modes, as they are listed. -/
def Emit.all : List Emit := [.tokens, .wgsl, .run]

/-- What the command line asks for. -/
structure Settings where
  file : Option String := none
  emit : Option Emit := some .wgsl
  demo : Bool := false
  main : Option String := none
  workgroup : List Int := [1]
  returnType : Option String := some "f32"
  paramType : Option String := some "f32"
  inputs : List (Option String) := []
  element : Option ScalarKind := some .f32
  dispatch : Option Int := none
  legacy : Bool := false
  verbose : Bool := false
  deriving DecidableEq, Repr

/-- The options. -/
inductive Flag where
  | help
  | emit
  | demo
  | main
  | workgroupSize
  | returnType
  | paramType
  | input
  | dtype
  | dispatch
  | legacy
  | verbose
  deriving DecidableEq, Repr

namespace Flag

/-- All options, in the order in which they are looked through. -/
def all : List Flag :=
  [.help, .emit, .demo, .main, .workgroupSize, .returnType, .paramType, .input, .dtype, .dispatch,
   .legacy, .verbose]

/-- The spellings of an option. -/
def spellings : Flag → List String
  | .help => ["-h", "--help"]
  | .emit => ["--emit"]
  | .demo => ["--demo"]
  | .main => ["--main"]
  | .workgroupSize => ["--workgroup-size"]
  | .returnType => ["--return-type"]
  | .paramType => ["--param-type"]
  | .input => ["--input"]
  | .dtype => ["--dtype"]
  | .dispatch => ["--dispatch"]
  | .legacy => ["--legacy"]
  | .verbose => ["-v", "--verbose"]

/-- How messages name an option. -/
def display (f : Flag) : String := "/".intercalate f.spellings

/-- The option takes a value. -/
def takesValue : Flag → Bool
  | .help | .demo | .legacy | .verbose => false
  | _ => true

/-- Every spelling with its option. -/
def spelled : List (String × Flag) :=
  all.flatMap fun f => f.spellings.map (·, f)

/-- The option of a spelling. -/
def ofSpelling? (s : String) : Option Flag := spelled.lookup s

end Flag

/-! ## Values -/

/-- The parts of a text between commas. -/
def commaParts (text : String) : List String :=
  (Text.fields (· == ',') text.toList).map String.ofList

/-- Reads the components of a workgroup size. -/
def readWorkgroup (text : String) : Except Fault (List Int) :=
  match (commaParts text).mapM Numeral.readInt? with
  | some components => .ok components
  | none => .error (.workgroupText text)

/-- The refusal of a value that is none of those to choose from. -/
def notAChoice (value : String) (choices : List String) : String :=
  let listed := ", ".intercalate (choices.map Text.quoted)
  s!"invalid choice: {Text.quoted value} (choose from {listed})"

/-- The host name of the elements of a scalar kind. -/
def elementName (kind : ScalarKind) : String := (HostElement.ofScalarKind kind).name

/-- Takes away what an option with a value sets. An input is still there, but has no text. -/
def Flag.clear (f : Flag) (s : Settings) : Settings :=
  match f with
  | .emit => { s with emit := none }
  | .main => { s with main := none }
  | .workgroupSize => { s with workgroup := [] }
  | .returnType => { s with returnType := none }
  | .paramType => { s with paramType := none }
  | .input => { s with inputs := s.inputs ++ [none] }
  | .dtype => { s with element := none }
  | .dispatch => { s with dispatch := none }
  | .help | .demo | .legacy | .verbose => s

/-- The argument that ends options. -/
def endMark : String := "--"

/-- Sets what an option with a value sets; a value that does not suit is refused with a message. -/
def Flag.apply (f : Flag) (value : String) (s : Settings) : Except String Settings :=
  if value = endMark then .ok (f.clear s)
  else match f with
  | .emit =>
    match Emit.all.find? (·.word == value) with
    | some mode => .ok { s with emit := some mode }
    | none => .error (notAChoice value (Emit.all.map Emit.word))
  | .main => .ok { s with main := some value }
  | .workgroupSize =>
    match readWorkgroup value with
    | .ok components => .ok { s with workgroup := components }
    | .error fault => .error fault.message
  | .returnType => .ok { s with returnType := some value }
  | .paramType => .ok { s with paramType := some value }
  | .input => .ok { s with inputs := s.inputs ++ [some value] }
  | .dtype =>
    match ScalarKind.all.find? (elementName · == value) with
    | some kind => .ok { s with element := some kind }
    | none => .error (notAChoice value (ScalarKind.all.map elementName))
  | .dispatch =>
    match Numeral.readInt? value with
    | some n => .ok { s with dispatch := some n }
    | none => .error s!"invalid int value: {Text.quoted value}"
  | .help | .demo | .legacy | .verbose => .ok s

/-- Sets what an option without a value sets. -/
def Flag.raise (f : Flag) (s : Settings) : Settings :=
  match f with
  | .demo => { s with demo := true }
  | .legacy => { s with legacy := true }
  | .verbose => { s with verbose := true }
  | _ => s

end KernelShader.CommandLine
