/-
`Fault.lean` -- everything that can go wrong, as causes.

Each way to fail is a constructor with the data it is about. Its wording is given once, in
`Fault.message`, and its kind once, in `Fault.kind`; what a caller may catch depends on the kind alone.
-/
import KernelShader.Value
import KernelShader.Number.Numeral

set_option autoImplicit false

namespace KernelShader

/-! ## Kinds -/

/-- The kinds of fault a device call reports. -/
inductive DeviceFaultKind where
  | validation
  | outOfMemory
  | internal
  | runtime
  deriving DecidableEq, Repr

/-- The kinds of fault. -/
inductive FaultKind where
  | malformedSource
  | unsupportedType
  | unknownLink
  | unknownVariable
  | compileFailed
  | layoutMismatch
  | deviceUnavailable
  | badValue
  | badArgument
  | missingKey
  | badShape
  | badIndex
  | outOfRange
  | noMember
  | notDispatched
  | fileMissing
  | isDirectory
  | notDirectory
  | system
  | notText
  | device (kind : DeviceFaultKind)
  deriving DecidableEq, Repr

/-! ## Causes -/

/-- The two kinds of bracket that have to balance on a line. -/
inductive Bracket where
  | round
  | square
  deriving DecidableEq, Repr

/-- The opening mark. -/
def Bracket.opening : Bracket → String
  | .round => "("
  | .square => "["

/-- The closing mark. -/
def Bracket.closing : Bracket → String
  | .round => ")"
  | .square => "]"

/-- What went wrong. -/
inductive Fault where
  -- types
  | unsupportedScalar (word : String)
  | arrayLength (length : Int)
  | typeNotText (kindName : String)
  | unsupportedType (text : String)
  | numeralTooLong (digits : Nat)
  | numeralUnprintable
  -- host data
  | hostNotArray (kindName : String)
  | hostElement (name : String)
  | raggedShape (seen : List Nat)
  | tooDeep
  | shapeClash (source target : List Nat)
  | numberRange (n : Int) (word : String)
  | wordRange
  | realRange
  | wholeOfNan
  | wholeOfInfinity
  | tooManyAxes (axes : Nat)
  | openLengths
  | shapeSize (size : Nat) (lengths : List Int)
  | idleStep
  -- declarations
  | notDeclaration (joined : String)
  | missingParenthesis (name : String)
  | unclosedParameters (name : String)
  | noClosingParenthesis
  | emptySource
  | unexpectedTail (token name : String)
  | unbalanced (bracket : Bracket) (line : Nat) (joined : String)
  -- parameter types
  | typesAndArguments
  | declaredText (text : String)
  | missingTypes (names : List String)
  | unknownParameters (names : List String)
  | typeCount (declared supplied : Nat)
  | untypedParameter (name : String)
  | noItems
  -- workgroups
  | sizeArity (count : Nat)
  | sizeComponent (found : Value)
  | countArity (count : Nat)
  | countComponent (found : Value)
  -- transcripts
  | unknownFunction (name : String)
  | unknownVariable (function name : String)
  | duplicateFunction (name : String)
  | secondEntry (entry : String)
  | entryDefined (entry : String)
  | noEntry
  | missingBody (name : String)
  -- buffers
  | duplicateBuffer (name : String)
  | emptyInput (name : String)
  | badGroup (name : String) (found : Value)
  | unavailable (reason : String)
  | unknownLink (output link : String)
  | outputTooSmall (output : String) (bytes : Nat) (link : String) (needed : Nat)
  | unknownInput (name : String)
  | staleLayout
  | bufferReleased
  -- pipelines and dispatch
  | layoutCovers (covered registered : List String)
  | pipelineFailed (label message : String)
  | notDispatched
  | partialElement
  | badIndex
  | device (kind : DeviceFaultKind) (message : String)
  -- command line
  | inputSpec (spec : String)
  | notNumber (text : String)
  | workgroupText (text : String)
  | inputMissing
  | elementMissing
  | fileMissing (name : String)
  | isDirectory (name : String)
  | notDirectory (name : String)
  | nameTooLong (name : String)
  | nulInName
  | notText
  -- faults made by a caller
  | tooManyValues
  | truthOfNone
  | truthOfMany

/-! ## Kind and wording -/

/-- The advice that goes with every missing device. -/
def deviceGuidance : String :=
  "Could not acquire a WebGPU adapter. Check that:\n" ++
  "  - a Vulkan, Metal or D3D12 capable driver is installed;\n" ++
  "  - the GPU is working and not held exclusively by another process;\n" ++
  "  - wgpu-native supports this platform (pip install -U wgpu)."

/-- The wording for a missing device: the reason, if one is known, and the advice. -/
def unavailableText (reason : String) : String :=
  if reason.isEmpty then deviceGuidance else reason ++ "\n" ++ deviceGuidance

namespace Fault

/-- The kind of a fault. -/
def kind : Fault → FaultKind
  | .unsupportedScalar _ | .arrayLength _ | .typeNotText _ | .unsupportedType _ | .hostNotArray _
  | .hostElement _ | .declaredText _ => .unsupportedType
  | .notDeclaration _ | .missingParenthesis _ | .unclosedParameters _ | .emptySource
  | .unexpectedTail .. | .unbalanced .. | .missingTypes _ | .unknownParameters _
  | .typeCount .. => .malformedSource
  | .numeralTooLong _ | .numeralUnprintable | .raggedShape _ | .tooDeep | .shapeClash ..
  | .tooManyAxes _ | .openLengths | .shapeSize .. | .idleStep | .wholeOfNan | .noClosingParenthesis
  | .typesAndArguments | .sizeArity _ | .sizeComponent _ | .countArity _ | .countComponent _
  | .duplicateFunction _ | .secondEntry _ | .entryDefined _ | .noEntry | .duplicateBuffer _
  | .emptyInput _ | .badGroup .. | .outputTooSmall .. | .partialElement | .notNumber _
  | .nulInName | .truthOfNone | .truthOfMany => .badValue
  | .untypedParameter _ | .missingBody _ => .missingKey
  | .noItems | .tooManyValues | .elementMissing => .badShape
  | .unknownFunction _ | .unknownVariable .. => .unknownVariable
  | .unavailable _ => .deviceUnavailable
  | .unknownLink .. | .unknownInput _ => .unknownLink
  | .staleLayout | .layoutCovers .. => .layoutMismatch
  | .bufferReleased | .inputMissing => .noMember
  | .pipelineFailed .. => .compileFailed
  | .notDispatched => .notDispatched
  | .badIndex => .badIndex
  | .numberRange .. | .wordRange | .realRange | .wholeOfInfinity => .outOfRange
  | .device kind _ => .device kind
  | .inputSpec _ | .workgroupText _ => .badArgument
  | .fileMissing _ => .fileMissing
  | .isDirectory _ => .isDirectory
  | .notDirectory _ => .notDirectory
  | .nameTooLong _ => .system
  | .notText => .notText

/-- The wording of a fault. -/
def message : Fault → String
  | .unsupportedScalar word => s!"Unsupported scalar type '{word}'"
  | .arrayLength length => s!"Array length must be positive, got {length}"
  | .typeNotText kindName => s!"Type must be a string, got {kindName}"
  | .unsupportedType text => s!"Unsupported type '{text}'"
  | .numeralTooLong digits =>
    s!"Exceeds the limit ({Numeral.maxDigits} digits) for integer string conversion: value has " ++
    s!"{digits} digits; use sys.set_int_max_str_digits() to increase the limit"
  | .numeralUnprintable =>
    s!"Exceeds the limit ({Numeral.maxDigits} digits) for integer string conversion; " ++
    "use sys.set_int_max_str_digits() to increase the limit"
  | .hostNotArray kindName => s!"Host data must be a numpy array, got {kindName}"
  | .hostElement name =>
    s!"Unsupported host dtype '{name}' (expected float32, int32 or uint32)"
  | .raggedShape seen =>
    "setting an array element with a sequence. The requested array has an inhomogeneous shape " ++
    s!"after {seen.length} dimensions. The detected shape was {HostArray.shapeText seen} + " ++
    "inhomogeneous part."
  | .tooDeep =>
    "setting an array element with a sequence. The requested array would exceed the maximum number " ++
    s!"of dimension of {HostArray.maxAxes}."
  | .shapeClash source target =>
    s!"could not broadcast input array from shape {HostArray.lengthsText (source.map Int.ofNat)} " ++
    s!"into shape {HostArray.lengthsText (target.map Int.ofNat)}"
  | .numberRange n word => s!"Python integer {n} out of bounds for {word}"
  | .wordRange => "Python int too large to convert to C long"
  | .realRange => "int too large to convert to float"
  | .wholeOfNan => "cannot convert float NaN to integer"
  | .wholeOfInfinity => "cannot convert float infinity to integer"
  | .tooManyAxes axes =>
    s!"maximum supported dimension for an ndarray is currently {HostArray.maxAxes}, found {axes}"
  | .openLengths => "can only specify one unknown dimension"
  | .shapeSize size lengths =>
    s!"cannot reshape array of size {size} into shape {HostArray.lengthsText lengths}"
  | .idleStep => "slice step cannot be zero"
  | .notDeclaration joined =>
    s!"Expected a 'function <name>(...)' declaration, got: {Text.quoted joined}"
  | .missingParenthesis name => s!"Missing '(' after function name {Text.quoted name}"
  | .unclosedParameters name => s!"Declaration of {Text.quoted name} has no closing parenthesis"
  | .noClosingParenthesis => "')' is not in list"
  | .emptySource => "Function source is empty"
  | .unexpectedTail token name =>
    s!"Unexpected {Text.quoted token} after the parameter list of {Text.quoted name}"
  | .unbalanced bracket line joined =>
    s!"Unbalanced '{bracket.opening}{bracket.closing}' on line {line}: {Text.quoted joined}"
  | .typesAndArguments => "Pass either declared parameter types or call-site args, not both"
  | .declaredText text =>
    s!"Declared parameter types must be a list or a dict, got the string {Text.quoted text}"
  | .missingTypes names => "No declared type for parameter(s): " ++ ", ".intercalate names
  | .unknownParameters names =>
    "Declared types for unknown parameter(s): " ++ ", ".intercalate names
  | .typeCount declared supplied =>
    s!"Function declares {declared} parameter(s) but {supplied} type(s) were supplied"
  | .untypedParameter name | .missingBody name => Text.quoted name
  | .noItems => "value cannot be walked through"
  | .sizeArity count => s!"Workgroup size needs 1 to 3 components, got {count}"
  | .sizeComponent found =>
    s!"Workgroup size components must be positive integers, got {found.shown}"
  | .countArity count => s!"Dispatch needs 1 to 3 workgroup counts, got {count}"
  | .countComponent found => s!"Workgroup counts must be positive integers, got {found.shown}"
  | .unknownFunction name => s!"Unknown function '{name}'"
  | .unknownVariable function name => s!"Function '{function}' has no variable '{name}'"
  | .duplicateFunction name => s!"Function '{name}' was already translated"
  | .secondEntry entry =>
    s!"Entry point already defined ('{entry}'); only one entry point per shader"
  | .entryDefined entry => s!"Entry point already defined ('{entry}')"
  | .noEntry => "No entry point; call add_entry_point() first"
  | .duplicateBuffer name => s!"Buffer '{name}' is already registered"
  | .emptyInput name => s!"Input '{name}' is empty"
  | .badGroup name found =>
    s!"Group of input '{name}' must be a non-negative integer, got {found.shown}"
  | .unavailable reason => unavailableText reason
  | .unknownLink output link =>
    s!"Output '{output}' links to '{link}', which is not a registered input"
  | .outputTooSmall output bytes link needed =>
    s!"Output '{output}' holds {bytes} bytes but input '{link}' copies {needed}"
  | .unknownInput name => s!"No input buffer named '{name}'"
  | .staleLayout => "Bind group layout was built for a different buffer set; rebuild it"
  | .bufferReleased => "the buffer has been released"
  | .layoutCovers covered registered =>
    s!"Layout covers {Text.quotedList covered} but the registered inputs are " ++
    Text.quotedList registered
  | .pipelineFailed label message => s!"Building pipeline '{label}' failed: {message}"
  | .notDispatched => "Nothing has been dispatched yet; call execute() first"
  | .partialElement => "buffer size must be a multiple of element size"
  | .badIndex => "index out of range"
  | .device _ message => message
  | .inputSpec spec => s!"Expected NAME=v1,v2,..., got {Text.quoted spec}"
  | .notNumber text => s!"could not convert string to float: {Text.quoted text}"
  | .workgroupText text => s!"Invalid workgroup size {Text.quoted text}"
  | .inputMissing => "an input has no text"
  | .elementMissing => "no element type is set"
  | .fileMissing name => s!"[Errno 2] No such file or directory: {Text.quoted name}"
  | .isDirectory name => s!"[Errno 21] Is a directory: {Text.quoted name}"
  | .notDirectory name => s!"[Errno 20] Not a directory: {Text.quoted name}"
  | .nameTooLong name => s!"[Errno 36] File name too long: {Text.quoted name}"
  | .nulInName => "embedded null byte"
  | .notText => "the file is not UTF-8 text"
  | .tooManyValues => "at most one value can be given"
  | .truthOfNone =>
    "The truth value of an empty array is ambiguous. " ++
    "Use `array.size > 0` to check that an array is not empty."
  | .truthOfMany =>
    "The truth value of an array with more than one element is ambiguous. Use a.any() or a.all()"

end Fault

end KernelShader
