/-
`Main.lean` -- the program: arguments in, text and an exit code out.
-/
import KernelShader.CommandLine.Run

set_option autoImplicit false

namespace KernelShader.CommandLine

/-- The system's number of an error is the given one. It arrives with either sign. -/
def isNumber (code number : UInt32) : Bool := code == number || 0 - code == number

/-- What the system's refusal to open a file says about it. A directory and a path through a file are both
refused as being of the wrong type, and only the number tells them apart. -/
def refused : IO.Error → FileAnswer
  | .inappropriateType _ code _ => if isNumber code 20 then .notDirectory else .directory
  | .invalidArgument _ code _ => if isNumber code 36 then .tooLong else .missing
  | _ => .missing

/-- Opens a file on disk. -/
def openOnDisk (name : String) : IO FileAnswer := do
  try
    return .content (← IO.FS.readBinFile name)
  catch e =>
    return refused e

/-- Looks a file up among those opened beforehand. -/
def opened (known : Option (String × FileAnswer)) (name : String) : FileAnswer :=
  match known with
  | some (key, answer) => if key = name then answer else .missing
  | none => .missing

/-- The file that arguments name, opened. -/
def openNamed (arguments : List String) : IO (Option (String × FileAnswer)) :=
  match Request.ofArguments arguments with
  | .run { file := some name, .. } => return some (name, ← openOnDisk name)
  | _ => return none

end KernelShader.CommandLine

open KernelShader KernelShader.CommandLine in
/-- Runs the program. It has no driver for a real device, so its machine is one without an adapter. -/
def main (arguments : List String) : IO UInt32 := do
  let known ← openNamed arguments
  let outcome := run (opened known) Machine.bare arguments
  IO.print outcome.out
  IO.eprint outcome.err
  match outcome.exit with
  | .ok code => return code.toUInt32
  | .error fault =>
    IO.eprintln fault.message
    return 1
