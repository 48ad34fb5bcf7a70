/-
`SourceFile.lean` -- where the source comes from: a file, or the built-in `DEMO_PROGRAM`.

Opening a file is left to a function of its name, so that nothing here depends on a disk. A file has to be
UTF-8, and its line ends are unified; a mark at its front stays part of the text.
-/
import KernelShader.CommandLine.Settings

set_option autoImplicit false

namespace KernelShader.CommandLine

/-- The built-in program. -/
def demoProgram : String :=
  "function add(a, b) \x7b\n" ++
  "    let c = 5.0;\n" ++
  "    while (c < 20) \x7b\n" ++
  "        c += 3;\n" ++
  "    \x7d\n" ++
  "    return c;\n" ++
  "\x7d\n" ++
  "\n" ++
  "function main_kernel() \x7b\n" ++
  "    let i = id.x;\n" ++
  "    myBuffer[i] = myBuffer[i] * 2;\n" ++
  "\x7d\n"

/-- The inputs of the built-in program. -/
def demoInputs : List String := ["myBuffer=0,-1,-2,-3", "myBuffer2=0,1,2,3"]

/-- What comes of opening a file. -/
inductive FileAnswer where
  | content (bytes : ByteArray)
  | directory
  | notDirectory
  | tooLong
  | missing

/-- Every line end becomes a newline. -/
def unifyNewlines : List Char → List Char
  | [] => []
  | '\r' :: '\n' :: cs => '\n' :: unifyNewlines cs
  | c :: cs => (if c = '\r' then '\n' else c) :: unifyNewlines cs

/-- The text of a file. -/
def readFile (openFile : String → FileAnswer) (name : String) : Except Fault String :=
  if name.toList.contains (Char.ofNat 0) then .error .nulInName
  else match openFile name with
    | .missing => .error (.fileMissing name)
    | .directory => .error (.isDirectory name)
    | .notDirectory => .error (.notDirectory name)
    | .tooLong => .error (.nameTooLong name)
    | .content bytes =>
      match String.fromUTF8? bytes with
      | some text => .ok (String.ofList (unifyNewlines text.toList))
      | none => .error .notText

/-- The source and the inputs that the settings name; without either a file or the demo there is none. -/
def source? (openFile : String → FileAnswer) (s : Settings) :
    Except Fault (Option (String × List (Option String))) :=
  if s.demo then .ok (some (demoProgram, if s.inputs.isEmpty then demoInputs.map some else s.inputs))
  else match s.file with
    | some name =>
      if name.isEmpty then .ok none
      else do return some (← readFile openFile name, s.inputs)
    | none => .ok none

end KernelShader.CommandLine
