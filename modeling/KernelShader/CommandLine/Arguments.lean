/-
`Arguments.lean` -- reading the arguments of the command line, the `parse_args` of `main`.

Every argument is first told apart: an option, the mark `--` that ends options, or plain. Options may be
shortened as long as only one fits, take their value after `=` or as the next plain argument, and short
ones without value may share a dash. Then the arguments are gone through in order. The first plain one is
the file; what is left over at the end is reported together.

The mark itself disappears when it stands before the file or directly behind it, and is left over
otherwise.
-/
import KernelShader.CommandLine.Settings

set_option autoImplicit false

namespace KernelShader.CommandLine

open Text

/-! ## Telling arguments apart -/

/-- An argument told apart. -/
inductive Argument where
  | plain (text : String)
  | mark
  | unknown (text : String)
  | option (flag : Flag) (short : Bool) (attached : Option (List Char))
  deriving DecidableEq, Repr

/-- The part before the first `=` and the part behind it. -/
def splitEquals (cs : List Char) : List Char × Option (List Char) :=
  match cs.dropWhile (· != '=') with
  | _ :: value => (cs.takeWhile (· != '='), some value)
  | [] => (cs, none)

/-- The spelling has one dash. -/
def isShort (spelling : List Char) : Bool := (spelling.drop 1).head? != some '-'

/-- The text reads as a negative number: a dash and digits, with at most one point, not at the end. -/
def isNegativeNumber (cs : List Char) : Bool :=
  -- a newline at the very end does not count
  let cs := if cs.getLast? = some '\n' then cs.dropLast else cs
  match cs with
  | '-' :: body =>
    match body.dropWhile isDigit with
    | [] => !body.isEmpty
    | '.' :: fraction => !fraction.isEmpty && fraction.all isDigit
    | _ => false
  | _ => false

/-- The options that an argument may be short for, as spelling and argument. A long option may be cut
short; a short one may have something attached. -/
def candidates (cs : List Char) : List (String × Argument) :=
  if isShort cs then
    match Flag.ofSpelling? (String.ofList (cs.take 2)) with
    | some flag => [(String.ofList (cs.take 2), .option flag true (some (cs.drop 2)))]
    | none => []
  else
    let (front, value) := splitEquals cs
    (Flag.spelled.filter fun (spelling, _) => front.isPrefixOf spelling.toList).map
      fun (spelling, flag) => (spelling, .option flag false value)

/-- Tells an argument apart. More than one option that fits is an error. -/
def classify (text : String) : Except String Argument :=
  let cs := text.toList
  if cs.head? ≠ some '-' then .ok (.plain text)
  else match Flag.ofSpelling? text with
    | some flag => .ok (.option flag (isShort cs) none)
    | none =>
      if cs.length = 1 then .ok (.plain text)
      else
        let (front, value) := splitEquals cs
        match value, Flag.ofSpelling? (String.ofList front) with
        | some value, some flag => .ok (.option flag (isShort cs) (some value))
        | _, _ =>
          match candidates cs with
          | [(_, argument)] => .ok argument
          | [] =>
            .ok (if isNegativeNumber cs || cs.contains ' ' then .plain text else .unknown text)
          | several =>
            let spellings := ", ".intercalate (several.map Prod.fst)
            .error s!"ambiguous option: {text} could match {spellings}"

/-- Tells all arguments apart. Behind the mark everything is plain. -/
def classifyAll : List String → Except String (List Argument)
  | [] => .ok []
  | text :: rest =>
    if text = endMark then .ok (.mark :: rest.map .plain)
    else do
      let argument ← classify text
      return argument :: (← classifyAll rest)

/-! ## Going through them -/

/-- What the arguments come to. -/
inductive Request where
  | run (settings : Settings)
  | help
  | usage (message : String)
  deriving DecidableEq, Repr

/-- The message about an option. -/
def Flag.complain (f : Flag) (text : String) : String := s!"argument {f.display}: {text}"

/-- What one argument with options in it comes to: the options without value, at most one with a value
in the same argument, and at most one whose value is still to come. -/
structure Cluster where
  raised : List Flag := []
  valued : Option (Flag × String) := none
  pending : Option Flag := none
  deriving DecidableEq, Repr

/-- An option without anything attached. -/
def Cluster.single (f : Flag) : Cluster :=
  if f.takesValue then { pending := some f } else { raised := [f] }

/-- Puts an option without value in front. -/
def Cluster.cons (f : Flag) (c : Cluster) : Cluster := { c with raised := f :: c.raised }

/-- The message about something attached to an option that takes nothing. -/
def Flag.ignores (f : Flag) (attached : List Char) : String :=
  f.complain s!"ignored explicit argument {quoted (String.ofList attached)}"

/-- Takes apart an option with something attached to it. For a short option without value that can only
be further short options, with or without `=` in front of the first. -/
def expand (f : Flag) (short : Bool) : List Char → Except String Cluster
  | [] => if f.takesValue then .ok { valued := some (f, "") } else .error (f.ignores [])
  | c :: rest =>
    if f.takesValue then .ok { valued := some (f, String.ofList (c :: rest)) }
    else if !short then .error (f.ignores (c :: rest))
    else match Flag.ofSpelling? (String.ofList ['-', c]) with
      | none => .error (f.ignores (c :: rest))
      | some next =>
        match rest with
        | [] => .ok (Cluster.single next |>.cons f)
        | d :: rest => (expand next true (d :: rest)).map (Cluster.cons f)

/-- Takes apart an argument with an option in front. -/
def Cluster.ofOption (f : Flag) (short : Bool) : Option (List Char) → Except Request Cluster
  | none => .ok (Cluster.single f)
  | some attached => (expand f short attached).mapError .usage

/-- The arguments left over so far and the settings so far. -/
structure Progress where
  settings : Settings := {}
  leftover : List String := []

namespace Progress

/-- Leaves arguments over. -/
def leave (p : Progress) (texts : List String) : Progress :=
  { p with leftover := p.leftover ++ texts }

/-- A plain argument: the file, or left over. -/
def plain (p : Progress) (text : String) : Progress :=
  if p.settings.file.isSome then p.leave [text]
  else { p with settings := { p.settings with file := some text } }

/-- Carries out an option with its value. -/
def valued (p : Progress) (f : Flag) (value : String) : Except Request Progress :=
  match f.apply value p.settings with
  | .ok settings => .ok { p with settings }
  | .error text => .error (.usage (f.complain text))

/-- Carries out what an argument with options comes to; the help option ends everything. -/
def take (p : Progress) (c : Cluster) : Except Request Progress := do
  if c.raised.contains .help then throw .help
  let p := { p with settings := c.raised.foldl (fun s f => Flag.raise f s) p.settings }
  match c.valued with
  | some (f, value) => p.valued f value
  | none => return p

end Progress

/-- Goes through the arguments in order. -/
def walk (p : Progress) : List Argument → Except Request Progress
  | [] => .ok p
  | .plain text :: .mark :: rest =>
    -- the mark belongs to the file in front of it, unless there was a file before
    if p.settings.file.isSome then walk (p.leave [text, endMark]) rest else walk (p.plain text) rest
  | .plain text :: rest => walk (p.plain text) rest
  | .mark :: rest => if p.settings.file.isSome then walk (p.leave [endMark]) rest else walk p rest
  | .unknown text :: rest => walk (p.leave [text]) rest
  | .option flag short attached :: .plain text :: rest => do
    let cluster ← Cluster.ofOption flag short attached
    match cluster.pending with
    | some f => walk (← (← p.take cluster).valued f text) rest
    | none => walk (← p.take cluster) (.plain text :: rest)
  | .option flag short attached :: rest => do
    let cluster ← Cluster.ofOption flag short attached
    match cluster.pending with
    | some f => .error (.usage (f.complain "expected one argument"))
    | none => walk (← p.take cluster) rest

/-- What the command line asks for. -/
def Request.ofArguments (arguments : List String) : Request :=
  match classifyAll arguments with
  | .error message => .usage message
  | .ok arguments =>
    match walk {} arguments with
    | .error request => request
    | .ok p =>
      if p.leftover.isEmpty then .run p.settings
      else .usage ("unrecognized arguments: " ++ " ".intercalate p.leftover)

end KernelShader.CommandLine
