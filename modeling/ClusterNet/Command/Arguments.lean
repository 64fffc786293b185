/- The command line: which command to run and with what options. A value stands behind its option or
   is attached to it, and it is looked at when the next option comes or the line ends. -/
namespace ClusterNet.Command

inductive Output where
  | yaml
  | json
  deriving DecidableEq, Repr

structure Inputs where
  spec : String
  previous : Option String
  release : Option String
  deriving DecidableEq, Repr

structure RenderOptions where
  inputs : Inputs
  facts : Option String
  target : Option String
  output : Output
  summary : Bool
  deriving DecidableEq, Repr

structure ValidateOptions where
  inputs : Inputs
  showDefaults : Bool
  deriving DecidableEq, Repr

inductive Action where
  | render (options : RenderOptions)
  | validate (options : ValidateOptions)
  | define
  deriving DecidableEq, Repr

inductive Misuse where
  | nothingAsked
  | helpAsked
  | versionAsked
  | missingCommand
  | unknownCommand
  | unknownArgument
  | missingArgument
  | invalidValue
  | tooManyValues
  | repeated
  deriving DecidableEq, Repr

inductive Flag where
  | spec
  | previous
  | release
  | facts
  | output
  | format
  | summary
  | showDefaults
  | jsonLogs
  deriving DecidableEq, Repr

namespace Flag

def name : Flag → String
  | .spec => "spec"
  | .previous => "previous"
  | .release => "release"
  | .facts => "facts"
  | .output => "output"
  | .format => "format"
  | .summary => "summary"
  | .showDefaults => "show-defaults"
  | .jsonLogs => "json-logs"

def letter? : Flag → Option Char
  | .output => some 'o'
  | _ => none

def takesValue : Flag → Bool
  | .summary | .showDefaults | .jsonLogs => false
  | _ => true

/-- Paths are not empty. -/
def accepts (flag : Flag) (value : String) : Bool :=
  match flag with
  | .format => value = "yaml" || value = "json"
  | flag => !flag.takesValue || value ≠ ""

end Flag

def renderFlags : List Flag :=
  [.spec, .previous, .release, .facts, .output, .format, .summary, .jsonLogs]

def validateFlags : List Flag := [.spec, .previous, .release, .showDefaults, .jsonLogs]

inductive Shape where
  | separator
  | long (name : String) (value : Option String)
  | short (letters : List Char)
  | word
  deriving DecidableEq, Repr

def Shape.of (arg : String) : Shape :=
  match arg.toList with
  | ['-', '-'] => .separator
  | '-' :: '-' :: rest =>
    let value := match rest.dropWhile (· ≠ '=') with
      | _ :: value => some (String.ofList value)
      | [] => none
    .long (String.ofList (rest.takeWhile (· ≠ '='))) value
  | ['-'] => .word
  | '-' :: letters => .short letters
  | _ => .word

/-- The options read so far, the one whose value has not been looked at, and whether the rest of the
    line is no options. -/
structure Line where
  given : List (Flag × String)
  pending : Option (Flag × Option String)
  isTrailing : Bool
  deriving DecidableEq, Repr

namespace Line

def empty : Line := ⟨[], none, false⟩

def value? (line : Line) (flag : Flag) : Option String := line.given.lookup flag

def has (line : Line) (flag : Flag) : Bool := (line.value? flag).isSome

/-- No option may be given twice. -/
def record (line : Line) (flag : Flag) (value : String) : Except Misuse Line :=
  if line.has flag then .error .repeated
  else if flag.accepts value then .ok { line with given := (flag, value) :: line.given }
  else .error .invalidValue

def settle (line : Line) : Except Misuse Line :=
  match line.pending with
  | none => .ok line
  | some (_, none) => .error .invalidValue
  | some (flag, some value) => { line with pending := none }.record flag value

def addFlag (line : Line) (flag : Flag) (value : Option String) : Except Misuse Line :=
  if flag.takesValue then do
    let line ← line.settle
    match value with
    | some value => line.record flag value
    | none => return { line with pending := some (flag, none) }
  else if value.isSome then .error .tooManyValues
  else do (← line.settle).record flag ""

def ask (line : Line) (question : Misuse) : Except Misuse Line := do
  let _ ← line.settle
  .error question

def addLong (flags : List Flag) (hasVersion : Bool) (line : Line) (name : String)
    (value : Option String) : Except Misuse Line :=
  if name = "help" ∨ (hasVersion ∧ name = "version") then
    if value.isSome then .error .tooManyValues
    else line.ask (if name = "help" then .helpAsked else .versionAsked)
  else
    match flags.find? (·.name = name) with
    | some flag => line.addFlag flag value
    | none => .error .unknownArgument

/-- A value may follow its letter directly or behind an equals sign. -/
def addShort (flags : List Flag) (hasVersion : Bool) (line : Line) : List Char → Except Misuse Line
  | [] => .ok line
  | letter :: rest =>
    if letter = 'h' then line.ask .helpAsked
    else if hasVersion ∧ letter = 'V' then line.ask .versionAsked
    else
      match flags.find? (·.letter? = some letter) with
      | none => .error .unknownArgument
      | some flag =>
        match rest with
        | [] => line.addFlag flag none
        | '=' :: value => line.addFlag flag (some (String.ofList value))
        | value => line.addFlag flag (some (String.ofList value))

def addWord (line : Line) (word : String) : Except Misuse Line :=
  match line.pending with
  | some (flag, none) => .ok { line with pending := some (flag, some word) }
  | _ => .error .unknownArgument

def read (flags : List Flag) (line : Line) : List String → Except Misuse Line
  | [] => line.settle
  | arg :: rest => do
    if line.isTrailing then .error .unknownArgument
    else
      match Shape.of arg with
      | .separator => read flags { line with isTrailing := true } rest
      | .long name value => read flags (← line.addLong flags false name value) rest
      | .short letters => read flags (← line.addShort flags false letters) rest
      | .word => read flags (← line.addWord arg) rest

def inputs (line : Line) : Except Misuse Inputs :=
  match line.value? .spec with
  | some spec => .ok ⟨spec, line.value? .previous, line.value? .release⟩
  | none => .error .missingArgument

end Line

def readRender (args : List String) : Except Misuse Action := do
  let line ← Line.empty.read renderFlags args
  return .render {
    inputs := ← line.inputs
    facts := line.value? .facts
    target := line.value? .output
    output := if line.value? .format = some "json" then .json else .yaml
    summary := line.has .summary }

def readValidate (args : List String) : Except Misuse Action := do
  let line ← Line.empty.read validateFlags args
  return .validate ⟨← line.inputs, line.has .showDefaults⟩

def readDefine (args : List String) : Except Misuse Action := do
  let _ ← Line.empty.read [.jsonLogs] args
  return .define

def commandNames : List String := ["render", "validate", "crd", "help"]

def readHelp : List String → Misuse
  | [] => .helpAsked
  | [name] => if name ∈ commandNames then .helpAsked else .unknownCommand
  | _ => .unknownCommand

def readCommand (name : String) (args : List String) : Except Misuse Action :=
  match name with
  | "render" => readRender args
  | "validate" => readValidate args
  | "crd" => readDefine args
  | "help" => .error (readHelp args)
  | _ => .error .unknownCommand

def readLine (line : Line) : List String → Except Misuse Action
  | [] => .error (if line.given.isEmpty then .nothingAsked else .missingCommand)
  | arg :: rest => do
    if line.isTrailing then
      .error (if arg ∈ commandNames then .unknownArgument else .unknownCommand)
    else
      match Shape.of arg with
      | .separator => readLine { line with isTrailing := true } rest
      | .long name value => readLine (← line.addLong [.jsonLogs] true name value) rest
      | .short letters => readLine (← line.addShort [.jsonLogs] true letters) rest
      | .word => readCommand arg rest

def Action.read (args : List String) : Except Misuse Action := readLine .empty args

end ClusterNet.Command
