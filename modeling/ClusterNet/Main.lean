import ClusterNet.Command.Run

/- The program: one command, on the files of the system. -/
namespace ClusterNet.Command

def faultOf : IO.Error → FileFault
  | .noFileOrDirectory .. => .notFound
  | .inappropriateType .. => .isDirectory
  | error => .other (toString error)

instance : Host IO where
  readFile path := do
    try
      match String.fromUTF8? (← IO.FS.readBinFile path) with
      | some text => return .ok text
      | none => return .error .notText
    catch error => return .error (faultOf error)
  writeFile path text := do
    try
      IO.FS.writeFile path text
      return .ok ()
    catch error => return .error (faultOf error)
  print := IO.print
  warn := IO.eprint

def Misuse.message : Misuse → String
  | .nothingAsked | .helpAsked => "usage: lattice-net [--json-logs] <render|validate|crd> [options]"
  | .versionAsked => "lattice-net 0.1.0"
  | .missingCommand => "a command is required"
  | .unknownCommand => "unknown command"
  | .unknownArgument => "unexpected argument"
  | .missingArgument => "the option --spec is required"
  | .invalidValue => "an option has a missing or invalid value"
  | .tooManyValues => "an option that takes no value has one"
  | .repeated => "an option is given twice"

def Misuse.tell (misuse : Misuse) : IO UInt32 := do
  if misuse = .helpAsked ∨ misuse = .versionAsked then
    IO.println misuse.message
    return 0
  else
    IO.eprintln misuse.message
    return 2

end ClusterNet.Command

open ClusterNet.Command in
def main (args : List String) : IO UInt32 := do
  match Action.read args with
  | .error misuse => misuse.tell
  | .ok action =>
    match ← (run action : ExceptT Failure IO Unit).run with
    | .ok () => return 0
    | .error failure =>
      IO.eprintln s!"Error: {failure.message}"
      return 1
