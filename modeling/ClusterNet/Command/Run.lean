import ClusterNet.Command.Arguments
import ClusterNet.Command.Failure
import ClusterNet.Command.Table
import ClusterNet.Pass
import ClusterNet.Spec.Definition
import ClusterNet.Spec.Resource
import ClusterNet.Yaml.View

/- Running a command on a host. Files are read in the order release, spec, previous spec, facts; the
   first that fails ends the command. -/
namespace ClusterNet

def Release.parse (text : String) : Option Release := do
  (Release.read (← Yaml.View.read text)).toOption

def Facts.parse (text : String) : Option Facts := do
  (Facts.read (← Yaml.View.read text)).toOption

/-- The spec in a text, by itself or inside a resource. -/
def Spec.parse (text : String) : Option Spec := do
  (Resource.specOf (← Yaml.Value.read text)).toOption

namespace Command

variable {m : Type → Type} [Monad m] [Host m]

def loadRelease (path : Option String) : ExceptT Failure m Release := do
  match path with
  | none => return .builtIn
  | some path =>
    match ← (Host.readFile path : m _) with
    | .error fault =>
      throw (.problem (.config path s!"failed to read: {fault.message}"))
    | .ok text =>
      match Release.parse text with
      | some r => return r
      | none => throw (.problem (.config path "unreadable document"))

def load (parse : String → Option α) (path : String) : ExceptT Failure m α := do
  match ← (Host.readFile path : m _) with
  | .error fault => throw (.unreadable path fault)
  | .ok text =>
    match parse text with
    | some a => return a
    | none => throw (.malformed path)

def loadGiven (parse : String → Option α) : Option String → ExceptT Failure m (Option α)
  | none => return none
  | some path => some <$> load parse path

def say (s : String) : ExceptT Failure m Unit := (Host.print s : m Unit)

def sayError (s : String) : ExceptT Failure m Unit := (Host.warn s : m Unit)

def accept (release : Release) (result : Except Problem α) : ExceptT Failure m α := do
  match result with
  | .ok a => return a
  | .error p =>
    let report := Report.of p release.version
    sayError report.text
    throw report.failure

def Output.write (o : Pass.Outcome) : Output → String
  | .yaml => o.yaml
  | .json => (Json.list (o.objects.map Manifest.toJson)).indented ++ "\n"

def summaryTable (o : Pass.Outcome) : String :=
  table ["PROVIDER", "OBJECTS", "CONFIG HASH"] o.summary

def render (options : RenderOptions) : ExceptT Failure m Unit := do
  let release ← loadRelease options.inputs.release
  let spec ← load Spec.parse options.inputs.spec
  let previous ← loadGiven Spec.parse options.inputs.previous
  let facts ← loadGiven Facts.parse options.facts
  let outcome ← accept release (Pass.reconcile release spec previous (facts.getD .none))
  sayError (String.join (outcome.warnings.map fun p => s!"warning: {p.message}\n"))
  if options.summary then say (summaryTable outcome)
  else
    let text := options.output.write outcome
    match options.target with
    | none => say text
    | some path =>
      match ← (Host.writeFile path text : m _) with
      | .ok () => return ()
      | .error fault => throw (.unwritable fault)

def validate (options : ValidateOptions) : ExceptT Failure m Unit := do
  let release ← loadRelease options.inputs.release
  let spec ← load Spec.parse options.inputs.spec
  let previous ← loadGiven Spec.parse options.inputs.previous
  let defaulted ← accept release (Pass.check release spec previous)
  say <|
    if options.showDefaults then Yaml.text defaulted.toJson else s!"{options.inputs.spec} valid\n"

def run : Action → ExceptT Failure m Unit
  | .render options => render options
  | .validate options => validate options
  | .define => say (Yaml.text Definition.toJson)

end Command
end ClusterNet
