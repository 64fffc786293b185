import ClusterNet.Command.Host
import ClusterNet.Status

/- Why a command does not succeed. -/
namespace ClusterNet.Command

inductive Failure where
  | unreadable (path : String) (fault : FileFault)
  | unwritable (fault : FileFault)
  | malformed (path : String)
  | rejected (count : Nat)
  | problem (problem : Problem)
  deriving DecidableEq, Repr

def Failure.message : Failure → String
  | .unreadable path fault => s!"failed to read {path}: {fault.message}"
  | .unwritable fault => s!"io error: {fault.message}"
  | .malformed path => s!"invalid YAML in {path}"
  | .rejected count => s!"validation error: spec rejected with {count} error(s)"
  | .problem p => p.message

/-- How a failed pass is reported: a rejected spec with everything that is wrong with it, any other
    problem by itself. -/
structure Report where
  failure : Failure
  lines : List String
  deriving DecidableEq, Repr

def Report.of (p : Problem) (release : String) : Report :=
  if p.isRejection then
    let errors := (Status.ofFailure p release).errors
    ⟨.rejected errors.length, "Validation errors:" :: errors.map fun error => s!"  - {error}"⟩
  else ⟨.problem p, []⟩

def Report.text (r : Report) : String := String.join (r.lines.map (· ++ "\n"))

end ClusterNet.Command
