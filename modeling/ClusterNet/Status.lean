import ClusterNet.Wire.Format
import ClusterNet.Problem

/- The recorded outcome of the most recent pass. -/
namespace ClusterNet

open Wire Fields

inductive Phase where
  | pending
  | rendered
  | rejected
  deriving DecidableEq, Repr

def Phase.name : Phase → String
  | .pending => "Pending"
  | .rendered => "Rendered"
  | .rejected => "Rejected"

def Phase.all : List Phase := [.pending, .rendered, .rejected]

structure Status where
  phase : Phase
  message : Option String
  errors : List String
  configHashes : Dict String
  observedRelease : Option String
  deriving DecidableEq, Repr

namespace Status

def toJson (s : Status) : Json :=
  .ofFields [
    ("phase", some (.text s.phase.name)),
    ("message", s.message.map .text),
    ("errors", if s.errors.isEmpty then none else some (.texts s.errors)),
    ("configHashes", if s.configHashes.isEmpty then none else some (.ofTexts s.configHashes)),
    ("observedRelease", s.observedRelease.map .text)]

def read [Format ν] : ν → Except Fault Status :=
  readRecord "LatticeNetworkStatus" 5 <|
    mk <$> defaulted 0 "phase" .pending (readChoice Phase.name Phase.all)
      <*> optional 1 "message" Format.text
      <*> defaulted 2 "errors" [] readTexts
      <*> defaulted 3 "configHashes" .empty (readDict Format.text)
      <*> optional 4 "observedRelease" Format.text

/-- Rejections and unsupported types are the user's to mend; any other failure leaves the network
    pending. -/
def ofFailure (problem : Problem) (release : String) : Status where
  phase := match problem with
    | .rejected .. | .unsupportedType _ => .rejected
    | _ => .pending
  message := some problem.message
  errors := match problem.violations with
    | [] => [problem.message]
    | violations => violations.map Problem.message
  configHashes := .empty
  observedRelease := some release

end Status
end ClusterNet
