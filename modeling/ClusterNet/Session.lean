import ClusterNet.Pass

/- Passes one after another. The spec returned by the last successful pass is what the next one is
   compared with; a failed pass leaves it as it was. -/
namespace ClusterNet

structure Session where
  release : Release
  facts : Facts
  spec : Spec
  applied : Option Spec
  deriving DecidableEq, Repr

namespace Session

def start : Session := ⟨.builtIn, .none, .empty, none⟩

def result (s : Session) : Except Problem Pass.Outcome :=
  Pass.reconcile s.release s.spec s.applied s.facts

def forget (s : Session) : Session := { s with applied := none }

def settle (s : Session) : Except Problem Pass.Outcome → Session
  | .ok outcome => { s with applied := some outcome.spec }
  | .error _ => s

structure Request where
  release : Release
  facts : Facts
  spec : Spec
  deriving DecidableEq, Repr

/-- The outcomes of the passes, each compared with the last success before it. -/
def run (applied : Option Spec) : List Request → List (Except Problem Pass.Outcome)
  | [] => []
  | request :: rest =>
    let session : Session := ⟨request.release, request.facts, request.spec, applied⟩
    session.result :: run (session.settle session.result).applied rest

end Session
end ClusterNet
