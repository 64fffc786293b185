import ClusterNet.Spec.Networks
import ClusterNet.Manifest.Kinds
import ClusterNet.Facts
import ClusterNet.Release

/- What every component yields: its objects, the values its configuration hash is taken over, and
   warnings about what had to be withheld. -/
namespace ClusterNet

structure Rendering where
  objects : List Manifest
  data : Dict Json
  warnings : List Problem
  deriving DecidableEq, Repr

/-- A field may be set for the first time; once set it must stay as it is. -/
def unchanged [DecidableEq α] (field : String) (write : α → String) (before after : Option α) :
    List Problem :=
  match before with
  | none => []
  | some old =>
    if after = some old then []
    else
      let now := after.elim "unset" write
      [.unsafeChange field s!"{write old} -> {now}; immutable once the network is bootstrapped"]

def writeNat32 (n : UInt32) : String := toString n.toNat

def writeFlag (b : Bool) : String := toString b

def filled (provider field : String) : Option α → Except Problem α
  | some a => .ok a
  | none => .error (.renderContract provider s!"{field} is unset; defaults were not applied")

end ClusterNet
