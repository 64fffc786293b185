import ClusterNet.Version

/- In which order controllers and node agents move to another release. -/
namespace ClusterNet

inductive Rollout where
  | nodesFirst
  | controllersFirst
  | simultaneous
  deriving DecidableEq, Repr

namespace Rollout

def name : Rollout → String
  | .nodesFirst => "NodesFirst"
  | .controllersFirst => "ControllersFirst"
  | .simultaneous => "Simultaneous"

/-- On an upgrade node agents must understand new controllers first; on a downgrade controllers step
    back first. -/
def order (running : Option String) (target : String) : Rollout :=
  match running.map (Version.change · target) with
  | some .upgrade => .nodesFirst
  | some .downgrade => .controllersFirst
  | some .same | some .unknown | none => .simultaneous

end Rollout
end ClusterNet
