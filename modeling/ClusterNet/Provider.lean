import ClusterNet.Provider.Kuryr
import ClusterNet.Provider.KubeProxy
import ClusterNet.Provider.Multus
import ClusterNet.Provider.NodeIdentity

/- The components of a cluster network. Kuryr is the one pod network that is managed here; the
   others accompany any pod network and decide themselves whether they take part. -/
namespace ClusterNet

inductive Provider where
  | kuryr
  | kubeProxy
  | multus
  | nodeIdentity
  deriving DecidableEq, Repr

namespace Provider

def all : List Provider := [.kuryr, .kubeProxy, .multus, .nodeIdentity]

def name : Provider → String
  | .kuryr => Kuryr.provider
  | .kubeProxy => KubeProxy.provider
  | .multus => Multus.provider
  | .nodeIdentity => NodeIdentity.provider

def ofName? (s : String) : Option Provider := all.find? (name · = s)

/-- The components that take part in every pass, in the order in which they fill defaults. -/
def companions : List Provider := [.kubeProxy, .multus, .nodeIdentity]

def primary : NetworkType → List Provider
  | .kuryr => [.kuryr]
  | .thirdParty => []

def forType (type : NetworkType) : List Provider := primary type ++ companions

def forSpec (s : Spec) : Except Problem (List Provider) :=
  match s.type? with
  | some type => .ok (forType type)
  | none => .error (.unsupportedType s.defaultNetwork.type)

def isActive (r : Release) (s : Spec) : Provider → Bool
  | .kuryr => Kuryr.isActive s
  | .kubeProxy => KubeProxy.isActive s
  | .multus => Multus.isActive s
  | .nodeIdentity => NodeIdentity.isActive r s

def fillDefaults (s : Spec) : Provider → Spec
  | .kuryr => Kuryr.fillDefaults s
  | .kubeProxy => KubeProxy.fillDefaults s
  | .multus => Multus.fillDefaults s
  | .nodeIdentity => NodeIdentity.fillDefaults s

def validate (s : Spec) : Provider → List Problem
  | .kuryr => Kuryr.validate s
  | .kubeProxy => KubeProxy.validate s
  | .multus => Multus.validate s
  | .nodeIdentity => NodeIdentity.validate s

/-- The changes that a running network does not survive. -/
def unsafeChanges (previous next : Spec) : Provider → List Problem
  | .kuryr => Kuryr.unsafeChanges previous next
  | .multus => Multus.unsafeChanges previous next
  | .kubeProxy | .nodeIdentity => []

def render (r : Release) (s : Spec) (facts : Facts) : Provider → Except Problem Rendering
  | .kuryr => Kuryr.render r s facts
  | .kubeProxy => KubeProxy.render r s
  | .multus => Multus.render r s
  | .nodeIdentity => NodeIdentity.render r s facts

end Provider
end ClusterNet
