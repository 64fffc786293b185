import ClusterNet.Network
import ClusterNet.Problem

/- Whether a network for service addresses can host the service network: it meets no cluster
   network, holds the service network and is larger. Each check is made on its own. -/
namespace ClusterNet.Network

inductive SizingFault where
  | meets (cluster : Network)
  | notIncluded
  | notLarger
  deriving DecidableEq, Repr

def sizingFaults (service host : Network) (clusters : List Network) : List SizingFault :=
  (clusters.filter host.overlaps).map .meets
    ++ (if host.includes service then [] else [.notIncluded])
    ++ (if service.length ≤ host.length then [.notLarger] else [])

def SizingFault.message (service host : Network) : SizingFault → String
  | .meets cluster => s!"{host.text} overlaps cluster network {cluster.text}"
  | .notIncluded => s!"{host.text} does not include service network {service.text}"
  | .notLarger =>
    s!"{host.text} must be larger than service network {service.text} (prefix /{host.length} is "
      ++ s!"not shorter than /{service.length})"

def sizingProblems (field : String) (service host : Network) (clusters : List Network) :
    List Problem :=
  (sizingFaults service host clusters).map fun fault =>
    .semantic field (fault.message service host)

end ClusterNet.Network
