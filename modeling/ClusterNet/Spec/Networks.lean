import ClusterNet.Spec
import ClusterNet.Network
import ClusterNet.Problem

/- The networks that a spec names, and what is wrong with their texts. -/
namespace ClusterNet.Spec

def serviceField : String := "spec.serviceNetwork"

def clusterField : String := "spec.clusterNetwork"

def serviceEntryProblems (i : Nat) (cidr : String) : List Problem :=
  match Network.read cidr with
  | .ok _ => []
  | .error e => [.semantic s!"{serviceField}[{i}]" e.message]

def serviceNetworks (s : Spec) : List Network :=
  s.serviceNetwork.filterMap fun cidr => (Network.read cidr).toOption

def serviceProblems (s : Spec) : List Problem :=
  s.serviceNetwork.zipIdx.flatMap fun (cidr, i) => serviceEntryProblems i cidr

/-- Each node gets a part of the network that is not larger than the network. -/
def hostPrefixProblems (i : Nat) (network : Network) (hostPrefix : Option UInt32) : List Problem :=
  match hostPrefix with
  | none => []
  | some length =>
    if length.toNat < network.length ∨ network.longest < length.toNat then
      [.semantic s!"{clusterField}[{i}].hostPrefix"
        (s!"/{length.toNat} must be between /{network.length} and /{network.longest} "
          ++ s!"for {network.text}")]
    else []

def clusterEntryProblems (i : Nat) (entry : ClusterEntry) : List Problem :=
  match Network.read entry.cidr with
  | .ok network => hostPrefixProblems i network entry.hostPrefix
  | .error e => [.semantic s!"{clusterField}[{i}].cidr" e.message]

def clusterNetworks (s : Spec) : List Network :=
  s.clusterNetwork.filterMap fun entry => (Network.read entry.cidr).toOption

def clusterProblems (s : Spec) : List Problem :=
  s.clusterNetwork.zipIdx.flatMap fun (entry, i) => clusterEntryProblems i entry

def requireOne (field : String) (count : Nat) : Option Problem :=
  match count with
  | 0 => some (.structural field "exactly one entry is required, found none")
  | 1 => none
  | n => some (.structural field s!"exactly one entry is required, found {n}")

end ClusterNet.Spec
