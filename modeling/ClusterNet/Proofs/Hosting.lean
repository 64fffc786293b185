import ClusterNet.Network.Sizing
import ClusterNet.Proofs.Supernets

/- Which network can host the service network. The checks compare lengths and end addresses, and
   each of them is made on its own; together they say that the host has all addresses of the service
   network and further ones, and none that a cluster network has. -/
namespace ClusterNet.Network

def Meets (a b : Network) : Prop := (a.addresses ∩ b.addresses).Nonempty

def Within (inner outer : Network) : Prop := inner.addresses ⊆ outer.addresses

instance (a b : Network) : Decidable (a.Meets b) := decidable_of_iff _ overlaps_iff_common

instance (inner outer : Network) : Decidable (inner.Within outer) :=
  decidable_of_iff _ includes_iff_subset

structure Hosts (host service : Network) (clusters : List Network) : Prop where
  around : service.Within host
  spare : ∃ a ∈ host.addresses, a ∉ service.addresses
  apart : ∀ cluster ∈ clusters, ¬host.Meets cluster

def SizingFault.problem (field : String) (service host : Network) (fault : SizingFault) : Problem :=
  .semantic field (fault.message service host)

theorem overlaps_eq_meets (a b : Network) : a.overlaps b = decide (a.Meets b) := by
  rw [Bool.eq_iff_iff, decide_eq_true_eq]
  exact overlaps_iff_common

/-- A network around another has further addresses just where it fixes fewer leading bits. -/
theorem spare_iff_shorter {host service : Network} (around : service.Within host) :
    (∃ a ∈ host.addresses, a ∉ service.addresses) ↔ host.length < service.length := by
  constructor
  · rintro ⟨a, inside, outside⟩
    apply Nat.lt_of_not_le
    intro short
    have common := around service.firstAddress_mem
    have all := subset_of_common service.firstAddress_mem common short
    exact outside (all inside)
  · intro shorter
    apply Set.not_subset.mp
    intro all
    have longer := length_le_of_includes (includes_iff_subset.mpr all)
    omega

theorem sizingProblems_eq (field : String) (service host : Network) (clusters : List Network) :
    sizingProblems field service host clusters =
      ((clusters.filter fun cluster => host.Meets cluster).map fun cluster =>
          (SizingFault.meets cluster).problem field service host)
        ++ (if service.Within host then []
          else [SizingFault.notIncluded.problem field service host])
        ++ (if host.length < service.length then []
          else [SizingFault.notLarger.problem field service host]) := by
  have meets : host.overlaps = fun cluster => decide (host.Meets cluster) := by
    funext cluster
    exact overlaps_eq_meets host cluster
  have within : (host.includes service = true) = service.Within host :=
    propext includes_iff_subset
  have larger : service.length ≤ host.length ↔ ¬host.length < service.length := Nat.not_lt.symm
  simp only [sizingProblems, sizingFaults, meets, within, larger, ite_not, List.map_append,
    List.map_map]
  congr 2
  · split <;> rfl
  · split <;> rfl

theorem sizingProblems_eq_nil {field : String} {service host : Network}
    {clusters : List Network} :
    sizingProblems field service host clusters = [] ↔ host.Hosts service clusters := by
  rw [sizingProblems_eq]
  simp only [List.append_eq_nil_iff, List.map_eq_nil_iff, List.filter_eq_nil_iff,
    decide_eq_true_eq, ite_eq_left_iff, List.cons_ne_nil, imp_false, not_not]
  constructor
  · rintro ⟨⟨apart, around⟩, shorter⟩
    exact ⟨around, (spare_iff_shorter around).mpr shorter, apart⟩
  · rintro ⟨around, spare, apart⟩
    exact ⟨⟨apart, around⟩, (spare_iff_shorter around).mp spare⟩

theorem Hosts.service_apart {host service : Network} {clusters : List Network}
    (hosts : host.Hosts service clusters) : ∀ cluster ∈ clusters, ¬service.Meets cluster := by
  rintro cluster member ⟨a, inService, inCluster⟩
  exact hosts.apart cluster member ⟨a, hosts.around inService, inCluster⟩

/-- No problem is found exactly where the network can host the service network, and one is reported
    for each reason why it cannot. -/
theorem sizing_decides_hosting (field : String) (service host : Network)
    (clusters : List Network) :
    (sizingProblems field service host clusters = [] ↔ host.Hosts service clusters) ∧
    sizingProblems field service host clusters =
      ((clusters.filter fun cluster => host.Meets cluster).map fun cluster =>
          (SizingFault.meets cluster).problem field service host)
        ++ (if service.Within host then []
          else [SizingFault.notIncluded.problem field service host])
        ++ (if host.length < service.length then []
          else [SizingFault.notLarger.problem field service host]) ∧
    (sizingProblems field service host clusters = [] →
      ∀ cluster ∈ clusters, ¬service.Meets cluster) := by
  refine ⟨sizingProblems_eq_nil, sizingProblems_eq field service host clusters, ?_⟩
  intro clean
  exact (sizingProblems_eq_nil.mp clean).service_apart

/-- 172.30.0.0/15 hosts 172.31.5.9/16 and stays clear of a network of the other family, however
    large. -/
theorem serviceBlock_is_hosted :
    sizingProblems "host" serviceBlock (serviceBlock.supernet 1) [clusterBlock, wholeV6] = [] ∧
      (serviceBlock.supernet 1).Hosts serviceBlock [clusterBlock, wholeV6] ∧
      ¬serviceBlock.Meets clusterBlock ∧ ¬serviceBlock.Meets wholeV6 := by
  obtain ⟨decides, -, apart⟩ :=
    sizing_decides_hosting "host" serviceBlock (serviceBlock.supernet 1) [clusterBlock, wholeV6]
  have clean : sizingProblems "host" serviceBlock (serviceBlock.supernet 1)
      [clusterBlock, wholeV6] = [] := by decide +kernel
  have clear := apart clean
  exact ⟨clean, decides.mp clean, clear _ (by decide), clear _ (by decide)⟩

end ClusterNet.Network
