import Mathlib.Tactic.MkIffOfInductiveProp
import ClusterNet.Proofs.Acceptance
import ClusterNet.Proofs.Hosting

/- What Kuryr's validation demands of a spec. Where a network is missing or cannot be read, the
   checks that would look at it are left out; but then that is a problem of its own. So a spec
   without problems passes all checks. -/
namespace ClusterNet

def Spec.SoleService (s : Spec) (service : Network) : Prop :=
  ∃ cidr, s.serviceNetwork = [cidr] ∧ Network.read cidr = .ok service

structure ClusterEntry.Names (entry : ClusterEntry) (cluster : Network) : Prop where
  read : Network.read entry.cidr = .ok cluster
  hostPrefix : ∀ length ∈ entry.hostPrefix,
    cluster.length ≤ length.toNat ∧ length.toNat ≤ cluster.longest

def Spec.SoleCluster (s : Spec) (cluster : Network) : Prop :=
  ∃ entry, s.clusterNetwork = [entry] ∧ entry.Names cluster

namespace KuryrConfig

def NamesHost (k : KuryrConfig) (host : Network) : Prop :=
  ∃ text, k.serviceNetwork = some text ∧ Network.read text = .ok host

/-- Sizes that are set fit together. A largest size of zero sets no limit. -/
@[mk_iff] structure PoolsFit (k : KuryrConfig) : Prop where
  batch_pos : ∀ batch ∈ k.poolBatch, 0 < batch.toNat
  least_le_batch : ∀ least ∈ k.poolMin, ∀ batch ∈ k.poolBatch, least.toNat ≤ batch.toNat
  le_most : ∀ most ∈ k.poolMax, 0 < most.toNat →
    (∀ least ∈ k.poolMin, least.toNat ≤ most.toNat) ∧
      ∀ batch ∈ k.poolBatch, batch.toNat ≤ most.toNat

@[mk_iff] structure ProbesFit (k : KuryrConfig) : Prop where
  daemon : ∀ port ∈ k.daemonProbesPort, 1 ≤ port.toNat ∧ port.toNat ≤ 65535
  controller : ∀ port ∈ k.controllerProbesPort, 1 ≤ port.toNat ∧ port.toNat ≤ 65535
  distinct : ∀ daemon ∈ k.daemonProbesPort, ∀ controller ∈ k.controllerProbesPort,
    daemon ≠ controller
  mtu : ∀ mtu ∈ k.mtu, 1280 ≤ mtu.toNat ∧ mtu.toNat ≤ 65535

end KuryrConfig

namespace Spec

theorem requireOne_eq_none_iff {field : String} {count : Nat} :
    requireOne field count = none ↔ count = 1 := by
  constructor
  · exact requireOne_eq_none
  · rintro rfl
    rfl

theorem serviceEntryProblems_eq_nil {i : Nat} {cidr : String} :
    serviceEntryProblems i cidr = [] ↔ ∃ service, Network.read cidr = .ok service := by
  unfold serviceEntryProblems
  split
  · next service read => simp [read]
  · next e read => simp [read]

theorem hostPrefixProblems_eq_nil {i : Nat} {cluster : Network} {hostPrefix : Option UInt32} :
    hostPrefixProblems i cluster hostPrefix = [] ↔
      ∀ length ∈ hostPrefix, cluster.length ≤ length.toNat ∧ length.toNat ≤ cluster.longest := by
  cases hostPrefix with
  | none => simp [hostPrefixProblems]
  | some length => simp [hostPrefixProblems]

theorem clusterEntryProblems_eq_nil {i : Nat} {entry : ClusterEntry} :
    clusterEntryProblems i entry = [] ↔ ∃ cluster, entry.Names cluster := by
  unfold clusterEntryProblems
  split
  · next cluster read =>
    rw [hostPrefixProblems_eq_nil]
    constructor
    · intro fits
      exact ⟨cluster, read, fits⟩
    · rintro ⟨other, named, fits⟩
      cases read.symm.trans named
      exact fits
  · next e failed =>
    constructor
    · nofun
    · rintro ⟨cluster, named, -⟩
      cases failed.symm.trans named

theorem one_clean_iff {α : Type} {field : String} {entries : List α}
    {problems : Nat → α → List Problem} :
    requireOne field entries.length = none ∧
        entries.zipIdx.flatMap (fun (entry, i) => problems i entry) = [] ↔
      ∃ entry, entries = [entry] ∧ problems 0 entry = [] := by
  rw [requireOne_eq_none_iff]
  constructor
  · rintro ⟨single, clean⟩
    obtain ⟨entry, rfl⟩ := List.length_eq_one_iff.mp single
    exact ⟨entry, rfl, by simpa using clean⟩
  · rintro ⟨entry, rfl, clean⟩
    simp [clean]

section

variable {s : Spec} {service cluster : Network}

theorem serviceNetworks_of_sole (sole : s.SoleService service) : s.serviceNetworks = [service] := by
  obtain ⟨cidr, only, read⟩ := sole
  simp [serviceNetworks, only, read, Except.toOption]

theorem clusterNetworks_of_sole (sole : s.SoleCluster cluster) : s.clusterNetworks = [cluster] := by
  obtain ⟨entry, only, named⟩ := sole
  simp [clusterNetworks, only, named.read, Except.toOption]

theorem sole_of_single (single : s.serviceNetwork.length = 1)
    (services : s.serviceNetworks = [service]) : s.SoleService service := by
  obtain ⟨cidr, only⟩ := List.length_eq_one_iff.mp single
  cases read : Network.read cidr with
  | error e => simp [serviceNetworks, only, read, Except.toOption] at services
  | ok network =>
    have same : network = service := by
      simpa [serviceNetworks, only, read, Except.toOption] using services
    exact ⟨cidr, only, same ▸ read⟩

theorem serviceProblems_of_one {s : Spec} :
    requireOne serviceField s.serviceNetwork.length = none ∧ s.serviceProblems = [] ↔
      ∃ service, s.SoleService service := by
  rw [serviceProblems, one_clean_iff]
  constructor
  · rintro ⟨cidr, only, clean⟩
    obtain ⟨service, read⟩ := serviceEntryProblems_eq_nil.mp clean
    exact ⟨service, cidr, only, read⟩
  · rintro ⟨service, cidr, only, read⟩
    exact ⟨cidr, only, serviceEntryProblems_eq_nil.mpr ⟨service, read⟩⟩

theorem clusterProblems_of_one {s : Spec} :
    requireOne clusterField s.clusterNetwork.length = none ∧ s.clusterProblems = [] ↔
      ∃ cluster, s.SoleCluster cluster := by
  rw [clusterProblems, one_clean_iff]
  constructor
  · rintro ⟨entry, only, clean⟩
    obtain ⟨cluster, named⟩ := clusterEntryProblems_eq_nil.mp clean
    exact ⟨cluster, entry, only, named⟩
  · rintro ⟨cluster, entry, only, named⟩
    exact ⟨entry, only, clusterEntryProblems_eq_nil.mpr ⟨cluster, named⟩⟩

end

end Spec

namespace Kuryr

theorem poolLimitProblems_eq_nil {name : String} {value : Option UInt32} {most : Nat} :
    poolLimitProblems name value most = [] ↔ ∀ v ∈ value, v.toNat ≤ most := by
  cases value with
  | none => simp [poolLimitProblems]
  | some v => simp [poolLimitProblems]

theorem toNat_pos_iff {n : UInt32} : 0 < n.toNat ↔ n ≠ 0 := by
  rw [Nat.pos_iff_ne_zero, ne_eq, ne_eq, ← UInt32.toNat_inj]
  rfl

theorem poolProblems_eq_nil {k : KuryrConfig} : poolProblems k = [] ↔ k.PoolsFit := by
  simp only [poolProblems, List.append_eq_nil_iff, and_assoc, KuryrConfig.poolsFit_iff]
  refine and_congr ?_ (and_congr ?_ ?_)
  · cases k.poolBatch with
    | none => simp
    | some batch => simp [toNat_pos_iff]
  · cases k.poolMin with
    | none => simp
    | some least => cases k.poolBatch <;> simp
  · cases k.poolMax with
    | none => simp
    | some most =>
      by_cases unlimited : most = 0
      · simp [unlimited]
      · have limited := toNat_pos_iff.mpr unlimited
        simp [unlimited, limited, poolLimitProblems_eq_nil]

theorem portProblems_eq_nil {name : String} {port : Option UInt32} :
    portProblems name port = [] ↔ ∀ p ∈ port, 1 ≤ p.toNat ∧ p.toNat ≤ 65535 := by
  cases port with
  | none => simp [portProblems]
  | some p => simp [portProblems, Nat.one_le_iff_ne_zero]

theorem probeProblems_eq_nil {k : KuryrConfig} : probeProblems k = [] ↔ k.ProbesFit := by
  simp only [probeProblems, List.append_eq_nil_iff, portProblems_eq_nil, and_assoc,
    KuryrConfig.probesFit_iff]
  refine and_congr_right' (and_congr_right' (and_congr ?_ ?_))
  · cases k.daemonProbesPort with
    | none => simp
    | some daemon => cases k.controllerProbesPort <;> simp
  · cases k.mtu with
    | none => simp
    | some mtu => simp [leastMtu]

section

variable {s : Spec} {k : KuryrConfig} {service host : Network}

theorem hostProblems_of_named (sole : s.SoleService service) (named : k.NamesHost host) :
    serviceHostProblems s k =
      Network.sizingProblems serviceHostField service host s.clusterNetworks := by
  have services := Spec.serviceNetworks_of_sole sole
  obtain ⟨text, given, read⟩ := named
  obtain ⟨cidr, only, -⟩ := sole
  simp [serviceHostProblems, given, read, services, only]

theorem hostProblems_of_unset (sole : s.SoleService service) (unset : k.serviceNetwork = none) :
    serviceHostProblems s k = [.structural serviceHostField "must be set"] := by
  have services := Spec.serviceNetworks_of_sole sole
  obtain ⟨cidr, only, -⟩ := sole
  simp [serviceHostProblems, unset, services, only]

theorem hostProblems_of_unread {text : String} {e : Network.ReadError}
    (given : k.serviceNetwork = some text) (failed : Network.read text = .error e) :
    serviceHostProblems s k = [.semantic serviceHostField e.message] := by
  simp [serviceHostProblems, given, failed]

theorem hostProblems_eq_nil (sole : s.SoleService service) :
    serviceHostProblems s k = [] ↔
      ∃ host, k.NamesHost host ∧ host.Hosts service s.clusterNetworks := by
  constructor
  · intro clean
    cases given : k.serviceNetwork with
    | none =>
      rw [hostProblems_of_unset sole given] at clean
      cases clean
    | some text =>
      cases read : Network.read text with
      | error e =>
        rw [hostProblems_of_unread given read] at clean
        cases clean
      | ok host =>
        have named : k.NamesHost host := ⟨text, given, read⟩
        rw [hostProblems_of_named sole named] at clean
        exact ⟨host, named, Network.sizingProblems_eq_nil.mp clean⟩
  · rintro ⟨host, named, hosts⟩
    rw [hostProblems_of_named sole named]
    exact Network.sizingProblems_eq_nil.mpr hosts

end

/-- Validation finds no problem exactly in the specs that have one service network and one cluster
    network, both readable, a readable network that can host the services beside the cluster, and
    pool sizes, ports and mtu within their bounds. -/
theorem validate_accepts_iff {s : Spec} :
    validate s = [] ↔
      ∃ service cluster k host, s.SoleService service ∧ s.SoleCluster cluster ∧
        s.kuryr = some k ∧ k.NamesHost host ∧ host.Hosts service [cluster] ∧
          k.PoolsFit ∧ k.ProbesFit := by
  simp only [validate, List.append_eq_nil_iff, Option.toList_eq_nil_iff]
  constructor
  · rintro ⟨⟨⟨⟨oneService, oneCluster⟩, services⟩, clusters⟩, config⟩
    obtain ⟨service, soleService⟩ := Spec.serviceProblems_of_one.mp ⟨oneService, services⟩
    obtain ⟨cluster, soleCluster⟩ := Spec.clusterProblems_of_one.mp ⟨oneCluster, clusters⟩
    cases configured : s.kuryr with
    | none => simp [configured] at config
    | some k =>
      simp only [configured, List.append_eq_nil_iff] at config
      obtain ⟨⟨hosting, pools⟩, probes⟩ := config
      obtain ⟨host, named, hosts⟩ := (hostProblems_eq_nil soleService).mp hosting
      rw [Spec.clusterNetworks_of_sole soleCluster] at hosts
      exact ⟨service, cluster, k, host, soleService, soleCluster, rfl, named, hosts,
        poolProblems_eq_nil.mp pools, probeProblems_eq_nil.mp probes⟩
  · rintro ⟨service, cluster, k, host, soleService, soleCluster, configured, named, hosts, pools,
      probes⟩
    obtain ⟨oneService, services⟩ := Spec.serviceProblems_of_one.mpr ⟨service, soleService⟩
    obtain ⟨oneCluster, clusters⟩ := Spec.clusterProblems_of_one.mpr ⟨cluster, soleCluster⟩
    rw [← Spec.clusterNetworks_of_sole soleCluster] at hosts
    have hosting := (hostProblems_eq_nil soleService).mpr ⟨host, named, hosts⟩
    have config : serviceHostProblems s k ++ poolProblems k ++ probeProblems k = [] := by
      rw [hosting, poolProblems_eq_nil.mpr pools, probeProblems_eq_nil.mpr probes]
      rfl
    simp only [configured]
    exact ⟨⟨⟨⟨oneService, oneCluster⟩, services⟩, clusters⟩, config⟩

end Kuryr
end ClusterNet
