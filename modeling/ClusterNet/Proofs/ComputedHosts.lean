import ClusterNet.Proofs.Attribution

/- The network that is computed for service addresses where none is set. It is expanded from the
   service network, kept as a text and read again when the spec is validated. What comes back is
   large enough, so the only thing left to complain about is what it has in common with cluster
   networks. A service network of length zero has no expansion, and then the setting stays open. -/
namespace ClusterNet

theorem Network.expand_hosts {service host : Network} (expanded : service.expand = some host) :
    host.Masked ∧ host.Hosts service [] := by
  have proper : 0 < service.length := by
    apply Nat.pos_of_ne_zero
    intro whole
    rw [expand_eq_none whole] at expanded
    cases expanded
  rw [expand_eq_some proper] at expanded
  cases expanded
  have around : service.Within (service.supernet 1) :=
    includes_iff_subset.mp (supernet_includes service 1)
  have shorter : (service.supernet 1).length < service.length := by
    rw [supernet_length]
    omega
  exact ⟨supernet_masked service 1, around, (spare_iff_shorter around).mpr shorter,
    List.forall_mem_nil _⟩

theorem Network.sizingProblems_of_room {service host : Network} (room : host.Hosts service [])
    (field : String) (clusters : List Network) :
    sizingProblems field service host clusters =
      (clusters.filter fun cluster => host.Meets cluster).map fun cluster =>
        (SizingFault.meets cluster).problem field service host := by
  have shorter := (spare_iff_shorter room.around).mp room.spare
  rw [sizingProblems_eq, if_pos room.around, if_pos shorter, List.append_nil, List.append_nil]

namespace Kuryr

section

variable {s : Spec} {service : Network}

theorem kuryr_fillDefaults (s : Spec) :
    (fillDefaults s).kuryr = some (fillConfig s (s.kuryr.getD .empty)) := rfl

theorem computed_of_unset (unset : s.kuryr.bind KuryrConfig.serviceNetwork = none) :
    (fillConfig s (s.kuryr.getD .empty)).serviceNetwork = computedServiceNetwork s := by
  cases configured : s.kuryr with
  | none => rfl
  | some k =>
    have missing : k.serviceNetwork = none := by simpa [configured] using unset
    simp only [fillConfig, Option.getD_some, missing]
    rfl

theorem computedServiceNetwork_of_sole (sole : s.SoleService service) :
    computedServiceNetwork s = service.expand.map Network.text := by
  obtain ⟨cidr, only, read⟩ := sole
  cases expanded : service.expand <;>
    simp [computedServiceNetwork, only, read, Except.toOption, expanded]

theorem sized_of_expanded {host : Network}
    (unset : s.kuryr.bind KuryrConfig.serviceNetwork = none) (sole : s.SoleService service)
    (expanded : service.expand = some host) : Sized (fillDefaults s) service host := by
  refine ⟨sole, _, kuryr_fillDefaults s, host.text, ?_, ?_⟩
  · rw [computed_of_unset unset, computedServiceNetwork_of_sole sole, expanded]
    rfl
  · exact Network.read_text (Network.expand_hosts expanded).1

theorem open_of_whole (unset : s.kuryr.bind KuryrConfig.serviceNetwork = none)
    (sole : s.SoleService service) (whole : service.length = 0) :
    (fillConfig s (s.kuryr.getD .empty)).serviceNetwork = none := by
  rw [computed_of_unset unset, computedServiceNetwork_of_sole sole, Network.expand_eq_none whole]
  rfl

/-- A computed network can be read and has room for the services, so all that is found wrong with it
    is each cluster network it meets. Where none can be computed, that is said once. -/
theorem computed_host_only_meets (unset : s.kuryr.bind KuryrConfig.serviceNetwork = none)
    (sole : s.SoleService service) :
    (0 < service.length → ∃ host, service.expand = some host ∧
      Sized (fillDefaults s) service host ∧ host.Hosts service [] ∧
      problemsOn (· = serviceHostField) (validate (fillDefaults s)) =
        (s.clusterNetworks.filter fun cluster => host.Meets cluster).map fun cluster =>
          (Network.SizingFault.meets cluster).problem serviceHostField service host) ∧
    (service.length = 0 →
      problemsOn (· = serviceHostField) (validate (fillDefaults s)) =
        [.structural serviceHostField "must be set"]) := by
  constructor
  · intro proper
    have expanded := Network.expand_eq_some proper
    have sized := sized_of_expanded unset sole expanded
    have room := (Network.expand_hosts expanded).2
    refine ⟨service.supernet 1, expanded, sized, room, ?_⟩
    rw [sizing_of_sized sized]
    exact Network.sizingProblems_of_room room serviceHostField s.clusterNetworks
  · intro whole
    have kept : (fillDefaults s).SoleService service := sole
    rw [validate_on_host (kuryr_fillDefaults s)]
    exact hostProblems_of_unset kept (open_of_whole unset sole whole)

end

/-- The service network is written with white space and bits behind its leading ones. -/
def paddedSpec (cidr : String) : Spec :=
  { Spec.empty with
    serviceNetwork := [cidr]
    clusterNetwork := [⟨"172.30.128.0/17", none⟩, ⟨"bogus", none⟩, ⟨"10.128.0.0/14", none⟩]
    defaultNetwork := ⟨"Kuryr", none⟩ }

theorem paddedSpec_host_meets_one :
    (paddedSpec " 172.31.5.9/16\t").SoleService (Network.masked Network.serviceBlock) ∧
      (∃ host, Sized (fillDefaults (paddedSpec " 172.31.5.9/16\t"))
          (Network.masked Network.serviceBlock) host ∧
        (problemsOn (· = serviceHostField)
          (validate (fillDefaults (paddedSpec " 172.31.5.9/16\t")))).map Problem.message =
            ["invalid spec.defaultNetwork.kuryrConfig.openStackServiceNetwork: "
              ++ "172.30.0.0/15 overlaps cluster network 172.30.128.0/17"]) ∧
      problemsOn (· = serviceHostField) (validate (fillDefaults (paddedSpec "::/0"))) =
        [.structural serviceHostField "must be set"] := by
  have sole : (paddedSpec " 172.31.5.9/16\t").SoleService
      (Network.masked Network.serviceBlock) := ⟨_, rfl, by decide +kernel⟩
  have whole : (paddedSpec "::/0").SoleService Network.wholeV6 := ⟨_, rfl, by decide +kernel⟩
  obtain ⟨computed, -⟩ := computed_host_only_meets rfl sole
  obtain ⟨host, expanded, sized, -, reported⟩ := computed (by decide)
  obtain ⟨-, unset⟩ := computed_host_only_meets rfl whole
  refine ⟨sole, ⟨host, sized, ?_⟩, unset rfl⟩
  cases expanded
  rw [reported]
  decide +kernel

end Kuryr
end ClusterNet
