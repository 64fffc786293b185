import ClusterNet.Proofs.Assembly
import ClusterNet.Proofs.Criteria
import ClusterNet.Proofs.Extension
import ClusterNet.Proofs.NetworkCharacters
import ClusterNet.Proofs.ProxyFlags

/- The cluster networks in the configuration of the proxy. They are copied there as they were given,
   while validation tolerates white space around each. So a text is that of its network exactly if
   there is no white space around it. -/
namespace ClusterNet

namespace KubeProxy

def commaParts (value : String) : List String := (value.toList.splitOn ',').map String.ofList

theorem commaParts_intercalate {texts : List String} (plain : ∀ t ∈ texts, ',' ∉ t.toList)
    (some : texts ≠ []) : commaParts (",".intercalate texts) = texts := by
  have parts : ∀ part ∈ texts.map String.toList, ',' ∉ part := List.forall_mem_map.mpr plain
  have comma : ",".toList = [','] := by decide
  rw [commaParts, String.toList_intercalate, comma,
    List.splitOn_intercalate ',' parts (by simpa using some), List.map_map]
  simp

theorem config_of_render {r : Release} {s : Spec} {a : Rendering} (run : render r s = .ok a) :
    ∃ bind period config, Configures config s bind period ∧
      a.data.get? "config" = some (.text config) ∧
      .configMap configMapName namespaceName provider configFile config ∈ a.objects := by
  obtain ⟨p, config, -, listed, data, ⟨bind, period, described⟩, -⟩ := parts_of_render run
  refine ⟨bind, period, config, described, ?_, ?_⟩
  · rw [data]
    exact Dict.get?_ofList_of_mem (by simp) (by simp)
  · rw [listed]
    simp [objects]

theorem networks_of_valid {s : Spec} (valid : validate s = []) :
    ∀ entry ∈ s.clusterNetwork, ∃ network, Network.read entry.cidr = .ok network := by
  simp only [validate, List.append_eq_nil_iff] at valid
  have named := (entries_clean_iff Spec.clusterEntryProblems
    (fun _ _ => Spec.clusterEntryProblems_eq_nil) s.clusterNetwork).mp valid.1.2
  intro entry member
  obtain ⟨network, names⟩ := named entry member
  exact ⟨network, names.read⟩

end KubeProxy

namespace Pass

open KubeProxy

theorem clusterNetwork_of_reconcile {r : Release} {s : Spec} {previous : Option Spec}
    {facts : Facts} {result : Outcome} (run : reconcile r s previous facts = .ok result) :
    result.spec.clusterNetwork = s.clusterNetwork := by
  obtain ⟨type, -, filled, -⟩ := check_ok_iff.mp (parts_of_reconcile run).1
  have kept := defaulted_extends (Provider.forType type) s
  rw [← filled] at kept
  exact kept.clusterNetwork.symm

theorem proxyConfig_of_reconcile {r : Release} {s : Spec} {previous : Option Spec} {facts : Facts}
    {result : Outcome} (run : reconcile r s previous facts = .ok result)
    (active : KubeProxy.isActive result.spec = true) {rendering : Rendering}
    (render : KubeProxy.render r result.spec = .ok rendering) :
    result.data.get? "kube-proxy" = some rendering.data ∧
      ∀ m ∈ rendering.objects, m.isWorkload = false → m ∈ result.objects := by
  obtain ⟨type, made, known, renders, same⟩ := outcome_of_reconcile run
  have taking : .kubeProxy ∈ Pass.active r (Provider.forType type) result.spec := by
    refine List.mem_filter.mpr ⟨by cases type <;> decide, active⟩
  have fresh := fun p member => Provider.fresh_of_render (renders p member)
  cases (renders _ taking).symm.trans render
  have assembles := assembles_outcome (r := r) (s := result.spec) (active_names_nodup ..) fresh
  rw [← same] at assembles
  refine ⟨(assembles.records _ taking).1, fun m member other => ?_⟩
  rw [same]
  exact mem_outcome_objects fresh taking member other

/-- The configuration of the proxy names the cluster networks in their order, each by the text that
    it was given by. Validation reads that text with the white space around it removed, so as it
    stands it is that of its network if and only if there is none. -/
theorem cluster_networks_denoted_iff_unblank {r : Release} {s : Spec} {previous : Option Spec}
    {facts : Facts} {result : Outcome} (run : reconcile r s previous facts = .ok result)
    (active : KubeProxy.isActive result.spec = true) :
    ∃ config document value,
      (result.data.get? "kube-proxy").bind (·.get? "config") = some (.text config) ∧
      .configMap "kube-proxy-config" "lattice-kube-proxy" "kube-proxy" "kube-proxy-config.yaml"
        config ∈ result.objects ∧
      config = Yaml.text document ∧ document.get? "clusterCIDR" = some (.text value) ∧
      commaParts value = s.clusterNetwork.map ClusterEntry.cidr ∧
      ∀ entry ∈ s.clusterNetwork, ∃ network, Network.read entry.cidr = .ok network ∧
        Network.Denotes (Text.trim entry.cidr) network ∧
        (Network.Denotes entry.cidr network ↔ Text.trim entry.cidr = entry.cidr) := by
  obtain ⟨valid, rendering, render⟩ := proxy_of_reconcile run active
  obtain ⟨recorded, applied⟩ := proxyConfig_of_reconcile run active render
  obtain ⟨bind, period, config, ⟨some, written⟩, stored, mapped⟩ := config_of_render render
  have networks := networks_of_valid valid
  have given := clusterNetwork_of_reconcile run
  rw [given] at some written networks
  have plain : ∀ text ∈ s.clusterNetwork.map ClusterEntry.cidr, ',' ∉ text.toList := by
    refine List.forall_mem_map.mpr fun entry member => ?_
    obtain ⟨network, read⟩ := networks entry member
    exact Network.comma_not_mem_of_read read
  refine ⟨config, _, _, ?_, applied _ mapped rfl, written, rfl,
    commaParts_intercalate plain (by simpa using some), ?_⟩
  · rw [recorded]
    exact stored
  · intro entry member
    obtain ⟨network, read⟩ := networks entry member
    exact ⟨network, read, Network.denotes_trim_of_read read, Network.denotes_iff_of_read read⟩

theorem proxySample_network_denoted :
    ∃ result config document value network,
      reconcile .builtIn (proxySample "v" "4") none .none = .ok result ∧
      (result.data.get? "kube-proxy").bind (·.get? "config") = some (.text config) ∧
      config = Yaml.text document ∧ document.get? "clusterCIDR" = some (.text value) ∧
      commaParts value = ["10.128.0.0/14"] ∧ Network.read "10.128.0.0/14" = .ok network ∧
      Network.Denotes "10.128.0.0/14" network := by
  obtain ⟨result, run, same⟩ := reconcile_of_check proxySample_accepted.1 .none
  have active : KubeProxy.isActive result.spec = true := by
    rw [same]
    rfl
  obtain ⟨config, document, value, stored, -, written, named, parts, denoted⟩ :=
    cluster_networks_denoted_iff_unblank run active
  obtain ⟨network, read, -, exact⟩ := denoted _ List.mem_cons_self
  exact ⟨result, config, document, value, network, run, stored, written, named, parts, read,
    exact.mpr (by decide)⟩

def paddedSample : Spec :=
  { Spec.empty with
    clusterNetwork := [⟨" 10.128.0.0/14", none⟩]
    defaultNetwork := ⟨"ThirdParty", none⟩
    disableMultiNetwork := some true
    nodeIdentity := some ⟨some false, none⟩ }

def paddedDocument : Json :=
  configuration ⟨.v4, 0, by decide⟩ " 10.128.0.0/14" "30s"

theorem paddedSample_accepted :
    check .builtIn paddedSample none =
      .ok (defaulted (Provider.forType .thirdParty) paddedSample) := by
  decide +kernel

theorem paddedSample_config :
    (KubeProxy.render .builtIn
        (defaulted (Provider.forType .thirdParty) paddedSample)).toOption.bind
      (·.data.get? "config") = some (.text (Yaml.text paddedDocument)) := by
  decide +kernel

/-- The space is removed in validation only: what the proxy finds is not the text of a network. -/
theorem padded_network_is_copied :
    ∃ result, reconcile .builtIn paddedSample none .none = .ok result ∧
      KubeProxy.isActive result.spec = true ∧
      (result.data.get? "kube-proxy").bind (·.get? "config") =
        some (.text (Yaml.text paddedDocument)) ∧
      paddedDocument.get? "clusterCIDR" = some (.text " 10.128.0.0/14") ∧
      commaParts " 10.128.0.0/14" = [" 10.128.0.0/14"] ∧
      (∃ network, Network.read " 10.128.0.0/14" = .ok network) ∧
      ∀ network, ¬Network.Denotes " 10.128.0.0/14" network := by
  obtain ⟨result, run, same⟩ := reconcile_of_check paddedSample_accepted .none
  have active : KubeProxy.isActive result.spec = true := by
    rw [same]
    rfl
  obtain ⟨valid, rendering, render⟩ := proxy_of_reconcile run active
  have given := clusterNetwork_of_reconcile run
  have entry : (⟨" 10.128.0.0/14", none⟩ : ClusterEntry) ∈ result.spec.clusterNetwork := by
    rw [given]
    exact List.mem_cons_self
  refine ⟨result, run, active, ?_, rfl, by decide, networks_of_valid valid _ entry, ?_⟩
  · rw [(proxyConfig_of_reconcile run active render).1]
    have config := paddedSample_config
    rw [← same, render] at config
    exact config
  · rintro network ⟨m, exact, -⟩
    have unpadded := Network.trim_of_readExact exact
    revert unpadded
    decide

end Pass
end ClusterNet
