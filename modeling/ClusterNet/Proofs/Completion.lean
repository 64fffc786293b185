import ClusterNet.Proofs.Extension

/- What is set once defaults are filled. Every field that has a default is set then, in each block
   that is in use and in every secondary network. So filling completes a spec: it keeps what was
   set, sets the rest, and a second time it finds nothing to set. -/
namespace ClusterNet

structure KuryrConfig.Complete (k : KuryrConfig) : Prop where
  poolMin : k.poolMin.isSome
  poolMax : k.poolMax.isSome
  poolBatch : k.poolBatch.isSome
  prepopulation : k.prepopulation.isSome
  daemonProbesPort : k.daemonProbesPort.isSome
  controllerProbesPort : k.controllerProbesPort.isSome

structure ProxyConfig.Complete (p : ProxyConfig) : Prop where
  bindAddress : p.bindAddress.isSome
  syncPeriod : p.syncPeriod.isSome

structure NodeIdentityConfig.Complete (n : NodeIdentityConfig) : Prop where
  enabled : n.enabled.isSome
  webhookPort : n.webhookPort.isSome

structure Macvlan.Complete (m : Macvlan) : Prop where
  mode : m.mode.isSome
  ipam : m.ipam.isSome

structure Attachment.Complete (a : Attachment) : Prop where
  namespaceName : a.namespaceName.isSome
  macvlan : a.kind = .simpleMacvlan → ∃ m, a.macvlan = some m ∧ m.Complete

/-- The block of a component that takes no part may be absent or have gaps. -/
structure Spec.Complete (s : Spec) : Prop where
  kuryr : s.type? = some .kuryr → ∃ k, s.kuryr = some k ∧ k.Complete
  deployProxy : s.deployProxy.isSome
  proxy : s.deployProxy = some true → ∃ p, s.proxy = some p ∧ p.Complete
  disableMultiNetwork : s.disableMultiNetwork.isSome
  attachments : ∀ a ∈ s.attachments, a.Complete
  nodeIdentity : ∃ n, s.nodeIdentity = some n ∧ n.Complete

namespace Kuryr

theorem complete_of_filled {s : Spec} (filled : fillDefaults s = s) :
    ∃ k, s.kuryr = some k ∧ k.Complete := by
  obtain ⟨k, configured, settled⟩ := config_of_filled filled
  refine ⟨k, configured, ?_⟩
  -- The block is its own filling, and a filling writes each of these fields.
  rw [← settled]
  exact ⟨rfl, rfl, rfl, rfl, rfl, rfl⟩

end Kuryr

namespace KubeProxy

theorem flag_of_filled {s : Spec} (filled : fillDefaults s = s) :
    s.deployProxy = some (isActive s) := by
  cases active : isActive s with
  | true => rw [← filled, fillDefaults_of_active active]
  | false => rw [← filled, fillDefaults_of_inactive active]

theorem complete_of_filled {s : Spec} (filled : fillDefaults s = s) (active : isActive s = true) :
    ∃ p, s.proxy = some p ∧ p.Complete := by
  obtain ⟨p, configured, settled⟩ := config_of_filled filled active
  refine ⟨p, configured, ?_⟩
  rw [← settled]
  exact ⟨rfl, rfl⟩

end KubeProxy

namespace Multus

theorem complete_of_filled {a : Attachment} (filled : fillAttachment a = a) : a.Complete := by
  constructor
  · rw [namespace_of_filled filled]
    rfl
  · intro structured
    obtain ⟨m, configured, settled⟩ := macvlan_of_filled filled structured
    refine ⟨m, configured, ?_⟩
    rw [← settled]
    exact ⟨rfl, rfl⟩

end Multus

namespace NodeIdentity

theorem complete_of_filled {s : Spec} (filled : fillDefaults s = s) :
    ∃ n, s.nodeIdentity = some n ∧ n.Complete := by
  obtain ⟨n, configured, settled⟩ := config_of_filled filled
  refine ⟨n, configured, ?_⟩
  rw [← settled]
  exact ⟨rfl, rfl⟩

end NodeIdentity

theorem Provider.companion_mem_forType {p : Provider} (companion : p ∈ companions)
    (type : NetworkType) : p ∈ forType type :=
  List.mem_append_right _ companion

namespace Pass

theorem complete_of_filled {type : NetworkType} {s : Spec} (known : s.type? = some type)
    (filled : ∀ p ∈ Provider.forType type, p.fillDefaults s = s) : s.Complete := by
  have companion : ∀ p ∈ Provider.companions, p.fillDefaults s = s := by
    intro p member
    exact filled p (Provider.companion_mem_forType member type)
  have proxy : KubeProxy.fillDefaults s = s := companion .kubeProxy (by decide)
  have multus : Multus.fillDefaults s = s := companion .multus (by decide)
  have webhook : NodeIdentity.fillDefaults s = s := companion .nodeIdentity (by decide)
  refine ⟨?_, ?_, ?_, ?_, ?_, NodeIdentity.complete_of_filled webhook⟩
  · intro kuryr
    cases known.symm.trans kuryr
    exact Kuryr.complete_of_filled (filled .kuryr (by decide))
  · rw [KubeProxy.flag_of_filled proxy]
    rfl
  · intro deployed
    have active := KubeProxy.flag_of_filled proxy
    rw [deployed] at active
    exact KubeProxy.complete_of_filled proxy (Option.some.inj active).symm
  · rw [Multus.flag_of_filled multus]
    rfl
  · intro a member
    exact Multus.complete_of_filled (Multus.attachment_of_filled multus member)

/-- Filling defaults is a closure: the result extends the spec, has no gaps left, and is its own
    result. -/
theorem fillDefaults_is_closure {s : Spec} {type : NetworkType} (known : s.type? = some type) :
    ∃ d, fillDefaults s = .ok d ∧ d.Extends s ∧ d.Complete ∧ fillDefaults d = .ok d := by
  have known' : (defaulted (Provider.forType type) s).type? = some type :=
    (known_defaulted _ s).trans known
  have filled : ∀ p ∈ Provider.forType type,
      p.fillDefaults (defaulted (Provider.forType type) s) =
        defaulted (Provider.forType type) s := by
    intro p member
    exact filled_of_defaulted member s
  refine ⟨_, fillDefaults_of_known known, defaulted_extends _ s,
    complete_of_filled known' filled, ?_⟩
  rw [fillDefaults_of_known known', defaulted_idempotent]

def partialSample : Spec where
  serviceNetwork := ["172.30.0.0/16"]
  clusterNetwork := [⟨"fd01::/48", none⟩]
  defaultNetwork := ⟨"Kuryr", some { KuryrConfig.empty with poolBatch := some 10 }⟩
  proxy := some ⟨none, some "1m", .ofList [("v", ["4"])]⟩
  deployProxy := some true
  disableMultiNetwork := none
  attachments := [⟨"storage", none, .simpleMacvlan, none,
      some ⟨some "eth1", some .vepa, none, none⟩⟩,
    ⟨"legacy", some "apps", .raw, none, none⟩]
  nodeIdentity := some ⟨none, some 9800⟩

theorem partialSample_is_completed :
    ∃ d, fillDefaults partialSample = .ok d ∧ d.Extends partialSample ∧ d.Complete ∧
      fillDefaults d = .ok d ∧
      d.kuryr.map (fun k => (k.poolMin, k.poolBatch)) = some (some 1, some 10) ∧
      d.proxy.map (fun p => (p.bindAddress, p.syncPeriod)) = some (some "::", some "1m") := by
  obtain ⟨d, filled, kept, complete, settled⟩ :=
    fillDefaults_is_closure (rfl : partialSample.type? = some .kuryr)
  refine ⟨d, filled, kept, complete, settled, ?_⟩
  have same : d = defaulted (Provider.forType .kuryr) partialSample := by
    rw [fillDefaults_of_known rfl] at filled
    exact (Except.ok.inj filled).symm
  rw [same]
  decide +kernel

/-- Every order of the registered components fills the same defaults. -/
theorem fillDefaults_in_any_order {s : Spec} (known : s.type?.isSome) :
    ∃ registered, Provider.forSpec s = .ok registered ∧
      ∀ turns : List Provider, turns.Perm registered →
        turns.foldl Provider.fillDefaults s = registered.foldl Provider.fillDefaults s ∧
          fillDefaults s = .ok (turns.foldl Provider.fillDefaults s) := by
  obtain ⟨type, known⟩ := Option.isSome_iff_exists.mp known
  refine ⟨Provider.forType type, by rw [Provider.forSpec, known], ?_⟩
  intro turns permuted
  have same : turns.foldl Provider.fillDefaults s =
      (Provider.forType type).foldl Provider.fillDefaults s := defaulted_perm permuted s
  exact ⟨same, same ▸ fillDefaults_of_known known⟩

/-- The service network of Kuryr is computed last here, after the others have filled theirs. -/
theorem partialSample_in_reverse :
    fillDefaults partialSample =
        .ok ([.nodeIdentity, .multus, .kubeProxy, .kuryr].foldl Provider.fillDefaults
          partialSample) ∧
      ([.nodeIdentity, .multus, .kubeProxy, .kuryr].foldl Provider.fillDefaults
        partialSample).kuryr.bind KuryrConfig.serviceNetwork = some "172.30.0.0/15" := by
  obtain ⟨registered, found, any⟩ :=
    fillDefaults_in_any_order (rfl : partialSample.type?.isSome = true)
  cases found
  exact ⟨(any _ (List.reverse_perm (Provider.forType .kuryr))).2, by decide +kernel⟩

end Pass
end ClusterNet
