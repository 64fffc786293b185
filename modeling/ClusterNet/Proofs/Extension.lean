import Mathlib.Data.List.Forall2
import ClusterNet.Proofs.Defaults

/- Defaults only extend a spec. What is set stays as it was set, at any depth: in the blocks of the
   components, in each secondary network and in its settings. What cannot be unset stays too. -/
namespace ClusterNet

def Kept (before after : Option α) : Prop := ∀ a, before = some a → after = some a

/-- A block that was given is still there, in a related form. -/
def KeptBy (R : α → α → Prop) (before after : Option α) : Prop :=
  ∀ a, before = some a → ∃ b, after = some b ∧ R b a

theorem Kept.refl (o : Option α) : Kept o o := fun _ given => given

theorem Kept.trans {a b c : Option α} (first : Kept a b) (second : Kept b c) : Kept a c :=
  fun v given => second v (first v given)

theorem kept_getD (o : Option α) (default : α) : Kept o (some (o.getD default)) := by
  rintro a rfl
  rfl

theorem kept_orElse (o : Option α) (other : Unit → Option α) : Kept o (o.orElse other) := by
  rintro a rfl
  rfl

theorem KeptBy.refl {R : α → α → Prop} (reflexive : ∀ a, R a a) (o : Option α) : KeptBy R o o :=
  fun a given => ⟨a, given, reflexive a⟩

theorem KeptBy.trans {R : α → α → Prop} (transitive : ∀ a b c, R c b → R b a → R c a)
    {x y z : Option α} (first : KeptBy R x y) (second : KeptBy R y z) : KeptBy R x z := by
  intro a given
  obtain ⟨b, middle, low⟩ := first a given
  obtain ⟨c, last, high⟩ := second b middle
  exact ⟨c, last, transitive a b c high low⟩

theorem Kept.keptBy {before after : Option α} (kept : Kept before after) :
    KeptBy Eq before after := fun a given => ⟨a, kept a given, rfl⟩

theorem KeptBy.isSome {R : α → α → Prop} {before after : Option α} (kept : KeptBy R before after)
    (given : before.isSome) : after.isSome := by
  obtain ⟨a, same⟩ := Option.isSome_iff_exists.mp given
  obtain ⟨b, found, -⟩ := kept a same
  exact Option.isSome_of_eq_some found

theorem KeptBy.eq_none {R : α → α → Prop} {before after : Option α} (kept : KeptBy R before after)
    (absent : after = none) : before = none := by
  refine Option.not_isSome_iff_eq_none.mp ?_
  intro given
  have found := kept.isSome given
  rw [absent] at found
  cases found

theorem keptBy_fill {R : α → α → Prop} {fill : α → α} (related : ∀ a, R (fill a) a) (o : Option α)
    (empty : α) : KeptBy R o (some (fill (o.getD empty))) := by
  rintro a rfl
  exact ⟨fill a, rfl, related a⟩

theorem forall₂_trans {R : α → α → Prop} (transitive : ∀ a b c, R c b → R b a → R c a)
    {as bs cs : List α} (first : List.Forall₂ R bs as) (second : List.Forall₂ R cs bs) :
    List.Forall₂ R cs as := by
  induction first generalizing cs with
  | nil =>
    cases second
    exact .nil
  | cons low _ ih =>
    cases second with
    | cons high rest => exact .cons (transitive _ _ _ high low) (ih rest)

structure KuryrConfig.Extends (after before : KuryrConfig) : Prop where
  serviceNetwork : Kept before.serviceNetwork after.serviceNetwork
  prepopulation : Kept before.prepopulation after.prepopulation
  poolMax : Kept before.poolMax after.poolMax
  poolMin : Kept before.poolMin after.poolMin
  poolBatch : Kept before.poolBatch after.poolBatch
  daemonProbesPort : Kept before.daemonProbesPort after.daemonProbesPort
  controllerProbesPort : Kept before.controllerProbesPort after.controllerProbesPort
  mtu : Kept before.mtu after.mtu

structure ProxyConfig.Extends (after before : ProxyConfig) : Prop where
  bindAddress : Kept before.bindAddress after.bindAddress
  syncPeriod : Kept before.syncPeriod after.syncPeriod
  arguments : before.arguments = after.arguments

structure NodeIdentityConfig.Extends (after before : NodeIdentityConfig) : Prop where
  enabled : Kept before.enabled after.enabled
  webhookPort : Kept before.webhookPort after.webhookPort

structure Macvlan.Extends (after before : Macvlan) : Prop where
  master : Kept before.master after.master
  mode : Kept before.mode after.mode
  mtu : Kept before.mtu after.mtu
  ipam : Kept before.ipam after.ipam

structure Attachment.Extends (after before : Attachment) : Prop where
  name : before.name = after.name
  namespaceName : Kept before.namespaceName after.namespaceName
  kind : before.kind = after.kind
  rawConfig : Kept before.rawConfig after.rawConfig
  macvlan : KeptBy Macvlan.Extends before.macvlan after.macvlan

structure Spec.Extends (after before : Spec) : Prop where
  serviceNetwork : before.serviceNetwork = after.serviceNetwork
  clusterNetwork : before.clusterNetwork = after.clusterNetwork
  type : before.defaultNetwork.type = after.defaultNetwork.type
  kuryr : KeptBy KuryrConfig.Extends before.kuryr after.kuryr
  proxy : KeptBy ProxyConfig.Extends before.proxy after.proxy
  deployProxy : Kept before.deployProxy after.deployProxy
  disableMultiNetwork : Kept before.disableMultiNetwork after.disableMultiNetwork
  attachments : List.Forall₂ Attachment.Extends after.attachments before.attachments
  nodeIdentity : KeptBy NodeIdentityConfig.Extends before.nodeIdentity after.nodeIdentity

theorem KuryrConfig.Extends.refl (k : KuryrConfig) : k.Extends k :=
  ⟨.refl _, .refl _, .refl _, .refl _, .refl _, .refl _, .refl _, .refl _⟩

theorem KuryrConfig.Extends.trans (a b c : KuryrConfig) (high : c.Extends b) (low : b.Extends a) :
    c.Extends a where
  serviceNetwork := low.serviceNetwork.trans high.serviceNetwork
  prepopulation := low.prepopulation.trans high.prepopulation
  poolMax := low.poolMax.trans high.poolMax
  poolMin := low.poolMin.trans high.poolMin
  poolBatch := low.poolBatch.trans high.poolBatch
  daemonProbesPort := low.daemonProbesPort.trans high.daemonProbesPort
  controllerProbesPort := low.controllerProbesPort.trans high.controllerProbesPort
  mtu := low.mtu.trans high.mtu

theorem ProxyConfig.Extends.refl (p : ProxyConfig) : p.Extends p := ⟨.refl _, .refl _, rfl⟩

theorem ProxyConfig.Extends.trans (a b c : ProxyConfig) (high : c.Extends b) (low : b.Extends a) :
    c.Extends a where
  bindAddress := low.bindAddress.trans high.bindAddress
  syncPeriod := low.syncPeriod.trans high.syncPeriod
  arguments := low.arguments.trans high.arguments

theorem NodeIdentityConfig.Extends.refl (n : NodeIdentityConfig) : n.Extends n :=
  ⟨.refl _, .refl _⟩

theorem NodeIdentityConfig.Extends.trans (a b c : NodeIdentityConfig) (high : c.Extends b)
    (low : b.Extends a) : c.Extends a where
  enabled := low.enabled.trans high.enabled
  webhookPort := low.webhookPort.trans high.webhookPort

theorem Macvlan.Extends.refl (m : Macvlan) : m.Extends m := ⟨.refl _, .refl _, .refl _, .refl _⟩

theorem Macvlan.Extends.trans (a b c : Macvlan) (high : c.Extends b) (low : b.Extends a) :
    c.Extends a where
  master := low.master.trans high.master
  mode := low.mode.trans high.mode
  mtu := low.mtu.trans high.mtu
  ipam := low.ipam.trans high.ipam

theorem Attachment.Extends.refl (a : Attachment) : a.Extends a :=
  ⟨rfl, .refl _, rfl, .refl _, .refl Macvlan.Extends.refl _⟩

theorem Attachment.Extends.trans (a b c : Attachment) (high : c.Extends b) (low : b.Extends a) :
    c.Extends a where
  name := low.name.trans high.name
  namespaceName := low.namespaceName.trans high.namespaceName
  kind := low.kind.trans high.kind
  rawConfig := low.rawConfig.trans high.rawConfig
  macvlan := low.macvlan.trans Macvlan.Extends.trans high.macvlan

namespace Spec

theorem Extends.refl (s : Spec) : s.Extends s where
  serviceNetwork := rfl
  clusterNetwork := rfl
  type := rfl
  kuryr := .refl KuryrConfig.Extends.refl _
  proxy := .refl ProxyConfig.Extends.refl _
  deployProxy := .refl _
  disableMultiNetwork := .refl _
  attachments := List.forall₂_same.mpr fun a _ => .refl a
  nodeIdentity := .refl NodeIdentityConfig.Extends.refl _

theorem Extends.trans {a b c : Spec} (high : c.Extends b) (low : b.Extends a) : c.Extends a where
  serviceNetwork := low.serviceNetwork.trans high.serviceNetwork
  clusterNetwork := low.clusterNetwork.trans high.clusterNetwork
  type := low.type.trans high.type
  kuryr := low.kuryr.trans KuryrConfig.Extends.trans high.kuryr
  proxy := low.proxy.trans ProxyConfig.Extends.trans high.proxy
  deployProxy := low.deployProxy.trans high.deployProxy
  disableMultiNetwork := low.disableMultiNetwork.trans high.disableMultiNetwork
  attachments := forall₂_trans Attachment.Extends.trans low.attachments high.attachments
  nodeIdentity := low.nodeIdentity.trans NodeIdentityConfig.Extends.trans high.nodeIdentity

end Spec

namespace Kuryr

theorem fillConfig_extends (s : Spec) (k : KuryrConfig) : (fillConfig s k).Extends k :=
  ⟨kept_orElse _ _, kept_getD _ _, kept_getD _ _, kept_getD _ _, kept_getD _ _, kept_getD _ _,
    kept_getD _ _, .refl _⟩

theorem fillDefaults_extends (s : Spec) : (fillDefaults s).Extends s :=
  { Spec.Extends.refl s with kuryr := keptBy_fill (fillConfig_extends s) s.kuryr _ }

end Kuryr

namespace KubeProxy

theorem fillConfig_extends (s : Spec) (p : ProxyConfig) : (fillConfig s p).Extends p :=
  ⟨kept_getD _ _, kept_getD _ _, rfl⟩

theorem fillDefaults_extends (s : Spec) : (fillDefaults s).Extends s := by
  have flag : Kept s.deployProxy (some (isActive s)) := kept_getD _ _
  cases active : isActive s with
  | true =>
    rw [fillDefaults_of_active active, ← active]
    exact { Spec.Extends.refl s with
      deployProxy := flag
      proxy := keptBy_fill (fillConfig_extends s) s.proxy _ }
  | false =>
    rw [fillDefaults_of_inactive active, ← active]
    exact { Spec.Extends.refl s with deployProxy := flag }

end KubeProxy

namespace Multus

theorem fillMacvlan_extends (m : Macvlan) : (fillMacvlan m).Extends m :=
  ⟨.refl _, kept_getD _ _, .refl _, kept_getD _ _⟩

theorem fillAttachment_extends (a : Attachment) : (fillAttachment a).Extends a := by
  refine ⟨rfl, kept_getD _ _, rfl, .refl _, ?_⟩
  obtain ⟨name, namespaceName, kind, rawConfig, macvlan⟩ := a
  cases kind with
  | raw => exact .refl Macvlan.Extends.refl _
  | simpleMacvlan => exact keptBy_fill fillMacvlan_extends macvlan _

theorem fillDefaults_extends (s : Spec) : (fillDefaults s).Extends s :=
  { Spec.Extends.refl s with
    disableMultiNetwork := kept_getD _ _
    attachments := List.forall₂_map_left_iff.mpr
      (List.forall₂_same.mpr fun a _ => fillAttachment_extends a) }

end Multus

namespace NodeIdentity

theorem fillConfig_extends (n : NodeIdentityConfig) : (fillConfig n).Extends n :=
  ⟨kept_getD _ _, kept_getD _ _⟩

theorem fillDefaults_extends (s : Spec) : (fillDefaults s).Extends s :=
  { Spec.Extends.refl s with
    nodeIdentity := keptBy_fill fillConfig_extends s.nodeIdentity _ }

end NodeIdentity

theorem Provider.fillDefaults_extends (p : Provider) (s : Spec) :
    (p.fillDefaults s).Extends s := by
  cases p with
  | kuryr => exact Kuryr.fillDefaults_extends s
  | kubeProxy => exact KubeProxy.fillDefaults_extends s
  | multus => exact Multus.fillDefaults_extends s
  | nodeIdentity => exact NodeIdentity.fillDefaults_extends s

theorem Pass.defaulted_extends (providers : List Provider) (s : Spec) :
    (defaulted providers s).Extends s := by
  induction providers generalizing s with
  | nil => exact .refl s
  | cons p rest ih => exact (ih (p.fillDefaults s)).trans (p.fillDefaults_extends s)

end ClusterNet
