import ClusterNet.Proofs.Identities
import ClusterNet.Proofs.Ownership

/- The namespaces of the components. Each component has one of its own, renders it in every pass
   that it takes part in, and puts all its objects there that are in a namespace at all; only
   network definitions stand elsewhere. A pass applies a namespace before the objects in it. -/
namespace ClusterNet

open Manifest

namespace Provider

def home : Provider → String
  | .kuryr => Kuryr.namespaceName
  | .kubeProxy => KubeProxy.namespaceName
  | .multus => Multus.namespaceName
  | .nodeIdentity => NodeIdentity.namespaceName

theorem home_injective : Function.Injective home := fun p q same =>
  List.inj_on_of_nodup_map (by decide : (all.map home).Nodup) (mem_all p) (mem_all q) same

def clusterKinds : List String :=
  ["Namespace", "ClusterRole", "ClusterRoleBinding", "ValidatingWebhookConfiguration"]

def spaceFor (p : Provider) (kind : String) : Option String :=
  if kind ∈ clusterKinds then none else some p.home

theorem space_of_identity {s : Spec} {p : Provider} {i : Identity} (listed : i ∈ p.identities s)
    (fixed : i.kind ≠ Multus.definitionKind) : i.space = p.spaceFor i.kind := by
  have tables : (∀ i ∈ Kuryr.identities, i.space = spaceFor .kuryr i.kind) ∧
      (∀ i ∈ KubeProxy.identities, i.space = spaceFor .kubeProxy i.kind) ∧
      (∀ i ∈ Multus.identities, i.space = spaceFor .multus i.kind) ∧
      ∀ i ∈ NodeIdentity.identities, i.space = spaceFor .nodeIdentity i.kind := by
    decide
  obtain ⟨kuryr, proxy, multus, webhook⟩ := tables
  cases p with
  | kuryr => exact kuryr i listed
  | kubeProxy => exact proxy i listed
  | nodeIdentity => exact webhook i listed
  | multus =>
    rcases List.mem_append.mp listed with own | network
    · exact multus i own
    · obtain ⟨a, -, rfl⟩ := List.mem_map.mp network
      exact absurd rfl fixed

section

variable {r : Release} {s : Spec} {facts : Facts} {p : Provider} {a : Rendering}

theorem space_of_render (run : p.render r s facts = .ok a) {m : Manifest} (listed : m ∈ a.objects)
    (fixed : m.kind ≠ Multus.definitionKind) : m.metadata.namespaceName = p.spaceFor m.kind := by
  have known := (identities_of_render run).subset (List.mem_map_of_mem listed)
  exact space_of_identity known fixed

theorem home_of_render (run : p.render r s facts = .ok a) :
    ∃ component, namespaceObject p.home component ∈ a.objects := by
  cases p with
  | kuryr =>
    refine ⟨Kuryr.provider, ?_⟩
    rcases Kuryr.objects_of_render run with withheld | ⟨settings, f, api, complete⟩
    · rw [withheld]
      exact List.mem_cons_self
    · rw [complete]
      exact List.mem_cons_self
  | kubeProxy =>
    obtain ⟨_, _, -, listed, -⟩ := KubeProxy.parts_of_render run
    refine ⟨KubeProxy.provider, ?_⟩
    rw [listed]
    exact List.mem_cons_self
  | multus =>
    obtain ⟨_, -, listed, -⟩ := Multus.parts_of_render run
    refine ⟨Multus.provider, ?_⟩
    rw [listed]
    exact List.mem_cons_self
  | nodeIdentity =>
    obtain ⟨_, listed, -⟩ := NodeIdentity.parts_of_render run
    refine ⟨NodeIdentity.provider, ?_⟩
    rw [listed]
    exact List.mem_cons_self

end

end Provider

namespace Pass

def AfterNamespace (objects : List Manifest) (m : Manifest) : Prop :=
  ∀ space, m.metadata.namespaceName = some space →
    ∃ n, [n, m].Sublist objects ∧ n.identity = ⟨"Namespace", none, space⟩

theorem mem_namespacesFirst {objects : List Manifest} {m : Manifest} :
    m ∈ namespacesFirst objects ↔ m ∈ objects := (List.filter_append_perm _ objects).mem_iff

theorem sublist_namespacesFirst {objects : List Manifest} {n m : Manifest}
    (first : n ∈ namespacesFirst objects) (isNamespace : n.isNamespace = true)
    (second : m ∈ namespacesFirst objects) (other : m.isNamespace = false) :
    [n, m].Sublist (namespacesFirst objects) := by
  have early : n ∈ objects.filter Manifest.isNamespace :=
    List.mem_filter.mpr ⟨mem_namespacesFirst.mp first, isNamespace⟩
  have late : m ∈ objects.filter (!·.isNamespace) :=
    List.mem_filter.mpr ⟨mem_namespacesFirst.mp second, by rw [other]; rfl⟩
  exact (List.singleton_sublist.mpr early).append (List.singleton_sublist.mpr late)

theorem afterNamespace_of_outcome {r : Release} {s : Spec} {facts : Facts}
    {providers : List Provider} {rendering : Provider → Rendering}
    (renders : ∀ p ∈ providers, p.render r s facts = .ok (rendering p)) {m : Manifest}
    (applied : m ∈ (outcome r s (providers.map fun p => partOf p (rendering p))).objects)
    (fixed : m.kind ≠ Multus.definitionKind) :
    AfterNamespace (outcome r s (providers.map fun p => partOf p (rendering p))).objects m := by
  intro space inside
  have fresh := fun p member => Provider.fresh_of_render (renders p member)
  obtain ⟨p, taking, given, listed, same⟩ := source_of_applied fresh applied
  have shape := fresh p taking given listed
  have kind : m.kind = given.kind := same ▸ kind_stamped shape
  have place : m.metadata.namespaceName = given.metadata.namespaceName :=
    same ▸ congrArg Identity.space (identity_stamped shape)
  rw [kind] at fixed
  rw [place, Provider.space_of_render (renders p taking) listed fixed, Provider.spaceFor] at inside
  split at inside
  · cases inside
  · next namespaced =>
    have home : p.home = space := Option.some.inj inside
    obtain ⟨component, rendered⟩ := Provider.home_of_render (renders p taking)
    have other : m.isNamespace = false := by
      refine decide_eq_false fun same => namespaced ?_
      rw [← kind, same]
      exact List.mem_cons_self
    have early := mem_outcome_objects (r := r) (s := s) fresh taking rendered rfl
    refine ⟨_, sublist_namespacesFirst early rfl applied other, ?_⟩
    rw [home]
    rfl

end Pass
end ClusterNet
