import Mathlib.Data.List.Nodup
import ClusterNet.Proofs.Assembly

/- Which component an object or a warning of a pass comes from. The labels of an object name its
   component, and a warning names it too; neither the hash nor the order of the pass touches that.
   So what a component contributed is read off from the outcome. -/
namespace ClusterNet

def Problem.reporter? : Problem → Option String
  | .discoveryUnavailable provider _ | .renderContract provider _ => some provider
  | _ => none

namespace Manifest

def component? (m : Manifest) : Option String := m.metadata.labels.bind (·.get? nameLabel)

@[simp]
theorem component?_ofComponent (apiVersion kind name component : String) :
    (ofComponent apiVersion kind name component).component? = some component := by
  have keys : [managedByLabel, nameLabel].Nodup := by decide
  have stored : (componentLabels component).get? nameLabel = some component :=
    Dict.get?_ofList_of_mem keys (List.mem_cons_of_mem _ List.mem_cons_self)
  have distinct := Dict.keys_nodup (componentLabels component)
  exact Dict.get?_insertAll_of_mem distinct ((lookup_eq_some_iff distinct).mp stored)

section

variable (m : Manifest)

@[simp]
theorem component?_withNamespace (name : String) :
    (m.withNamespace name).component? = m.component? := rfl

@[simp]
theorem component?_withSpec (spec : Json) : (m.withSpec spec).component? = m.component? := rfl

@[simp]
theorem component?_withData (data : Json) : (m.withData data).component? = m.component? := rfl

@[simp]
theorem component?_withField (key : String) (value : Json) :
    (m.withField key value).component? = m.component? := rfl

@[simp]
theorem component?_annotate (key value : String) :
    (m.annotate key value).component? = m.component? := rfl

end

end Manifest

open Manifest

namespace Kuryr

theorem component?_holdBack (hold : Bool) (m : Manifest) :
    (holdBack hold m).component? = m.component? := by
  cases hold <;> rfl

theorem component_of_render {r : Release} {s : Spec} {facts : Facts} {a : Rendering}
    (run : render r s facts = .ok a) : ∀ m ∈ a.objects, m.component? = some provider := by
  have base : ∀ m ∈ baseObjects, m.component? = some provider := by
    simp [baseObjects, namespaceObject, serviceAccount, clusterRole, clusterRoleBinding]
  rcases objects_of_render run with withheld | ⟨settings, f, api, complete⟩
  · rwa [withheld]
  · rw [complete, List.forall_mem_append]
    refine ⟨base, ?_⟩
    simp only [workloads, List.forall_mem_append, List.forall_mem_cons, component?_holdBack]
    refine ⟨⟨⟨by simp [secret], by simp [configMap], List.forall_mem_nil _⟩, ?_⟩,
      by simp [daemonSet], by simp [deployment], List.forall_mem_nil _⟩
    intro m member
    obtain ⟨ca, -, rfl⟩ := Option.map_eq_some_iff.mp (Option.mem_toList.mp member)
    simp [configMap]

theorem reporter_of_render {r : Release} {s : Spec} {facts : Facts} {a : Rendering}
    (run : render r s facts = .ok a) : ∀ w ∈ a.warnings, w.reporter? = some provider := by
  obtain ⟨-, -, ⟨-, -, -, -, -, silent⟩ | ⟨-, -, detail, told⟩⟩ := parts_of_render run
  · exact silent ▸ nofun
  · rw [told]
    exact List.forall_mem_singleton.mpr rfl

end Kuryr

namespace KubeProxy

theorem component_of_render {r : Release} {s : Spec} {a : Rendering} (run : render r s = .ok a) :
    ∀ m ∈ a.objects, m.component? = some provider := by
  obtain ⟨p, config, -, made, -⟩ := parts_of_render run
  rw [made]
  simp [objects, namespaceObject, serviceAccount, clusterRoleBinding, configMap, daemonSet, service]

end KubeProxy

namespace Multus

theorem component_of_render {r : Release} {s : Spec} {a : Rendering} (run : render r s = .ok a) :
    ∀ m ∈ a.objects, m.component? = some provider := by
  obtain ⟨configs, -, made, -⟩ := parts_of_render run
  rw [made, List.forall_mem_append, List.forall_mem_append]
  refine ⟨⟨?_, ?_⟩, List.forall_mem_map.mpr fun _ _ => ?_⟩
  · simp [baseObjects, namespaceObject, serviceAccount, clusterRole, clusterRoleBinding, configMap,
      daemonSet]
  · unfold admissionObjects
    split
    · simp [deployment, service]
    · exact List.forall_mem_nil _
  · simp [definition, attachmentDefinition]

end Multus

namespace NodeIdentity

theorem component_of_render {r : Release} {s : Spec} {facts : Facts} {a : Rendering}
    (run : render r s facts = .ok a) : ∀ m ∈ a.objects, m.component? = some provider := by
  obtain ⟨port, made, -⟩ := parts_of_render run
  rw [made, List.forall_mem_append]
  constructor
  · simp [objects, namespaceObject, serviceAccount, clusterRole, clusterRoleBinding, daemonSet,
      service]
  · unfold registration
    split
    · rw [List.forall_mem_singleton]
      split <;> simp [markCreateWait, validatingWebhook]
    · exact List.forall_mem_nil _

theorem reporter_of_render {r : Release} {s : Spec} {facts : Facts} {a : Rendering}
    (run : render r s facts = .ok a) : ∀ w ∈ a.warnings, w.reporter? = some provider := by
  obtain ⟨port, -, -, warnings⟩ := parts_of_render run
  rw [warnings]
  unfold registration
  split
  · exact nofun
  · exact List.forall_mem_singleton.mpr rfl

end NodeIdentity

namespace Provider

section

variable {r : Release} {s : Spec} {facts : Facts} {p : Provider} {a : Rendering}

theorem component_of_render (run : p.render r s facts = .ok a) :
    ∀ m ∈ a.objects, m.component? = some p.name := by
  cases p with
  | kuryr => exact Kuryr.component_of_render run
  | kubeProxy => exact KubeProxy.component_of_render run
  | multus => exact Multus.component_of_render run
  | nodeIdentity => exact NodeIdentity.component_of_render run

theorem reporter_of_render (run : p.render r s facts = .ok a) :
    ∀ w ∈ a.warnings, w.reporter? = some p.name := by
  cases p with
  | kuryr => exact Kuryr.reporter_of_render run
  | kubeProxy =>
    obtain ⟨-, -, -, -, -, -, none⟩ := KubeProxy.parts_of_render run
    exact none ▸ nofun
  | multus =>
    obtain ⟨-, -, -, -, none⟩ := Multus.parts_of_render run
    exact none ▸ nofun
  | nodeIdentity => exact NodeIdentity.reporter_of_render run

end

theorem mem_all (p : Provider) : p ∈ all := by
  cases p <;> decide

theorem name_injective : Function.Injective name := fun p q same =>
  List.inj_on_of_nodup_map (by decide : (all.map name).Nodup) (mem_all p) (mem_all q) same

end Provider

namespace Pass

theorem component?_stamped {hash : String} {m : Manifest} (fresh : m.Fresh) :
    (stamped hash m).component? = m.component? := by
  rcases stamped_of_fresh fresh with same | ⟨spec, same⟩
  · rw [same]
  · rw [same, component?_withSpec, component?_annotate]

def Outcome.objectsOf (o : Outcome) (p : Provider) : List Manifest :=
  o.objects.filter (·.component? = some p.name)

def Outcome.warningsOf (o : Outcome) (p : Provider) : List Problem :=
  o.warnings.filter (·.reporter? = some p.name)

theorem filter_flatMap_of_owned {α : Type} {providers : List Provider} (nodup : providers.Nodup)
    {items : Provider → List α} {owner : α → Option String}
    (owned : ∀ p ∈ providers, ∀ a ∈ items p, owner a = some p.name) (q : Provider) :
    (providers.flatMap items).filter (owner · = some q.name) =
      if q ∈ providers then items q else [] := by
  induction providers with
  | nil => rfl
  | cons p rest ih =>
    obtain ⟨absent, later⟩ := List.nodup_cons.mp nodup
    obtain ⟨own, others⟩ := List.forall_mem_cons.mp owned
    rw [List.flatMap_cons, List.filter_append, ih later others]
    by_cases same : p = q
    · subst same
      have all : (items p).filter (owner · = some p.name) = items p :=
        List.filter_eq_self.mpr fun a member => decide_eq_true (own a member)
      rw [all, if_neg absent, if_pos List.mem_cons_self, List.append_nil]
    · have none : (items p).filter (owner · = some q.name) = [] := by
        refine List.filter_eq_nil_iff.mpr ?_
        intro a member found
        have names := (own a member).symm.trans (of_decide_eq_true found)
        exact same (Provider.name_injective (Option.some.inj names))
      simp only [none, List.nil_append, List.mem_cons, Ne.symm same, false_or]

section

variable {r : Release} {s : Spec} {facts : Facts} {providers : List Provider}
  {rendering : Provider → Rendering}

theorem objectsOf_outcome (nodup : providers.Nodup)
    (renders : ∀ p ∈ providers, p.render r s facts = .ok (rendering p)) (q : Provider) :
    (outcome r s (providers.map fun p => partOf p (rendering p))).objectsOf q =
      if q ∈ providers then namespacesFirst (partOf q (rendering q)).objects else [] := by
  have owned : ∀ p ∈ providers, ∀ m ∈ (partOf p (rendering p)).objects,
      m.component? = some p.name := by
    intro p member m listed
    obtain ⟨given, source, rfl⟩ := List.mem_map.mp listed
    rw [component?_stamped (Provider.fresh_of_render (renders p member) given source)]
    exact Provider.component_of_render (renders p member) given source
  have parts := filter_flatMap_of_owned nodup owned q
  have either : namespacesFirst (if q ∈ providers then (partOf q (rendering q)).objects else []) =
      if q ∈ providers then namespacesFirst (partOf q (rendering q)).objects else [] := by
    split <;> rfl
  rw [← either, ← parts]
  simp only [Outcome.objectsOf, outcome, namespacesFirst, List.filter_append, List.flatMap_map,
    List.filter_filter, Bool.and_comm]

theorem warningsOf_outcome (nodup : providers.Nodup)
    (renders : ∀ p ∈ providers, p.render r s facts = .ok (rendering p)) (q : Provider) :
    (outcome r s (providers.map fun p => partOf p (rendering p))).warningsOf q =
      if q ∈ providers then (rendering q).warnings else [] := by
  have owned := fun p member => Provider.reporter_of_render (renders p member)
  rw [← filter_flatMap_of_owned nodup owned q]
  change ((providers.map fun p => partOf p (rendering p)).flatMap Part.warnings).filter _ = _
  rw [List.flatMap_map]
  rfl

theorem record_of_provider (distinct : (providers.map Provider.name).Nodup) {α : Type}
    (value : Provider → α) (q : Provider) :
    (Dict.ofList (providers.map fun p => (p.name, value p))).get? q.name =
      if q ∈ providers then some (value q) else none := by
  split
  · next member => exact record_of_mem distinct value member
  · next absent =>
    refine lookup_eq_none_iff.mpr fun found => absent ?_
    obtain ⟨p, member, same⟩ := List.mem_map.mp ((keys_of_records value q.name).mp found)
    exact Provider.name_injective same ▸ member

end

end Pass
end ClusterNet
