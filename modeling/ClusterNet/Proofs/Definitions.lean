import ClusterNet.Proofs.Identities

/- The definitions of the additional networks. Multus alone renders them, one for each network and
   in the order of the networks. A pass applies them as they are and in that order, as they are
   neither namespaces nor workloads. -/
namespace ClusterNet

namespace Manifest

def isDefinition (m : Manifest) : Bool := m.kind = Multus.definitionKind

section

variable {m : Manifest} (definition : m.isDefinition = true)

include definition

theorem kind_of_definition : m.kind = Multus.definitionKind := of_decide_eq_true definition

theorem isWorkload_of_definition : m.isWorkload = false := by
  rw [isWorkload, kind_of_definition definition]
  decide

theorem isNamespace_of_definition : m.isNamespace = false := by
  rw [isNamespace, kind_of_definition definition]
  decide

end

theorem isDefinition_of_fixed {m : Manifest} (fixed : m.identity ∈ Provider.fixedIdentities) :
    m.isDefinition = false := decide_eq_false (Provider.fixed_kinds _ fixed).1

theorem filter_isDefinition_of_fixed {objects : List Manifest}
    (fixed : objects.map identity ⊆ Provider.fixedIdentities) :
    objects.filter isDefinition = [] := by
  refine List.filter_eq_nil_iff.mpr fun m member definition => ?_
  rw [isDefinition_of_fixed (fixed (List.mem_map_of_mem member))] at definition
  exact Bool.false_ne_true definition

end Manifest

open Manifest

namespace Multus

def definitionOf (a : Attachment) : Manifest := definition a (textOf a)

theorem definitions_of_render {r : Release} {s : Spec} {a : Rendering} (run : render r s = .ok a) :
    a.objects.filter isDefinition = s.attachments.map definitionOf := by
  obtain ⟨configs, each, objects, -⟩ := parts_of_render run
  have fixed := filter_isDefinition_of_fixed fun i member =>
    List.mem_append_left _ (List.mem_append_right _ ((fixed_identities r).subset member))
  have defined : (s.attachments.map definitionOf).filter isDefinition =
      s.attachments.map definitionOf :=
    List.filter_eq_self.mpr (List.forall_mem_map.mpr fun _ _ => rfl)
  rw [objects, configs_eq each, List.map_map, List.filter_append, fixed, List.nil_append]
  exact defined

end Multus

namespace Provider

theorem identities_subset_fixed {p : Provider} (other : p ≠ .multus) (s : Spec) :
    p.identities s ⊆ fixedIdentities := by
  unfold fixedIdentities
  intro i member
  cases p with
  | multus => contradiction
  | kuryr => exact List.mem_append_left _ (List.mem_append_left _ (List.mem_append_left _ member))
  | kubeProxy =>
    exact List.mem_append_left _ (List.mem_append_left _ (List.mem_append_right _ member))
  | nodeIdentity => exact List.mem_append_right _ member

theorem definitions_of_other {r : Release} {s : Spec} {facts : Facts} {p : Provider}
    {a : Rendering} (other : p ≠ .multus) (run : p.render r s facts = .ok a) :
    a.objects.filter isDefinition = [] :=
  filter_isDefinition_of_fixed
    (List.Subset.trans (identities_of_render run).subset (identities_subset_fixed other s))

end Provider

theorem flatMap_of_single {α β : Type} [DecidableEq α] {items : List α} (nodup : items.Nodup)
    {f : α → List β} {a : α} (others : ∀ b ∈ items, b ≠ a → f b = []) :
    items.flatMap f = if a ∈ items then f a else [] := by
  induction items with
  | nil => rfl
  | cons b rest ih =>
    obtain ⟨absent, later⟩ := List.nodup_cons.mp nodup
    obtain ⟨own, tail⟩ := List.forall_mem_cons.mp others
    rw [List.flatMap_cons, ih later tail]
    by_cases same : b = a
    · subst same
      rw [if_neg absent, if_pos List.mem_cons_self, List.append_nil]
    · simp only [own same, List.nil_append, List.mem_cons, Ne.symm same, false_or]

theorem filter_of_moved {α : Type} {front kept : α → Bool}
    (apart : ∀ a, kept a = true → front a = false) (items : List α) :
    (items.filter front ++ items.filter (!front ·)).filter kept = items.filter kept := by
  have none : items.filter (fun a => kept a && front a) = [] := by
    refine List.filter_eq_nil_iff.mpr fun a _ both => ?_
    obtain ⟨own, moved⟩ := (Bool.and_eq_true_iff).mp both
    rw [apart a own] at moved
    exact Bool.false_ne_true moved
  have all : items.filter (fun a => kept a && !front a) = items.filter kept := by
    refine List.filter_congr fun a _ => ?_
    cases own : kept a with
    | false => rfl
    | true => rw [apart a own]; rfl
  rw [List.filter_append, List.filter_filter, List.filter_filter, none, all, List.nil_append]

namespace Pass

section

variable {providers : List Provider} {rendering : Provider → Rendering}

theorem isDefinition_stamped {hash : String} {m : Manifest} (fresh : m.Fresh) :
    (stamped hash m).isDefinition = m.isDefinition := by
  rw [isDefinition, isDefinition, kind_stamped fresh]

/-- A pass neither changes the definitions nor moves them past each other. -/
theorem definitions_of_outcome {r : Release} {s : Spec}
    (fresh : ∀ p ∈ providers, ∀ m ∈ (rendering p).objects, m.Fresh) :
    (outcome r s (providers.map fun p => partOf p (rendering p))).objects.filter isDefinition =
      providers.flatMap fun p => (rendering p).objects.filter isDefinition := by
  have kept : ∀ source ∈ orderedSources providers rendering,
      (stamped (hashOf (.ofDict (rendering source.1).data)) source.2).isDefinition =
        source.2.isDefinition :=
    fun source member => isDefinition_stamped (fresh_of_orderedSource fresh source member)
  have ordered : (orderedSources providers rendering).filter (·.2.isDefinition) =
      (sources providers rendering).filter (·.2.isDefinition) :=
    filter_of_moved (fun _ => isNamespace_of_definition) _
  have same : ∀ source ∈ (sources providers rendering).filter (·.2.isDefinition),
      stamped (hashOf (.ofDict (rendering source.1).data)) source.2 = source.2 :=
    fun source member => stamped_of_other (isWorkload_of_definition (List.mem_filter.mp member).2)
  calc
    _ = ((orderedSources providers rendering).filter (·.2.isDefinition)).map fun source =>
        stamped (hashOf (.ofDict (rendering source.1).data)) source.2 := by
      rw [outcome_objects fresh, List.filter_map]
      exact congrArg _ (List.filter_congr kept)
    _ = ((sources providers rendering).filter (·.2.isDefinition)).map Prod.snd := by
      rw [ordered]
      exact List.map_congr_left same
    _ = ((sources providers rendering).map Prod.snd).filter isDefinition := by
      rw [List.filter_map]
      rfl
    _ = _ := by rw [sources_objects, List.filter_flatMap]

end

/-- The definitions of a pass are those of the networks, in their order. Where Multus takes no part
    there are no networks. -/
theorem definitions_of_reconcile {r : Release} {s : Spec} {previous : Option Spec} {facts : Facts}
    {result : Outcome} (run : reconcile r s previous facts = .ok result) :
    result.objects.filter isDefinition = result.spec.attachments.map Multus.definitionOf := by
  obtain ⟨type, rendering, known, renders, same⟩ := outcome_of_reconcile run
  have fresh := fun p member => Provider.fresh_of_render (renders p member)
  have others : ∀ p ∈ active r (Provider.forType type) result.spec, p ≠ .multus →
      (rendering p).objects.filter isDefinition = [] :=
    fun p member other => Provider.definitions_of_other other (renders p member)
  rw [congrArg Outcome.objects same, definitions_of_outcome fresh,
    flatMap_of_single (active_names_nodup ..).of_map others]
  split
  · next member => exact Multus.definitions_of_render (renders _ member)
  · next absent =>
    have idle : Multus.isActive result.spec = false := Bool.eq_false_iff.mpr fun active =>
      absent (List.mem_filter.mpr ⟨multus_mem_forType type, active⟩)
    rw [(Multus.parts_of_idle idle).2, List.map_nil]

theorem attachments_defaulted (type : NetworkType) (s : Spec) :
    (defaulted (Provider.forType type) s).attachments =
      s.attachments.map Multus.fillAttachment := by
  have proxy (s : Spec) : (KubeProxy.fillDefaults s).attachments = s.attachments := by
    unfold KubeProxy.fillDefaults
    split <;> rfl
  have filled (s : Spec) : (defaulted Provider.companions s).attachments =
      s.attachments.map Multus.fillAttachment :=
    congrArg (List.map Multus.fillAttachment) (proxy s)
  cases type with
  | kuryr => exact filled (Kuryr.fillDefaults s)
  | thirdParty => exact filled s

end Pass
end ClusterNet
