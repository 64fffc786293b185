import Mathlib.Algebra.GroupWithZero.Nat
import Mathlib.Data.List.Perm.Basic
import ClusterNet.Proofs.Ownership
import ClusterNet.Proofs.Rearrangement

/- The summary of a pass counts the objects of a component by their labels, without knowing what the
   component rendered. As every object names its component, the counts are those of the renderings:
   nothing is counted twice or left out, and no row is empty. -/
namespace ClusterNet

theorem Dict.entries_ofList_perm {entries : List (String × α)}
    (distinct : (entries.map Prod.fst).Nodup) : (Dict.ofList entries).entries.Perm entries := by
  have once : entries.Nodup := List.Nodup.of_map Prod.fst distinct
  refine (List.perm_ext_iff_of_nodup (Dict.entries_nodup _) once).mpr ?_
  rintro ⟨key, value⟩
  rw [← Dict.get?_ofList_eq_some_iff distinct]
  exact (lookup_eq_some_iff (Dict.keys_nodup _)).symm

theorem Dict.entries_ofList_of_sorted {entries moved : List (String × α)}
    (permuted : entries.Perm moved) (sorted : Sorted entries) :
    (Dict.ofList moved).entries = entries := by
  have distinct : (entries.map Prod.fst).Nodup := Dict.keys_nodup ⟨entries, sorted⟩
  have distinctMoved := (permuted.map Prod.fst).nodup_iff.mp distinct
  have same := (Dict.entries_ofList_perm distinctMoved).trans permuted.symm
  exact eq_of_perm_of_sorted same (Dict.sorted _) sorted

namespace Provider

def byName (providers : List Provider) : List Provider :=
  providers.mergeSort fun p q => p.name ≤ q.name

theorem byName_perm (providers : List Provider) : (byName providers).Perm providers :=
  List.mergeSort_perm ..

theorem byName_ascends {providers : List Provider} (distinct : (providers.map name).Nodup) :
    (byName providers).Pairwise (·.name < ·.name) := by
  have different : (byName providers).Pairwise (·.name ≠ ·.name) :=
    List.pairwise_map.mp (((byName_perm providers).map name).nodup_iff.mpr distinct)
  have ordered : (byName providers).Pairwise (fun p q => decide (p.name ≤ q.name) = true) := by
    apply List.pairwise_mergeSort
    · intro p q t first second
      exact decide_eq_true (String.le_trans (of_decide_eq_true first) (of_decide_eq_true second))
    · intro p q
      simpa only [Bool.or_eq_true, decide_eq_true_eq] using String.le_total p.name q.name
  refine (ordered.and different).imp ?_
  intro p q h
  exact Std.lt_of_le_of_ne (of_decide_eq_true h.1) h.2

theorem objects_ne_nil_of_render {r : Release} {s : Spec} {facts : Facts} {p : Provider}
    {a : Rendering} (run : p.render r s facts = .ok a) : a.objects ≠ [] := by
  cases p with
  | kuryr =>
    rcases Kuryr.objects_of_render run with withheld | ⟨settings, f, api, complete⟩
    · rw [withheld]
      exact List.cons_ne_nil _ _
    · rw [complete]
      exact List.cons_ne_nil _ _
  | kubeProxy =>
    obtain ⟨p, config, -, made, -⟩ := KubeProxy.parts_of_render run
    rw [made]
    exact List.cons_ne_nil _ _
  | multus =>
    obtain ⟨configs, -, made, -⟩ := Multus.parts_of_render run
    rw [made]
    exact List.cons_ne_nil _ _
  | nodeIdentity =>
    obtain ⟨port, made, -⟩ := NodeIdentity.parts_of_render run
    rw [made]
    exact List.cons_ne_nil _ _

end Provider

namespace Pass

theorem count_name (o : Outcome) (p : Provider) : o.count p.name = (o.objectsOf p).length := by
  have named : p.name ≠ "" := by
    cases p <;> decide
  rw [Outcome.objectsOf, ← List.countP_eq_length_filter, Outcome.count]
  refine List.countP_congr ?_
  intro m member
  rw [decide_eq_true_eq, decide_eq_true_eq]
  change m.component?.getD "" = p.name ↔ _
  cases m.component? with
  | none => simp [Ne.symm named]
  | some component => simp

theorem length_namespacesFirst (objects : List Manifest) :
    (namespacesFirst objects).length = objects.length :=
  (List.filter_append_perm _ objects).length_eq

def row (p : Provider) (a : Rendering) : List String :=
  [p.name, toString a.objects.length, hashOf (.ofDict a.data)]

structure Summarizes (active listed : List Provider) (rendering : Provider → Rendering)
    (o : Outcome) : Prop where
  permuted : listed.Perm active
  ascends : listed.Pairwise (·.name < ·.name)
  rows : o.summary = listed.map fun p => row p (rendering p)
  filled : ∀ p ∈ listed, 1 ≤ (rendering p).objects.length
  recorded : ∀ p ∈ listed, o.hashes.get? p.name = some (hashOf (.ofDict (rendering p).data))
  total : (listed.map fun p => (rendering p).objects.length).sum = o.objects.length

section

variable {r : Release} {s : Spec} {facts : Facts} {providers : List Provider}
  {rendering : Provider → Rendering}

theorem count_outcome (nodup : providers.Nodup)
    (renders : ∀ p ∈ providers, p.render r s facts = .ok (rendering p)) {p : Provider}
    (member : p ∈ providers) :
    (outcome r s (providers.map fun p => partOf p (rendering p))).count p.name =
      (rendering p).objects.length := by
  rw [count_name, objectsOf_outcome nodup renders, if_pos member, length_namespacesFirst]
  exact List.length_map ..

theorem length_outcome_objects :
    (outcome r s (providers.map fun p => partOf p (rendering p))).objects.length =
      (providers.map fun p => (rendering p).objects.length).sum := by
  rw [outcome, length_namespacesFirst, parts_objects, List.length_map, ← List.length_map Prod.snd,
    sources_objects, List.length_flatMap]

theorem summarizes_outcome (distinct : (providers.map Provider.name).Nodup)
    (renders : ∀ p ∈ providers, p.render r s facts = .ok (rendering p)) :
    Summarizes providers (Provider.byName providers) rendering
      (outcome r s (providers.map fun p => partOf p (rendering p))) := by
  have permuted := Provider.byName_perm providers
  have ascends := Provider.byName_ascends distinct
  have nodup : providers.Nodup := List.Nodup.of_map Provider.name distinct
  refine ⟨permuted, ascends, ?_, ?_, ?_, ?_⟩
  · have entries := Dict.entries_ofList_of_sorted
      (permuted.map fun p => (p.name, hashOf (.ofDict (rendering p).data)))
      (List.pairwise_map.mpr ascends)
    rw [Outcome.summary, outcome_hashes, entries, List.map_map]
    refine List.map_congr_left ?_
    intro p member
    change [_, toString _, _] = _
    rw [count_outcome nodup renders (permuted.mem_iff.mp member), row]
  · intro p member
    have made := Provider.objects_ne_nil_of_render (renders p (permuted.mem_iff.mp member))
    exact List.length_pos_iff.mpr made
  · intro p member
    rw [outcome_hashes]
    exact record_of_mem distinct _ (permuted.mem_iff.mp member)
  · rw [length_outcome_objects]
    exact (permuted.map _).sum_nat

end

/-- The summary has a row for each component that takes part, in the order of the names. The row
    counts the objects that the component rendered, at least one, and no object is left out. -/
theorem summary_counts_renderings {r : Release} {s : Spec} {previous : Option Spec} {facts : Facts}
    {result : Outcome} (run : reconcile r s previous facts = .ok result) :
    ∃ (type : NetworkType) (rendering : Provider → Rendering) (listed : List Provider),
      result.spec.type? = some type ∧
      (∀ p ∈ listed, p.render r result.spec facts = .ok (rendering p)) ∧
      Summarizes (active r (Provider.forType type) result.spec) listed rendering result := by
  obtain ⟨type, rendering, known, renders, same⟩ := outcome_of_reconcile run
  have rows := summarizes_outcome (active_names_nodup r type result.spec) renders
  rw [← same] at rows
  exact ⟨type, rendering, _, known, fun p member => renders p (rows.permuted.mem_iff.mp member),
    rows⟩

theorem kuryrSample_is_summarized :
    ∃ result rendering listed, reconcile .builtIn kuryrSample none .none = .ok result ∧
      Summarizes [.kuryr, .multus, .nodeIdentity] listed rendering result := by
  obtain ⟨result, run, same⟩ := reconcile_of_check kuryrSample_accepted .none
  obtain ⟨type, rendering, listed, known, -, rows⟩ := summary_counts_renderings run
  rw [same] at known rows
  rw [known_defaulted] at known
  cases known
  exact ⟨result, rendering, listed, run, rows⟩

end Pass
end ClusterNet
