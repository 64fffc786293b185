import ClusterNet.Proofs.Changes
import ClusterNet.Proofs.Definitions
import ClusterNet.Proofs.Frames
import ClusterNet.Proofs.SoundNetworks

/- The order of the additional networks. It decides in which order they are defined, and nothing
   else: not whether the spec is accepted, not whether a change is safe, not what is rendered and
   recorded. What is asked of a network is asked of it wherever it stands, and networks are told
   apart by their names. -/
namespace ClusterNet

open Manifest

def Manifest.Alike (m n : Manifest) : Prop :=
  m = n ∨ m.isDefinition = true ∧ n.isDefinition = true

theorem Manifest.Alike.refl (m : Manifest) : m.Alike m := .inl rfl

theorem alike_self (objects : List Manifest) : List.Forall₂ Alike objects objects :=
  List.forall₂_same.mpr fun m _ => .refl m

theorem alike_definitions {xs ys : List Attachment} (length : xs.length = ys.length) :
    List.Forall₂ Alike (xs.map Multus.definitionOf) (ys.map Multus.definitionOf) := by
  induction xs generalizing ys with
  | nil =>
    cases ys with
    | nil => exact .nil
    | cons b rest => cases length
  | cons a rest ih =>
    cases ys with
    | nil => cases length
    | cons b others => exact .cons (.inr ⟨rfl, rfl⟩) (ih (Nat.succ.inj length))

namespace Multus

section

variable {s : Spec} {moved : List Attachment} (permuted : s.attachments.Perm moved)

include permuted

theorem isActive_moved : isActive { s with attachments := moved } = isActive s := by
  have empty : moved.isEmpty = s.attachments.isEmpty := by
    rw [Bool.eq_iff_iff, List.isEmpty_iff, List.isEmpty_iff]
    exact ⟨fun none => (none ▸ permuted).eq_nil, fun none => (none ▸ permuted).symm.eq_nil⟩
  simp only [isActive, isDisabled, empty]

theorem validate_moved : validate { s with attachments := moved } = [] ↔ validate s = [] := by
  have none : moved = [] ↔ s.attachments = [] :=
    ⟨fun none => (none ▸ permuted).eq_nil, fun none => (none ▸ permuted).symm.eq_nil⟩
  simp only [validate_eq_nil, isDisabled, none, (permuted.map identity).nodup_iff,
    permuted.mem_iff]

theorem render_moved {r : Release} {a b : Rendering}
    (apart : (s.attachments.map identityText).Nodup) (run : render r s = .ok a)
    (run' : render r { s with attachments := moved } = .ok b) :
    a.data = b.data ∧ a.warnings = b.warnings ∧ List.Forall₂ Alike a.objects b.objects := by
  obtain ⟨configs, each, objects, data, warnings⟩ := parts_of_render run
  obtain ⟨configs', each', objects', data', warnings'⟩ := parts_of_render run'
  have networks : Dict.ofList (configs.map fun n => (identityText n.1, Json.text n.2)) =
      Dict.ofList (configs'.map fun n => (identityText n.1, Json.text n.2)) := by
    rw [configs_eq each, configs_eq each', List.map_map, List.map_map]
    refine Dict.ofList_eq_of_perm (permuted.map _) ?_
    rwa [List.map_map]
  refine ⟨?_, warnings.trans warnings'.symm, ?_⟩
  · rw [data, data', networks]
  · rw [objects, objects', configs_eq each, configs_eq each', List.map_map, List.map_map]
    exact List.rel_append (alike_self _) (alike_definitions permuted.length_eq)

end

theorem kindChanges_eq_nil {before : List Attachment} {i : Nat} {a : Attachment} :
    kindChanges before i a = [] ↔ ∀ old ∈ kindBefore? before (identity a), old = a.kind := by
  unfold kindChanges
  cases kindBefore? before (identity a) <;> simp

end Multus

namespace Provider

theorem outside_moved (s : Spec) (moved : List Attachment) :
    { s with attachments := moved }.outside .multus = s.outside .multus := rfl

section

variable {s : Spec} {moved : List Attachment} (permuted : s.attachments.Perm moved)

include permuted

theorem isActive_moved (p : Provider) (r : Release) :
    p.isActive r { s with attachments := moved } = p.isActive r s := by
  by_cases own : p = .multus
  · subst own
    exact Multus.isActive_moved permuted
  · exact isActive_agree own (outside_moved s moved) r

theorem validate_moved (p : Provider) :
    p.validate { s with attachments := moved } = [] ↔ p.validate s = [] := by
  by_cases own : p = .multus
  · subst own
    exact Multus.validate_moved permuted
  · exact iff_of_eq (congrArg (· = []) (validate_agree own (outside_moved s moved)))

theorem render_moved {p : Provider} {r : Release} {facts : Facts} {a b : Rendering}
    (apart : (s.attachments.map Multus.identityText).Nodup) (run : p.render r s facts = .ok a)
    (run' : p.render r { s with attachments := moved } facts = .ok b) :
    a.data = b.data ∧ a.warnings = b.warnings ∧ List.Forall₂ Alike a.objects b.objects := by
  by_cases own : p = .multus
  · subst own
    exact Multus.render_moved permuted apart run run'
  · rw [render_agree own (outside_moved s moved), run] at run'
    cases run'
    exact ⟨rfl, rfl, alike_self _⟩

end

end Provider

namespace Pass

open Difference

theorem defaulted_moved (type : NetworkType) (s : Spec) (moved : List Attachment) :
    defaulted (Provider.forType type) { s with attachments := moved } =
      { defaulted (Provider.forType type) s with
        attachments := moved.map Multus.fillAttachment } := by
  have proxy (s : Spec) : KubeProxy.fillDefaults { s with attachments := moved } =
      { KubeProxy.fillDefaults s with attachments := moved } := by
    have same : KubeProxy.isActive { s with attachments := moved } = KubeProxy.isActive s := rfl
    cases active : KubeProxy.isActive s with
    | true =>
      rw [KubeProxy.fillDefaults_of_active active,
        KubeProxy.fillDefaults_of_active (same.trans active)]
      rfl
    | false =>
      rw [KubeProxy.fillDefaults_of_inactive active,
        KubeProxy.fillDefaults_of_inactive (same.trans active)]
  have filled (s : Spec) : defaulted Provider.companions { s with attachments := moved } =
      { defaulted Provider.companions s with
        attachments := moved.map Multus.fillAttachment } := by
    change NodeIdentity.fillDefaults (Multus.fillDefaults (KubeProxy.fillDefaults _)) = _
    rw [proxy]
    rfl
  cases type with
  | kuryr => exact filled (Kuryr.fillDefaults s)
  | thirdParty => exact filled s

section

variable {r : Release} {s : Spec} {moved : List Attachment} (permuted : s.attachments.Perm moved)

include permuted

theorem validation_moved (providers : List Provider) :
    validation r providers { s with attachments := moved } = [] ↔
      validation r providers s = [] := by
  simp only [validation_eq_nil, Provider.isActive_moved permuted, Provider.validate_moved permuted]

/-- A network is compared with the one of its name, and the rest with what did not move. -/
theorem changes_moved {type : NetworkType} (first : Accepted r type s)
    (second : Accepted r type { s with attachments := moved }) {before : Spec}
    (safe : changes (Provider.forType type) before s = []) :
    changes (Provider.forType type) before { s with attachments := moved } = [] := by
  rw [changes_of_accepted first, distinct_eq_nil, List.flatMap_eq_nil_iff] at safe
  rw [changes_of_accepted second, distinct_eq_nil, List.flatMap_eq_nil_iff]
  have fixed {d : Difference} (other : ∀ i, d ≠ .kind i)
      (candidate : d ∈ candidates type { s with attachments := moved }) :
      d ∈ candidates type s := by
    rcases List.mem_append.mp candidate with general | kinds
    · exact List.mem_append_left _ general
    · obtain ⟨entry, -, rfl⟩ := List.mem_map.mp kinds
      exact absurd rfl (other entry.2)
  intro d candidate
  cases d with
  | kind i =>
    cases found : moved[i]? with
    | none => simp only [problems, found, Option.elim_none]
    | some a =>
      -- The same network stands at the place j of the spec that is known to be safe.
      obtain ⟨j, position⟩ :=
        List.mem_iff_getElem?.mp (permuted.mem_iff.mpr (List.mem_of_getElem? found))
      have kept := safe (.kind j) (List.mem_append_right _
        (List.mem_map.mpr ⟨(a, j), List.mk_mem_zipIdx_iff_getElem?.mpr position, rfl⟩))
      simp only [problems, position, found, Option.elim_some] at kept ⊢
      exact Multus.kindChanges_eq_nil.mpr (Multus.kindChanges_eq_nil.mp kept)
  | type | serviceNetwork | pinned | multiNetwork => exact safe _ (fixed (by simp) candidate)

theorem check_moved {d : Spec} {previous : Option Spec} (returned : check r s previous = .ok d) :
    check r { s with attachments := moved } previous =
      .ok { d with attachments := moved.map Multus.fillAttachment } := by
  obtain ⟨type, known, filled, accepted, safe⟩ := check_ok_iff.mp returned
  have networks : d.attachments.Perm (moved.map Multus.fillAttachment) := by
    rw [filled, attachments_defaulted]
    exact permuted.map _
  have spec := defaulted_moved type s moved
  rw [← filled] at spec
  have valid := (validation_moved (r := r) networks (Provider.forType type)).mpr
    (validation_eq_nil.mpr accepted.valid)
  have second := accepted_defaulted (s := { s with attachments := moved }) known
    (spec.symm ▸ valid)
  rw [spec] at second
  refine check_ok_iff.mpr ⟨type, known, spec.symm, second, ?_⟩
  cases applied : previous.map asApplied with
  | none => rfl
  | some before =>
    rw [applied] at safe
    exact changes_moved networks accepted second safe

end

/-- What becomes of a pass when the networks are given in another order. -/
structure Reordered (moved : List Attachment) (x y : Outcome) : Prop where
  spec : y.spec = { x.spec with attachments := moved.map Multus.fillAttachment }
  data : x.data = y.data
  hashes : x.hashes = y.hashes
  warnings : x.warnings = y.warnings
  release : x.release = y.release
  /-- One object for each network, which does not depend on where the network stands. -/
  definitions : x.objects.filter isDefinition = x.spec.attachments.map Multus.definitionOf ∧
    y.objects.filter isDefinition = y.spec.attachments.map Multus.definitionOf
  others : List.Forall₂ Alike x.objects y.objects

theorem alike_stamped {m n : Manifest} (alike : m.Alike n) (hash : String) :
    (stamped hash m).Alike (stamped hash n) := by
  rcases alike with rfl | ⟨first, second⟩
  · exact .refl _
  · rw [stamped_of_other (isWorkload_of_definition first),
      stamped_of_other (isWorkload_of_definition second)]
    exact .inr ⟨first, second⟩

theorem isNamespace_of_alike {m n : Manifest} (alike : m.Alike n) :
    m.isNamespace = n.isNamespace := by
  rcases alike with rfl | ⟨first, second⟩
  · rfl
  · rw [isNamespace_of_definition first, isNamespace_of_definition second]

theorem alike_namespacesFirst {xs ys : List Manifest} (alike : List.Forall₂ Alike xs ys) :
    List.Forall₂ Alike (namespacesFirst xs) (namespacesFirst ys) := by
  refine List.rel_append (List.rel_filter ?_ alike) (List.rel_filter ?_ alike)
  · intro m n same
    exact iff_of_eq (congrArg (· = true) (isNamespace_of_alike same))
  · intro m n same
    exact iff_of_eq (congrArg (fun front => (!front) = true) (isNamespace_of_alike same))

theorem forall₂_flatMap {α β γ : Type} {R : β → γ → Prop} {items : List α} {f : α → List β}
    {g : α → List γ} (each : ∀ a ∈ items, List.Forall₂ R (f a) (g a)) :
    List.Forall₂ R (items.flatMap f) (items.flatMap g) :=
  List.rel_flatMap (List.forall₂_same.mpr each) fun _ _ => id

section

variable {r : Release} {d e : Spec} {providers : List Provider}
  {first second : Provider → Rendering}
  (data : ∀ p ∈ providers, (first p).data = (second p).data)

include data

theorem data_outcome : (outcome r d (providers.map fun p => partOf p (first p))).data =
    (outcome r e (providers.map fun p => partOf p (second p))).data := by
  rw [outcome_data, outcome_data]
  exact congrArg Dict.ofList (List.map_congr_left fun p member => by rw [data p member])

theorem hashes_outcome : (outcome r d (providers.map fun p => partOf p (first p))).hashes =
    (outcome r e (providers.map fun p => partOf p (second p))).hashes := by
  rw [outcome_hashes, outcome_hashes]
  exact congrArg Dict.ofList (List.map_congr_left fun p member => by rw [data p member])

theorem alike_outcome
    (objects : ∀ p ∈ providers, List.Forall₂ Alike (first p).objects (second p).objects) :
    List.Forall₂ Alike (outcome r d (providers.map fun p => partOf p (first p))).objects
      (outcome r e (providers.map fun p => partOf p (second p))).objects := by
  refine alike_namespacesFirst ?_
  rw [List.flatMap_map, List.flatMap_map]
  refine forall₂_flatMap fun p member => ?_
  rw [partOf, partOf, data p member]
  exact List.rel_map (R := Alike) (fun _ _ alike => alike_stamped alike _) (objects p member)

end

theorem release_outcome (r : Release) (s : Spec) (parts : List Part) :
    (outcome r s parts).release = r.version := rfl

theorem reordered_of_runs {r : Release} {s : Spec} {moved : List Attachment}
    {previous : Option Spec} {facts : Facts} {x y : Outcome}
    (permuted : s.attachments.Perm moved) (run : reconcile r s previous facts = .ok x)
    (run' : reconcile r { s with attachments := moved } previous facts = .ok y) :
    Reordered moved x y := by
  have returned := (parts_of_reconcile run).1
  have spec : y.spec = { x.spec with attachments := moved.map Multus.fillAttachment } :=
    Except.ok.inj ((parts_of_reconcile run').1.symm.trans (check_moved permuted returned))
  obtain ⟨type, known, filled, accepted, -⟩ := check_ok_iff.mp returned
  have networks : x.spec.attachments.Perm (moved.map Multus.fillAttachment) := by
    rw [filled, attachments_defaulted]
    exact permuted.map _
  obtain ⟨type₁, first, known₁, renders, same⟩ := outcome_of_reconcile run
  obtain ⟨type₂, second, known₂, renders', same'⟩ := outcome_of_reconcile run'
  rw [spec] at known₂ renders' same'
  cases known₁.symm.trans known₂
  have taking : active r (Provider.forType type₁)
      { x.spec with attachments := moved.map Multus.fillAttachment } =
        active r (Provider.forType type₁) x.spec :=
    List.filter_congr fun p _ => Provider.isActive_moved networks p r
  rw [taking] at renders' same'
  have alike := fun p member => Provider.render_moved networks (identityTexts_of_accepted accepted)
    (renders p member) (renders' p member)
  have data := fun p member => (alike p member).1
  have objects := fun p member => (alike p member).2.2
  refine ⟨spec, ?_, ?_, ?_, ?_, ⟨definitions_of_reconcile run, definitions_of_reconcile run'⟩, ?_⟩
  · rw [congrArg Outcome.data same, congrArg Outcome.data same']
    exact data_outcome data
  · rw [congrArg Outcome.hashes same, congrArg Outcome.hashes same']
    exact hashes_outcome data
  · rw [congrArg Outcome.warnings same, congrArg Outcome.warnings same']
    simp only [outcome, List.flatMap_map]
    exact List.flatMap_congr fun p member => (alike p member).2.1
  · rw [congrArg Outcome.release same, congrArg Outcome.release same', release_outcome,
      release_outcome]
  · rw [congrArg Outcome.objects same, congrArg Outcome.objects same']
    exact alike_outcome data objects

theorem reconcile_moved {r : Release} {s : Spec} {moved : List Attachment}
    (permuted : s.attachments.Perm moved) (previous : Option Spec) (facts : Facts)
    (succeeds : ∃ x, reconcile r s previous facts = .ok x) :
    ∃ y, reconcile r { s with attachments := moved } previous facts = .ok y := by
  obtain ⟨x, run⟩ := succeeds
  obtain ⟨y, run', -⟩ := reconcile_of_check (check_moved permuted (parts_of_reconcile run).1) facts
  exact ⟨y, run'⟩

/-- The order of the networks does not decide whether a pass succeeds; and if it does, the networks
    are defined in their order, which changes nothing else. -/
theorem network_order_is_irrelevant {s : Spec} {moved : List Attachment}
    (permuted : s.attachments.Perm moved) (r : Release) (previous : Option Spec) (facts : Facts) :
    ((∃ x, reconcile r s previous facts = .ok x) ↔
      ∃ y, reconcile r { s with attachments := moved } previous facts = .ok y) ∧
    ∀ x y, reconcile r s previous facts = .ok x →
      reconcile r { s with attachments := moved } previous facts = .ok y → Reordered moved x y := by
  refine ⟨⟨reconcile_moved permuted previous facts, ?_⟩, fun x y => reordered_of_runs permuted⟩
  exact reconcile_moved (s := { s with attachments := moved }) permuted.symm previous facts

theorem namesakes_may_be_swapped :
    ∃ x y, reconcile .builtIn namesakes (some namesakes) .none = .ok x ∧
      reconcile .builtIn { namesakes with attachments := namesakes.attachments.reverse }
        (some namesakes) .none = .ok y ∧
      Reordered namesakes.attachments.reverse x y := by
  have accepted : check .builtIn namesakes (some namesakes) =
      .ok (defaulted (Provider.forType .kuryr) namesakes) := by
    decide +kernel
  have permuted := (List.reverse_perm namesakes.attachments).symm
  obtain ⟨succeeds, reordered⟩ :=
    network_order_is_irrelevant permuted .builtIn (some namesakes) .none
  obtain ⟨x, run, -⟩ := reconcile_of_check accepted .none
  obtain ⟨y, run'⟩ := succeeds.mp ⟨x, run⟩
  exact ⟨x, y, run, run', reordered x y run run'⟩

end Pass
end ClusterNet
