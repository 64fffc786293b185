import ClusterNet.Proofs.Assembly

/- The progress of a rollout. How far components have moved to a release decides only which objects
   are marked to be created once or later. Without the marks a pass is a function of what was
   discovered without the progress: the hashes, the pod templates and all else stay as they are. -/
namespace ClusterNet

/-- What was discovered, less how far a rollout has come. -/
def Facts.withoutProgress (f : Facts) : Facts :=
  { f with
    runningVersion := Option.none
    openStack := f.openStack.map fun o => { o with rollout := .none }
    webhook.ready := false }

namespace Manifest

/-- The annotations that ask for an object to be created only once, or later. -/
def marks : List String := [createOnlyKey, createWaitKey]

def plainAnnotations (m : Manifest) : Dict String :=
  ((m.metadata.annotations.getD .empty).erase createOnlyKey).erase createWaitKey

/-- The object with its marks taken off. A map of annotations that held nothing else goes with
    them. -/
def unmarked (m : Manifest) : Manifest :=
  { m with
    metadata.annotations :=
      if m.plainAnnotations.isEmpty then none else some m.plainAnnotations }

theorem get?_annotations (m : Manifest) (key : String) :
    (m.metadata.annotations.getD .empty).get? key = m.annotation? key := by
  unfold annotation?
  cases m.metadata.annotations <;> rfl

theorem get?_plainAnnotations_of_mark {key : String} (mark : key ∈ marks) (m : Manifest) :
    m.plainAnnotations.get? key = none := by
  have either : key = createOnlyKey ∨ key = createWaitKey := by simpa [marks] using mark
  rcases either with rfl | rfl
  · rw [plainAnnotations, Dict.get?_erase_of_ne _ (by decide), Dict.get?_erase_self]
  · rw [plainAnnotations, Dict.get?_erase_self]

theorem get?_plainAnnotations_of_other {key : String} (other : key ∉ marks) (m : Manifest) :
    m.plainAnnotations.get? key = m.annotation? key := by
  simp only [marks, List.mem_cons, List.not_mem_nil, or_false, not_or] at other
  rw [plainAnnotations, Dict.get?_erase_of_ne _ other.2, Dict.get?_erase_of_ne _ other.1,
    get?_annotations]

theorem plainAnnotations_annotate_mark {mark : String} (listed : mark ∈ marks) (value : String)
    (m : Manifest) : (m.annotate mark value).plainAnnotations = m.plainAnnotations := by
  refine Dict.ext_get? ?_
  intro key
  by_cases other : key ∈ marks
  · rw [get?_plainAnnotations_of_mark other, get?_plainAnnotations_of_mark other]
  · have different : key ≠ mark := fun same => other (same ▸ listed)
    rw [get?_plainAnnotations_of_other other, get?_plainAnnotations_of_other other,
      annotation?_annotate_of_ne m different]

theorem plainAnnotations_annotate_other {key : String} (other : key ∉ marks) (value : String)
    (m : Manifest) :
    (m.annotate key value).plainAnnotations = m.plainAnnotations.insert key value := by
  refine Dict.ext_get? ?_
  intro read
  by_cases same : read = key
  · subst same
    rw [get?_plainAnnotations_of_other other, annotation?_annotate_self, Dict.get?_insert_self]
  · rw [Dict.get?_insert_of_ne _ same]
    by_cases mark : read ∈ marks
    · rw [get?_plainAnnotations_of_mark mark, get?_plainAnnotations_of_mark mark]
    · rw [get?_plainAnnotations_of_other mark, get?_plainAnnotations_of_other mark,
        annotation?_annotate_of_ne m same]

theorem unmarked_annotate_mark {mark : String} (listed : mark ∈ marks) (value : String)
    (m : Manifest) : (m.annotate mark value).unmarked = m.unmarked := by
  rw [unmarked, plainAnnotations_annotate_mark listed]
  rfl

theorem annotations_unmarked (m : Manifest) :
    m.unmarked.metadata.annotations.getD .empty = m.plainAnnotations := by
  unfold unmarked
  cases empty : m.plainAnnotations.isEmpty with
  | false => rfl
  | true => exact (Dict.eq_empty_of_isEmpty empty).symm

theorem unmarked_annotate_other {key : String} (other : key ∉ marks) (value : String)
    (m : Manifest) : (m.annotate key value).unmarked = m.unmarked.annotate key value := by
  rw [unmarked, plainAnnotations_annotate_other other, Dict.isEmpty_insert, ← annotations_unmarked]
  rfl

theorem true_of_fresh {m : Manifest} (fresh : m.Fresh) {key value : String}
    (found : m.annotation? key = some value) : value = "true" := by
  induction fresh with
  | other _ bare _ =>
    rw [annotation?, bare] at found
    cases found
  | daemonSet | deployment => cases found
  | @markCreateOnly m _ ih =>
    by_cases own : key = createOnlyKey
    · rw [own, markCreateOnly, annotation?_annotate_self] at found
      exact (Option.some.inj found).symm
    · rw [markCreateOnly, annotation?_annotate_of_ne m own] at found
      exact ih found
  | @markCreateWait m _ ih =>
    by_cases own : key = createWaitKey
    · rw [own, markCreateWait, annotation?_annotate_self] at found
      exact (Option.some.inj found).symm
    · rw [markCreateWait, annotation?_annotate_of_ne m own] at found
      exact ih found

end Manifest

open Manifest

def Rendering.unmarked (a : Rendering) : Rendering :=
  { a with objects := a.objects.map Manifest.unmarked }

namespace Kuryr

theorem unmarked_holdBack (hold : Bool) (m : Manifest) :
    (holdBack hold m).unmarked = m.unmarked := by
  cases hold with
  | false => rfl
  | true => exact unmarked_annotate_mark (by decide) _ m

/-- Which workloads are held back is all that the progress decides here. -/
theorem workloads_unmarked (r : Release) (s : Settings) (facts : Facts) (f : OpenStackFacts)
    (api : ApiServer) :
    (workloads r s facts f api).map Manifest.unmarked =
      (workloads r s facts.withoutProgress { f with rollout := .none } api).map
        Manifest.unmarked := by
  simp only [workloads, List.map_append, List.map_cons, unmarked_holdBack]
  rfl

theorem render_unmarked (r : Release) (s : Spec) (facts : Facts) :
    (render r s facts).map Rendering.unmarked =
      (render r s facts.withoutProgress).map Rendering.unmarked := by
  unfold render
  cases Settings.ofSpec s with
  | error problem => rfl
  | ok settings =>
    obtain ⟨running, apiServer, openStack, webhook⟩ := facts
    cases openStack with
    | none => cases apiServer <;> rfl
    | some f =>
      cases apiServer with
      | none => rfl
      | some api =>
        have same := workloads_unmarked r settings ⟨running, some api, some f, webhook⟩ f api
        simp only [Facts.withoutProgress, Option.map_some, ok_bind] at same ⊢
        refine congrArg Except.ok ?_
        simp only [Rendering.unmarked, List.map_append, same]
        rfl

end Kuryr

namespace NodeIdentity

theorem registration_unmarked (facts : WebhookFacts) :
    (registration facts).1.map Manifest.unmarked =
      (registration { facts with ready := false }).1.map Manifest.unmarked := by
  obtain ⟨caBundle, ready⟩ := facts
  cases caBundle with
  | none => rfl
  | some ca =>
    cases ready with
    | false => rfl
    | true => exact congrArg ([·]) (unmarked_annotate_mark (by decide) _ _).symm

theorem registration_warnings (facts : WebhookFacts) :
    (registration facts).2 = (registration { facts with ready := false }).2 := by
  obtain ⟨caBundle, ready⟩ := facts
  cases caBundle <;> rfl

theorem render_unmarked (r : Release) (s : Spec) (facts : Facts) :
    (render r s facts).map Rendering.unmarked =
      (render r s facts.withoutProgress).map Rendering.unmarked := by
  unfold render
  cases filled provider "webhookPort" (s.nodeIdentity.bind NodeIdentityConfig.webhookPort) with
  | error problem => rfl
  | ok port =>
    have objects := registration_unmarked facts.webhook
    have warnings := registration_warnings facts.webhook
    change Except.ok (Rendering.mk (List.map unmarked (_ ++ (registration facts.webhook).1)) _
      (registration facts.webhook).2) = _
    rw [List.map_append, objects, warnings, ← List.map_append]
    rfl

end NodeIdentity

theorem Provider.render_unmarked (p : Provider) (r : Release) (s : Spec) (facts : Facts) :
    (p.render r s facts).map Rendering.unmarked =
      (p.render r s facts.withoutProgress).map Rendering.unmarked := by
  cases p with
  | kuryr => exact Kuryr.render_unmarked r s facts
  | nodeIdentity => exact NodeIdentity.render_unmarked r s facts
  | kubeProxy | multus => rfl

namespace Pass

theorem unmarked_stamped {hash : String} {m : Manifest} (fresh : m.Fresh) :
    (stamped hash m).unmarked = stamped hash m.unmarked := by
  cases workload : m.isWorkload with
  | false =>
    have same : m.unmarked.isWorkload = false := workload
    rw [stamped_of_other workload, stamped_of_other same]
  | true =>
    obtain ⟨path, found, bare⟩ := bare_of_fresh fresh workload
    have same : m.unmarked.isWorkload = true := workload
    have template : m.unmarked.templatePath = .ok path := found
    rw [stamped_of_workload workload found bare, stamped_of_workload same template bare,
      ← unmarked_annotate_other (by decide)]
    rfl

theorem annotation?_stamped {hash key : String} {m : Manifest} (fresh : m.Fresh)
    (other : key ≠ configHashKey) : (stamped hash m).annotation? key = m.annotation? key := by
  rcases stamped_of_fresh fresh with same | ⟨spec, same⟩
  · rw [same]
  · rw [same]
    exact annotation?_annotate_of_ne m other hash

def Part.unmarked (b : Part) : Part := { b with objects := b.objects.map Manifest.unmarked }

def Outcome.unmarked (o : Outcome) : Outcome :=
  { o with objects := o.objects.map Manifest.unmarked }

theorem unmarked_partOf {p : Provider} {a : Rendering} (fresh : ∀ m ∈ a.objects, m.Fresh) :
    (partOf p a).unmarked = partOf p a.unmarked := by
  have objects : (a.objects.map (stamped (hashOf (.ofDict a.data)))).map Manifest.unmarked =
      (a.objects.map Manifest.unmarked).map (stamped (hashOf (.ofDict a.data))) := by
    rw [List.map_map, List.map_map]
    exact List.map_congr_left fun m member => unmarked_stamped (fresh m member)
  rw [Part.unmarked, partOf, objects]
  rfl

theorem unmarked_outcome (r : Release) (s : Spec) (parts : List Part) :
    (outcome r s parts).unmarked = outcome r s (parts.map Part.unmarked) := by
  have objects : (namespacesFirst (parts.flatMap Part.objects)).map Manifest.unmarked =
      namespacesFirst ((parts.map Part.unmarked).flatMap Part.objects) := by
    rw [List.flatMap_map]
    change _ = namespacesFirst (parts.flatMap fun b => b.objects.map Manifest.unmarked)
    rw [← List.map_flatMap]
    exact (namespacesFirst_map fun _ _ => rfl).symm
  rw [Outcome.unmarked, outcome, objects, outcome, List.map_map, List.map_map]
  congr 1
  rw [List.flatMap_map]
  rfl

theorem marks_of_outcome {r : Release} {s : Spec} {providers : List Provider}
    {rendering : Provider → Rendering}
    (fresh : ∀ p ∈ providers, ∀ m ∈ (rendering p).objects, m.Fresh) {m : Manifest}
    (applied : m ∈ (outcome r s (providers.map fun p => partOf p (rendering p))).objects)
    {mark value : String} (listed : mark ∈ marks) (found : m.annotation? mark = some value) :
    value = "true" := by
  obtain ⟨p, taking, given, member, rfl⟩ := source_of_applied fresh applied
  have shape := fresh p taking given member
  have other : mark ≠ configHashKey := fun same => absurd (same ▸ listed) (by decide)
  rw [annotation?_stamped shape other] at found
  exact true_of_fresh shape found

/-- Two outcomes that differ in nothing but the marks on their objects. -/
structure SameButMarks (x y : Outcome) : Prop where
  spec : x.spec = y.spec
  data : x.data = y.data
  hashes : x.hashes = y.hashes
  warnings : x.warnings = y.warnings
  objects : x.objects.map Manifest.unmarked = y.objects.map Manifest.unmarked
  templates : x.objects.map Manifest.spec = y.objects.map Manifest.spec
  values : ∀ m ∈ x.objects ++ y.objects, ∀ mark ∈ marks, ∀ value,
    m.annotation? mark = some value → value = "true"

theorem sameButMarks_of_unmarked {x y : Outcome} (same : x.unmarked = y.unmarked)
    (values : ∀ m ∈ x.objects ++ y.objects, ∀ mark ∈ marks, ∀ value,
      m.annotation? mark = some value → value = "true") : SameButMarks x y := by
  obtain ⟨spec, objects, data, hashes, warnings, -⟩ := Outcome.mk.inj same
  refine ⟨spec, data, hashes, warnings, objects, ?_, values⟩
  have read := congrArg (List.map Manifest.spec) objects
  rw [List.map_map, List.map_map] at read
  exact read

/-- The progress of a rollout never changes a hash or restarts a pod: two passes over the same
    requests, with facts that agree on all but the progress, fail alike or differ in marks only. -/
theorem progress_moves_only_marks {f g : Facts} (same : f.withoutProgress = g.withoutProgress)
    (r : Release) (s : Spec) (previous : Option Spec) :
    (∃ problem, reconcile r s previous f = .error problem ∧
      reconcile r s previous g = .error problem) ∨
    ∃ x y, reconcile r s previous f = .ok x ∧ reconcile r s previous g = .ok y ∧
      SameButMarks x y := by
  cases returned : check r s previous with
  | error problem =>
    exact .inl ⟨problem, reconcile_of_failure returned f, reconcile_of_failure returned g⟩
  | ok d =>
    obtain ⟨type, a, known, -, -, aRenders, first⟩ := outcome_of_check returned f
    obtain ⟨type', b, known', -, -, bRenders, second⟩ := outcome_of_check returned g
    cases known.symm.trans known'
    refine .inr ⟨_, _, first, second, ?_⟩
    have aFresh := fun p member => Provider.fresh_of_render (aRenders p member)
    have bFresh := fun p member => Provider.fresh_of_render (bRenders p member)
    have parts : ∀ p ∈ active r (Provider.forType type) d,
        (partOf p (a p)).unmarked = (partOf p (b p)).unmarked := by
      intro p member
      have run := Provider.render_unmarked p r d f
      rw [same, ← Provider.render_unmarked p r d g, aRenders p member, bRenders p member] at run
      rw [unmarked_partOf (aFresh p member), unmarked_partOf (bFresh p member),
        Except.ok.inj run]
    refine sameButMarks_of_unmarked ?_ ?_
    · rw [unmarked_outcome, unmarked_outcome, List.map_map, List.map_map]
      exact congrArg (outcome r d) (List.map_congr_left parts)
    · intro m applied mark listed value found
      rcases List.mem_append.mp applied with left | right
      · exact marks_of_outcome aFresh left listed found
      · exact marks_of_outcome bFresh right listed found

def rollingFacts (running : String) (rollout : Progress) (ready : Bool) : Facts where
  runningVersion := some running
  apiServer := some ⟨"api-int.example", 6443⟩
  openStack := some ⟨"https://keystone.example:5000", none, "project", ⟨"lattice", "secret", none⟩,
    none, "pods", "services", "router", [], [], none, none, none, rollout⟩
  webhook := ⟨some "authority", ready⟩

/-- At the start of an upgrade the controller of Kuryr waits, at its end it does not. -/
theorem kuryrSample_upgrade_moves_only_marks :
    Kuryr.heldBack .builtIn (rollingFacts "4.13.0" .none false) .none = (false, true) ∧
    Kuryr.heldBack .builtIn (rollingFacts "4.14.0" ⟨true, true⟩ true) ⟨true, true⟩ =
      (false, false) ∧
    ∃ x y, reconcile .builtIn kuryrSample none (rollingFacts "4.13.0" .none false) = .ok x ∧
      reconcile .builtIn kuryrSample none (rollingFacts "4.14.0" ⟨true, true⟩ true) = .ok y ∧
      SameButMarks x y := by
  refine ⟨by decide +kernel, by decide +kernel, ?_⟩
  have same : (rollingFacts "4.13.0" .none false).withoutProgress =
    (rollingFacts "4.14.0" ⟨true, true⟩ true).withoutProgress := rfl
  obtain ⟨x, run, -⟩ :=
    reconcile_of_check kuryrSample_accepted (rollingFacts "4.13.0" .none false)
  rcases progress_moves_only_marks same .builtIn kuryrSample none with ⟨_, failed, -⟩ | passes
  · rw [failed] at run
    cases run
  · exact passes

end Pass
end ClusterNet
