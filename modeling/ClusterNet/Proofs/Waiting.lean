import ClusterNet.Proofs.Precedence
import ClusterNet.Proofs.Progress
import ClusterNet.Proofs.Trust

/- Which objects of a pass ask to be created only once. In an upgrade it is the controller of Kuryr,
   until the daemon is updated; in a downgrade it is the daemon, until the controller is; and at all
   other times it is none. -/
namespace ClusterNet

namespace Manifest

def isCreateOnly (m : Manifest) : Bool := (m.annotation? createOnlyKey).isSome

def createOnly (objects : List Manifest) : List Identity :=
  (objects.filter isCreateOnly).map identity

theorem createOnly_append (first second : List Manifest) :
    createOnly (first ++ second) = createOnly first ++ createOnly second := by
  rw [createOnly, List.filter_append, List.map_append]
  rfl

theorem createOnly_eq_nil {objects : List Manifest}
    (bare : ∀ m ∈ objects, m.isCreateOnly = false) : createOnly objects = [] := by
  have none : objects.filter isCreateOnly = [] := by
    rw [List.filter_eq_nil_iff]
    intro m member
    rw [bare m member]
    exact Bool.false_ne_true
  rw [createOnly, none, List.map_nil]

theorem annotation?_withoutHash (m : Manifest) {key : String} (other : key ≠ configHashKey) :
    m.withoutHash.annotation? key = m.annotation? key := by
  have annotations : m.withoutHash.metadata.annotations =
      m.metadata.annotations.bind otherAnnotations := by
    unfold withoutHash
    cases m.templatePath <;> rfl
  rw [annotation?, annotation?, annotations]
  cases m.metadata.annotations with
  | none => rfl
  | some d =>
    have kept := Dict.get?_erase_of_ne d other
    rw [Option.bind_some, Option.bind_some, otherAnnotations, ← kept]
    by_cases empty : (d.erase configHashKey).isEmpty = true
    · rw [if_pos empty, Dict.eq_empty_of_isEmpty empty]
      rfl
    · rw [if_neg empty]
      rfl

theorem isCreateOnly_withoutHash (m : Manifest) : m.withoutHash.isCreateOnly = m.isCreateOnly := by
  rw [isCreateOnly, annotation?_withoutHash m (by decide)]
  rfl

theorem createOnly_withoutHash (objects : List Manifest) :
    createOnly (objects.map withoutHash) = createOnly objects := by
  have marks : isCreateOnly ∘ withoutHash = isCreateOnly := funext isCreateOnly_withoutHash
  have names : identity ∘ withoutHash = identity := funext identity_withoutHash
  rw [createOnly, List.filter_map, List.map_map, marks, names, createOnly]

end Manifest

open Manifest

namespace Kuryr

def daemonIdentity : Identity := ⟨"DaemonSet", some namespaceName, "kuryr-cni"⟩

def controllerIdentity : Identity := ⟨"Deployment", some namespaceName, "kuryr-controller"⟩

theorem createOnly_holdBack (hold : Bool) {m : Manifest} (bare : m.metadata.annotations = none) :
    createOnly [holdBack hold m] = if hold then [m.identity] else [] := by
  cases hold with
  | false =>
    apply createOnly_eq_nil
    rw [List.forall_mem_singleton, holdBack, if_neg Bool.false_ne_true, isCreateOnly, annotation?,
      bare]
    rfl
  | true =>
    have marked : (holdBack true m).isCreateOnly = true := by
      rw [holdBack, if_pos rfl, isCreateOnly, markCreateOnly, annotation?_annotate_self]
      rfl
    rw [createOnly, List.filter_singleton, marked]
    rfl

def files (s : Settings) (f : OpenStackFacts) (api : ApiServer) : List Manifest :=
  [.secret secretName namespaceName provider "clouds.yaml" (Yaml.text (clouds f)),
    .configMap configMapName namespaceName provider "kuryr.conf" (conf s f api)]
    ++ (f.caBundle.map caMap).toList

def daemon (r : Release) (s : Settings) (f : OpenStackFacts) : Manifest :=
  .daemonSet "kuryr-cni" namespaceName provider (daemonPod r s f.caBundle.isSome)

def controller (r : Release) (s : Settings) (f : OpenStackFacts) : Manifest :=
  .deployment "kuryr-controller" namespaceName provider 1 (controllerPod r s f.caBundle.isSome)

theorem workloads_eq (r : Release) (s : Settings) (facts : Facts) (f : OpenStackFacts)
    (api : ApiServer) :
    workloads r s facts f api = files s f api ++
      [holdBack (heldBack r facts f.rollout).1 (daemon r s f),
        holdBack (heldBack r facts f.rollout).2 (controller r s f)] := rfl

theorem forall_mem_files {s : Settings} {f : OpenStackFacts} {api : ApiServer}
    {p : Manifest → Prop}
    (credentials : p (.secret secretName namespaceName provider "clouds.yaml"
      (Yaml.text (clouds f))))
    (written : p (.configMap configMapName namespaceName provider "kuryr.conf" (conf s f api)))
    (authority : ∀ ca, p (caMap ca)) : ∀ m ∈ files s f api, p m := by
  rw [files, List.forall_mem_append]
  constructor
  · simp only [List.forall_mem_cons]
    exact ⟨credentials, written, List.forall_mem_nil _⟩
  · intro m member
    obtain ⟨ca, -, rfl⟩ := Option.map_eq_some_iff.mp (Option.mem_toList.mp member)
    exact authority ca

theorem files_bare (s : Settings) (f : OpenStackFacts) (api : ApiServer) :
    ∀ m ∈ files s f api, m.isCreateOnly = false :=
  forall_mem_files rfl rfl fun _ => rfl

theorem createOnly_workloads (r : Release) (s : Settings) (facts : Facts) (f : OpenStackFacts)
    (api : ApiServer) :
    createOnly (workloads r s facts f api) =
      (if (heldBack r facts f.rollout).1 then [daemonIdentity] else []) ++
        if (heldBack r facts f.rollout).2 then [controllerIdentity] else [] := by
  rw [workloads_eq, createOnly_append, createOnly_eq_nil (files_bare s f api), List.nil_append,
    ← List.singleton_append, createOnly_append, createOnly_holdBack _ rfl,
    createOnly_holdBack _ rfl]
  rfl

def waiting (r : Release) (facts : Facts) : List Identity :=
  match facts.openStack, facts.apiServer with
  | some f, some _ =>
    match facts.runningVersion.map (Version.change · r.version) with
    | some .upgrade => if f.rollout.daemonUpdated then [] else [controllerIdentity]
    | some .downgrade => if f.rollout.controllerUpdated then [] else [daemonIdentity]
    | _ => []
  | _, _ => []

theorem createOnly_of_render {r : Release} {s : Spec} {facts : Facts} {a : Rendering}
    (run : render r s facts = .ok a) : createOnly a.objects = waiting r facts := by
  have base : ∀ m ∈ baseObjects, m.isCreateOnly = false := by
    simp only [baseObjects, List.forall_mem_cons]
    exact ⟨rfl, rfl, rfl, rfl, List.forall_mem_nil _⟩
  obtain ⟨settings, -, ⟨f, api, cloud, server, complete, -⟩ | ⟨missing, withheld, -⟩⟩ :=
    parts_of_render run
  · rw [complete, createOnly_append, createOnly_eq_nil base, createOnly_workloads, waiting, cloud,
      server, heldBack, Rollout.order]
    cases facts.runningVersion.map (Version.change · r.version) with
    | none => rfl
    | some change =>
      cases change with
      | upgrade => cases updated : f.rollout.daemonUpdated <;> simp only [updated] <;> rfl
      | downgrade => cases updated : f.rollout.controllerUpdated <;> simp only [updated] <;> rfl
      | same | unknown => rfl
  · rw [withheld, createOnly_eq_nil base, waiting]
    rcases missing with cloud | server
    · rw [cloud]
    · rw [server]
      cases facts.openStack <;> rfl

theorem waiting_cases (r : Release) (facts : Facts) :
    waiting r facts = [] ∨ waiting r facts = [controllerIdentity] ∨
      waiting r facts = [daemonIdentity] := by
  unfold waiting
  split
  · split
    · split <;> simp
    · split <;> simp
    · simp
  · simp

theorem namespacesFirst_waiting (r : Release) (facts : Facts) :
    Identity.namespacesFirst (waiting r facts) = waiting r facts := by
  rcases waiting_cases r facts with same | same | same <;> rw [same] <;> rfl

def Pending (r : Release) (facts : Facts) (direction : Version.Change)
    (updated : Progress → Bool) : Prop :=
  facts.apiServer.isSome ∧ facts.runningVersion.map (Version.change · r.version) = some direction ∧
    ∃ f, facts.openStack = some f ∧ updated f.rollout = false

theorem waiting_iff_pending (r : Release) (facts : Facts) :
    (waiting r facts = [controllerIdentity] ↔ Pending r facts .upgrade Progress.daemonUpdated) ∧
      (waiting r facts = [daemonIdentity] ↔
        Pending r facts .downgrade Progress.controllerUpdated) := by
  have apart : daemonIdentity ≠ controllerIdentity := by decide
  rw [waiting, Pending, Pending]
  cases facts.openStack with
  | none => simp
  | some f =>
    cases facts.apiServer with
    | none => simp
    | some api =>
      cases facts.runningVersion.map (Version.change · r.version) with
      | none => simp
      | some change =>
        cases change with
        | upgrade => cases updated : f.rollout.daemonUpdated <;> simp [updated, apart.symm]
        | downgrade => cases updated : f.rollout.controllerUpdated <;> simp [updated, apart]
        | same | unknown => simp

theorem workloads_under_iff (facts : Facts) :
    (∀ i ∈ workloadIdentities, i ∈ identitiesUnder facts) ↔
      facts.openStack.isSome ∧ facts.apiServer.isSome := by
  have withheld : ¬∀ i ∈ workloadIdentities, i ∈ identities.take 4 := by decide
  have plain : ∀ i ∈ workloadIdentities, i ∈ identities.eraseIdx 6 := by decide
  have trusted : ∀ i ∈ workloadIdentities, i ∈ identities := by decide
  unfold identitiesUnder
  cases facts.openStack with
  | none => simpa using withheld
  | some f =>
    cases facts.apiServer with
    | none => simpa using withheld
    | some api =>
      have complete : ∀ i ∈ workloadIdentities,
          i ∈ if f.caBundle.isSome then identities else identities.eraseIdx 6 := by
        split
        · exact trusted
        · exact plain
      simpa using complete

def Deployed (objects : List Manifest) : Prop := ∀ i ∈ workloadIdentities, Holds objects i

/-- One side waits for the other: the workloads are there, the running version changes in this
    direction to that of the release, and the side that goes first is not updated. -/
structure Waits (r : Release) (facts : Facts) (objects : List Manifest)
    (direction : Version.Change) (updated : Progress → Bool) : Prop where
  deployed : Deployed objects
  moving : ∃ running, facts.runningVersion = some running ∧
    Version.change running r.version = direction
  behind : ∃ f, facts.openStack = some f ∧ updated f.rollout = false

theorem waits_iff_pending {r : Release} {facts : Facts} {objects : List Manifest}
    (deployed : Deployed objects ↔ facts.openStack.isSome ∧ facts.apiServer.isSome)
    {direction : Version.Change} {updated : Progress → Bool} :
    Pending r facts direction updated ↔ Waits r facts objects direction updated := by
  rw [Pending, Option.map_eq_some_iff]
  constructor
  · rintro ⟨server, running, f, cloud, behind⟩
    exact ⟨deployed.mpr ⟨Option.isSome_of_eq_some cloud, server⟩, running, f, cloud, behind⟩
  · rintro ⟨both, running, behind⟩
    exact ⟨(deployed.mp both).2, running, behind⟩

end Kuryr

theorem KubeProxy.createOnly_of_render {r : Release} {s : Spec} {a : Rendering}
    (run : render r s = .ok a) : createOnly a.objects = [] := by
  obtain ⟨_, _, -, made, -⟩ := parts_of_render run
  apply createOnly_eq_nil
  simp only [made, objects, List.forall_mem_cons]
  exact ⟨rfl, rfl, rfl, rfl, rfl, rfl, List.forall_mem_nil _⟩

theorem Multus.createOnly_of_render {r : Release} {s : Spec} {a : Rendering}
    (run : render r s = .ok a) : createOnly a.objects = [] := by
  obtain ⟨_, -, made, -⟩ := parts_of_render run
  apply createOnly_eq_nil
  simp only [made, baseObjects, admissionObjects, List.forall_mem_append, List.forall_mem_cons,
    List.forall_mem_map]
  refine ⟨⟨⟨rfl, rfl, rfl, rfl, rfl, rfl, List.forall_mem_nil _⟩, ?_⟩, fun _ _ => rfl⟩
  split
  · simp only [List.forall_mem_cons]
    exact ⟨rfl, rfl, List.forall_mem_nil _⟩
  · exact List.forall_mem_nil _

/-- The webhook may wait for its pods, but it is kept up to date. -/
theorem NodeIdentity.createOnly_of_render {r : Release} {s : Spec} {facts : Facts} {a : Rendering}
    (run : render r s facts = .ok a) : createOnly a.objects = [] := by
  obtain ⟨_, made, -⟩ := parts_of_render run
  apply createOnly_eq_nil
  simp only [made, objects, List.forall_mem_append, List.forall_mem_cons]
  refine ⟨⟨rfl, rfl, rfl, rfl, rfl, rfl, List.forall_mem_nil _⟩, ?_⟩
  unfold registration
  split
  · rw [List.forall_mem_singleton]
    split <;> rfl
  · exact List.forall_mem_nil _

theorem Provider.createOnly_of_companion {r : Release} {s : Spec} {facts : Facts} {p : Provider}
    {a : Rendering} (companion : p ∈ companions) (run : p.render r s facts = .ok a) :
    createOnly a.objects = [] := by
  cases p with
  | kuryr => exact absurd companion (by decide)
  | kubeProxy => exact KubeProxy.createOnly_of_render run
  | multus => exact Multus.createOnly_of_render run
  | nodeIdentity => exact NodeIdentity.createOnly_of_render run

theorem Kuryr.workloads_apart : ∀ i ∈ workloadIdentities, i ∉ KubeProxy.identities ∧
    (i ∉ Multus.identities ∧ i.kind ≠ Multus.definitionKind) ∧ i ∉ NodeIdentity.identities := by
  decide

theorem Provider.workload_not_companion {p : Provider} (companion : p ∈ companions) (s : Spec) :
    ∀ i ∈ Kuryr.workloadIdentities, i ∉ p.identities s := by
  intro i workload
  obtain ⟨proxy, ⟨multus, kind⟩, node⟩ := Kuryr.workloads_apart i workload
  cases p with
  | kuryr => exact absurd companion (by decide)
  | kubeProxy => exact proxy
  | multus =>
    intro found
    rcases List.mem_append.mp found with fixed | defined
    · exact multus fixed
    · obtain ⟨a, -, rfl⟩ := List.mem_map.mp defined
      exact kind rfl
  | nodeIdentity => exact node

namespace Pass

theorem createOnly_namespacesFirst (objects : List Manifest) :
    createOnly (objects.filter isNamespace ++ objects.filter (!·.isNamespace)) =
      Identity.namespacesFirst (createOnly objects) := by
  have commute (p : Identity → Bool) :
      createOnly (objects.filter fun m => p m.identity) = (createOnly objects).filter p := by
    rw [createOnly, createOnly, List.filter_map, List.filter_comm]
    rfl
  rw [createOnly_append, Identity.namespacesFirst, ← commute, ← commute]
  rfl

/-- The pass adds no mark to what its components rendered, and takes none away. -/
theorem createOnly_assembled {providers : List Provider} {rendering : Provider → Rendering}
    {o : Outcome} (assembles : Assembles providers rendering o) :
    createOnly o.objects = Identity.namespacesFirst
      (providers.flatMap fun p => createOnly (rendering p).objects) := by
  have rendered : createOnly (providers.flatMap fun p => (rendering p).objects) =
      providers.flatMap fun p => createOnly (rendering p).objects := by
    simp only [createOnly, List.filter_flatMap, List.map_flatMap]
  rw [← createOnly_withoutHash, assembles.order, createOnly_namespacesFirst, rendered]

theorem active_kuryr {r : Release} {d : Spec} (kuryr : d.type? = some .kuryr) :
    active r (Provider.forType .kuryr) d = .kuryr :: active r Provider.companions d := by
  have takes : Provider.isActive r d .kuryr = true := decide_eq_true kuryr
  exact List.filter_cons_of_pos takes

section

variable {r : Release} {d : Spec} {facts : Facts} {rendering : Provider → Rendering} {o : Outcome}

theorem createOnly_of_kuryr (kuryr : d.type? = some .kuryr)
    (renders : ∀ p ∈ active r (Provider.forType .kuryr) d,
      p.render r d facts = .ok (rendering p))
    (assembles : Assembles (active r (Provider.forType .kuryr) d) rendering o) :
    createOnly o.objects = Kuryr.waiting r facts := by
  rw [active_kuryr kuryr, List.forall_mem_cons] at renders
  rw [active_kuryr kuryr] at assembles
  have others : (active r Provider.companions d).flatMap
      (fun p => createOnly (rendering p).objects) = [] := by
    rw [List.flatMap_eq_nil_iff]
    intro p member
    exact Provider.createOnly_of_companion (List.mem_of_mem_filter member)
      (renders.2 p member)
  rw [createOnly_assembled assembles, List.flatMap_cons, others, List.append_nil,
    Kuryr.createOnly_of_render renders.1, Kuryr.namespacesFirst_waiting]

theorem deployed_iff_of_kuryr (kuryr : d.type? = some .kuryr)
    (renders : ∀ p ∈ active r (Provider.forType .kuryr) d,
      p.render r d facts = .ok (rendering p))
    (assembles : Assembles (active r (Provider.forType .kuryr) d) rendering o) :
    Kuryr.Deployed o.objects ↔ facts.openStack.isSome ∧ facts.apiServer.isSome := by
  rw [active_kuryr kuryr, List.forall_mem_cons] at renders
  rw [active_kuryr kuryr] at assembles
  have held : ∀ i ∈ Kuryr.workloadIdentities,
      (Holds o.objects i ↔ i ∈ Kuryr.identitiesUnder facts) := by
    intro i workload
    have foreign : i ∉ (active r Provider.companions d).flatMap
        fun p => (rendering p).objects.map identity := by
      intro found
      obtain ⟨p, member, listed⟩ := List.mem_flatMap.mp found
      have own := (Provider.identities_of_render (renders.2 p member)).subset listed
      exact Provider.workload_not_companion (List.mem_of_mem_filter member) d i workload own
    rw [Holds, (identities_perm assembles).mem_iff, List.flatMap_cons, List.mem_append,
      or_iff_left foreign, Kuryr.identities_under renders.1]
  exact (forall₂_congr held).trans (Kuryr.workloads_under_iff facts)

end

/-- In an accepted pass of a network of Kuryr, one side at most waits for the other: the controller
    exactly where the workloads are rendered, the release stands above the running version and the
    daemon is not updated; the daemon exactly where they are rendered, the release stands below it
    and the controller is not updated. In all other cases nothing waits, such as where the workloads
    are not rendered since something was not discovered. -/
theorem one_side_waits {r : Release} {s d : Spec} {previous : Option Spec}
    (accepted : check r s previous = .ok d) (kuryr : s.type? = some .kuryr) (facts : Facts) :
    ∃ result, reconcile r s previous facts = .ok result ∧
      (createOnly result.objects = [Kuryr.controllerIdentity] ↔
        Kuryr.Waits r facts result.objects .upgrade Progress.daemonUpdated) ∧
      (createOnly result.objects = [Kuryr.daemonIdentity] ↔
        Kuryr.Waits r facts result.objects .downgrade Progress.controllerUpdated) ∧
      (createOnly result.objects = [] ∨ createOnly result.objects = [Kuryr.controllerIdentity] ∨
        createOnly result.objects = [Kuryr.daemonIdentity]) ∧
      (Kuryr.Deployed result.objects ↔ facts.openStack.isSome ∧ facts.apiServer.isSome) := by
  obtain ⟨type, rendering, known, -, filled, renders, run⟩ := outcome_of_check accepted facts
  cases kuryr.symm.trans known
  have fresh := fun p member => Provider.fresh_of_render (renders p member)
  have assembles := assembles_outcome (r := r) (s := d) (active_names_nodup ..) fresh
  have deployed := deployed_iff_of_kuryr filled.known renders assembles
  have waiting := createOnly_of_kuryr filled.known renders assembles
  obtain ⟨controller, daemon⟩ := Kuryr.waiting_iff_pending r facts
  refine ⟨_, run, ?_, ?_, ?_, deployed⟩
  · rw [waiting, controller, Kuryr.waits_iff_pending deployed]
  · rw [waiting, daemon, Kuryr.waits_iff_pending deployed]
  · rw [waiting]
    exact Kuryr.waiting_cases r facts

theorem kuryrSample_controller_waits :
    check .builtIn kuryrSample none =
        .ok (defaulted (Provider.forType .kuryr) kuryrSample) ∧
      kuryrSample.type? = some .kuryr ∧
      ∃ result, reconcile .builtIn kuryrSample none (rollingFacts "4.13.0" .none false) =
          .ok result ∧
        createOnly result.objects = [Kuryr.controllerIdentity] := by
  refine ⟨kuryrSample_accepted, rfl, ?_⟩
  obtain ⟨result, run, controller, -, -, deployed⟩ :=
    one_side_waits kuryrSample_accepted rfl (rollingFacts "4.13.0" .none false)
  refine ⟨result, run, controller.mpr ?_⟩
  exact ⟨deployed.mpr ⟨rfl, rfl⟩, ⟨"4.13.0", rfl, by decide +kernel⟩, ⟨_, rfl, rfl⟩⟩

end Pass

end ClusterNet
