import Mathlib.Data.List.Forall2
import ClusterNet.Pass

/- What components render. A rendering that succeeded is taken apart into the objects and the data
   that it was made of. Every object in it is fresh: a workload with its pod template or an object
   without one, and with no annotations but the marks. -/
namespace ClusterNet

theorem ok_bind {ε α β : Type} (a : α) (next : α → Except ε β) :
    (Except.ok a >>= next) = next a := rfl

theorem bind_eq_ok {ε α β : Type} {x : Except ε α} {next : α → Except ε β} {b : β} :
    (x >>= next) = .ok b ↔ ∃ a, x = .ok a ∧ next a = .ok b := by
  cases x with
  | error e => exact ⟨nofun, fun ⟨_, impossible, _⟩ => nomatch impossible⟩
  | ok a => exact ⟨fun run => ⟨a, rfl, run⟩, fun ⟨_, same, run⟩ => Except.ok.inj same ▸ run⟩

theorem bind_eq_error {ε α β : Type} {x : Except ε α} {next : α → Except ε β} {e : ε} :
    (x >>= next) = .error e ↔ x = .error e ∨ ∃ a, x = .ok a ∧ next a = .error e := by
  cases x with
  | error e => simp [bind, Except.bind]
  | ok a => simp [bind, Except.bind]

theorem mapM_eq_ok {ε α β : Type} {f : α → Except ε β} {items : List α} {results : List β} :
    items.mapM f = .ok results ↔ List.Forall₂ (fun a b => f a = .ok b) items results := by
  induction items generalizing results with
  | nil =>
    simp only [List.mapM_nil, List.forall₂_nil_left_iff]
    exact ⟨fun same => (Except.ok.inj same).symm, fun same => same ▸ rfl⟩
  | cons a rest ih =>
    simp only [List.mapM_cons, List.forall₂_cons_left_iff, bind_eq_ok]
    constructor
    · rintro ⟨b, head, bs, tail, run⟩
      exact ⟨b, bs, head, ih.mp tail, (Except.ok.inj run).symm⟩
    · rintro ⟨b, bs, head, tail, rfl⟩
      exact ⟨b, head, bs, ih.mpr tail, rfl⟩

theorem map_of_mapM {ε α β : Type} {f : α → Except ε β} {g : α → β} {items : List α}
    {results : List β} (each : ∀ a b, f a = .ok b → g a = b) (run : items.mapM f = .ok results) :
    (∀ a ∈ items, f a = .ok (g a)) ∧ results = items.map g := by
  have pairs := mapM_eq_ok.mp run
  clear run
  induction pairs with
  | nil => exact ⟨nofun, rfl⟩
  | cons head _ ih =>
    obtain ⟨succeed, same⟩ := ih
    have first := each _ _ head
    exact ⟨List.forall_mem_cons.mpr ⟨first ▸ head, succeed⟩, by rw [List.map_cons, first, same]⟩

namespace Manifest

/-- The shapes of an object as components render it. -/
inductive Fresh : Manifest → Prop where
  | other {m : Manifest} (kind : m.isWorkload = false) (bare : m.metadata.annotations = none)
      (untemplated : m.templatePath = .error .noTemplate) : Fresh m
  | daemonSet (name space component : String) (pod : PodSpec) :
      Fresh (daemonSet name space component pod)
  | deployment (name space component : String) (replicas : Nat) (pod : PodSpec) :
      Fresh (deployment name space component replicas pod)
  | markCreateOnly {m : Manifest} (fresh : Fresh m) : Fresh m.markCreateOnly
  | markCreateWait {m : Manifest} (fresh : Fresh m) : Fresh m.markCreateWait

structure TemplatePath.Bare (p : TemplatePath) : Prop where
  annotations : lookup "annotations" p.metadata = none
  metadata : put "metadata" (.object p.metadata) p.template = p.template
  template : put "template" (.object p.template) p.spec = p.spec

theorem bare_of_fresh {m : Manifest} (fresh : m.Fresh) (workload : m.isWorkload = true) :
    ∃ path, m.templatePath = .ok path ∧ path.Bare := by
  induction fresh with
  | other kind _ _ =>
    rw [kind] at workload
    cases workload
  | daemonSet | deployment => exact ⟨_, rfl, rfl, rfl, rfl⟩
  | markCreateOnly _ ih | markCreateWait _ ih => exact ih workload

theorem untemplated_of_fresh {m : Manifest} (fresh : m.Fresh) (other : m.isWorkload = false) :
    m.templatePath = .error .noTemplate := by
  induction fresh with
  | other _ _ untemplated => exact untemplated
  | daemonSet | deployment => cases other
  | markCreateOnly _ ih | markCreateWait _ ih => exact ih other

end Manifest

open Manifest

namespace Kuryr

theorem parts_of_render {r : Release} {s : Spec} {facts : Facts} {a : Rendering}
    (run : render r s facts = .ok a) :
    ∃ settings, Settings.ofSpec s = .ok settings ∧
      ((∃ f api, facts.openStack = some f ∧ facts.apiServer = some api ∧
          a.objects = baseObjects ++ workloads r settings facts f api ∧ a.warnings = []) ∨
        (facts.openStack = none ∨ facts.apiServer = none) ∧ a.objects = baseObjects ∧
          ∃ detail, a.warnings = [.discoveryUnavailable provider detail]) := by
  obtain ⟨settings, configured, run⟩ := bind_eq_ok.mp run
  refine ⟨settings, configured, ?_⟩
  dsimp only at run
  split at run
  · next f api cloud server =>
    cases run
    exact .inl ⟨f, api, cloud, server, rfl, rfl⟩
  · next missing =>
    cases run
    refine .inr ⟨?_, rfl, _, rfl⟩
    cases cloud : facts.openStack with
    | none => exact .inl rfl
    | some f =>
      cases server : facts.apiServer with
      | none => exact .inr rfl
      | some api => exact (missing f api cloud server).elim

theorem objects_of_render {r : Release} {s : Spec} {facts : Facts} {a : Rendering}
    (run : render r s facts = .ok a) :
    a.objects = baseObjects ∨
      ∃ settings f api, a.objects = baseObjects ++ workloads r settings facts f api := by
  obtain ⟨settings, -, ⟨f, api, -, -, complete, -⟩ | ⟨-, withheld, -⟩⟩ := parts_of_render run
  · exact .inr ⟨settings, f, api, complete⟩
  · exact .inl withheld

theorem holdBack_fresh {m : Manifest} (fresh : m.Fresh) (hold : Bool) :
    (holdBack hold m).Fresh := by
  cases hold with
  | false => exact fresh
  | true => exact fresh.markCreateOnly

theorem baseObjects_fresh : ∀ m ∈ baseObjects, m.Fresh := by
  simp only [baseObjects, List.forall_mem_cons]
  exact ⟨.other rfl rfl rfl, .other rfl rfl rfl, .other rfl rfl rfl, .other rfl rfl rfl, nofun⟩

theorem workloads_fresh (r : Release) (s : Settings) (facts : Facts) (f : OpenStackFacts)
    (api : ApiServer) : ∀ m ∈ workloads r s facts f api, m.Fresh := by
  simp only [workloads, List.forall_mem_append, List.forall_mem_cons]
  refine ⟨⟨⟨.other rfl rfl rfl, .other rfl rfl rfl, nofun⟩, ?_⟩,
    holdBack_fresh (.daemonSet ..) _, holdBack_fresh (.deployment ..) _, nofun⟩
  intro m member
  obtain ⟨ca, -, rfl⟩ := Option.map_eq_some_iff.mp (Option.mem_toList.mp member)
  exact .other rfl rfl rfl

theorem fresh_of_render {r : Release} {s : Spec} {facts : Facts} {a : Rendering}
    (run : render r s facts = .ok a) : ∀ m ∈ a.objects, m.Fresh := by
  rcases objects_of_render run with withheld | ⟨settings, f, api, complete⟩
  · rw [withheld]
    exact baseObjects_fresh
  · rw [complete, List.forall_mem_append]
    exact ⟨baseObjects_fresh, workloads_fresh r settings facts f api⟩

end Kuryr

namespace KubeProxy

/-- A configuration file for a spec: all cluster networks, as they were given, and at least one. -/
structure Configures (config : String) (s : Spec) (bind : Address) (period : String) : Prop where
  some : s.clusterNetwork ≠ []
  text : config = Yaml.text
    (configuration bind (",".intercalate (s.clusterNetwork.map ClusterEntry.cidr)) period)

theorem parts_of_render {r : Release} {s : Spec} {a : Rendering} (run : render r s = .ok a) :
    ∃ p config, s.proxy = some p ∧ a.objects = objects r config (arguments p) ∧
      a.data = .ofList [("args", .texts (arguments p)), ("config", .text config),
        ("image", .text r.images.kubeProxy)] ∧
      (∃ bind period, Configures config s bind period) ∧ a.warnings = [] := by
  unfold render at run
  split at run
  · cases run
  · next p configured =>
    obtain ⟨text, -, run⟩ := bind_eq_ok.mp run
    split at run
    · cases run
    · next bind read =>
      obtain ⟨period, -, run⟩ := bind_eq_ok.mp run
      split at run
      · cases run
      · next present =>
        cases run
        have some : s.clusterNetwork ≠ [] := by simpa using present
        exact ⟨p, _, configured, rfl, rfl, ⟨bind, period, some, rfl⟩, rfl⟩

theorem fresh_of_render {r : Release} {s : Spec} {a : Rendering} (run : render r s = .ok a) :
    ∀ m ∈ a.objects, m.Fresh := by
  obtain ⟨p, config, -, objects, -⟩ := parts_of_render run
  simp only [objects, KubeProxy.objects, List.forall_mem_cons]
  exact ⟨.other rfl rfl rfl, .other rfl rfl rfl, .other rfl rfl rfl, .other rfl rfl rfl,
    .daemonSet .., .other rfl rfl rfl, nofun⟩

end KubeProxy

namespace Multus

theorem parts_of_render {r : Release} {s : Spec} {a : Rendering} (run : render r s = .ok a) :
    ∃ configs, s.attachments.mapM (fun n => (configText n).map (n, ·)) = .ok configs ∧
      a.objects = baseObjects r ++ admissionObjects r
        ++ configs.map (fun n => definition n.1 n.2) ∧
      a.data = .ofList [("daemonConfig", .text daemonConfig), ("image", .text r.images.multus),
        ("legacyAdmissionController", .boolean (hasAdmission r)),
        ("networks", .ofDict (.ofList (configs.map fun n => (identityText n.1, .text n.2))))] ∧
      a.warnings = [] := by
  unfold render at run
  split at run
  · cases run
  · obtain ⟨configs, each, run⟩ := bind_eq_ok.mp run
    cases run
    exact ⟨configs, each, rfl, rfl, rfl⟩

theorem baseObjects_fresh (r : Release) : ∀ m ∈ baseObjects r, m.Fresh := by
  simp only [baseObjects, List.forall_mem_cons]
  exact ⟨.other rfl rfl rfl, .other rfl rfl rfl, .other rfl rfl rfl, .other rfl rfl rfl,
    .other rfl rfl rfl, .daemonSet .., nofun⟩

theorem admissionObjects_fresh (r : Release) : ∀ m ∈ admissionObjects r, m.Fresh := by
  unfold admissionObjects
  split
  · simp only [List.forall_mem_cons]
    exact ⟨.deployment .., .other rfl rfl rfl, nofun⟩
  · exact nofun

theorem fresh_of_render {r : Release} {s : Spec} {a : Rendering} (run : render r s = .ok a) :
    ∀ m ∈ a.objects, m.Fresh := by
  obtain ⟨configs, -, objects, -⟩ := parts_of_render run
  simp only [objects, List.forall_mem_append, List.forall_mem_map]
  exact ⟨⟨baseObjects_fresh r, admissionObjects_fresh r⟩, fun _ _ => .other rfl rfl rfl⟩

end Multus

namespace NodeIdentity

theorem parts_of_render {r : Release} {s : Spec} {facts : Facts} {a : Rendering}
    (run : render r s facts = .ok a) :
    ∃ port : UInt32, a.objects = objects r port.toNat ++ (registration facts.webhook).1 ∧
      a.data = .ofList [("caBundle", facts.webhook.caBundle.elim .null .text),
        ("image", .text r.images.nodeIdentity), ("webhookPort", .natural port.toNat)] ∧
      a.warnings = (registration facts.webhook).2 := by
  obtain ⟨port, -, run⟩ := bind_eq_ok.mp run
  cases run
  exact ⟨port, rfl, rfl, rfl⟩

theorem objects_fresh (r : Release) (port : Nat) : ∀ m ∈ objects r port, m.Fresh := by
  simp only [objects, List.forall_mem_cons]
  exact ⟨.other rfl rfl rfl, .other rfl rfl rfl, .other rfl rfl rfl, .other rfl rfl rfl,
    .daemonSet .., .other rfl rfl rfl, nofun⟩

theorem registration_fresh (facts : WebhookFacts) : ∀ m ∈ (registration facts).1, m.Fresh := by
  unfold registration
  split
  · rw [List.forall_mem_singleton]
    split
    · exact .other rfl rfl rfl
    · exact .markCreateWait (.other rfl rfl rfl)
  · exact nofun

theorem fresh_of_render {r : Release} {s : Spec} {facts : Facts} {a : Rendering}
    (run : render r s facts = .ok a) : ∀ m ∈ a.objects, m.Fresh := by
  obtain ⟨port, objects, -⟩ := parts_of_render run
  rw [objects, List.forall_mem_append]
  exact ⟨objects_fresh r _, registration_fresh _⟩

end NodeIdentity

theorem Provider.fresh_of_render {r : Release} {s : Spec} {facts : Facts} {p : Provider}
    {a : Rendering} (run : p.render r s facts = .ok a) : ∀ m ∈ a.objects, m.Fresh := by
  cases p with
  | kuryr => exact Kuryr.fresh_of_render run
  | kubeProxy => exact KubeProxy.fresh_of_render run
  | multus => exact Multus.fresh_of_render run
  | nodeIdentity => exact NodeIdentity.fresh_of_render run

end ClusterNet
