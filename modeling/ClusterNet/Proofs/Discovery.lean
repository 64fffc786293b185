import ClusterNet.Proofs.Extension
import ClusterNet.Proofs.Identities
import ClusterNet.Proofs.Ownership
import ClusterNet.Proofs.Progress

/- Passes before everything was discovered. What is missing only withholds objects: with more facts
   a pass applies the same objects in the same order, and others between them. Each component that
   withholds something says so in one warning. -/
namespace ClusterNet

structure OpenStackFacts.Extends (after before : OpenStackFacts) : Prop where
  caBundle : Kept before.caBundle after.caBundle
  others : { after with caBundle := none } = { before with caBundle := none }

/-- More was discovered, and nothing else. -/
structure Facts.Extends (after before : Facts) : Prop where
  runningVersion : after.runningVersion = before.runningVersion
  apiServer : Kept before.apiServer after.apiServer
  openStack : KeptBy OpenStackFacts.Extends before.openStack after.openStack
  webhook : Kept before.webhook.caBundle after.webhook.caBundle
  ready : after.webhook.ready = before.webhook.ready

open Manifest

namespace Kuryr

theorem identitiesUnder_sublist {f g : Facts} (more : g.Extends f) :
    (identitiesUnder f).Sublist (identitiesUnder g) := by
  have early : (identities.take 4).Sublist (identities.eraseIdx 6) := by decide
  have late : (identities.eraseIdx 6).Sublist identities := List.eraseIdx_sublist identities 6
  by_cases missing : f.openStack = none ∨ f.apiServer = none
  · rw [identitiesUnder_of_missing missing]
    unfold identitiesUnder
    split
    · split
      · exact early.trans late
      · exact early
    · exact .refl _
  · obtain ⟨cloud, server⟩ := not_or.mp missing
    obtain ⟨o, cloud⟩ := Option.ne_none_iff_exists'.mp cloud
    obtain ⟨api, server⟩ := Option.ne_none_iff_exists'.mp server
    obtain ⟨o', cloud', extends'⟩ := more.openStack o cloud
    rw [identitiesUnder, identitiesUnder, cloud, server, cloud', more.apiServer api server]
    dsimp only
    split
    · next given =>
      rw [if_pos (extends'.caBundle.keptBy.isSome given)]
    · split
      · exact late
      · exact .refl _

end Kuryr

namespace NodeIdentity

theorem identitiesUnder_sublist {f g : Facts} (more : g.Extends f) :
    (identitiesUnder f.webhook).Sublist (identitiesUnder g.webhook) := by
  unfold identitiesUnder
  split
  · next given => rw [if_pos (more.webhook.keptBy.isSome given)]
  · split
    · exact List.take_sublist 6 identities
    · exact .refl _

end NodeIdentity

namespace Provider

/-- Whether something was not discovered that the component needs for all its objects. -/
def lacks (facts : Facts) : Provider → Bool
  | .kuryr => facts.openStack.isNone || facts.apiServer.isNone
  | .nodeIdentity => facts.webhook.caBundle.isNone
  | .kubeProxy | .multus => false

theorem lacks_of_extends {f g : Facts} (more : g.Extends f) {p : Provider}
    (lacking : p.lacks g = true) : p.lacks f = true := by
  cases p with
  | kuryr =>
    simp only [lacks, Bool.or_eq_true, Option.isNone_iff_eq_none] at lacking ⊢
    exact lacking.imp more.openStack.eq_none more.apiServer.keptBy.eq_none
  | nodeIdentity =>
    simp only [lacks, Option.isNone_iff_eq_none] at lacking ⊢
    exact more.webhook.keptBy.eq_none lacking
  | kubeProxy | multus => cases lacking

section

variable {r : Release} {s : Spec} {f g : Facts} {p : Provider} {a b : Rendering}

theorem identities_of_extends (more : g.Extends f) (run : p.render r s f = .ok a)
    (run' : p.render r s g = .ok b) :
    (a.objects.map identity).Sublist (b.objects.map identity) := by
  cases p with
  | kuryr =>
    rw [Kuryr.identities_under run, Kuryr.identities_under run']
    exact Kuryr.identitiesUnder_sublist more
  | nodeIdentity =>
    rw [NodeIdentity.identities_under run, NodeIdentity.identities_under run']
    exact NodeIdentity.identitiesUnder_sublist more
  | kubeProxy | multus =>
    -- What was discovered is not asked for.
    rw [Except.ok.inj (run.symm.trans run')]

theorem warnings_of_render (run : p.render r s f = .ok a) :
    ∃ detail, a.warnings =
      if p.lacks f then [.discoveryUnavailable p.name detail] else [] := by
  cases p with
  | kuryr =>
    obtain ⟨settings, -, ⟨o, api, cloud, server, -, silent⟩ | ⟨missing, -, detail, warned⟩⟩ :=
      Kuryr.parts_of_render run
    · refine ⟨"", ?_⟩
      rw [silent, lacks, cloud, server]
      rfl
    · refine ⟨detail, ?_⟩
      have lacking : lacks f .kuryr = true := by
        rcases missing with none | none <;> simp [lacks, none]
      rw [warned, if_pos lacking]
      rfl
  | kubeProxy =>
    obtain ⟨-, -, -, -, -, -, silent⟩ := KubeProxy.parts_of_render run
    exact ⟨"", silent⟩
  | multus =>
    obtain ⟨-, -, -, -, silent⟩ := Multus.parts_of_render run
    exact ⟨"", silent⟩
  | nodeIdentity =>
    obtain ⟨port, -, -, warnings⟩ := NodeIdentity.parts_of_render run
    rw [warnings, NodeIdentity.registration, lacks]
    cases f.webhook.caBundle with
    | none => exact ⟨_, rfl⟩
    | some ca => exact ⟨"", rfl⟩

end

end Provider

namespace Pass

theorem active_eq {type : NetworkType} {s : Spec} (known : s.type? = some type) (r : Release) :
    active r (Provider.forType type) s = Provider.all.filter (Provider.isActive r s) := by
  cases type with
  | kuryr => rfl
  | thirdParty =>
    have dormant : Provider.isActive r s .kuryr = false := by
      simp [Provider.isActive, Kuryr.isActive, known]
    rw [Provider.all, List.filter_cons, dormant]
    rfl

section

variable {r : Release} {s : Spec} {facts : Facts} {providers : List Provider}
  {rendering : Provider → Rendering}

theorem warnings_of_renderings
    (renders : ∀ p ∈ providers, p.render r s facts = .ok (rendering p)) :
    ∃ detail : Provider → String,
      (providers.flatMap fun p => (rendering p).warnings) =
        (providers.filter (Provider.lacks facts)).map fun p =>
          .discoveryUnavailable p.name (detail p) := by
  have each : ∀ p, ∃ detail, p ∈ providers → (rendering p).warnings =
      if p.lacks facts then [.discoveryUnavailable p.name detail] else [] := by
    intro p
    by_cases member : p ∈ providers
    · obtain ⟨detail, told⟩ := Provider.warnings_of_render (renders p member)
      exact ⟨detail, fun _ => told⟩
    · exact ⟨"", fun listed => (member listed).elim⟩
  choose detail told using each
  refine ⟨detail, ?_⟩
  -- The induction is on the components; of their renderings only the warnings matter now.
  clear renders
  induction providers with
  | nil => rfl
  | cons p rest ih =>
    have later := ih fun q member => told q (List.mem_cons_of_mem p member)
    rw [List.flatMap_cons, told p List.mem_cons_self, later, List.filter_cons]
    split <;> rfl

theorem warnings_outcome :
    (outcome r s (providers.map fun p => partOf p (rendering p))).warnings =
      providers.flatMap fun p => (rendering p).warnings :=
  List.flatMap_map ..

end

/-- The kinds of objects that Kuryr renders only when all it needs was discovered. -/
def withheldKinds : List String := ["DaemonSet", "Deployment", "Secret", "ConfigMap"]

def registrationKind : String := "ValidatingWebhookConfiguration"

/-- A pass tells what was missing, once for each component that takes part, and renders nothing that
    depends on it. -/
structure Announces (r : Release) (facts : Facts) (o : Outcome) : Prop where
  warnings : ∃ detail : Provider → String, o.warnings =
    (Provider.all.filter fun p => p.isActive r o.spec && p.lacks facts).map fun p =>
      .discoveryUnavailable p.name (detail p)
  workloads : facts.openStack = none ∨ facts.apiServer = none →
    ∀ m ∈ o.objectsOf .kuryr, m.kind ∉ withheldKinds
  registration : facts.webhook.caBundle = none → ∀ m ∈ o.objects, m.kind ≠ registrationKind

section

variable {r : Release} {s : Spec} {facts : Facts} {providers : List Provider}
  {rendering : Provider → Rendering}

theorem workloads_withheld (nodup : providers.Nodup)
    (renders : ∀ p ∈ providers, p.render r s facts = .ok (rendering p))
    (missing : facts.openStack = none ∨ facts.apiServer = none) {m : Manifest}
    (applied : m ∈ (outcome r s (providers.map fun p =>
      partOf p (rendering p))).objectsOf .kuryr) : m.kind ∉ withheldKinds := by
  have early : ∀ i ∈ Kuryr.identities.take 4, i.kind ∉ withheldKinds := by decide
  rw [objectsOf_outcome nodup renders] at applied
  split at applied
  · next active =>
    have run := renders .kuryr active
    have listed : m ∈ (partOf .kuryr (rendering .kuryr)).objects :=
      (List.filter_append_perm ..).mem_iff.mp applied
    obtain ⟨given, source, rfl⟩ := List.mem_map.mp listed
    have fresh := Provider.fresh_of_render run given source
    have known := List.mem_map_of_mem (f := identity) source
    rw [Kuryr.identities_under run, Kuryr.identitiesUnder_of_missing missing,
      ← identity_stamped fresh] at known
    exact early _ known
  · cases applied

theorem registration_withheld
    (renders : ∀ p ∈ providers, p.render r s facts = .ok (rendering p)) {o : Outcome}
    (assembles : Assembles providers rendering o) (missing : facts.webhook.caBundle = none)
    {m : Manifest} (applied : m ∈ o.objects) : m.kind ≠ registrationKind := by
  have others : ∀ i ∈ Kuryr.identities ++ KubeProxy.identities ++ Multus.identities ++
      NodeIdentity.identities.take 6, i.kind ≠ registrationKind := by
    decide
  simp only [List.forall_mem_append] at others
  obtain ⟨⟨⟨kuryr, proxy⟩, multus⟩, webhook⟩ := others
  have known := (identities_perm assembles).mem_iff.mp (List.mem_map_of_mem applied)
  obtain ⟨p, taking, known⟩ := List.mem_flatMap.mp known
  have run := renders p taking
  cases p with
  | kuryr => exact kuryr _ ((Kuryr.identities_of_render run).subset known)
  | kubeProxy =>
    rw [KubeProxy.identities_of_render run] at known
    exact proxy _ known
  | multus =>
    rcases List.mem_append.mp ((Multus.identities_of_render run).subset known) with fixed | network
    · exact multus _ fixed
    · obtain ⟨a, -, same⟩ := List.mem_map.mp network
      have kind : Multus.definitionKind = m.kind := congrArg Identity.kind same
      rw [← kind]
      decide
  | nodeIdentity =>
    rw [NodeIdentity.identities_under run, NodeIdentity.identitiesUnder, missing] at known
    exact webhook _ known

end

theorem keys_of_extends {r : Release} {s : Spec} {f g : Facts} (more : g.Extends f)
    {providers : List Provider} {first second : Provider → Rendering}
    (renders : ∀ p ∈ providers, p.render r s f = .ok (first p))
    (renders' : ∀ p ∈ providers, p.render r s g = .ok (second p)) {x y : Outcome}
    (assembles : Assembles providers first x) (assembles' : Assembles providers second y) :
    (x.objects.map key).Sublist (y.objects.map key) := by
  have each : ∀ p ∈ providers,
      ((first p).objects.map identity).Sublist ((second p).objects.map identity) := by
    intro p member
    exact Provider.identities_of_extends more (renders p member) (renders' p member)
  have known : (x.objects.map identity).Sublist (y.objects.map identity) := by
    rw [identities_outcome assembles, identities_outcome assembles']
    exact Identity.namespacesFirst_sublist (List.Sublist.flatMap_right providers each)
  have texts := known.map Identity.text
  rwa [List.map_map, List.map_map] at texts

/-- What is not discovered yet only withholds objects, and each component that takes part and lacks
    something says so once. -/
theorem missing_facts_only_withhold {r : Release} {s d : Spec} {previous : Option Spec}
    (returned : check r s previous = .ok d) :
    (∀ f g : Facts, g.Extends f →
      ∃ x y, reconcile r s previous f = .ok x ∧ reconcile r s previous g = .ok y ∧
        (x.objects.map key).Sublist (y.objects.map key) ∧
        y.warnings.length ≤ x.warnings.length) ∧
    ∀ f, ∃ x, reconcile r s previous f = .ok x ∧ Announces r f x := by
  have assembled : ∀ (type : NetworkType) (facts : Facts) (rendering : Provider → Rendering),
      (∀ p ∈ active r (Provider.forType type) d, p.render r d facts = .ok (rendering p)) →
      Assembles (active r (Provider.forType type) d) rendering (outcome r d
        ((active r (Provider.forType type) d).map fun p => partOf p (rendering p))) := by
    intro type facts rendering renders
    exact assembles_outcome (active_names_nodup r type d) fun p member =>
      Provider.fresh_of_render (renders p member)
  constructor
  · intro f g more
    obtain ⟨type, a, known, -, -, renders, first⟩ := outcome_of_check returned f
    obtain ⟨type', b, known', -, -, renders', second⟩ := outcome_of_check returned g
    cases known.symm.trans known'
    refine ⟨_, _, first, second, ?_, ?_⟩
    · have assembles := assembled type f a renders
      have assembles' := assembled type g b renders'
      exact keys_of_extends more renders renders' assembles assembles'
    · obtain ⟨detail, told⟩ := warnings_of_renderings renders
      obtain ⟨detail', told'⟩ := warnings_of_renderings renders'
      rw [warnings_outcome, warnings_outcome, told, told', List.length_map, List.length_map]
      refine (List.monotone_filter_right _ ?_).length_le
      intro p lacking
      exact Provider.lacks_of_extends more lacking
  · intro f
    obtain ⟨type, a, -, -, accepted, renders, run⟩ := outcome_of_check returned f
    refine ⟨_, run, ?_, ?_, ?_⟩
    · obtain ⟨detail, told⟩ := warnings_of_renderings renders
      refine ⟨detail, ?_⟩
      have both : (Provider.all.filter (Provider.isActive r d)).filter (Provider.lacks f) =
          Provider.all.filter fun p => p.isActive r d && p.lacks f := by
        rw [List.filter_filter]
        exact List.filter_congr fun p _ => Bool.and_comm ..
      rw [warnings_outcome, told, active_eq accepted.known, both]
      rfl
    · intro missing m applied
      exact workloads_withheld (active_names_nodup r type d).of_map renders missing applied
    · intro missing m applied
      exact registration_withheld renders (assembled type f a renders) missing applied

theorem kuryrSample_facts_only_add :
    ∃ x y, reconcile .builtIn kuryrSample none .none = .ok x ∧
      reconcile .builtIn kuryrSample none
        { rollingFacts "4.13.0" .none false with runningVersion := none } = .ok y ∧
      (x.objects.map key).Sublist (y.objects.map key) ∧
      x.warnings.length = 2 ∧ y.warnings = [] := by
  obtain ⟨fewer, told⟩ := missing_facts_only_withhold kuryrSample_accepted
  have more : Facts.Extends { rollingFacts "4.13.0" .none false with runningVersion := none }
      .none := ⟨rfl, nofun, nofun, nofun, rfl⟩
  obtain ⟨x, y, first, second, keys, -⟩ := fewer _ _ more
  have announced {facts : Facts} {o : Outcome}
      (run : reconcile .builtIn kuryrSample none facts = .ok o) : Announces .builtIn facts o := by
    obtain ⟨o', run', announces⟩ := told facts
    cases run.symm.trans run'
    exact announces
  have same {facts : Facts} {o : Outcome}
      (run : reconcile .builtIn kuryrSample none facts = .ok o) :
      o.spec = defaulted (Provider.forType .kuryr) kuryrSample := by
    have returned := (parts_of_reconcile run).1
    rw [kuryrSample_accepted] at returned
    exact (Except.ok.inj returned).symm
  refine ⟨x, y, first, second, keys, ?_, ?_⟩
  · obtain ⟨detail, warned⟩ := (announced first).warnings
    rw [warned, List.length_map, same first]
    decide +kernel
  · obtain ⟨detail, warned⟩ := (announced second).warnings
    rw [warned, same second]
    refine List.map_eq_nil_iff.mpr ?_
    decide +kernel

end Pass
end ClusterNet
