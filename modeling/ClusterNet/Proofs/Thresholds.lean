import ClusterNet.Proofs.Identities
import ClusterNet.Proofs.Ownership
import ClusterNet.Proofs.Precedence

/- Thresholds on releases. They look at the first two numbers only, and agree with the precedence of
   whole versions: what an upgrade starts at least at, it ends at least at. The two kinds of
   threshold exclude each other where they are one minor number apart, and one of them holds of
   every version; of a text that is no version neither holds. So a release ships either the
   admission controller of Multus or the webhook that came after it. -/
namespace ClusterNet

namespace Version

section

variable {v w : Version} {major minor : Nat}

theorem atLeast_iff :
    v.atLeast major minor = true ↔ major < v.major ∨ (major = v.major ∧ minor ≤ v.minor) := by
  simp [atLeast]

theorem atMost_iff :
    v.atMost major minor = true ↔ v.major < major ∨ (v.major = major ∧ v.minor ≤ minor) := by
  simp [atMost]

theorem precedence_eq_then (v w : Version) : ∃ rest, precedence v w =
    (compare v.major w.major).then ((compare v.minor w.minor).then rest) := by
  have number (m n : Nat) (xs ys : List (List Nat)) :
      compare ([m] :: xs) ([n] :: ys) = (compare m n).then (compare xs ys) := by
    rw [List.compare_cons_cons, List.compare_cons_cons, List.compare_nil_nil, Ordering.then_eq]
  exact ⟨_, (number ..).trans (congrArg _ (number ..))⟩

theorem numbers_le (upward : precedence v w ≠ .gt) :
    v.major < w.major ∨ (v.major = w.major ∧ v.minor ≤ w.minor) := by
  obtain ⟨rest, order⟩ := precedence_eq_then v w
  rw [order] at upward
  rcases Nat.lt_trichotomy v.major w.major with below | same | above
  · exact .inl below
  · refine .inr ⟨same, ?_⟩
    by_contra above
    apply upward
    rw [same, Std.compare_self, Ordering.eq_then, Nat.compare_eq_gt.mpr (by omega)]
    rfl
  · rw [Nat.compare_eq_gt.mpr above] at upward
    exact absurd rfl upward

end

section

variable {s t : String} {v : Version} {major minor : Nat}

theorem isAtLeast_of_read (read : read s = .ok v) :
    isAtLeast s major minor = v.atLeast major minor := by
  have checked : checkAtLeast s major minor = .ok (v.atLeast major minor) :=
    congrArg (Except.map _) read
  unfold isAtLeast
  rw [checked]

theorem isAtMost_of_read (read : read s = .ok v) :
    isAtMost s major minor = v.atMost major minor := by
  have checked : checkAtMost s major minor = .ok (v.atMost major minor) :=
    congrArg (Except.map _) read
  unfold isAtMost
  rw [checked]

theorem closed_of_unread (unread : ¬Readable s) (major minor : Nat) :
    isAtLeast s major minor = false ∧ isAtMost s major minor = false ∧
      ∃ e, checkAtLeast s major minor = .error e ∧ checkAtMost s major minor = .error e := by
  cases found : read s with
  | ok v => exact absurd ⟨v, found⟩ unread
  | error e =>
    have least : checkAtLeast s major minor = .error e := congrArg (Except.map _) found
    have most : checkAtMost s major minor = .error e := congrArg (Except.map _) found
    unfold isAtLeast isAtMost
    rw [least, most]
    exact ⟨rfl, rfl, e, rfl, rfl⟩

theorem readable_of_isAtLeast (holds : isAtLeast s major minor = true) : Readable s := by
  by_contra unread
  rw [(closed_of_unread unread major minor).1] at holds
  cases holds

/-- What a change does not lower keeps its lower thresholds, and had its upper ones before. -/
theorem thresholds_of_change (upward : change s t = .upgrade ∨ change s t = .same) :
    (isAtLeast s major minor = true → isAtLeast t major minor = true) ∧
      (isAtMost t major minor = true → isAtMost s major minor = true) := by
  rcases change_cases s t with ⟨rfl, -⟩ | ⟨v, w, start, target, decided⟩ | ⟨-, -, unknown⟩
  · exact ⟨id, id⟩
  · have order : precedence v w ≠ .gt := by
      intro downward
      rw [decided, downward] at upward
      rcases upward with wrong | wrong <;> cases wrong
    have numbers := numbers_le order
    rw [isAtLeast_of_read start, isAtLeast_of_read target, isAtMost_of_read start,
      isAtMost_of_read target, atLeast_iff, atLeast_iff, atMost_iff, atMost_iff]
    constructor
    · intro floor
      omega
    · intro ceiling
      omega
  · rw [unknown] at upward
    rcases upward with wrong | wrong <;> cases wrong

theorem both_iff : (isAtLeast s major minor = true ∧ isAtMost s major minor = true) ↔
    ∃ v, read s = .ok v ∧ v.major = major ∧ v.minor = minor := by
  constructor
  · rintro ⟨floor, ceiling⟩
    obtain ⟨v, found⟩ := readable_of_isAtLeast floor
    rw [isAtLeast_of_read found, atLeast_iff] at floor
    rw [isAtMost_of_read found, atMost_iff] at ceiling
    exact ⟨v, found, by omega, by omega⟩
  · rintro ⟨v, found, rfl, rfl⟩
    rw [isAtLeast_of_read found, isAtMost_of_read found, atLeast_iff, atMost_iff]
    exact ⟨.inr ⟨rfl, Nat.le_refl _⟩, .inr ⟨rfl, Nat.le_refl _⟩⟩

theorem isAtMost_eq_not_isAtLeast (readable : Readable s) (major minor : Nat) :
    isAtMost s major minor = !isAtLeast s major (minor + 1) := by
  obtain ⟨v, found⟩ := readable
  rw [isAtMost_of_read found, isAtLeast_of_read found, Bool.eq_iff_iff, Bool.not_eq_true',
    ← Bool.not_eq_true, atMost_iff, atLeast_iff]
  omega

end

end Version

open Manifest

namespace Multus

def admissionIdentities : List Manifest.Identity := [
  ⟨"Deployment", some namespaceName, "multus-admission-controller"⟩,
  ⟨"Service", some namespaceName, "multus-admission-controller"⟩]

theorem admission_rendered_iff {r : Release} {s : Spec} {a : Rendering}
    (run : render r s = .ok a) :
    (∃ i ∈ admissionIdentities, i ∈ a.objects.map Manifest.identity) ↔ hasAdmission r = true := by
  obtain ⟨configs, -, objects, -⟩ := parts_of_render run
  rw [objects, List.map_append, List.map_append]
  cases shipped : hasAdmission r with
  | true =>
    have own : (admissionObjects r).map Manifest.identity = admissionIdentities := by
      rw [admissionObjects, shipped]
      rfl
    refine iff_of_true ⟨_, List.mem_cons_self, ?_⟩ rfl
    rw [own]
    exact List.mem_append_left _ (List.mem_append_right _ List.mem_cons_self)
  | false =>
    have none : admissionObjects r = [] := by rw [admissionObjects, shipped]; rfl
    have base : ∀ i ∈ admissionIdentities,
        i ∉ identities.take 6 ∧ i.kind ≠ definitionKind := by decide
    refine iff_of_false ?_ Bool.false_ne_true
    rintro ⟨i, own, listed⟩
    obtain ⟨apart, kind⟩ := base i own
    rw [none, List.map_nil, List.append_nil, List.mem_append] at listed
    rcases listed with fixed | defined
    · exact apart fixed
    · obtain ⟨m, member, rfl⟩ := List.mem_map.mp defined
      obtain ⟨n, -, rfl⟩ := List.mem_map.mp member
      exact kind rfl

end Multus

theorem NodeIdentity.identity_rendered {r : Release} {s : Spec} {facts : Facts} {a : Rendering}
    (run : render r s facts = .ok a) : ∃ i ∈ identities, i ∈ a.objects.map Manifest.identity := by
  refine ⟨⟨"Namespace", none, namespaceName⟩, List.mem_cons_self, ?_⟩
  rw [identities_under run, identitiesUnder]
  split <;> exact List.mem_cons_self

/-- No two components render an object of one identity, the definitions of networks apart. -/
theorem Provider.owner_unique {s : Spec} {i : Identity} {p q : Provider}
    (fixed : i.kind ≠ Multus.definitionKind) (own : i ∈ p.identities s)
    (own' : i ∈ q.identities s) : p = q := by
  have without {p : Provider} (own : i ∈ p.identities s) : i ∈ p.identities .empty := by
    cases p with
    | multus =>
      rcases List.mem_append.mp own with listed | defined
      · exact List.mem_append_left _ listed
      · obtain ⟨n, -, rfl⟩ := List.mem_map.mp defined
        exact absurd rfl fixed
    | kuryr | kubeProxy | nodeIdentity => exact own
  have apart : ∀ p ∈ all, ∀ q ∈ all, ∀ i ∈ p.identities .empty,
      i ∈ q.identities .empty → p = q := by
    decide +kernel
  exact apart p (mem_all p) q (mem_all q) i (without own) (without own')

namespace Pass

section

variable {r : Release} {s : Spec} {previous : Option Spec} {facts : Facts} {result : Outcome}

theorem rendered_of_held (run : reconcile r s previous facts = .ok result) {p : Provider}
    {i : Identity} (fixed : i.kind ≠ Multus.definitionKind) (own : i ∈ p.identities result.spec)
    (held : Holds result.objects i) :
    p.isActive r result.spec = true ∧
      ∃ a, p.render r result.spec facts = .ok a ∧ i ∈ a.objects.map identity := by
  obtain ⟨type, rendering, -, renders, same⟩ := outcome_of_reconcile run
  have fresh := fun p member => Provider.fresh_of_render (renders p member)
  obtain ⟨m, applied, rfl⟩ := List.mem_map.mp held
  rw [same] at applied
  obtain ⟨q, taking, given, member, rfl⟩ := source_of_applied fresh applied
  have rendered : given.identity ∈ (rendering q).objects.map identity :=
    List.mem_map_of_mem member
  rw [identity_stamped (fresh q taking given member)] at fixed own ⊢
  cases Provider.owner_unique fixed own
    ((Provider.identities_of_render (renders q taking)).subset rendered)
  exact ⟨(List.mem_filter.mp taking).2, _, renders p taking, rendered⟩

theorem held_of_active (run : reconcile r s previous facts = .ok result) {p : Provider}
    (registered : ∀ type, p ∈ Provider.forType type) (active : p.isActive r result.spec = true) :
    ∃ a, p.render r result.spec facts = .ok a ∧
      ∀ i ∈ a.objects.map identity, Holds result.objects i := by
  obtain ⟨type, rendering, -, renders, same⟩ := outcome_of_reconcile run
  have fresh := fun p member => Provider.fresh_of_render (renders p member)
  have taking : p ∈ Pass.active r (Provider.forType type) result.spec :=
    List.mem_filter.mpr ⟨registered type, active⟩
  refine ⟨_, renders p taking, ?_⟩
  intro i rendered
  obtain ⟨m, member, rfl⟩ := List.mem_map.mp rendered
  rw [same]
  exact (covers_of_outcome fresh taking).known m member

def ShipsAdmission (result : Outcome) : Prop :=
  ∃ i ∈ Multus.admissionIdentities, Holds result.objects i

def ShipsWebhook (result : Outcome) : Prop :=
  ∃ i ∈ NodeIdentity.identities, Holds result.objects i

theorem shipsAdmission_iff (run : reconcile r s previous facts = .ok result) :
    ShipsAdmission result ↔
      Multus.isActive result.spec = true ∧ Version.isAtMost r.version 4 13 = true := by
  have kinds : ∀ i ∈ Multus.admissionIdentities,
      i.kind ≠ Multus.definitionKind ∧ i ∈ Multus.identities := by decide
  constructor
  · rintro ⟨i, listed, held⟩
    obtain ⟨fixed, own⟩ := kinds i listed
    obtain ⟨active, a, render, rendered⟩ := rendered_of_held run (p := .multus) fixed
      (List.mem_append_left _ own) held
    exact ⟨active, (Multus.admission_rendered_iff render).mp ⟨i, listed, rendered⟩⟩
  · rintro ⟨active, shipped⟩
    obtain ⟨a, render, each⟩ := held_of_active run (p := .multus) multus_mem_forType active
    obtain ⟨i, listed, rendered⟩ := (Multus.admission_rendered_iff render).mpr shipped
    exact ⟨i, listed, each i rendered⟩

theorem shipsWebhook_iff (run : reconcile r s previous facts = .ok result) :
    ShipsWebhook result ↔ NodeIdentity.isEnabled result.spec = true ∧
      Version.isAtLeast r.version 4 14 = true := by
  have kinds : ∀ i ∈ NodeIdentity.identities, i.kind ≠ Multus.definitionKind := by decide
  rw [← Bool.and_eq_true]
  constructor
  · rintro ⟨i, listed, held⟩
    exact (rendered_of_held run (p := .nodeIdentity) (kinds i listed) listed held).1
  · intro active
    have registered (type : NetworkType) : .nodeIdentity ∈ Provider.forType type := by
      cases type <;> decide
    obtain ⟨a, render, each⟩ := held_of_active run (p := .nodeIdentity) registered active
    obtain ⟨i, listed, rendered⟩ := NodeIdentity.identity_rendered render
    exact ⟨i, listed, each i rendered⟩

end

/-- The thresholds of releases agree with the changes between them, meet at one release, leave
    none out and accept no text that is no version. So of one release no pass ships the admission
    controller of Multus and no other the webhook, and a release that can be read entitles to
    exactly one of them, which a pass ships where its component takes part. -/
theorem thresholds_are_consistent :
    (∀ s t, Version.change s t = .upgrade ∨ Version.change s t = .same → ∀ major minor,
      (Version.isAtLeast s major minor = true → Version.isAtLeast t major minor = true) ∧
      (Version.isAtMost t major minor = true → Version.isAtMost s major minor = true)) ∧
    (∀ s major minor,
      (Version.isAtLeast s major minor = true ∧ Version.isAtMost s major minor = true) ↔
        ∃ v, Version.read s = .ok v ∧ v.major = major ∧ v.minor = minor) ∧
    (∀ s, Version.Readable s → ∀ major minor,
      Version.isAtMost s major minor = !Version.isAtLeast s major (minor + 1)) ∧
    (∀ s, ¬Version.Readable s → ∀ major minor,
      Version.isAtLeast s major minor = false ∧ Version.isAtMost s major minor = false ∧
      ∃ e, Version.checkAtLeast s major minor = .error e ∧
        Version.checkAtMost s major minor = .error e) ∧
    (∀ (r : Release) s previous facts result, reconcile r s previous facts = .ok result →
      (∀ s' previous' facts' other, reconcile r s' previous' facts' = .ok other →
        ¬(ShipsAdmission result ∧ ShipsWebhook other)) ∧
      (Version.Readable r.version → Multus.isActive result.spec = true →
        NodeIdentity.isEnabled result.spec = true →
        (ShipsAdmission result ↔ ¬ShipsWebhook result))) ∧
    ∀ (r : Release) s, Version.Readable r.version → NodeIdentity.isEnabled s = true →
      Multus.hasAdmission r = !NodeIdentity.isActive r s := by
  have split {version : String} (readable : Version.Readable version) :
      Version.isAtMost version 4 13 = !Version.isAtLeast version 4 14 :=
    Version.isAtMost_eq_not_isAtLeast readable 4 13
  refine ⟨fun s t upward major minor => Version.thresholds_of_change upward,
    fun s major minor => Version.both_iff,
    fun s readable => Version.isAtMost_eq_not_isAtLeast readable,
    fun s unread => Version.closed_of_unread unread, ?_, ?_⟩
  · intro r s previous facts result run
    constructor
    · intro s' previous' facts' other run'
      rw [shipsAdmission_iff run, shipsWebhook_iff run']
      rintro ⟨⟨-, early⟩, -, late⟩
      rw [split (Version.readable_of_isAtLeast late), late] at early
      cases early
    · intro readable active enabled
      rw [shipsAdmission_iff run, shipsWebhook_iff run]
      simp [split readable, active, enabled]
  · intro r s readable enabled
    rw [Multus.hasAdmission, split readable, NodeIdentity.isActive, enabled, Bool.true_and]

theorem webhook_follows_admission :
    Version.change "4.13.9" "v4.14.0-0.nightly-2023-06-07" = .upgrade ∧
      Version.isAtLeast "v4.14.0-0.nightly-2023-06-07" 4 13 = true ∧
      ¬Version.Readable "latest" ∧ Version.isAtMost "latest" 99 99 = false ∧
      ∃ result, reconcile .builtIn kuryrSample none .none = .ok result ∧
        ShipsWebhook result ∧ ¬ShipsAdmission result := by
  obtain ⟨rises, -, -, closed, passes, -⟩ := thresholds_are_consistent
  have upgrade : Version.change "4.13.9" "v4.14.0-0.nightly-2023-06-07" = .upgrade := by
    decide +kernel
  have unread : ¬Version.Readable "latest" := by
    rintro ⟨v, found⟩
    cases found
  obtain ⟨result, run, same⟩ := reconcile_of_check kuryrSample_accepted .none
  have webhook : ShipsWebhook result := by
    rw [shipsWebhook_iff run, same]
    decide +kernel
  refine ⟨upgrade, (rises _ _ (.inl upgrade) 4 13).1 (by decide +kernel), unread,
    (closed _ unread 99 99).2.1, result, run, webhook, ?_⟩
  intro admission
  exact (passes _ _ _ _ _ run).1 _ _ _ _ run ⟨admission, webhook⟩

end Pass
end ClusterNet
