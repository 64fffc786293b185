import Mathlib.Data.List.Chain
import ClusterNet.Session
import ClusterNet.Proofs.Changes

/- Runs of passes. What was fixed when the network was set up stays as it was in every later success
   of a run, whatever is requested in between and under whichever release. Successes next to each
   other are compared directly; transitivity carries the rest. -/
namespace ClusterNet

/-- The two specs agree on all that is fixed when a network is set up. Of the settings of Kuryr only
    the mtu may be unset. -/
def SameBootstrap (a b : Spec) : Prop :=
  a.defaultNetwork.type = b.defaultNetwork.type ∧ a.serviceNetwork = b.serviceNetwork ∧
    a.disableMultiNetwork = b.disableMultiNetwork ∧
      (a.type? = some .kuryr → ∃ k l, a.kuryr = some k ∧ b.kuryr = some l ∧
        ∀ p : Kuryr.Pinned, p.value k = p.value l ∧ (p ≠ .mtu → (p.value k).isSome))

def SameKinds (a b : Spec) : Prop :=
  ∀ x ∈ a.attachments, ∀ y ∈ b.attachments,
    x.namespaceName = y.namespaceName → x.name = y.name → x.kind = y.kind

theorem sameBootstrap_symm {a b : Spec} (same : SameBootstrap a b) : SameBootstrap b a := by
  obtain ⟨type, service, flag, settings⟩ := same
  refine ⟨type.symm, service.symm, flag.symm, ?_⟩
  intro kuryr
  rw [Spec.type?, ← type, ← Spec.type?] at kuryr
  obtain ⟨k, l, before, after, each⟩ := settings kuryr
  refine ⟨l, k, after, before, ?_⟩
  intro p
  obtain ⟨equal, known⟩ := each p
  exact ⟨equal.symm, equal ▸ known⟩

theorem sameBootstrap_trans {a b c : Spec} (first : SameBootstrap a b)
    (second : SameBootstrap b c) : SameBootstrap a c := by
  obtain ⟨type, service, flag, settings⟩ := first
  obtain ⟨type', service', flag', settings'⟩ := second
  refine ⟨type.trans type', service.trans service', flag.trans flag', ?_⟩
  intro kuryr
  obtain ⟨k, l, before, middle, each⟩ := settings kuryr
  rw [Spec.type?, type, ← Spec.type?] at kuryr
  obtain ⟨l', m, middle', after, each'⟩ := settings' kuryr
  cases middle.symm.trans middle'
  exact ⟨k, m, before, after, fun p => ⟨(each p).1.trans (each' p).1, (each p).2⟩⟩

namespace Pass

theorem sameBootstrap_of_no_difference {r r' : Release} {type type' : NetworkType} {a b : Spec}
    (old : Accepted r type a) (new : Accepted r' type' b)
    (none : ∀ d : Difference, ¬d.Between a b) : SameBootstrap a b := by
  have same := not_not.mp (none .type)
  refine ⟨same, not_not.mp (none .serviceNetwork), not_not.mp (none .multiNetwork), ?_⟩
  intro kuryr
  cases type_unique old new same
  cases old.known.symm.trans kuryr
  obtain ⟨k, configured, known⟩ := kuryr_of_accepted old
  obtain ⟨l, configured', -⟩ := kuryr_of_accepted new
  refine ⟨k, l, configured, configured', ?_⟩
  intro p
  have equal : a.kuryr.bind p.value = b.kuryr.bind p.value := by
    by_contra differ
    exact none (.pinned p) ⟨old.known, new.known, differ⟩
  rw [configured, configured'] at equal
  exact ⟨equal, known p⟩

theorem sameKinds_of_no_difference {a b : Spec} (none : ∀ d : Difference, ¬d.Between a b) :
    SameKinds a b := by
  intro x old y new sameNamespace sameName
  by_contra other
  obtain ⟨i, position⟩ := List.mem_iff_getElem?.mp new
  exact none (.kind i) ⟨y, position, x, old, sameNamespace, sameName, other⟩

theorem kept_of_check {r r' : Release} {type : NetworkType} {s previous d : Spec}
    (old : Accepted r type previous) (returned : check r' s (some previous) = .ok d) :
    SameBootstrap previous d ∧ SameKinds previous d := by
  obtain ⟨type', -, -, new, unchanged⟩ := check_ok_iff.mp returned
  rw [Option.map_some, asApplied_of_accepted old, Option.elim_some] at unchanged
  have none := (changes_eq_nil_iff old new).mp unchanged
  exact ⟨sameBootstrap_of_no_difference old new none, sameKinds_of_no_difference none⟩

end Pass

namespace Session

open Pass

def returned (applied : Option Spec) (requests : List Request) : List Spec :=
  ((run applied requests).filterMap Except.toOption).map Outcome.spec

theorem returned_nil (applied : Option Spec) : returned applied [] = [] := rfl

theorem returned_of_success {release : Release} {spec d : Spec} {applied : Option Spec}
    (checked : check release spec applied = .ok d) (facts : Facts) (rest : List Request) :
    returned applied (⟨release, facts, spec⟩ :: rest) = d :: returned (some d) rest := by
  obtain ⟨result, passed, rfl⟩ := reconcile_of_check checked facts
  simp only [returned, run, Session.result, passed, settle]
  rfl

theorem returned_of_failure {release : Release} {spec : Spec} {applied : Option Spec}
    {problem : Problem} (failed : check release spec applied = .error problem) (facts : Facts)
    (rest : List Request) :
    returned applied (⟨release, facts, spec⟩ :: rest) = returned applied rest := by
  simp only [returned, run, Session.result, reconcile_of_failure failed, settle]
  rfl

/-- What was applied, if anything, passed the check of some release. -/
def Settled (applied : Option Spec) : Prop :=
  ∀ s ∈ applied, ∃ r type, Accepted r type s

/-- Each success is compared with the one before it. The induction is on the requests; it goes
    through as a success again leaves an accepted spec behind. -/
theorem returned_chain (requests : List Request) {applied : Option Spec}
    (settled : Settled applied) :
    (applied.toList ++ returned applied requests).IsChain
      fun a b => SameBootstrap a b ∧ SameKinds a b := by
  induction requests generalizing applied with
  | nil => cases applied <;> simp [returned, run]
  | cons request rest ih =>
    obtain ⟨release, facts, spec⟩ := request
    cases checked : check release spec applied with
    | error problem =>
      rw [returned_of_failure checked]
      exact ih settled
    | ok d =>
      obtain ⟨type, accepted⟩ := accepted_of_check checked
      have next : Settled (some d) := by
        intro s same
        cases same
        exact ⟨_, _, accepted⟩
      have chain := ih next
      rw [returned_of_success checked]
      cases applied with
      | none => exact chain
      | some previous =>
        obtain ⟨r, type', old⟩ := settled previous rfl
        exact List.isChain_cons_cons.mpr ⟨kept_of_check old checked, chain⟩

theorem accepted_of_returned {requests : List Request} {applied : Option Spec} {a : Spec}
    (member : a ∈ returned applied requests) : ∃ r type, Accepted r type a := by
  induction requests generalizing applied with
  | nil => simp [returned, run] at member
  | cons request rest ih =>
    obtain ⟨release, facts, spec⟩ := request
    cases checked : check release spec applied with
    | error problem =>
      rw [returned_of_failure checked] at member
      exact ih member
    | ok d =>
      rw [returned_of_success checked] at member
      rcases List.mem_cons.mp member with same | later
      · exact same ▸ ⟨_, accepted_of_check checked⟩
      · exact ih later

/-- However long a run is, and whatever its passes are given, its successes agree on all that is
    fixed at bootstrap, and a network that stays from one success to the next keeps its kind. -/
theorem run_keeps_bootstrap (requests : List Request) :
    (∀ a ∈ returned none requests, ∀ b ∈ returned none requests, SameBootstrap a b) ∧
      (returned none requests).IsChain SameKinds := by
  have unset : Settled none := by simp [Settled]
  have chain := returned_chain requests unset
  rw [Option.toList_none, List.nil_append] at chain
  refine ⟨?_, chain.imp fun _ _ kept => kept.2⟩
  have : Trans SameBootstrap SameBootstrap SameBootstrap := ⟨sameBootstrap_trans⟩
  have : Std.Symm SameBootstrap := ⟨fun _ _ => sameBootstrap_symm⟩
  have pairwise := List.isChain_iff_pairwise.mp (chain.imp fun _ _ kept => kept.1)
  have alone : ∀ a ∈ returned none requests, SameBootstrap a a := by
    intro a member
    obtain ⟨r, type, accepted⟩ := accepted_of_returned member
    exact sameBootstrap_of_no_difference accepted accepted (between_irrefl accepted)
  intro a first b second
  exact pairwise.forall_of_forall alone first second

def kuryrSampleExtended : Spec :=
  { kuryrSample with
    attachments := kuryrSample.attachments ++ [⟨"backup", none, .simpleMacvlan, none, none⟩] }

/-- The second of the three passes fails; the third is made under another release. -/
def kuryrSampleRun : List Request :=
  [⟨.builtIn, .none, kuryrSample⟩, ⟨.builtIn, .none, kuryrSampleChanged⟩,
    ⟨{ Release.builtIn with version := "4.12.0" }, .none, kuryrSampleExtended⟩]

theorem kuryrSampleRun_keeps_bootstrap :
    ∃ a b, returned none kuryrSampleRun = [a, b] ∧ SameBootstrap a b ∧ SameKinds a b := by
  have second : (check .builtIn kuryrSampleChanged
      (some (defaulted (Provider.forType .kuryr) kuryrSample))).toOption = none := by
    decide +kernel
  have third : check { Release.builtIn with version := "4.12.0" } kuryrSampleExtended
      (some (defaulted (Provider.forType .kuryr) kuryrSample)) =
        .ok (defaulted (Provider.forType .kuryr) kuryrSampleExtended) := by
    decide +kernel
  have passes : returned none kuryrSampleRun =
      [defaulted (Provider.forType .kuryr) kuryrSample,
        defaulted (Provider.forType .kuryr) kuryrSampleExtended] := by
    rw [kuryrSampleRun, returned_of_success kuryrSample_accepted]
    cases result : check .builtIn kuryrSampleChanged
      (some (defaulted (Provider.forType .kuryr) kuryrSample)) with
    | ok d =>
      rw [result] at second
      cases second
    | error problem => rw [returned_of_failure result, returned_of_success third, returned_nil]
  obtain ⟨bootstrap, kinds⟩ := run_keeps_bootstrap kuryrSampleRun
  rw [passes] at bootstrap kinds
  exact ⟨_, _, passes, bootstrap _ List.mem_cons_self _ (List.mem_cons_of_mem _ List.mem_cons_self),
    (List.isChain_cons_cons.mp kinds).1⟩

end Session
end ClusterNet
