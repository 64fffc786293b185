import ClusterNet.Proofs.Rendering

/- Whether defaults were filled before a pass makes no difference to it, on either side of the
   comparison. What a pass returns is therefore settled: a pass over it, compared with itself,
   returns it again. -/
namespace ClusterNet.Pass

theorem check_defaulted {r : Release} {type : NetworkType} {s : Spec} (known : s.type? = some type)
    (previous : Option Spec) :
    check r (defaulted (Provider.forType type) s) previous = check r s previous := by
  have same := (known_defaulted (Provider.forType type) s).trans known
  rw [check_of_known known, check_of_known same, defaulted_idempotent]

theorem asApplied_idempotent (s : Spec) : asApplied (asApplied s) = asApplied s := by
  cases known : s.type? with
  | none => rw [asApplied_of_unknown known, asApplied_of_unknown known]
  | some type =>
    have same := (known_defaulted (Provider.forType type) s).trans known
    rw [asApplied_of_known known, asApplied_of_known same, defaulted_idempotent]

theorem check_asApplied (r : Release) (s p : Spec) :
    check r s (some (asApplied p)) = check r s (some p) := by
  cases known : s.type? with
  | none => rw [check_of_unknown known, check_of_unknown known]
  | some type =>
    simp only [check_of_known known, Option.map_some, asApplied_idempotent]

theorem asApplied_of_accepted {r : Release} {type : NetworkType} {s : Spec}
    (accepted : Accepted r type s) : asApplied s = s := by
  rw [asApplied_of_known accepted.known, defaulted_of_filled accepted.filled]

theorem check_of_accepted {r : Release} {type : NetworkType} {s : Spec}
    (accepted : Accepted r type s) : check r s (some s) = .ok s := by
  refine check_ok_iff.mpr ⟨type, accepted.known, (defaulted_of_filled accepted.filled).symm,
    accepted, ?_⟩
  rw [Option.map_some, asApplied_of_accepted accepted, Option.elim_some, changes, if_pos rfl]

/-- A pass sees filled specs only, so it can be given either form of either spec; and a successful
    pass repeats itself on what it returned. -/
theorem passes_see_filled_specs (r : Release) (facts : Facts) :
    (∀ s p : Spec, s.type?.isSome → p.type?.isSome →
      ∃ d q, fillDefaults s = .ok d ∧ fillDefaults p = .ok q ∧
        (∀ previous, reconcile r d previous facts = reconcile r s previous facts ∧
          check r d previous = check r s previous) ∧
        reconcile r s (some q) facts = reconcile r s (some p) facts ∧
        check r s (some q) = check r s (some p)) ∧
    ∀ s previous result, reconcile r s previous facts = .ok result →
      reconcile r result.spec (some result.spec) facts = .ok result := by
  constructor
  · intro s p sKnown pKnown
    obtain ⟨type, known⟩ := Option.isSome_iff_exists.mp sKnown
    obtain ⟨other, before⟩ := Option.isSome_iff_exists.mp pKnown
    have next := fun previous => check_defaulted (r := r) known previous
    have last := check_asApplied r s p
    rw [asApplied_of_known before] at last
    refine ⟨_, _, fillDefaults_of_known known, fillDefaults_of_known before, ?_, ?_, last⟩
    · intro previous
      rw [reconcile_eq_check, next, ← reconcile_eq_check]
      exact ⟨rfl, rfl⟩
    · rw [reconcile_eq_check, last, ← reconcile_eq_check]
  · intro s previous result run
    obtain ⟨returned, output⟩ := parts_of_reconcile run
    obtain ⟨type, -, -, accepted, -⟩ := check_ok_iff.mp returned
    rw [reconcile_eq_check, check_of_accepted accepted, ok_bind, output]

def kuryrSample : Spec :=
  { Spec.empty with
    serviceNetwork := ["172.30.0.0/16"]
    clusterNetwork := [⟨"10.128.0.0/14", some 23⟩]
    defaultNetwork := ⟨"Kuryr", none⟩
    attachments := [⟨"storage", none, .simpleMacvlan, none, none⟩] }

theorem kuryrSample_accepted :
    check .builtIn kuryrSample none =
      .ok (defaulted (Provider.forType .kuryr) kuryrSample) := by
  decide +kernel

theorem kuryrSample_pass_repeats :
    (∃ d, fillDefaults kuryrSample = .ok d ∧
      reconcile .builtIn d (some kuryrSample) .none =
        reconcile .builtIn kuryrSample (some kuryrSample) .none) ∧
    ∃ result, reconcile .builtIn kuryrSample none .none = .ok result ∧
      reconcile .builtIn result.spec (some result.spec) .none = .ok result := by
  obtain ⟨forms, repeats⟩ := passes_see_filled_specs .builtIn .none
  constructor
  · obtain ⟨d, -, filled, -, either, -⟩ := forms kuryrSample kuryrSample rfl rfl
    exact ⟨d, filled, (either _).1⟩
  · obtain ⟨result, run, -⟩ := reconcile_of_check kuryrSample_accepted .none
    exact ⟨result, run, repeats _ _ _ run⟩

end ClusterNet.Pass
