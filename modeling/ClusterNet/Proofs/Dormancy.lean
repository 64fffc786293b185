import ClusterNet.Proofs.Assembly
import ClusterNet.Proofs.Changes
import ClusterNet.Proofs.Extension
import ClusterNet.Proofs.Frames

/- Components that take no part. What is configured for such a component is kept, and decides
   nothing: not whether the spec is accepted, not whether a change is safe, not what is rendered.
   The comparison with the previous spec needs care, as it ends early for equal specs only; but an
   accepted spec that is compared with itself has no changes to report either way. -/
namespace ClusterNet.Pass

open Difference

/-- The specs differ at most in the part of a component that takes part in neither. -/
structure AgreeAwake (r : Release) (p : Provider) (a b : Spec) : Prop where
  agree : a.outside p = b.outside p
  idle : p.isActive r a = false
  idle' : p.isActive r b = false

structure SameCompared (type : NetworkType) (a b : Spec) : Prop where
  tag : a.defaultNetwork.type = b.defaultNetwork.type
  service : a.serviceNetwork = b.serviceNetwork
  flag : a.disableMultiNetwork = b.disableMultiNetwork
  networks : a.attachments = b.attachments
  settings : type = .kuryr → a.kuryr = b.kuryr

theorem changes_congr {r : Release} {type : NetworkType} {a b : Spec}
    (same : SameCompared type a b) (first : Accepted r type a) (second : Accepted r type b)
    (before : Spec) :
    changes (Provider.forType type) before a = changes (Provider.forType type) before b := by
  obtain ⟨tag, service, flag, networks, settings⟩ := same
  have looked : candidates type a = candidates type b := by
    simp only [candidates, networks]
  rw [changes_of_accepted first, changes_of_accepted second, ← looked]
  refine congrArg distinct (List.flatMap_congr fun d member => ?_)
  cases d with
  | type => simp only [problems, typeChanges, tag]
  | serviceNetwork => simp only [problems, serviceChanges, service]
  | multiNetwork => simp only [problems, flag]
  | kind i => simp only [problems, networks]
  | pinned p =>
    cases type with
    | kuryr => simp only [problems, settings rfl]
    | thirdParty => simp [candidates] at member

section

variable {r : Release} {p : Provider} {a b : Spec}

theorem AgreeAwake.defaulted (same : AgreeAwake r p a b) (providers : List Provider) :
    AgreeAwake r p (defaulted providers a) (defaulted providers b) where
  agree := defaulted_agree providers same.agree
  idle := (isActive_defaulted providers p r a).trans same.idle
  idle' := (isActive_defaulted providers p r b).trans same.idle'

theorem active_agree (same : AgreeAwake r p a b) (providers : List Provider) :
    active r providers a = active r providers b := by
  refine List.filter_congr ?_
  intro q _
  by_cases own : q = p
  · subst own
    rw [same.idle, same.idle']
  · exact Provider.isActive_agree own same.agree r

theorem ne_of_active (same : AgreeAwake r p a b) {providers : List Provider} {q : Provider}
    (member : q ∈ active r providers a) : q ≠ p := by
  rintro rfl
  rw [active, List.mem_filter, same.idle] at member
  exact Bool.false_ne_true member.2

theorem validation_agree (same : AgreeAwake r p a b) (providers : List Provider) :
    validation r providers a = validation r providers b := by
  rw [validation, validation, ← active_agree same]
  refine congrArg distinct (List.flatMap_congr fun q member => ?_)
  exact Provider.validate_agree (ne_of_active same member) same.agree

theorem compared_agree {type : NetworkType} (same : AgreeAwake r p a b)
    (first : Accepted r type a) (second : Accepted r type b) : SameCompared type a b where
  tag := Spec.type_of_agree same.agree
  service := Spec.serviceNetwork_of_agree same.agree
  flag := by
    by_cases own : p = .multus
    · -- Multus is idle in one way only: disabled, and without networks.
      subst own
      have member := multus_mem_forType type
      rw [Multus.flag_of_filled (first.filled _ member),
        Multus.flag_of_filled (second.filled _ member), (Multus.parts_of_idle same.idle).1,
        (Multus.parts_of_idle same.idle').1]
    · exact Spec.disableMultiNetwork_of_agree same.agree own
  networks := by
    by_cases own : p = .multus
    · subst own
      rw [(Multus.parts_of_idle same.idle).2, (Multus.parts_of_idle same.idle').2]
    · exact Spec.attachments_of_agree same.agree own
  settings := by
    rintro rfl
    refine Spec.kuryr_of_agree same.agree ?_
    rintro rfl
    exact of_decide_eq_false same.idle first.known

theorem validated_agree {type : NetworkType} (same : AgreeAwake r p a b)
    (known : a.type? = some type) (known' : b.type? = some type) (previous : Option Spec) :
    validated r (Provider.forType type) (defaulted (Provider.forType type) a) previous =
      validated r (Provider.forType type) (defaulted (Provider.forType type) b) previous := by
  have filled := same.defaulted (Provider.forType type)
  have verdict := validation_agree filled (Provider.forType type)
  unfold validated
  cases found : validation r (Provider.forType type) (defaulted (Provider.forType type) a) with
  | cons problem rest => rw [← verdict, found]
  | nil =>
    rw [found] at verdict
    have first := accepted_defaulted known found
    have second := accepted_defaulted known' verdict.symm
    cases previous with
    | none => rw [← verdict]; rfl
    | some before =>
      have compared := compared_agree filled first second
      simp only [← verdict, Option.elim_some, changes_congr compared first second]

theorem check_agree {type : NetworkType} (same : AgreeAwake r p a b)
    (known : a.type? = some type) (known' : b.type? = some type) (previous : Option Spec) :
    check r b previous =
      (check r a previous).map fun _ => defaulted (Provider.forType type) b := by
  have verdict := validated_agree same known known' (previous.map asApplied)
  rw [check_of_known known, check_of_known known']
  dsimp only
  rw [verdict]
  cases validated r (Provider.forType type) (defaulted (Provider.forType type) b)
    (previous.map asApplied) <;> rfl

theorem parts_agree {facts : Facts} {providers : List Provider}
    {first second : Provider → Rendering} (same : AgreeAwake r p a b)
    (renders : ∀ q ∈ active r providers a, q.render r a facts = .ok (first q))
    (renders' : ∀ q ∈ active r providers b, q.render r b facts = .ok (second q)) :
    ((active r providers a).map fun q => partOf q (first q)) =
      (active r providers b).map fun q => partOf q (second q) := by
  have taking := active_agree same providers
  rw [← taking] at renders' ⊢
  refine List.map_congr_left fun q member => ?_
  have rendering := Provider.render_agree (ne_of_active same member) same.agree r facts
  rw [renders q member, renders' q member] at rendering
  rw [Except.ok.inj rendering]

end

/-- The same is applied and recorded, whatever the specs that were returned. -/
structure SameEffects (x y : Outcome) : Prop where
  objects : x.objects = y.objects
  data : x.data = y.data
  hashes : x.hashes = y.hashes
  warnings : x.warnings = y.warnings

/-- Configuration of a component that takes no part is inert: it does not decide how a pass ends nor
    what it has for effects, and it is returned as it was given. -/
theorem dormant_configuration_is_inert {r : Release} {p : Provider} {a b : Spec}
    (same : AgreeAwake r p a b) (previous : Option Spec) (facts : Facts) :
    (∃ problem, reconcile r a previous facts = .error problem ∧
      reconcile r b previous facts = .error problem) ∨
    ∃ x y, reconcile r a previous facts = .ok x ∧ reconcile r b previous facts = .ok y ∧
      SameEffects x y ∧ x.spec.Extends a ∧ y.spec.Extends b := by
  have types := Spec.known_of_agree same.agree
  cases known : a.type? with
  | none =>
    rw [known] at types
    have tag := Spec.type_of_agree same.agree
    have second : check r b previous = .error (.unsupportedType a.defaultNetwork.type) :=
      tag ▸ check_of_unknown types.symm
    exact .inl ⟨_, reconcile_of_failure (check_of_unknown known) facts,
      reconcile_of_failure second facts⟩
  | some type =>
    rw [known] at types
    have alike := check_agree same known types.symm previous
    cases returned : check r a previous with
    | error problem =>
      rw [returned] at alike
      exact .inl ⟨problem, reconcile_of_failure returned facts, reconcile_of_failure alike facts⟩
    | ok d =>
      rw [returned] at alike
      obtain ⟨type', first, known', filled, -, renders, run⟩ := outcome_of_check returned facts
      obtain ⟨type'', second, known'', filled', -, renders', run'⟩ := outcome_of_check alike facts
      cases known.symm.trans known'
      cases types.trans known''
      have awake := same.defaulted (Provider.forType type)
      rw [← filled, ← filled'] at awake
      rw [parts_agree awake renders renders'] at run
      refine .inr ⟨_, _, run, run', ⟨rfl, rfl, rfl, rfl⟩, ?_, ?_⟩
      · exact filled ▸ defaulted_extends _ a
      · exact filled' ▸ defaulted_extends _ b

def thirdPartySample (kuryr : Option KuryrConfig) : Spec :=
  { Spec.empty with
    clusterNetwork := [⟨"10.128.0.0/14", some 23⟩]
    defaultNetwork := ⟨"ThirdParty", kuryr⟩ }

theorem dormant_kuryr_is_inert :
    ∃ x y, reconcile .builtIn (thirdPartySample none) (some (thirdPartySample none)) .none =
        .ok x ∧
      reconcile .builtIn (thirdPartySample (some { KuryrConfig.empty with poolBatch := some 0 }))
        (some (thirdPartySample none)) .none = .ok y ∧
      SameEffects x y ∧ ∃ k, y.spec.kuryr = some k ∧ k.poolBatch = some 0 := by
  have accepted : check .builtIn (thirdPartySample none) (some (thirdPartySample none)) =
      .ok (defaulted (Provider.forType .thirdParty) (thirdPartySample none)) := by
    decide +kernel
  have same : AgreeAwake .builtIn .kuryr (thirdPartySample none)
      (thirdPartySample (some { KuryrConfig.empty with poolBatch := some 0 })) := ⟨rfl, rfl, rfl⟩
  obtain ⟨result, passed, -⟩ := reconcile_of_check accepted .none
  rcases dormant_configuration_is_inert same (some (thirdPartySample none)) .none with
    ⟨_, failed, -⟩ | ⟨x, y, run, run', effects, -, extended⟩
  · rw [failed] at passed
    cases passed
  · obtain ⟨k, kept, settings⟩ := extended.kuryr _ rfl
    exact ⟨x, y, run, run', effects, k, kept, settings.poolBatch 0 rfl⟩

end ClusterNet.Pass
