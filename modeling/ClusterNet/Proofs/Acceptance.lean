import ClusterNet.Proofs.Defaults
import ClusterNet.Proofs.Distinct
import ClusterNet.Proofs.SoundNetworks

/- What a pass accepts. A spec is accepted when its type is known, no component would fill in more
   and no active component finds a problem; from these three the rest is derived. A pass depends on
   the previous spec only through the changes to it. -/
namespace ClusterNet

theorem Spec.requireOne_eq_none {field : String} {count : Nat}
    (satisfied : requireOne field count = none) : count = 1 := by
  unfold requireOne at satisfied
  split at satisfied
  · cases satisfied
  · rfl
  · cases satisfied

theorem Spec.serviceNetworks_of_clean {s : Spec} (single : s.serviceNetwork.length = 1)
    (clean : s.serviceProblems = []) : s.serviceNetworks.length = 1 := by
  obtain ⟨cidr, only⟩ := List.length_eq_one_iff.mp single
  have entry : serviceEntryProblems 0 cidr = [] := by
    simpa [serviceProblems, only] using clean
  unfold serviceEntryProblems at entry
  split at entry
  · next network read => simp [serviceNetworks, only, read, Except.toOption]
  · cases entry

namespace Kuryr

theorem parts_of_valid {s : Spec} {k : KuryrConfig} (valid : validate s = [])
    (configured : s.kuryr = some k) :
    s.serviceNetwork.length = 1 ∧ s.serviceProblems = [] ∧ serviceHostProblems s k = [] := by
  simp only [validate, configured, List.append_eq_nil_iff, Option.toList_eq_nil_iff] at valid
  obtain ⟨⟨⟨⟨one, -⟩, services⟩, -⟩, ⟨host, -⟩, -⟩ := valid
  exact ⟨Spec.requireOne_eq_none one, services, host⟩

theorem serviceHost_of_valid {s : Spec} {k : KuryrConfig} (valid : validate s = [])
    (configured : s.kuryr = some k) :
    ∃ text network, k.serviceNetwork = some text ∧ Network.read text = .ok network := by
  obtain ⟨single, services, host⟩ := parts_of_valid valid configured
  have read := Spec.serviceNetworks_of_clean single services
  cases given : k.serviceNetwork with
  | none => simp [serviceHostProblems, given, single, read] at host
  | some text =>
    cases found : Network.read text with
    | error e => simp [serviceHostProblems, given, found] at host
    | ok network => exact ⟨text, network, rfl, found⟩

end Kuryr

namespace KubeProxy

theorem address_of_valid {s : Spec} {p : ProxyConfig} {text : String} (valid : validate s = [])
    (configured : s.proxy = some p) (given : p.bindAddress = some text) :
    ∃ address, Address.read text = some address := by
  simp only [validate, configured, configProblems, List.append_eq_nil_iff] at valid
  obtain ⟨-, ⟨bind, -⟩, -⟩ := valid
  cases found : Address.read text with
  | some address => exact ⟨address, rfl⟩
  | none =>
    unfold addressProblems at bind
    simp only [given, found] at bind
    cases bind

theorem clusterNetwork_of_valid {s : Spec} (valid : validate s = []) :
    s.clusterNetwork.isEmpty = false := by
  simp only [validate, List.append_eq_nil_iff] at valid
  obtain ⟨⟨present, -⟩, -⟩ := valid
  cases empty : s.clusterNetwork.isEmpty with
  | false => rfl
  | true => simp [empty] at present

end KubeProxy

namespace Multus

theorem parts_of_idle {s : Spec} (idle : isActive s = false) :
    isDisabled s = true ∧ s.attachments = [] := by
  simpa [isActive] using idle

theorem enabled_of_valid {s : Spec} (valid : validate s = []) (active : isActive s = true) :
    isDisabled s = false := by
  simp only [validate, List.append_eq_nil_iff] at valid
  obtain ⟨contradiction, -⟩ := valid
  cases disabled : isDisabled s with
  | false => rfl
  | true => simp_all [isActive]

end Multus

namespace Pass

/-- A spec that passes on its own, with all defaults filled. -/
structure Accepted (r : Release) (type : NetworkType) (s : Spec) : Prop where
  known : s.type? = some type
  filled : ∀ p ∈ Provider.forType type, p.fillDefaults s = s
  valid : ∀ p ∈ Provider.forType type, p.isActive r s = true → p.validate s = []

theorem multus_mem_forType (type : NetworkType) : .multus ∈ Provider.forType type := by
  cases type <;> decide

/-- Accepted networks are told apart and sound, also where Multus takes no part: then there are
    none. -/
theorem attachments_of_accepted {r : Release} {type : NetworkType} {s : Spec}
    (accepted : Accepted r type s) :
    (s.attachments.map Multus.identity).Nodup ∧ ∀ a ∈ s.attachments, a.Sound := by
  cases active : Multus.isActive s with
  | true =>
    exact (Multus.validate_eq_nil.mp (accepted.valid _ (multus_mem_forType type) active)).2
  | false =>
    rw [(Multus.parts_of_idle active).2]
    exact ⟨List.nodup_nil, List.forall_mem_nil _⟩

theorem validation_eq_nil {r : Release} {providers : List Provider} {s : Spec} :
    validation r providers s = [] ↔
      ∀ p ∈ providers, p.isActive r s = true → p.validate s = [] := by
  simp only [validation, active, distinct_eq_nil, List.flatMap_eq_nil_iff, List.mem_filter,
    and_imp]

theorem accepted_defaulted {r : Release} {type : NetworkType} {s : Spec}
    (known : s.type? = some type)
    (valid : validation r (Provider.forType type) (defaulted (Provider.forType type) s) = []) :
    Accepted r type (defaulted (Provider.forType type) s) where
  known := (known_defaulted _ s).trans known
  filled := fun _ member => filled_of_defaulted member s
  valid := validation_eq_nil.mp valid

theorem validated_ok_iff {r : Release} {providers : List Provider} {s : Spec}
    {previous : Option Spec} :
    validated r providers s previous = .ok () ↔
      validation r providers s = [] ∧ previous.elim [] (changes providers · s) = [] := by
  unfold validated
  cases validation r providers s with
  | cons problem rest => simp
  | nil => cases previous.elim [] (changes providers · s) <;> simp

theorem cause_of_validated {r : Release} {providers : List Provider} {s : Spec}
    {previous : Option Spec} {problem : Problem}
    (failed : validated r providers s previous = .error problem) :
    (validation r providers s ≠ [] ∧
      problem = .rejected "validation" (validation r providers s)) ∨
    (validation r providers s = [] ∧ ∃ before, previous = some before ∧
      changes providers before s ≠ [] ∧
        problem = .rejected "change safety" (changes providers before s)) := by
  unfold validated at failed
  cases found : validation r providers s with
  | cons first rest =>
    rw [found] at failed
    exact .inl ⟨List.cons_ne_nil _ _, (Except.error.inj failed).symm⟩
  | nil =>
    rw [found] at failed
    cases previous with
    | none => cases failed
    | some before =>
      simp only [Option.elim_some] at failed
      cases unsafeChanges : changes providers before s with
      | cons first rest =>
        rw [unsafeChanges] at failed
        exact .inr ⟨rfl, before, rfl, unsafeChanges ▸ List.cons_ne_nil _ _,
          unsafeChanges ▸ (Except.error.inj failed).symm⟩
      | nil =>
        rw [unsafeChanges] at failed
        cases failed

theorem rejected_of_validated {r : Release} {providers : List Provider} {s : Spec}
    {previous : Option Spec} {problem : Problem}
    (failed : validated r providers s previous = .error problem) :
    ∃ phase problems, problem = .rejected phase problems ∧ problems ≠ [] := by
  rcases cause_of_validated failed with ⟨found, same⟩ | ⟨-, before, -, found, same⟩
  · exact ⟨_, _, same, found⟩
  · exact ⟨_, _, same, found⟩

theorem check_of_unknown {r : Release} {s : Spec} {previous : Option Spec}
    (unknown : s.type? = none) :
    check r s previous = .error (.unsupportedType s.defaultNetwork.type) := by
  simp only [check, Provider.forSpec, unknown]
  rfl

theorem check_of_known {r : Release} {type : NetworkType} {s : Spec} {previous : Option Spec}
    (known : s.type? = some type) :
    check r s previous =
      let filled := defaulted (Provider.forType type) s
      (validated r (Provider.forType type) filled (previous.map asApplied)).map
        fun _ => filled := by
  simp only [check, Provider.forSpec, known]
  rfl

theorem check_ok_iff {r : Release} {s d : Spec} {previous : Option Spec} :
    check r s previous = .ok d ↔
      ∃ type, s.type? = some type ∧ d = defaulted (Provider.forType type) s ∧
        Accepted r type d ∧
          (previous.map asApplied).elim [] (changes (Provider.forType type) · d) = [] := by
  constructor
  · intro returned
    cases known : s.type? with
    | none =>
      rw [check_of_unknown known] at returned
      cases returned
    | some type =>
      rw [check_of_known known] at returned
      dsimp only at returned
      cases verdict : validated r (Provider.forType type) (defaulted (Provider.forType type) s)
        (previous.map asApplied) with
      | error problem =>
        rw [verdict] at returned
        cases returned
      | ok _ =>
        rw [verdict] at returned
        obtain ⟨valid, unchanged⟩ := validated_ok_iff.mp verdict
        have same : defaulted (Provider.forType type) s = d := Except.ok.inj returned
        subst same
        exact ⟨type, rfl, rfl, accepted_defaulted known valid, unchanged⟩
  · rintro ⟨type, known, rfl, accepted, unchanged⟩
    have verdict := validated_ok_iff.mpr ⟨validation_eq_nil.mpr accepted.valid, unchanged⟩
    simp only [check_of_known known, verdict, Except.map]

theorem accepted_of_check {r : Release} {s d : Spec} {previous : Option Spec}
    (returned : check r s previous = .ok d) : ∃ type, Accepted r type d := by
  obtain ⟨type, -, -, accepted, -⟩ := check_ok_iff.mp returned
  exact ⟨type, accepted⟩

/-- A failure that the author of the spec can mend: every problem of it is named. -/
def IsRejection : Problem → Prop
  | .unsupportedType _ => True
  | .rejected _ problems => problems ≠ []
  | _ => False

theorem rejection_of_check {r : Release} {s : Spec} {previous : Option Spec} {problem : Problem}
    (failed : check r s previous = .error problem) : IsRejection problem := by
  cases known : s.type? with
  | none =>
    rw [check_of_unknown known] at failed
    rw [← Except.error.inj failed]
    trivial
  | some type =>
    rw [check_of_known known] at failed
    dsimp only at failed
    cases verdict : validated r (Provider.forType type) (defaulted (Provider.forType type) s)
      (previous.map asApplied) with
    | ok _ =>
      rw [verdict] at failed
      cases failed
    | error found =>
      rw [verdict] at failed
      obtain ⟨phase, problems, same, some⟩ := rejected_of_validated verdict
      rw [← Except.error.inj failed, same]
      exact some

theorem status_of_rejection {problem : Problem} (rejection : IsRejection problem)
    (release : String) :
    (Status.ofFailure problem release).phase = .rejected ∧
      (Status.ofFailure problem release).errors ≠ [] := by
  cases problem with
  | unsupportedType tag => exact ⟨rfl, List.cons_ne_nil _ _⟩
  | rejected phase problems =>
    obtain ⟨first, rest, rfl⟩ := List.exists_cons_of_ne_nil rejection
    exact ⟨rfl, List.cons_ne_nil _ _⟩
  | _ => exact rejection.elim

end Pass
end ClusterNet
