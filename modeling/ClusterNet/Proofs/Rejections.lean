import Mathlib.Data.List.Nodup
import ClusterNet.Proofs.Acceptance

/- What the author of a rejected spec is told. Validation finds structural and semantic problems
   only, comparison finds unsafe changes only, and a spec is compared only when it is valid: so all
   problems of a rejection are of one kind, and dropping repetitions loses none of them. -/
namespace ClusterNet

def AllValidation (found : List Problem) : Prop := ∀ q ∈ found, q.isValidation = true

def Problem.IsUnsafeChange (problem : Problem) : Prop :=
  ∃ field detail, problem = .unsafeChange field detail

def AllUnsafeChanges (found : List Problem) : Prop := ∀ q ∈ found, q.IsUnsafeChange

section

variable {field detail : String} {xs ys : List Problem}

@[simp] theorem allValidation_nil : AllValidation [] := nofun

@[simp] theorem allValidation_structural :
    AllValidation (.structural field detail :: xs) ↔ AllValidation xs := by
  simp [AllValidation, Problem.isValidation]

@[simp] theorem allValidation_semantic :
    AllValidation (.semantic field detail :: xs) ↔ AllValidation xs := by
  simp [AllValidation, Problem.isValidation]

@[simp] theorem allValidation_append :
    AllValidation (xs ++ ys) ↔ AllValidation xs ∧ AllValidation ys :=
  List.forall_mem_append

@[simp] theorem allValidation_flatMap {α : Type} {items : List α} {f : α → List Problem} :
    AllValidation (items.flatMap f) ↔ ∀ a ∈ items, AllValidation (f a) := by
  simp only [AllValidation, List.mem_flatMap]
  exact ⟨fun each a here q found => each q ⟨a, here, found⟩,
    fun each q ⟨a, here, found⟩ => each a here q found⟩

@[simp] theorem allUnsafeChanges_nil : AllUnsafeChanges [] := nofun

@[simp] theorem allUnsafeChanges_single : AllUnsafeChanges [.unsafeChange field detail] := by
  simp [AllUnsafeChanges, Problem.IsUnsafeChange]

@[simp] theorem allUnsafeChanges_append :
    AllUnsafeChanges (xs ++ ys) ↔ AllUnsafeChanges xs ∧ AllUnsafeChanges ys :=
  List.forall_mem_append

@[simp] theorem allUnsafeChanges_flatMap {α : Type} {items : List α} {f : α → List Problem} :
    AllUnsafeChanges (items.flatMap f) ↔ ∀ a ∈ items, AllUnsafeChanges (f a) := by
  simp only [AllUnsafeChanges, List.mem_flatMap]
  exact ⟨fun each a here q found => each q ⟨a, here, found⟩,
    fun each q ⟨a, here, found⟩ => each a here q found⟩

end

namespace Spec

@[simp] theorem requireOne_validation (field : String) (count : Nat) :
    AllValidation (requireOne field count).toList := by
  unfold requireOne
  split <;> simp

theorem serviceEntryProblems_validation (i : Nat) (cidr : String) :
    AllValidation (serviceEntryProblems i cidr) := by
  unfold serviceEntryProblems
  split <;> simp

theorem clusterEntryProblems_validation (i : Nat) (entry : ClusterEntry) :
    AllValidation (clusterEntryProblems i entry) := by
  unfold clusterEntryProblems hostPrefixProblems
  repeat' split
  all_goals simp

@[simp] theorem serviceProblems_validation (s : Spec) : AllValidation s.serviceProblems := by
  simp [serviceProblems, serviceEntryProblems_validation]

@[simp] theorem clusterProblems_validation (s : Spec) : AllValidation s.clusterProblems := by
  simp [clusterProblems, clusterEntryProblems_validation]

end Spec

namespace Kuryr

@[simp] theorem sizingProblems_validation (field : String) (service host : Network)
    (clusters : List Network) :
    AllValidation (Network.sizingProblems field service host clusters) := by
  intro q found
  obtain ⟨fault, -, rfl⟩ := List.mem_map.mp found
  rfl

@[simp] theorem serviceHostProblems_validation (s : Spec) (k : KuryrConfig) :
    AllValidation (serviceHostProblems s k) := by
  simp only [serviceHostProblems]
  cases k.serviceNetwork with
  | none =>
    dsimp only
    split <;> simp
  | some text =>
    dsimp only
    split
    · simp
    · split
      · split <;> simp
      · simp

@[simp] theorem poolLimitProblems_validation (name : String) (value : Option UInt32) (most : Nat) :
    AllValidation (poolLimitProblems name value most) := by
  unfold poolLimitProblems
  repeat' split
  all_goals simp

@[simp] theorem poolProblems_validation (k : KuryrConfig) : AllValidation (poolProblems k) := by
  unfold poolProblems
  rw [allValidation_append, allValidation_append]
  refine ⟨⟨?_, ?_⟩, ?_⟩
  all_goals repeat' split
  all_goals simp

@[simp] theorem portProblems_validation (name : String) (port : Option UInt32) :
    AllValidation (portProblems name port) := by
  unfold portProblems
  repeat' split
  all_goals simp

@[simp] theorem probeProblems_validation (k : KuryrConfig) : AllValidation (probeProblems k) := by
  unfold probeProblems
  simp only [allValidation_append, portProblems_validation, true_and]
  constructor
  all_goals repeat' split
  all_goals simp

theorem validate_validation (s : Spec) : AllValidation (validate s) := by
  unfold validate
  split <;> simp

end Kuryr

namespace KubeProxy

@[simp] theorem addressProblems_validation (text : Option String) :
    AllValidation (addressProblems text) := by
  unfold addressProblems
  repeat' split
  all_goals simp

@[simp] theorem periodProblems_validation (text : Option String) :
    AllValidation (periodProblems text) := by
  unfold periodProblems
  repeat' split
  all_goals simp

@[simp] theorem argumentProblems_validation (name : String) (values : List String) :
    AllValidation (argumentProblems name values) := by
  unfold argumentProblems valueProblems
  rw [allValidation_append]
  constructor
  all_goals repeat' split
  all_goals simp

theorem validate_validation (s : Spec) : AllValidation (validate s) := by
  unfold validate configProblems
  rw [allValidation_append, allValidation_append]
  refine ⟨⟨?_, by simp⟩, ?_⟩
  all_goals split
  all_goals simp

end KubeProxy

namespace Multus

@[simp] theorem labelProblems_validation (place what label : String) :
    AllValidation (labelProblems place what label) := by
  unfold labelProblems
  cases Label.complaint? label what <;> simp

@[simp] theorem rawProblems_validation (place name raw : String) :
    AllValidation (rawProblems place name raw) := by
  unfold rawProblems
  repeat' split
  all_goals simp

@[simp] theorem gatewayProblems_validation (place : String) (gateway : Option String) :
    AllValidation (gatewayProblems place gateway) := by
  unfold gatewayProblems
  repeat' split
  all_goals simp

@[simp] theorem addressProblems_validation (place : String) (a : StaticAddress) :
    AllValidation (addressProblems place a) := by
  unfold addressProblems
  split <;> simp

@[simp] theorem routeProblems_validation (place : String) (r : StaticRoute) :
    AllValidation (routeProblems place r) := by
  unfold routeProblems
  split <;> simp

@[simp] theorem staticProblems_validation (place : String) (s : StaticIpam) :
    AllValidation (staticProblems place s) := by
  unfold staticProblems
  split <;> simp

@[simp] theorem ipamProblems_validation (place : String) (i : Ipam) :
    AllValidation (ipamProblems place i) := by
  unfold ipamProblems
  split <;> simp

@[simp] theorem macvlanProblems_validation (place : String) (m : Macvlan) :
    AllValidation (macvlanProblems place m) := by
  unfold macvlanProblems
  rw [allValidation_append, allValidation_append]
  refine ⟨⟨?_, ?_⟩, ?_⟩
  all_goals repeat' split
  all_goals simp

@[simp] theorem contentProblems_validation (place : String) (a : Attachment) :
    AllValidation (contentProblems place a) := by
  unfold contentProblems
  split
  all_goals
    rw [allValidation_append]
    constructor
  all_goals split
  all_goals simp

@[simp] theorem attachmentProblems_validation (place : String) (a : Attachment) :
    AllValidation (attachmentProblems place a) := by
  unfold attachmentProblems
  cases a.namespaceName <;> simp

@[simp] theorem networkProblems_validation (i : Nat) (seen : List (String × String))
    (attachments : List Attachment) : AllValidation (networkProblems i seen attachments) := by
  induction attachments generalizing i seen with
  | nil => simp [networkProblems]
  | cons a rest ih =>
    simp only [networkProblems, allValidation_append, attachmentProblems_validation, true_and, ih,
      and_true]
    split <;> simp

theorem validate_validation (s : Spec) : AllValidation (validate s) := by
  unfold validate
  split <;> simp

end Multus

namespace NodeIdentity

theorem validate_validation (s : Spec) : AllValidation (validate s) := by
  unfold validate
  repeat' split
  all_goals simp

end NodeIdentity

theorem Provider.validate_validation (p : Provider) (s : Spec) : AllValidation (p.validate s) := by
  cases p with
  | kuryr => exact Kuryr.validate_validation s
  | kubeProxy => exact KubeProxy.validate_validation s
  | multus => exact Multus.validate_validation s
  | nodeIdentity => exact NodeIdentity.validate_validation s

theorem unchanged_allUnsafeChanges {α : Type} [DecidableEq α] (field : String) (write : α → String)
    (before after : Option α) : AllUnsafeChanges (unchanged field write before after) := by
  cases before with
  | none => simp [unchanged]
  | some old =>
    simp only [unchanged]
    split <;> simp

theorem Kuryr.unsafeChanges_allUnsafeChanges (previous next : Spec) :
    AllUnsafeChanges (unsafeChanges previous next) := by
  have mtu : ∀ before after, AllUnsafeChanges (mtuProblems before after) := by
    intro before after
    unfold mtuProblems
    split <;> simp
  unfold unsafeChanges
  split
  · simp
  · split <;> simp [configChanges, unchanged_allUnsafeChanges, mtu]

theorem Multus.unsafeChanges_allUnsafeChanges (previous next : Spec) :
    AllUnsafeChanges (unsafeChanges previous next) := by
  have kinds : ∀ before i a, AllUnsafeChanges (kindChanges before i a) := by
    intro before i a
    unfold kindChanges
    repeat' split
    all_goals simp
  unfold unsafeChanges
  split <;> simp [unchanged_allUnsafeChanges, kinds]

theorem Provider.unsafeChanges_allUnsafeChanges (previous next : Spec) (p : Provider) :
    AllUnsafeChanges (unsafeChanges previous next p) := by
  cases p with
  | kuryr => exact Kuryr.unsafeChanges_allUnsafeChanges previous next
  | multus => exact Multus.unsafeChanges_allUnsafeChanges previous next
  | kubeProxy => exact allUnsafeChanges_nil
  | nodeIdentity => exact allUnsafeChanges_nil

namespace Pass

theorem validation_validation (r : Release) (providers : List Provider) (s : Spec) :
    AllValidation (validation r providers s) := by
  intro q found
  obtain ⟨p, -, reported⟩ := List.mem_flatMap.mp (mem_distinct.mp found)
  exact p.validate_validation s q reported

theorem changes_allUnsafeChanges (providers : List Provider) (previous next : Spec) :
    AllUnsafeChanges (changes providers previous next) := by
  have types : AllUnsafeChanges (typeChanges previous next) := by
    dsimp only [typeChanges]
    split <;> simp
  have services : AllUnsafeChanges (serviceChanges previous next) := by
    dsimp only [serviceChanges]
    split <;> simp
  unfold changes
  split
  · simp
  · intro q found
    have reported : AllUnsafeChanges (typeChanges previous next ++ serviceChanges previous next
        ++ providers.flatMap (Provider.unsafeChanges previous next)) := by
      simp [types, services, Provider.unsafeChanges_allUnsafeChanges]
    exact reported q (mem_distinct.mp found)

theorem changes_nodup (providers : List Provider) (previous next : Spec) :
    (changes providers previous next).Nodup := by
  unfold changes
  split
  · exact List.nodup_nil
  · exact distinct_nodup _

theorem changes_eq_eraseDups {providers : List Provider} {previous next : Spec}
    (found : changes providers previous next ≠ []) :
    changes providers previous next =
      (typeChanges previous next ++ serviceChanges previous next
        ++ providers.flatMap (Provider.unsafeChanges previous next)).eraseDups := by
  unfold changes at found ⊢
  split at found
  · exact absurd rfl found
  · next differ => rw [if_neg differ, distinct_eq_eraseDups]

/-- Why a spec was rejected, as the author is told: each problem once, and either everything that
    validation found or, when it found nothing, every change that the network does not survive. -/
structure Explains (r : Release) (providers : List Provider) (s : Spec) (previous : Option Spec)
    (phase : String) (problems : List Problem) : Prop where
  present : problems ≠ []
  once : problems.Nodup
  cause :
    (phase = "validation" ∧ AllValidation problems ∧
      problems = ((active r providers s).flatMap (Provider.validate s)).eraseDups) ∨
    (phase = "change safety" ∧ AllUnsafeChanges problems ∧
      (∀ p ∈ active r providers s, p.validate s = []) ∧
      ∃ before, previous = some before ∧
        problems = (typeChanges before s ++ serviceChanges before s
          ++ providers.flatMap (Provider.unsafeChanges before s)).eraseDups)

theorem explains_of_validated {r : Release} {providers : List Provider} {s : Spec}
    {previous : Option Spec} {problem : Problem}
    (failed : validated r providers s previous = .error problem) :
    ∃ phase problems, problem = .rejected phase problems ∧
      Explains r providers s previous phase problems := by
  rcases cause_of_validated failed with ⟨found, rfl⟩ | ⟨clean, before, compared, found, rfl⟩
  · exact ⟨_, _, rfl, found, distinct_nodup _,
      .inl ⟨rfl, validation_validation r providers s, distinct_eq_eraseDups _⟩⟩
  · have only := changes_allUnsafeChanges providers before s
    have all := changes_eq_eraseDups found
    refine ⟨_, _, rfl, found, changes_nodup .., .inr ⟨rfl, only, ?_, before, compared, all⟩⟩
    intro p member
    obtain ⟨taking, active⟩ := List.mem_filter.mp member
    exact validation_eq_nil.mp clean p taking active

/-- A check of a spec of known type fails only with an explanation, and the status repeats it
    problem by problem. -/
theorem failed_check_is_explained {r : Release} {type : NetworkType} {s : Spec}
    {previous : Option Spec} {problem : Problem} (known : s.type? = some type)
    (failed : check r s previous = .error problem) :
    ∃ d phase problems, fillDefaults s = .ok d ∧ problem = .rejected phase problems ∧
      Explains r (Provider.forType type) d (previous.map asApplied) phase problems ∧
      ∀ release, (Status.ofFailure problem release).errors = problems.map Problem.message := by
  rw [check_of_known known] at failed
  dsimp only at failed
  cases verdict : validated r (Provider.forType type) (defaulted (Provider.forType type) s)
    (previous.map asApplied) with
  | ok _ =>
    rw [verdict] at failed
    cases failed
  | error found =>
    rw [verdict] at failed
    cases failed
    obtain ⟨phase, problems, rfl, explains⟩ := explains_of_validated verdict
    refine ⟨_, phase, problems, fillDefaults_of_known known, rfl, explains, ?_⟩
    intro release
    obtain ⟨first, rest, rfl⟩ := List.exists_cons_of_ne_nil explains.present
    rfl

def unreadableSample : Spec :=
  { Spec.empty with
    serviceNetwork := ["172.30.0.0/16"]
    clusterNetwork := [⟨"10.128.0.0/33", none⟩]
    defaultNetwork := ⟨"Kuryr", none⟩
    deployProxy := some true
    attachments := [⟨"storage", none, .raw, none, none⟩] }

theorem unreadableSample_is_explained :
    ∃ d problem, fillDefaults unreadableSample = .ok d ∧
      check .builtIn unreadableSample none = .error problem ∧
      Explains .builtIn (Provider.forType .kuryr) d none "validation" [
        .semantic "spec.clusterNetwork[0].cidr"
          "invalid CIDR \"10.128.0.0/33\": invalid IP address syntax",
        .structural "spec.additionalNetworks[0].rawCNIConfig" "required for Raw networks"] := by
  have failed : check .builtIn unreadableSample none = .error (.rejected "validation" [
      .semantic "spec.clusterNetwork[0].cidr"
        "invalid CIDR \"10.128.0.0/33\": invalid IP address syntax",
      .structural "spec.additionalNetworks[0].rawCNIConfig" "required for Raw networks"]) := by
    decide +kernel
  obtain ⟨d, phase, problems, filled, same, explains, -⟩ := failed_check_is_explained rfl failed
  cases same
  exact ⟨d, _, filled, failed, explains⟩

end Pass
end ClusterNet
