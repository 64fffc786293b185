import Mathlib.Data.List.Nodup
import ClusterNet.Proofs.Rendering

/- The differences that a running network does not survive. Each is a relation between two specs,
   has a path of its own and answers for one part of the comparison: that part reports it if it
   holds, and nothing otherwise. -/
namespace ClusterNet

/-- The problems report whether a field changed: not at all if it did not, and else by one unsafe
    change at its path. -/
def Reports (path : String) (changed : Prop) (problems : List Problem) : Prop :=
  (changed → ∃ detail, problems = [.unsafeChange path detail]) ∧ (¬changed → problems = [])

theorem reports_of_iff {path : String} {changed other : Prop} {problems : List Problem}
    (same : changed ↔ other) (reports : Reports path changed problems) :
    Reports path other problems := by
  rwa [propext same] at reports

theorem reports_unless {path detail : String} {same : Prop} [Decidable same] :
    Reports path (¬same) (if same then [] else [.unsafeChange path detail]) := by
  constructor
  · intro changed
    exact ⟨detail, if_neg changed⟩
  · intro kept
    exact if_pos (not_not.mp kept)

theorem unchanged_reports {α : Type} [DecidableEq α] {before : Option α} (known : before.isSome)
    (field : String) (write : α → String) (after : Option α) :
    Reports field (before ≠ after) (unchanged field write before after) := by
  obtain ⟨old, rfl⟩ := Option.isSome_iff_exists.mp known
  exact reports_of_iff ne_comm reports_unless

namespace Kuryr

/-- A value of the configuration, whatever its type. -/
inductive Setting where
  | text (value : String)
  | number (value : UInt32)
  | flag (value : Bool)
  deriving DecidableEq, Repr

inductive Pinned where
  | serviceNetwork
  | poolMin
  | poolBatch
  | poolMax
  | prepopulation
  | daemonProbesPort
  | controllerProbesPort
  | mtu
  deriving DecidableEq, Repr

namespace Pinned

def all : List Pinned :=
  [.serviceNetwork, .poolMin, .poolBatch, .poolMax, .prepopulation, .daemonProbesPort,
    .controllerProbesPort, .mtu]

def name : Pinned → String
  | .serviceNetwork => "openStackServiceNetwork"
  | .poolMin => "poolMinPorts"
  | .poolBatch => "poolBatchPorts"
  | .poolMax => "poolMaxPorts"
  | .prepopulation => "enablePortPoolsPrepopulation"
  | .daemonProbesPort => "daemonProbesPort"
  | .controllerProbesPort => "controllerProbesPort"
  | .mtu => "mtu"

def path (p : Pinned) : String := "spec.defaultNetwork.kuryrConfig." ++ p.name

def value (p : Pinned) (k : KuryrConfig) : Option Setting :=
  match p with
  | .serviceNetwork => k.serviceNetwork.map .text
  | .poolMin => k.poolMin.map .number
  | .poolBatch => k.poolBatch.map .number
  | .poolMax => k.poolMax.map .number
  | .prepopulation => k.prepopulation.map .flag
  | .daemonProbesPort => k.daemonProbesPort.map .number
  | .controllerProbesPort => k.controllerProbesPort.map .number
  | .mtu => k.mtu.map .number

def problems (before after : KuryrConfig) : Pinned → List Problem
  | .serviceNetwork =>
    unchanged serviceHostField Text.quoted before.serviceNetwork after.serviceNetwork
  | .poolMin => unchanged (field "poolMinPorts") writeNat32 before.poolMin after.poolMin
  | .poolBatch => unchanged (field "poolBatchPorts") writeNat32 before.poolBatch after.poolBatch
  | .poolMax => unchanged (field "poolMaxPorts") writeNat32 before.poolMax after.poolMax
  | .prepopulation =>
    unchanged (field "enablePortPoolsPrepopulation") writeFlag before.prepopulation
      after.prepopulation
  | .daemonProbesPort =>
    unchanged (field "daemonProbesPort") writeNat32 before.daemonProbesPort after.daemonProbesPort
  | .controllerProbesPort =>
    unchanged (field "controllerProbesPort") writeNat32 before.controllerProbesPort
      after.controllerProbesPort
  | .mtu => mtuProblems before.mtu after.mtu

end Pinned

theorem configChanges_eq (before after : KuryrConfig) :
    configChanges before after = Pinned.all.flatMap (Pinned.problems before after) := by
  simp only [configChanges, Pinned.all, Pinned.problems, List.flatMap_cons, List.flatMap_nil,
    List.append_nil, List.append_assoc]

theorem mtuProblems_reports (before after : Option UInt32) :
    Reports (field "mtu") (before ≠ after) (mtuProblems before after) :=
  reports_unless

theorem pinned_reports {p : Pinned} {before : KuryrConfig}
    (known : p ≠ .mtu → (p.value before).isSome) (after : KuryrConfig) :
    Reports p.path (p.value before ≠ p.value after) (p.problems before after) := by
  have texts := Option.map_injective fun _ _ => Setting.text.inj
  have numbers := Option.map_injective fun _ _ => Setting.number.inj
  have flags := Option.map_injective fun _ _ => Setting.flag.inj
  cases p with
  | mtu => exact reports_of_iff numbers.ne_iff.symm (mtuProblems_reports _ _)
  | serviceNetwork =>
    have given := Option.isSome_map.symm.trans (known nofun)
    exact reports_of_iff texts.ne_iff.symm (unchanged_reports given ..)
  | prepopulation =>
    have given := Option.isSome_map.symm.trans (known nofun)
    exact reports_of_iff flags.ne_iff.symm (unchanged_reports given ..)
  | _ =>
    have given := Option.isSome_map.symm.trans (known nofun)
    exact reports_of_iff numbers.ne_iff.symm (unchanged_reports given ..)

/-- With all defaults filled and nothing to complain about, only the mtu can be unset. -/
theorem pinned_known {s : Spec} (filled : fillDefaults s = s) (valid : validate s = []) :
    ∃ k, s.kuryr = some k ∧ ∀ p : Pinned, p ≠ .mtu → (p.value k).isSome := by
  obtain ⟨k, configured, complete⟩ := config_of_filled filled
  obtain ⟨text, -, given, -⟩ := serviceHost_of_valid valid configured
  obtain ⟨least, most, batch, prepopulation, daemonPort, controllerPort, hLeast, hMost, hBatch,
    hPrepopulation, hDaemon, hController⟩ := fields_of_filled complete
  refine ⟨k, configured, ?_⟩
  intro p notMtu
  cases p with
  | mtu => exact absurd rfl notMtu
  | serviceNetwork => simp only [Pinned.value, given, Option.map_some, Option.isSome_some]
  | poolMin => simp only [Pinned.value, hLeast, Option.map_some, Option.isSome_some]
  | poolBatch => simp only [Pinned.value, hBatch, Option.map_some, Option.isSome_some]
  | poolMax => simp only [Pinned.value, hMost, Option.map_some, Option.isSome_some]
  | prepopulation => simp only [Pinned.value, hPrepopulation, Option.map_some, Option.isSome_some]
  | daemonProbesPort => simp only [Pinned.value, hDaemon, Option.map_some, Option.isSome_some]
  | controllerProbesPort =>
    simp only [Pinned.value, hController, Option.map_some, Option.isSome_some]

end Kuryr

namespace Multus

/-- Among networks that are told apart by identity it does not matter which of them counts. -/
theorem kindBefore_eq_some {attachments : List Attachment}
    (apart : (attachments.map identity).Nodup) {key : String × String} {kind : AttachmentKind} :
    kindBefore? attachments key = some kind ↔
      ∃ a ∈ attachments, identity a = key ∧ a.kind = kind := by
  unfold kindBefore?
  constructor
  · intro found
    obtain ⟨a, first, same⟩ := Option.map_eq_some_iff.mp found
    have member := List.mem_reverse.mp (List.mem_of_find?_eq_some first)
    exact ⟨a, member, by simpa using List.find?_some first, same⟩
  · rintro ⟨a, member, rfl, rfl⟩
    cases found : attachments.reverse.find? (identity · = identity a) with
    | none =>
      have missing := List.find?_eq_none.mp found a (List.mem_reverse.mpr member)
      simp at missing
    | some b =>
      have other := List.mem_reverse.mp (List.mem_of_find?_eq_some found)
      have same : identity b = identity a := by simpa using List.find?_some found
      rw [List.inj_on_of_nodup_map apart other member same, Option.map_some]

/-- A network that both lists have, with another kind in each. -/
def KindChanged (before : List Attachment) (a : Attachment) : Prop :=
  ∃ b ∈ before, b.namespaceName = a.namespaceName ∧ b.name = a.name ∧ b.kind ≠ a.kind

instance (before : List Attachment) (a : Attachment) : Decidable (KindChanged before a) :=
  inferInstanceAs (Decidable (∃ b ∈ before, _))

theorem identity_eq_iff {a b : Attachment} (filled : fillAttachment a = a)
    (filled' : fillAttachment b = b) :
    identity a = identity b ↔ a.namespaceName = b.namespaceName ∧ a.name = b.name := by
  rw [namespace_of_filled filled, namespace_of_filled filled', Option.some_inj, Prod.ext_iff]
  rfl

theorem kindChanged_iff {before : List Attachment} (apart : (before.map identity).Nodup)
    (complete : ∀ b ∈ before, fillAttachment b = b) {a : Attachment}
    (filled : fillAttachment a = a) :
    KindChanged before a ↔ ∃ old, kindBefore? before (identity a) = some old ∧ old ≠ a.kind := by
  simp only [kindBefore_eq_some apart]
  constructor
  · rintro ⟨b, member, sameNamespace, sameName, other⟩
    have same := (identity_eq_iff (complete b member) filled).mpr ⟨sameNamespace, sameName⟩
    exact ⟨b.kind, ⟨b, member, same, rfl⟩, other⟩
  · rintro ⟨old, ⟨b, member, same, rfl⟩, other⟩
    obtain ⟨sameNamespace, sameName⟩ := (identity_eq_iff (complete b member) filled).mp same
    exact ⟨b, member, sameNamespace, sameName, other⟩

theorem kindChanges_reports {before : List Attachment} (apart : (before.map identity).Nodup)
    (complete : ∀ b ∈ before, fillAttachment b = b) {a : Attachment}
    (filled : fillAttachment a = a) (i : Nat) :
    Reports s!"{networksField}[{i}].type" (KindChanged before a) (kindChanges before i a) := by
  refine reports_of_iff (kindChanged_iff apart complete filled).symm ?_
  unfold kindChanges
  cases kindBefore? before (identity a) with
  | none => exact ⟨by simp, fun _ => rfl⟩
  | some old =>
    refine reports_of_iff ?_ reports_unless
    simp only [Option.some_inj, exists_eq_left', ne_eq]

end Multus

/-- What can differ between two specs to the harm of a network that runs. -/
inductive Difference where
  | type
  | serviceNetwork
  | pinned (p : Kuryr.Pinned)
  | multiNetwork
  | kind (index : Nat)
  deriving DecidableEq, Repr

namespace Difference

/-- The field that a difference is about. A network is found by its index in the later spec. -/
def path : Difference → String
  | .type => "spec.defaultNetwork.type"
  | .serviceNetwork => "spec.serviceNetwork"
  | .pinned p => p.path
  | .multiNetwork => "spec.disableMultiNetwork"
  | .kind i => s!"spec.additionalNetworks[{i}].type"

def Between (before after : Spec) : Difference → Prop
  | .type => before.defaultNetwork.type ≠ after.defaultNetwork.type
  | .serviceNetwork => before.serviceNetwork ≠ after.serviceNetwork
  | .pinned p =>
    before.type? = some .kuryr ∧ after.type? = some .kuryr ∧
      before.kuryr.bind p.value ≠ after.kuryr.bind p.value
  | .multiNetwork => before.disableMultiNetwork ≠ after.disableMultiNetwork
  | .kind i => ∃ a, after.attachments[i]? = some a ∧ Multus.KindChanged before.attachments a

instance (before after : Spec) : (d : Difference) → Decidable (d.Between before after)
  | .type | .serviceNetwork | .multiNetwork => inferInstanceAs (Decidable (_ ≠ _))
  | .pinned _ => inferInstanceAs (Decidable (_ ∧ _ ∧ _ ≠ _))
  | .kind i =>
    match found : after.attachments[i]? with
    | none => .isFalse (by simp [Between, found])
    | some a =>
      decidable_of_iff (Multus.KindChanged before.attachments a) (by simp [Between, found])

theorem between_symm {a b : Spec} (differ : ∃ d, Between a b d) : ∃ d, Between b a d := by
  obtain ⟨d, between⟩ := differ
  cases d with
  | type => exact ⟨.type, Ne.symm between⟩
  | serviceNetwork => exact ⟨.serviceNetwork, Ne.symm between⟩
  | pinned p => exact ⟨.pinned p, between.2.1, between.1, Ne.symm between.2.2⟩
  | multiNetwork => exact ⟨.multiNetwork, Ne.symm between⟩
  | kind i =>
    obtain ⟨y, found, x, member, sameNamespace, sameName, other⟩ := between
    obtain ⟨j, position⟩ := List.mem_iff_getElem?.mp member
    exact ⟨.kind j, x, position, y, List.mem_of_getElem? found, sameNamespace.symm, sameName.symm,
      other.symm⟩

theorem kind_path (i : Nat) :
    path (.kind i) = "spec.additionalNetworks[" ++ toString i ++ "].type" := rfl

theorem kind_path_injective {i j : Nat} (same : path (.kind i) = path (.kind j)) : i = j := by
  rw [kind_path, kind_path, String.append_left_inj, String.append_right_inj] at same
  have read := congrArg (fun text => Nat.ofDigitChars 10 text.toList 0) same
  simpa using read

def general : List Difference :=
  [type, serviceNetwork] ++ Kuryr.Pinned.all.map pinned ++ [multiNetwork]

theorem mem_general_or_kind (d : Difference) : d ∈ general ∨ ∃ i, d = .kind i := by
  cases d with
  | kind i => exact .inr ⟨i, rfl⟩
  | pinned p => cases p <;> exact .inl (by decide)
  | _ => exact .inl (by decide)

theorem general_path_nodup : (general.map path).Nodup := by decide +kernel

theorem general_path_ne_kind : ∀ d ∈ general, (path d).toList.take 6 ≠ "spec.a".toList := by
  decide +kernel

theorem kind_path_take (i : Nat) : (path (.kind i)).toList.take 6 = "spec.a".toList := by
  rw [kind_path, String.append_assoc, String.toList_append,
    List.take_append_of_le_length (by decide)]
  decide

theorem path_injective {d e : Difference} (same : d.path = e.path) : d = e := by
  rcases mem_general_or_kind d with dGeneral | ⟨i, rfl⟩
  · rcases mem_general_or_kind e with eGeneral | ⟨j, rfl⟩
    · exact List.inj_on_of_nodup_map general_path_nodup dGeneral eGeneral same
    · exact absurd (same ▸ kind_path_take j) (general_path_ne_kind d dGeneral)
  · rcases mem_general_or_kind e with eGeneral | ⟨j, rfl⟩
    · exact absurd (same ▸ kind_path_take i) (general_path_ne_kind e eGeneral)
    · rw [kind_path_injective same]

def problems (before after : Spec) : Difference → List Problem
  | .type => Pass.typeChanges before after
  | .serviceNetwork => Pass.serviceChanges before after
  | .pinned p =>
    match before.kuryr, after.kuryr with
    | some k, some l => p.problems k l
    | _, _ => []
  | .multiNetwork =>
    unchanged "spec.disableMultiNetwork" writeFlag before.disableMultiNetwork
      after.disableMultiNetwork
  | .kind i => (after.attachments[i]?).elim [] (Multus.kindChanges before.attachments i)

def candidates (t : NetworkType) (after : Spec) : List Difference :=
  [type, serviceNetwork]
    ++ (match t with
      | .kuryr => Kuryr.Pinned.all.map pinned
      | .thirdParty => [])
    ++ [multiNetwork] ++ after.attachments.zipIdx.map fun e => kind e.2

theorem mem_candidates {type : NetworkType} {before after : Spec} {d : Difference}
    (known : before.type? = some type) (between : d.Between before after) :
    d ∈ candidates type after := by
  simp only [candidates, List.mem_append, List.mem_cons, List.mem_map, List.not_mem_nil, or_false]
  cases d with
  | type => simp
  | serviceNetwork => simp
  | multiNetwork => simp
  | pinned p =>
    have kuryr : type = .kuryr := Option.some.inj (known.symm.trans between.1)
    subst kuryr
    exact .inl (.inl (.inr (List.mem_map.mpr ⟨p, by cases p <;> decide, rfl⟩)))
  | kind i =>
    obtain ⟨a, found, -⟩ := between
    exact .inr ⟨(a, i), List.mk_mem_zipIdx_iff_getElem?.mpr found, rfl⟩

theorem candidates_nodup (type : NetworkType) (after : Spec) : (candidates type after).Nodup := by
  have kinds : (after.attachments.zipIdx.map fun e => Difference.kind e.2).Nodup := by
    have indices : (after.attachments.zipIdx.map Prod.snd).Nodup := by
      rw [List.zipIdx_map_snd]
      exact List.nodup_range'
    have injective : Function.Injective Difference.kind := fun _ _ => Difference.kind.inj
    have mapped := indices.map injective
    rwa [List.map_map] at mapped
  refine List.nodup_append.mpr ⟨by cases type <;> decide, kinds, ?_⟩
  intro d fixed e member same
  obtain ⟨entry, -, rfl⟩ := List.mem_map.mp member
  subst same
  cases type <;> simp [Kuryr.Pinned.all] at fixed

end Difference
end ClusterNet
