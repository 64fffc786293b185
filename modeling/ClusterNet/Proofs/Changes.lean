import ClusterNet.Proofs.Differences
import ClusterNet.Proofs.Refilling

/- Changes to a running network. Between two accepted specs a change is rejected exactly when one of
   a fixed set of differences holds, and each difference is reported once, at its own path. Accepted
   specs have every compared field set, so a first assignment never passes for no change. -/
namespace ClusterNet

namespace Pass

open Difference

theorem networks_of_accepted {r : Release} {type : NetworkType} {s : Spec}
    (accepted : Accepted r type s) :
    (s.attachments.map Multus.identity).Nodup ∧
      ∀ a ∈ s.attachments, Multus.fillAttachment a = a := by
  have filled := accepted.filled _ (multus_mem_forType type)
  exact ⟨(attachments_of_accepted accepted).1, fun _ => Multus.attachment_of_filled filled⟩

theorem kuryr_of_accepted {r : Release} {s : Spec} (accepted : Accepted r .kuryr s) :
    ∃ k, s.kuryr = some k ∧ ∀ p : Kuryr.Pinned, p ≠ .mtu → (p.value k).isSome := by
  have active : Kuryr.isActive s = true := by simp [Kuryr.isActive, accepted.known]
  exact Kuryr.pinned_known (accepted.filled .kuryr (by decide))
    (accepted.valid .kuryr (by decide) active)

theorem flag_of_accepted {r : Release} {type : NetworkType} {s : Spec}
    (accepted : Accepted r type s) : s.disableMultiNetwork.isSome := by
  have member := multus_mem_forType type
  rw [Multus.flag_of_filled (accepted.filled _ member), Option.isSome_some]

/-- Each candidate is reported exactly if it is a difference. The types have to agree, since the
    settings of a network that was not Kuryr's need not be filled. -/
theorem candidate_reports {r r' : Release} {type : NetworkType} {before after : Spec}
    (old : Accepted r type before) (new : Accepted r' type after) {d : Difference}
    (candidate : d ∈ candidates type after) :
    Reports d.path (d.Between before after) (d.problems before after) := by
  obtain ⟨apart, complete⟩ := networks_of_accepted old
  cases d with
  | type => exact reports_unless
  | serviceNetwork => exact reports_unless
  | multiNetwork => exact unchanged_reports (flag_of_accepted old) ..
  | pinned p =>
    cases type with
    | thirdParty => simp [candidates] at candidate
    | kuryr =>
      obtain ⟨k, configured, known⟩ := kuryr_of_accepted old
      obtain ⟨l, configured', -⟩ := kuryr_of_accepted new
      have reports := Kuryr.pinned_reports (known p) l
      simp only [Between, old.known, new.known, configured, configured', problems,
        Option.bind_some, true_and]
      exact reports
  | kind i =>
    cases found : after.attachments[i]? with
    | none =>
      simp only [Between, problems, found, Option.elim_none]
      constructor
      · rintro ⟨_, impossible, -⟩
        cases impossible
      · exact fun _ => rfl
    | some a =>
      have filled := (networks_of_accepted new).2 a (List.mem_of_getElem? found)
      have reports := Multus.kindChanges_reports apart complete filled i
      simp only [Between, problems, found, Option.some_inj, exists_eq_left', Option.elim_some]
      exact reports

theorem changes_eq {type : NetworkType} {before after : Spec} (different : before ≠ after) :
    changes (Provider.forType type) before after =
      distinct ((candidates type after).flatMap (problems before after)) := by
  have networks : (after.attachments.zipIdx.map fun e => Difference.kind e.2).flatMap
      (problems before after) =
        after.attachments.zipIdx.flatMap fun e =>
          Multus.kindChanges before.attachments e.2 e.1 := by
    rw [List.flatMap_map]
    refine List.flatMap_congr ?_
    rintro ⟨a, i⟩ member
    simp only [problems, List.mk_mem_zipIdx_iff_getElem?.mp member, Option.elim_some]
  have settings : (Kuryr.Pinned.all.map Difference.pinned).flatMap (problems before after) =
      Kuryr.unsafeChanges before after := by
    simp only [Kuryr.unsafeChanges, if_neg different, List.flatMap_map, problems]
    cases before.kuryr with
    | none => simp
    | some k =>
      cases after.kuryr with
      | none => simp
      | some l => exact (Kuryr.configChanges_eq k l).symm
  cases type <;>
    simp [changes, different, candidates, Provider.forType, Provider.primary, Provider.companions,
      Provider.unsafeChanges, Multus.unsafeChanges, networks, settings, problems]

theorem between_irrefl {r : Release} {type : NetworkType} {s : Spec} (accepted : Accepted r type s)
    (d : Difference) : ¬d.Between s s := by
  cases d with
  | pinned p => exact fun between => between.2.2 rfl
  | kind i =>
    rintro ⟨a, found, b, member, sameNamespace, sameName, other⟩
    obtain ⟨apart, complete⟩ := networks_of_accepted accepted
    have listed := List.mem_of_getElem? found
    have same := (Multus.identity_eq_iff (complete b member) (complete a listed)).mpr
      ⟨sameNamespace, sameName⟩
    exact other (congrArg Attachment.kind (List.inj_on_of_nodup_map apart member listed same))
  | _ => exact fun between => between rfl

/-- That equal specs are not compared makes no difference, once they are accepted. -/
theorem changes_of_accepted {r : Release} {type : NetworkType} {after : Spec}
    (new : Accepted r type after) (before : Spec) :
    changes (Provider.forType type) before after =
      distinct ((candidates type after).flatMap (problems before after)) := by
  by_cases same : before = after
  · subst same
    have silent : (candidates type before).flatMap (problems before before) = [] := by
      refine List.flatMap_eq_nil_iff.mpr ?_
      intro d candidate
      exact (candidate_reports new new candidate).2 (between_irrefl new d)
    rw [changes, if_pos rfl, silent]
    rfl
  · exact changes_eq same

/-- The problems are one unsafe change for each difference, at the path of that difference. -/
def Reported (before after : Spec) (found : List Problem) : Prop :=
  ∃ ds : List Difference, ds.Nodup ∧ (∀ d, d ∈ ds ↔ d.Between before after) ∧
    List.Forall₂ (fun d problem => ∃ detail, problem = .unsafeChange d.path detail) ds found

theorem forall₂_of_reports {before after : Spec} {ds : List Difference}
    (reports : ∀ d ∈ ds, Reports d.path (d.Between before after) (d.problems before after)) :
    List.Forall₂ (fun d problem => ∃ detail, problem = .unsafeChange d.path detail)
      (ds.filter (Between before after)) (ds.flatMap (problems before after)) := by
  induction ds with
  | nil => exact .nil
  | cons d rest ih =>
    have later := ih fun e member => reports e (List.mem_cons_of_mem d member)
    obtain ⟨reported, silent⟩ := reports d List.mem_cons_self
    rw [List.flatMap_cons]
    by_cases between : d.Between before after
    · obtain ⟨detail, only⟩ := reported between
      rw [List.filter_cons_of_pos (by simpa using between), only]
      exact .cons ⟨detail, rfl⟩ later
    · rw [List.filter_cons_of_neg (by simpa using between), silent between]
      exact later

theorem flatMap_problems_nodup {before after : Spec} {ds : List Difference} (nodup : ds.Nodup)
    (reports : ∀ d ∈ ds, Reports d.path (d.Between before after) (d.problems before after)) :
    (ds.flatMap (problems before after)).Nodup := by
  have shape : ∀ d ∈ ds, d.problems before after = [] ∨
      ∃ detail, d.problems before after = [.unsafeChange d.path detail] := by
    intro d member
    by_cases between : d.Between before after
    · exact .inr ((reports d member).1 between)
    · exact .inl ((reports d member).2 between)
  refine List.nodup_flatMap.mpr ⟨?_, List.Pairwise.imp_of_mem ?_ nodup⟩
  · intro d member
    rcases shape d member with none | ⟨detail, only⟩
    · rw [none]
      exact List.nodup_nil
    · rw [only]
      exact List.nodup_singleton _
  · intro d e dMember eMember different
    rcases shape d dMember with none | ⟨detail, only⟩
    · simp [Function.onFun, none]
    · rcases shape e eMember with none | ⟨detail', only'⟩
      · simp [Function.onFun, none]
      · have apart : d.path ≠ e.path := fun same => different (path_injective same)
        simp [Function.onFun, only, only', apart.symm]

theorem reported_of_accepted {r r' : Release} {type : NetworkType} {before after : Spec}
    (old : Accepted r type before) (new : Accepted r' type after) :
    Reported before after (changes (Provider.forType type) before after) := by
  have reports : ∀ d ∈ candidates type after,
      Reports d.path (d.Between before after) (d.problems before after) := by
    intro d candidate
    exact candidate_reports old new candidate
  have nodup := candidates_nodup type after
  refine ⟨(candidates type after).filter (Between before after), nodup.filter _, ?_, ?_⟩
  · intro d
    rw [List.mem_filter, decide_eq_true_iff]
    exact and_iff_right_of_imp (mem_candidates old.known)
  · rw [changes_of_accepted new, distinct_of_nodup (flatMap_problems_nodup nodup reports)]
    exact forall₂_of_reports reports

theorem reported_eq_nil_iff {before after : Spec} {found : List Problem}
    (reported : Reported before after found) :
    found = [] ↔ ∀ d : Difference, ¬d.Between before after := by
  obtain ⟨ds, -, members, listed⟩ := reported
  simp only [← members, ← List.eq_nil_iff_forall_not_mem]
  constructor
  · rintro rfl
    exact List.forall₂_nil_right_iff.mp listed
  · rintro rfl
    exact List.forall₂_nil_left_iff.mp listed

theorem type_unique {r r' : Release} {type type' : NetworkType} {before after : Spec}
    (old : Accepted r type before) (new : Accepted r' type' after)
    (same : before.defaultNetwork.type = after.defaultNetwork.type) : type = type' := by
  have known := old.known
  rw [Spec.type?, same, ← Spec.type?, new.known] at known
  exact (Option.some.inj known).symm

/-- A change is safe if and only if there is no difference, even when the two specs were accepted
    under different releases or the type of the network changed. -/
theorem changes_eq_nil_iff {r r' : Release} {type type' : NetworkType} {before after : Spec}
    (old : Accepted r type before) (new : Accepted r' type' after) :
    changes (Provider.forType type') before after = [] ↔
      ∀ d : Difference, ¬d.Between before after := by
  by_cases same : before.defaultNetwork.type = after.defaultNetwork.type
  · cases type_unique old new same
    exact reported_eq_nil_iff (reported_of_accepted old new)
  · have different : before ≠ after := fun equal => same (equal ▸ rfl)
    have reports : Reports (path .type) (Between before after .type) (typeChanges before after) :=
      reports_unless
    obtain ⟨detail, first⟩ := reports.1 same
    simp only [changes, if_neg different, distinct_eq_nil, first, List.cons_append,
      List.cons_ne_nil, false_iff, not_forall, not_not]
    exact ⟨.type, same⟩

theorem check_with_previous {r : Release} {type : NetworkType} {s d previous : Spec}
    (returned : check r s none = .ok d) (known : s.type? = some type) :
    check r s (some previous) =
      match changes (Provider.forType type) (asApplied previous) d with
      | [] => .ok d
      | problems => .error (.rejected "change safety" problems) := by
  obtain ⟨other, known', rfl, accepted, -⟩ := check_ok_iff.mp returned
  cases known.symm.trans known'
  have clean := validation_eq_nil.mpr accepted.valid
  rw [check_of_known known]
  simp only [validated, clean, Option.map_some, Option.elim_some]
  cases changes (Provider.forType type) (asApplied previous)
    (defaulted (Provider.forType type) s) <;> rfl

theorem check_of_change {r : Release} {previous s a b : Spec}
    (first : check r previous none = .ok a) (second : check r s none = .ok b) :
    ∃ found, (found = [] ↔ ∀ d : Difference, ¬d.Between a b) ∧
      (a.defaultNetwork.type = b.defaultNetwork.type → Reported a b found) ∧
        check r s (some previous) =
          match found with
          | [] => .ok b
          | problems => .error (.rejected "change safety" problems) := by
  obtain ⟨type, known, filled, old, -⟩ := check_ok_iff.mp first
  obtain ⟨type', known', -, new, -⟩ := check_ok_iff.mp second
  have applied : asApplied previous = a := (asApplied_of_known known).trans filled.symm
  refine ⟨_, changes_eq_nil_iff old new, ?_, applied ▸ check_with_previous second known'⟩
  intro same
  cases type_unique old new same
  exact reported_of_accepted old new

theorem change_ok_iff {r : Release} {previous s a b : Spec} (first : check r previous none = .ok a)
    (second : check r s none = .ok b) :
    (∃ d, check r s (some previous) = .ok d) ↔ ¬∃ d : Difference, d.Between a b := by
  obtain ⟨found, silent, -, result⟩ := check_of_change first second
  rw [result, not_exists, ← silent]
  cases found <;> simp

/-- Which changes to an accepted spec are rejected, and with which problems. As no rule prefers one
    direction, a change that is accepted can be taken back. -/
theorem change_rejected_iff_difference {r : Release} {previous s a b : Spec}
    (first : check r previous none = .ok a) (second : check r s none = .ok b) :
    ((∃ phase problems, check r s (some previous) = .error (.rejected phase problems)) ↔
      ∃ d : Difference, d.Between a b) ∧
    (a.defaultNetwork.type = b.defaultNetwork.type →
      ∀ phase problems, check r s (some previous) = .error (.rejected phase problems) →
        Reported a b problems) ∧
    ((∃ d, check r s (some previous) = .ok d) ↔ ∃ d, check r previous (some s) = .ok d) := by
  obtain ⟨found, silent, reported, result⟩ := check_of_change first second
  refine ⟨?_, ?_, ?_⟩
  · have differ : (∃ d : Difference, d.Between a b) ↔ found ≠ [] := by
      rw [ne_eq, silent, not_forall_not]
    rw [result, differ]
    cases found <;> simp
  · intro same phase problems rejected
    rw [result] at rejected
    cases found with
    | nil => cases rejected
    | cons problem rest =>
      cases rejected
      exact reported same
  · rw [change_ok_iff first second, change_ok_iff second first, not_iff_not]
    exact ⟨between_symm, between_symm⟩

def kuryrSampleChanged : Spec :=
  { kuryrSample with
    defaultNetwork.kuryr := some { KuryrConfig.empty with mtu := some 1400 }
    attachments := [⟨"storage", none, .raw, some "\x7b\"name\":\"storage\"\x7d", none⟩] }

theorem kuryrSampleChanged_accepted :
    check .builtIn kuryrSampleChanged none =
      .ok (defaulted (Provider.forType .kuryr) kuryrSampleChanged) := by
  decide +kernel

theorem kuryrSample_change_is_rejected :
    ∃ a b, check .builtIn kuryrSample none = .ok a ∧
      check .builtIn kuryrSampleChanged none = .ok b ∧
      (∃ phase problems, check .builtIn kuryrSampleChanged (some kuryrSample) =
        .error (.rejected phase problems) ∧ Reported a b problems) ∧
      Difference.Between a b (.pinned .mtu) ∧ Difference.Between a b (.kind 0) := by
  have first := kuryrSample_accepted
  have second := kuryrSampleChanged_accepted
  obtain ⟨rejected, reported, -⟩ := change_rejected_iff_difference first second
  have mtu : Difference.Between (defaulted (Provider.forType .kuryr) kuryrSample)
      (defaulted (Provider.forType .kuryr) kuryrSampleChanged) (.pinned .mtu) :=
    ⟨rfl, rfl, by decide⟩
  have kind : Difference.Between (defaulted (Provider.forType .kuryr) kuryrSample)
      (defaulted (Provider.forType .kuryr) kuryrSampleChanged) (.kind 0) :=
    ⟨_, rfl, _, List.mem_cons_self, rfl, rfl, by decide⟩
  obtain ⟨phase, problems, result⟩ := rejected.mpr ⟨_, mtu⟩
  exact ⟨_, _, first, second, ⟨phase, problems, result, reported rfl _ _ result⟩, mtu, kind⟩

end Pass
end ClusterNet
