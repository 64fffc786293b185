import Mathlib.Data.List.Basic
import ClusterNet.Version.Rollout

/- The precedence of versions is a linear order: two versions of equal precedence are the same
   version. The direction of a change, read off from it, is therefore consistent over all texts,
   those that are no versions included. -/
namespace ClusterNet

namespace Version

theorem identifierKey_injective : Function.Injective identifierKey := by
  have chars : Function.Injective (List.map Char.toNat) :=
    List.map_injective_iff.mpr fun _ _ same => Char.toNat_inj.mp same
  intro x y same
  unfold identifierKey at same
  split at same <;> split at same
  · exact chars (List.cons.inj (List.cons.inj same).2).2
  · exact absurd (List.cons.inj same).1 (by decide)
  · exact absurd (List.cons.inj same).1 (by decide)
  · exact chars (List.cons.inj same).2

theorem splitOn_injective (c : Char) : Function.Injective (List.splitOn c) := by
  intro xs ys same
  have joined : [c].intercalate (List.splitOn c xs) = xs := List.intercalate_splitOn c
  rw [← joined, same, List.intercalate_splitOn]

def preReleaseKey (cs : List Char) : List (List Nat) :=
  if cs.isEmpty then [[1]] else [0] :: (cs.splitOn '.').map identifierKey

theorem preReleaseKey_injective : Function.Injective preReleaseKey := by
  intro xs ys same
  unfold preReleaseKey at same
  split at same <;> split at same
  · next hx hy => rw [List.isEmpty_iff.mp hx, List.isEmpty_iff.mp hy]
  · exact absurd (List.cons.inj same).1 (by decide)
  · exact absurd (List.cons.inj same).1 (by decide)
  · have keys := (List.cons.inj same).2
    exact splitOn_injective '.' (List.map_injective_iff.mpr identifierKey_injective keys)

theorem key_injective : Function.Injective key := by
  rintro ⟨major, minor, patch, pre⟩ ⟨major', minor', patch', pre'⟩ same
  have parts : [[major], [minor], [patch]] ++ preReleaseKey pre.toList =
      [[major'], [minor'], [patch']] ++ preReleaseKey pre'.toList := same
  obtain ⟨numbers, keys⟩ := List.append_inj parts rfl
  have pres : pre = pre' := String.toList_inj.mp (preReleaseKey_injective keys)
  simp only [List.cons.injEq, and_true] at numbers
  obtain ⟨rfl, rfl, rfl⟩ := numbers
  rw [pres]

theorem precedence_swap (a b : Version) : precedence a b = (precedence b a).swap :=
  Std.OrientedOrd.eq_swap

theorem precedence_trans {a b c : Version} (first : precedence a b = .lt)
    (second : precedence b c = .lt) : precedence a c = .lt :=
  show compare a.key c.key = .lt from Std.TransCmp.lt_trans first second

theorem precedence_eq_iff {a b : Version} : precedence a b = .eq ↔ a = b := by
  rw [precedence, Std.LawfulEqOrd.compare_eq_iff_eq, key_injective.eq_iff]

theorem precedence_self (a : Version) : precedence a a = .eq := precedence_eq_iff.mpr rfl

def Readable (s : String) : Prop := ∃ v, read s = .ok v

def Change.ofOrdering : Ordering → Change
  | .lt => .upgrade
  | .gt => .downgrade
  | .eq => .same

theorem Change.ofOrdering_swap (o : Ordering) : ofOrdering o.swap = (ofOrdering o).inverse := by
  cases o <;> rfl

theorem Change.ofOrdering_eq_upgrade {o : Ordering} : ofOrdering o = .upgrade ↔ o = .lt := by
  cases o <;> decide

theorem Change.ofOrdering_eq_same {o : Ordering} : ofOrdering o = .same ↔ o = .eq := by
  cases o <;> decide

theorem Change.ofOrdering_ne_unknown (o : Ordering) : ofOrdering o ≠ .unknown := by
  cases o <;> decide

section

variable {a b c : String} {v w : Version}

theorem change_self (s : String) : change s s = .same := if_pos rfl

/-- Comparing the texts first makes no difference when they can be read. -/
theorem change_of_read (before : read a = .ok v) (after : read b = .ok w) :
    change a b = Change.ofOrdering (precedence v w) := by
  by_cases same : a = b
  · subst same
    cases before.symm.trans after
    rw [change_self, precedence_self, Change.ofOrdering]
  · rw [change, if_neg same, before, after]
    cases order : precedence v w <;> simp only [order, Change.ofOrdering]

theorem change_of_unread (different : a ≠ b) (unread : ¬(Readable a ∧ Readable b)) :
    change a b = .unknown := by
  rw [change, if_neg different]
  split
  · next v w before after => exact absurd ⟨⟨v, before⟩, ⟨w, after⟩⟩ unread
  · rfl

/-- The texts are equal, or their versions decide, or nothing is known. -/
theorem change_cases (a b : String) :
    (a = b ∧ change a b = .same) ∨
    (∃ v w, read a = .ok v ∧ read b = .ok w ∧ change a b = Change.ofOrdering (precedence v w)) ∨
    (a ≠ b ∧ ¬(Readable a ∧ Readable b) ∧ change a b = .unknown) := by
  by_cases same : a = b
  · exact .inl ⟨same, same ▸ change_self a⟩
  · by_cases both : Readable a ∧ Readable b
    · obtain ⟨⟨v, before⟩, ⟨w, after⟩⟩ := both
      exact .inr (.inl ⟨v, w, before, after, change_of_read before after⟩)
    · exact .inr (.inr ⟨same, both, change_of_unread same both⟩)

theorem change_inverse (a b : String) : change a b = (change b a).inverse := by
  rcases change_cases a b with
    ⟨rfl, same⟩ | ⟨v, w, before, after, forth⟩ | ⟨different, unread, none⟩
  · rw [same, Change.inverse]
  · rw [forth, change_of_read after before, precedence_swap, Change.ofOrdering_swap]
  · rw [none, change_of_unread (Ne.symm different) (unread ∘ And.symm), Change.inverse]

theorem change_eq_unknown_iff : change a b = .unknown ↔ a ≠ b ∧ (¬Readable a ∨ ¬Readable b) := by
  rw [← not_and_or]
  constructor
  · intro unknown
    rcases change_cases a b with ⟨-, same⟩ | ⟨v, w, -, -, decided⟩ | ⟨different, unread, -⟩
    · rw [same] at unknown
      cases unknown
    · exact absurd (decided.symm.trans unknown) (Change.ofOrdering_ne_unknown _)
    · exact ⟨different, unread⟩
  · rintro ⟨different, unread⟩
    exact change_of_unread different unread

theorem change_eq_same_iff :
    change a b = .same ↔ a = b ∨ ∃ v, read a = .ok v ∧ read b = .ok v := by
  constructor
  · intro same
    rcases change_cases a b with ⟨equal, -⟩ | ⟨v, w, before, after, decided⟩ | ⟨-, -, unknown⟩
    · exact .inl equal
    · have equal := Change.ofOrdering_eq_same.mp (decided.symm.trans same)
      exact .inr ⟨v, before, precedence_eq_iff.mp equal ▸ after⟩
    · rw [unknown] at same
      cases same
  · rintro (rfl | ⟨v, before, after⟩)
    · exact change_self a
    · rw [change_of_read before after, precedence_self, Change.ofOrdering]

theorem change_eq_upgrade_iff :
    change a b = .upgrade ↔
      ∃ v w, read a = .ok v ∧ read b = .ok w ∧ precedence v w = .lt := by
  constructor
  · intro upgrade
    rcases change_cases a b with ⟨-, same⟩ | ⟨v, w, before, after, decided⟩ | ⟨-, -, unknown⟩
    · rw [same] at upgrade
      cases upgrade
    · exact ⟨v, w, before, after, Change.ofOrdering_eq_upgrade.mp (decided.symm.trans upgrade)⟩
    · rw [unknown] at upgrade
      cases upgrade
  · rintro ⟨v, w, before, after, less⟩
    rw [change_of_read before after, less, Change.ofOrdering]

theorem change_eq_upgrade_iff_downgrade : change a b = .upgrade ↔ change b a = .downgrade := by
  rw [change_inverse b a]
  cases change a b <;> decide

theorem change_congr (left : read a = .ok v) (right : read b = .ok v) (c : String) :
    change a c = change b c := by
  by_cases readable : Readable c
  · obtain ⟨w, other⟩ := readable
    rw [change_of_read left other, change_of_read right other]
  · have differs {s : String} (own : read s = .ok v) : s ≠ c := fun same =>
      readable ⟨v, same ▸ own⟩
    have unread {s : String} : ¬(Readable s ∧ Readable c) := fun both => readable both.2
    rw [change_of_unread (differs left) unread, change_of_unread (differs right) unread]

end

theorem same_equivalence : Equivalence fun a b : String => change a b = .same := by
  refine ⟨change_self, ?_, ?_⟩
  · intro a b same
    rw [change_inverse, same, Change.inverse]
  · intro a b c first second
    rcases change_eq_same_iff.mp first with rfl | ⟨v, left, right⟩
    · exact second
    · rw [change_congr left right, second]

theorem upgrade_trans {a b c : String} (first : change a b = .upgrade)
    (second : change b c = .upgrade) : change a c = .upgrade := by
  obtain ⟨u, v, start, middle, less⟩ := change_eq_upgrade_iff.mp first
  obtain ⟨v', w, middle', target, more⟩ := change_eq_upgrade_iff.mp second
  cases middle.symm.trans middle'
  exact change_eq_upgrade_iff.mpr ⟨u, w, start, target, precedence_trans less more⟩

end Version

namespace Rollout

theorem order_eq_nodesFirst_iff {running target : String} :
    order (some running) target = .nodesFirst ↔ Version.change running target = .upgrade := by
  simp only [order, Option.map_some]
  cases Version.change running target <;> decide

theorem order_eq_controllersFirst_iff {running target : String} :
    order (some running) target = .controllersFirst ↔
      Version.change running target = .downgrade := by
  simp only [order, Option.map_some]
  cases Version.change running target <;> decide

end Rollout

namespace Version

/-- Over all texts the change between two is the inverse of the change back, unknown only where a
    text is no version, an equivalence where it is none, and transitive upwards; and what is the
    same version can be put in its place. So the rollout turns round with the change. -/
theorem change_is_consistent :
    (∀ a b, change a b = (change b a).inverse) ∧
    (∀ a b, change a b = .unknown ↔ a ≠ b ∧ (¬Readable a ∨ ¬Readable b)) ∧
    (∀ a b, change a b = .same ↔ a = b ∨ ∃ v, read a = .ok v ∧ read b = .ok v) ∧
    (Equivalence fun a b : String => change a b = .same) ∧
    (∀ a b c, change a b = .upgrade → change b c = .upgrade → change a c = .upgrade) ∧
    (∀ a b, Readable a → Readable b → change a b = .same →
      ∀ c, change a c = change b c ∧ change c a = change c b) ∧
    ∀ a b, Rollout.order (some a) b = .nodesFirst ↔
      Rollout.order (some b) a = .controllersFirst := by
  refine ⟨change_inverse, fun a b => change_eq_unknown_iff, fun a b => change_eq_same_iff,
    same_equivalence, fun a b c => upgrade_trans, ?_, ?_⟩
  · intro a b left _ same c
    have forth : change a c = change b c := by
      rcases change_eq_same_iff.mp same with rfl | ⟨v, left, right⟩
      · rfl
      · exact change_congr left right c
    refine ⟨forth, ?_⟩
    rw [change_inverse c a, forth, ← change_inverse c b]
  · intro a b
    rw [Rollout.order_eq_nodesFirst_iff, Rollout.order_eq_controllersFirst_iff,
      change_eq_upgrade_iff_downgrade]

theorem candidates_change_consistently :
    change "4.14.0-rc.9" "4.14.0-rc.10" = .upgrade ∧ change "4.14.0-rc.10" " v4.14" = .upgrade ∧
      change "4.14.0-rc.9" " v4.14" = .upgrade ∧
      (Readable " v4.14" ∧ Readable "4.14.0" ∧ change " v4.14" "4.14.0" = .same) ∧
      (change " v4.14" "4.14.0-rc.9" = .downgrade ∧ change "4.14.0" "4.14.0-rc.9" = .downgrade) ∧
      change "latest" " v4.14" = .unknown := by
  obtain ⟨inverse, unknown, -, -, transitive, replace, -⟩ := change_is_consistent
  have first : change "4.14.0-rc.9" "4.14.0-rc.10" = .upgrade := by decide +kernel
  have second : change "4.14.0-rc.10" " v4.14" = .upgrade := by decide +kernel
  have through := transitive _ _ _ first second
  have spelled : Readable " v4.14" := ⟨⟨4, 14, 0, ""⟩, by rfl⟩
  have plain : Readable "4.14.0" := ⟨⟨4, 14, 0, ""⟩, by rfl⟩
  have same : change " v4.14" "4.14.0" = .same := by decide +kernel
  have back : change " v4.14" "4.14.0-rc.9" = .downgrade := by
    rw [inverse, through, Change.inverse]
  have replaced := (replace _ _ spelled plain same "4.14.0-rc.9").1
  have unread : ¬Readable "latest" := by
    rintro ⟨v, found⟩
    cases found
  exact ⟨first, second, through, ⟨spelled, plain, same⟩, ⟨back, replaced ▸ back⟩,
    (unknown _ _).mpr ⟨by decide, .inl unread⟩⟩

end Version
end ClusterNet
