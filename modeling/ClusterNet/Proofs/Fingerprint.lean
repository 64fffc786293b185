import Mathlib.Data.List.Perm.Basic
import ClusterNet.Pass
import ClusterNet.Proofs.Extents
import ClusterNet.Proofs.Rearrangement

/- What the hash of a configuration tells apart: the text that is hashed is the same for two values
   if and only if they differ in the order of keys only. -/
namespace ClusterNet.Json

/-- Equal up to the order of keys at any depth, numbers as they are written. -/
abbrev SameConfiguration : Json → Json → Prop := Alike fun m n => writeNumber m = writeNumber n

def SameCanonicalEntry (x y : String × Json) : Prop :=
  SameEntryText (canonicalEntry x) (canonicalEntry y)

theorem keys_eq_of_sameEntryText {xs ys : List (String × Json)}
    (entries : List.Forall₂ SameEntryText xs ys) : xs.map Prod.fst = ys.map Prod.fst := by
  induction entries with
  | nil => rfl
  | cons entry _ ih => rw [List.map_cons, List.map_cons, entry.1, ih]

theorem sorted_of_sameEntryText {xs ys : List (String × Json)}
    (entries : List.Forall₂ SameEntryText xs ys) (sorted : Sorted xs) : Sorted ys := by
  have keys : (xs.map Prod.fst).Pairwise (· < ·) := List.pairwise_map.mpr sorted
  rw [keys_eq_of_sameEntryText entries] at keys
  exact List.pairwise_map.mp keys

/-- Sorting makes entries meet that correspond in some order, and only those. -/
theorem canonicalEntries_sameText_iff {xs ys : List (String × Json)}
    (left : (xs.map Prod.fst).Nodup) (right : (ys.map Prod.fst).Nodup) :
    List.Forall₂ SameEntryText (canonicalEntries xs) (canonicalEntries ys) ↔
      ∃ zs, List.Forall₂ SameCanonicalEntry xs zs ∧ zs.Perm ys := by
  have leftPerm := canonicalEntries_perm left
  have rightPerm := canonicalEntries_perm right
  constructor
  · intro entries
    obtain ⟨ws, paired, moved⟩ := List.perm_comp_forall₂ leftPerm.symm entries
    have images : List.Forall₂ (fun w y => w = canonicalEntry y) (ys.map canonicalEntry) ys :=
      List.forall₂_map_left_iff.mpr (List.forall₂_same.mpr fun _ _ => rfl)
    obtain ⟨zs, sources, permuted⟩ := List.perm_comp_forall₂ (moved.trans rightPerm) images
    have written : ws = zs.map canonicalEntry := by
      rwa [← List.forall₂_eq_eq_eq, List.forall₂_map_right_iff]
    rw [written, List.forall₂_map_left_iff, List.forall₂_map_right_iff] at paired
    exact ⟨zs, paired, permuted⟩
  · rintro ⟨zs, paired, permuted⟩
    have images : List.Forall₂ SameEntryText (xs.map canonicalEntry) (zs.map canonicalEntry) :=
      List.forall₂_map_left_iff.mpr (List.forall₂_map_right_iff.mpr paired)
    obtain ⟨ws, entries, moved⟩ := List.perm_comp_forall₂ leftPerm images
    have sorted := sorted_of_sameEntryText entries (sorted_canonicalEntries xs)
    have meet := (moved.trans (permuted.map canonicalEntry)).trans rightPerm.symm
    rwa [eq_of_perm_of_sorted meet sorted (sorted_canonicalEntries ys)] at entries

theorem shape_canonical (a : Json) : a.canonical.shape = a.shape := by
  cases a <;> rfl

theorem shape_of_alike {same : Number → Number → Prop} {a b : Json} (alike : Alike same a b) :
    a.shape = b.shape := by
  cases alike <;> rfl

theorem sameText_canonical_iff_of_shape_ne {a b : Json} (different : a.shape ≠ b.shape) :
    SameText a.canonical b.canonical ↔ SameConfiguration a b := by
  refine iff_of_false (fun same => different ?_) (fun same => different (shape_of_alike same))
  simpa only [shape_canonical] using shape_of_sameText same

mutual

/-- By recursion on the first value; of the second, only the kind of the first is left to compare.
    -/
theorem sameText_canonical_iff : (a b : Json) → a.Distinct → b.Distinct →
    (SameText a.canonical b.canonical ↔ SameConfiguration a b)
  | .null, b, _, _ => by
    cases b with
    | null => exact iff_of_true rfl .null
    | _ => exact sameText_canonical_iff_of_shape_ne nofun
  | .boolean x, b, _, _ => by
    cases b with
    | boolean y =>
      constructor
      · intro same
        have texts : write (.boolean x) = write (.boolean y) := same
        cases x <;> cases y <;> first | exact .boolean _ | exact absurd texts (by decide)
      · rintro ⟨⟩
        rfl
    | _ => exact sameText_canonical_iff_of_shape_ne nofun
  | .number m, b, _, _ => by
    cases b with
    | number n => exact ⟨fun equal => .number equal, fun | .number equal => equal⟩
    | _ => exact sameText_canonical_iff_of_shape_ne nofun
  | .text s, b, _, _ => by
    cases b with
    | text t =>
      constructor
      · intro same
        have texts : s = t := (writeText_append_inj (congrArg (· ++ []) same)).1
        exact texts ▸ .text s
      · rintro ⟨⟩
        rfl
    | _ => exact sameText_canonical_iff_of_shape_ne nofun
  | .list xs, b, left, right => by
    cases b with
    | list ys =>
      have items := sameText_canonicalItems_iff xs ys left right
      exact write_list_eq_iff.trans (items.trans ⟨.list, fun | .list items => items⟩)
    | _ => exact sameText_canonical_iff_of_shape_ne nofun
  | .object xs, b, ⟨leftOnce, left⟩, right => by
    cases b with
    | object ys =>
      obtain ⟨rightOnce, right⟩ := right
      have entries (zs : List (String × Json)) (permuted : zs.Perm ys) :=
        sameCanonicalEntries_iff xs zs left
          (distinctEntries_iff.mpr fun z member =>
            distinctEntries_iff.mp right z (permuted.mem_iff.mp member))
      refine write_object_eq_iff.trans ((canonicalEntries_sameText_iff leftOnce rightOnce).trans ?_)
      constructor
      · rintro ⟨zs, paired, permuted⟩
        exact .object ((entries zs permuted).mp paired) permuted
      · intro alike
        cases alike with
        | object paired permuted => exact ⟨_, (entries _ permuted).mpr paired, permuted⟩
    | _ => exact sameText_canonical_iff_of_shape_ne nofun

theorem sameText_canonicalItems_iff : (xs ys : List Json) → DistinctItems xs → DistinctItems ys →
    (List.Forall₂ SameText (canonicalItems xs) (canonicalItems ys) ↔
      AlikeItems (fun m n => writeNumber m = writeNumber n) xs ys)
  | [], [], _, _ => iff_of_true .nil .nil
  | [], _ :: _, _, _ => iff_of_false nofun nofun
  | _ :: _, [], _, _ => iff_of_false nofun nofun
  | x :: xs, y :: ys, ⟨leftFirst, leftRest⟩, ⟨rightFirst, rightRest⟩ => by
    have first := sameText_canonical_iff x y leftFirst rightFirst
    have rest := sameText_canonicalItems_iff xs ys leftRest rightRest
    rw [canonicalItems, canonicalItems, List.forall₂_cons, first, rest]
    exact ⟨fun ⟨item, items⟩ => .cons item items, fun | .cons item items => ⟨item, items⟩⟩

theorem sameCanonicalEntries_iff : (xs zs : List (String × Json)) →
    DistinctEntries xs → DistinctEntries zs →
    (List.Forall₂ SameCanonicalEntry xs zs ↔
      AlikeEntries (fun m n => writeNumber m = writeNumber n) xs zs)
  | [], [], _, _ => iff_of_true .nil .nil
  | [], _ :: _, _, _ => iff_of_false nofun nofun
  | _ :: _, [], _, _ => iff_of_false nofun nofun
  | (key, x) :: xs, (key', y) :: ys, ⟨leftFirst, leftRest⟩, ⟨rightFirst, rightRest⟩ => by
    have first := sameText_canonical_iff x y leftFirst rightFirst
    have rest := sameCanonicalEntries_iff xs ys leftRest rightRest
    rw [List.forall₂_cons, rest]
    constructor
    · rintro ⟨⟨rfl, value⟩, entries⟩
      exact .cons _ (first.mp value) entries
    · intro alike
      cases alike with
      | cons _ value entries => exact ⟨⟨rfl, first.mpr value⟩, entries⟩

end

theorem compact_inj {a b : Json} : a.compact = b.compact ↔ SameText a b := String.ofList_inj

def IsScalar (a : Json) : Prop := a.shape ≠ .list ∧ a.shape ≠ .object

theorem canonical_of_isScalar {a : Json} (scalar : a.IsScalar) : a.canonical = a := by
  cases a with
  | list items => exact absurd rfl scalar.1
  | object entries => exact absurd rfl scalar.2
  | _ => rfl

end Json

namespace Pass

/-- Configurations are hashed alike if they are the same one; if they are not, their texts differ,
    and only the digest could make them meet. -/
theorem hashOf_eq_iff {a b : Json} (left : a.Distinct) (right : b.Distinct) :
    hashOf a = hashOf b ↔ a.SameConfiguration b ∨
      (a.canonical.compact ≠ b.canonical.compact ∧
        Digest.sha256 a.canonical.compact = Digest.sha256 b.canonical.compact) := by
  have texts : a.canonical.compact = b.canonical.compact ↔ a.SameConfiguration b :=
    Json.compact_inj.trans (Json.sameText_canonical_iff a b left right)
  rw [← texts]
  constructor
  · intro hashes
    by_cases same : a.canonical.compact = b.canonical.compact
    · exact .inl same
    · exact .inr ⟨same, hashes⟩
  · rintro (same | ⟨-, hashes⟩)
    · exact congrArg Digest.sha256 same
    · exact hashes

/-- The text that is hashed, and so the hash, is that of the configuration: the order of keys is
    lost, the order of lists and every scalar are kept. -/
theorem hash_identifies_configuration {a b : Json} (left : a.Distinct) (right : b.Distinct) :
    (a.canonical.compact = b.canonical.compact ↔ a.SameConfiguration b) ∧
    a.canonical.canonical = a.canonical ∧
    (a.IsScalar → a.canonical = a) ∧
    (∀ items, a = .list items → a.canonical = .list (items.map Json.canonical)) ∧
    (∀ entries, a = .object entries → ∃ sorted, a.canonical = .object sorted ∧ Sorted sorted ∧
      sorted.Perm (entries.map Json.canonicalEntry)) ∧
    (hashOf a = hashOf b ↔ a.SameConfiguration b ∨
      (a.canonical.compact ≠ b.canonical.compact ∧
        Digest.sha256 a.canonical.compact = Digest.sha256 b.canonical.compact)) := by
  refine ⟨Json.compact_inj.trans (Json.sameText_canonical_iff a b left right),
    Json.canonical_idempotent a, Json.canonical_of_isScalar, ?lists, ?objects,
    hashOf_eq_iff left right⟩
  case lists =>
    rintro items rfl
    exact congrArg Json.list (Json.canonicalItems_eq_map items)
  case objects =>
    rintro entries rfl
    exact ⟨_, rfl, Json.sorted_canonicalEntries entries, Json.canonicalEntries_perm left.1⟩

def outerFirst : Json :=
  .object [("outer", .object [("z", .natural 1),
    ("a", .list [.object [("y", .boolean true), ("b", .null)]])])]

def outerReversed : Json :=
  .object [("outer", .object [("a", .list [.object [("b", .null), ("y", .boolean true)]]),
    ("z", .natural 1)])]

theorem outerFirst_distinct : outerFirst.Distinct :=
  ⟨by decide, ⟨by decide, trivial, ⟨⟨by decide, trivial, trivial, trivial⟩, trivial⟩, trivial⟩,
    trivial⟩

theorem outerReversed_distinct : outerReversed.Distinct :=
  ⟨by decide, ⟨by decide, ⟨⟨by decide, trivial, trivial, trivial⟩, trivial⟩, trivial, trivial⟩,
    trivial⟩

theorem outerFirst_sameConfiguration : outerFirst.SameConfiguration outerReversed := by
  have inner : Json.SameConfiguration (.object [("y", .boolean true), ("b", .null)])
      (.object [("b", .null), ("y", .boolean true)]) :=
    .object (.cons "y" (.boolean true) (.cons "b" .null .nil)) (.swap ..)
  have outer : Json.SameConfiguration
      (.object [("z", .natural 1), ("a", .list [.object [("y", .boolean true), ("b", .null)]])])
      (.object [("a", .list [.object [("b", .null), ("y", .boolean true)]]), ("z", .natural 1)]) :=
    .object (.cons "z" (.number rfl) (.cons "a" (.list (.cons inner .nil)) .nil)) (.swap ..)
  exact .object (.cons "outer" outer .nil) (.refl _)

theorem outerFirst_hash : outerFirst.Distinct ∧ outerReversed.Distinct ∧
    outerFirst ≠ outerReversed ∧ hashOf outerFirst = hashOf outerReversed := by
  refine ⟨outerFirst_distinct, outerReversed_distinct, by decide, ?_⟩
  have identified := hash_identifies_configuration outerFirst_distinct outerReversed_distinct
  exact identified.2.2.2.2.2.mpr (.inl outerFirst_sameConfiguration)

end Pass
end ClusterNet
