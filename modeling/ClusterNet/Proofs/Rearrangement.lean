import Mathlib.Data.List.Forall2
import ClusterNet.Json.Canonical
import ClusterNet.Proofs.Entries

/- JSON values that differ in the order of the entries of their objects only. The canonical form is
   such a rearrangement, and the one in which the keys of every object ascend. -/
namespace ClusterNet

theorem put_perm {key : String} {entries : List (String × α)} (absent : lookup key entries = none)
    (value : α) : (put key value entries).Perm ((key, value) :: entries) := by
  induction entries with
  | nil => exact .refl _
  | cons entry rest ih =>
    obtain ⟨k, v⟩ := entry
    have different : k ≠ key := by
      intro same
      rw [lookup, if_pos same] at absent
      cases absent
    rw [lookup, if_neg different] at absent
    rw [put, if_neg (Ne.symm different)]
    split
    · exact .refl _
    · exact ((ih absent).cons (k, v)).trans (.swap ..)

theorem put_of_sorted {key : String} {value : α} {entries : List (String × α)}
    (sorted : Sorted ((key, value) :: entries)) :
    put key value entries = (key, value) :: entries := by
  cases entries with
  | nil => rfl
  | cons entry rest =>
    have before : key < entry.1 := List.rel_of_pairwise_cons sorted List.mem_cons_self
    have different : key ≠ entry.1 := fun same => String.lt_irrefl _ (same ▸ before)
    rw [put, if_neg different, if_pos before]

/-- Entries are put in order in one way only. -/
theorem eq_of_perm_of_sorted {xs ys : List (String × α)} (permuted : xs.Perm ys)
    (left : Sorted xs) (right : Sorted ys) : xs = ys :=
  permuted.eq_of_pairwise
    (fun _ _ _ _ before after => absurd (String.lt_trans before after) (String.lt_irrefl _))
    left right

namespace Json

section

variable (same : Number → Number → Prop)

mutual

/-- Equal up to the order of entries at any depth; when two numbers count as equal is given. -/
inductive Alike : Json → Json → Prop
  | null : Alike .null .null
  | boolean (b : Bool) : Alike (.boolean b) (.boolean b)
  | number {m n : Number} (equal : same m n) : Alike (.number m) (.number n)
  | text (s : String) : Alike (.text s) (.text s)
  | list {xs ys : List Json} (items : AlikeItems xs ys) : Alike (.list xs) (.list ys)
  | object {xs zs ys : List (String × Json)} (entries : AlikeEntries xs zs)
      (permuted : zs.Perm ys) : Alike (.object xs) (.object ys)

inductive AlikeItems : List Json → List Json → Prop
  | nil : AlikeItems [] []
  | cons {x y : Json} {xs ys : List Json} (item : Alike x y) (rest : AlikeItems xs ys) :
      AlikeItems (x :: xs) (y :: ys)

inductive AlikeEntries : List (String × Json) → List (String × Json) → Prop
  | nil : AlikeEntries [] []
  | cons {x y : Json} {xs ys : List (String × Json)} (key : String) (value : Alike x y)
      (rest : AlikeEntries xs ys) : AlikeEntries ((key, x) :: xs) ((key, y) :: ys)

end

end

/-- The same value with the entries of its objects in some order. -/
abbrev Rearranged : Json → Json → Prop := Alike Eq

mutual

def Distinct : Json → Prop
  | .list items => DistinctItems items
  | .object entries => (entries.map Prod.fst).Nodup ∧ DistinctEntries entries
  | .null | .boolean _ | .number _ | .text _ => True

def DistinctItems : List Json → Prop
  | [] => True
  | item :: rest => Distinct item ∧ DistinctItems rest

def DistinctEntries : List (String × Json) → Prop
  | [] => True
  | (_, value) :: rest => Distinct value ∧ DistinctEntries rest

end

theorem distinctEntries_iff {entries : List (String × Json)} :
    DistinctEntries entries ↔ ∀ entry ∈ entries, Distinct entry.2 := by
  induction entries with
  | nil => simp [DistinctEntries]
  | cons entry rest ih => simp [DistinctEntries, ih]

section

variable {same : Number → Number → Prop}

theorem alikeItems_iff {xs ys : List Json} :
    AlikeItems same xs ys ↔ List.Forall₂ (Alike same) xs ys := by
  constructor
  · intro items
    induction xs generalizing ys with
    | nil => cases items; exact .nil
    | cons x xs ih =>
      cases items with
      | cons item rest => exact .cons item (ih rest)
  · intro items
    induction items with
    | nil => exact .nil
    | cons item _ ih => exact .cons item ih

theorem alikeEntries_iff {xs ys : List (String × Json)} :
    AlikeEntries same xs ys ↔
      List.Forall₂ (fun x y => x.1 = y.1 ∧ Alike same x.2 y.2) xs ys := by
  constructor
  · intro entries
    induction xs generalizing ys with
    | nil => cases entries; exact .nil
    | cons x xs ih =>
      cases entries with
      | cons key value rest => exact .cons ⟨rfl, value⟩ (ih rest)
  · intro entries
    induction entries with
    | nil => exact .nil
    | @cons x y _ _ entry _ ih =>
      obtain ⟨key, value⟩ := x
      obtain ⟨rfl, alike⟩ := entry
      exact .cons _ alike ih

end

section

variable {same : Number → Number → Prop}

mutual

theorem Alike.refl (reflexive : ∀ n, same n n) : (a : Json) → Alike same a a
  | .null => .null
  | .boolean b => .boolean b
  | .number n => .number (reflexive n)
  | .text s => .text s
  | .list items => .list (AlikeItems.refl reflexive items)
  | .object entries => .object (AlikeEntries.refl reflexive entries) (.refl _)

theorem AlikeItems.refl (reflexive : ∀ n, same n n) : (items : List Json) →
    AlikeItems same items items
  | [] => .nil
  | item :: rest => .cons (Alike.refl reflexive item) (AlikeItems.refl reflexive rest)

theorem AlikeEntries.refl (reflexive : ∀ n, same n n) : (entries : List (String × Json)) →
    AlikeEntries same entries entries
  | [] => .nil
  | (key, value) :: rest =>
    .cons key (Alike.refl reflexive value) (AlikeEntries.refl reflexive rest)

end

end

def canonicalEntry (entry : String × Json) : String × Json := (entry.1, canonical entry.2)

theorem map_canonicalEntry_fst (entries : List (String × Json)) :
    (entries.map canonicalEntry).map Prod.fst = entries.map Prod.fst := by
  rw [List.map_map]
  rfl

theorem canonicalEntries_perm {entries : List (String × Json)}
    (distinct : (entries.map Prod.fst).Nodup) :
    (canonicalEntries entries).Perm (entries.map canonicalEntry) := by
  induction entries with
  | nil => exact .refl _
  | cons entry rest ih =>
    obtain ⟨key, value⟩ := entry
    obtain ⟨new, later⟩ := List.nodup_cons.mp distinct
    have tail := ih later
    have absent : lookup key (canonicalEntries rest) = none := by
      rw [lookup_eq_none_iff, (tail.map Prod.fst).mem_iff, map_canonicalEntry_fst]
      exact new
    rw [canonicalEntries]
    exact (put_perm absent _).trans (tail.cons _)

theorem mem_canonicalEntries {entries : List (String × Json)} {entry : String × Json}
    (member : entry ∈ canonicalEntries entries) : entry ∈ entries.map canonicalEntry := by
  induction entries with
  | nil => exact member
  | cons head rest ih =>
    rw [canonicalEntries] at member
    rcases mem_put member with first | later
    · exact first ▸ List.mem_cons_self
    · exact List.mem_cons_of_mem _ (ih later)

theorem canonicalEntries_of_sorted {entries : List (String × Json)} (sorted : Sorted entries)
    (settled : ∀ entry ∈ entries, canonical entry.2 = entry.2) :
    canonicalEntries entries = entries := by
  induction entries with
  | nil => rfl
  | cons entry rest ih =>
    obtain ⟨key, value⟩ := entry
    obtain ⟨first, later⟩ := List.forall_mem_cons.mp settled
    rw [canonicalEntries, ih sorted.of_cons later, first, put_of_sorted sorted]

mutual

theorem canonical_idempotent : (a : Json) → a.canonical.canonical = a.canonical
  | .null | .boolean _ | .number _ | .text _ => rfl
  | .list items => by
    rw [canonical, canonical, canonicalItems_idempotent items]
  | .object entries => by
    rw [canonical, canonical]
    refine congrArg object (canonicalEntries_of_sorted (sorted_canonicalEntries entries) ?_)
    intro entry member
    obtain ⟨given, listed, rfl⟩ := List.mem_map.mp (mem_canonicalEntries member)
    exact canonicalValues_idempotent entries given listed

theorem canonicalItems_idempotent : (items : List Json) →
    canonicalItems (canonicalItems items) = canonicalItems items
  | [] => rfl
  | item :: rest => by
    rw [canonicalItems, canonicalItems, canonical_idempotent item, canonicalItems_idempotent rest]

theorem canonicalValues_idempotent : (entries : List (String × Json)) →
    ∀ entry ∈ entries, entry.2.canonical.canonical = entry.2.canonical
  | [] => fun _ member => absurd member List.not_mem_nil
  | (_, value) :: rest => List.forall_mem_cons.mpr
    ⟨canonical_idempotent value, canonicalValues_idempotent rest⟩

end

section

variable {same : Number → Number → Prop}

mutual

theorem alike_canonical (reflexive : ∀ n, same n n) :
    (a : Json) → a.Distinct → Alike same a a.canonical
  | .null, _ => .null
  | .boolean b, _ => .boolean b
  | .number n, _ => .number (reflexive n)
  | .text s, _ => .text s
  | .list items, distinct => .list (alikeItems_canonical reflexive items distinct)
  | .object entries, ⟨once, distinct⟩ =>
    .object (alikeEntries_canonical reflexive entries distinct) (canonicalEntries_perm once).symm

theorem alikeItems_canonical (reflexive : ∀ n, same n n) :
    (items : List Json) → DistinctItems items → AlikeItems same items (canonicalItems items)
  | [], _ => .nil
  | item :: rest, ⟨first, later⟩ =>
    .cons (alike_canonical reflexive item first) (alikeItems_canonical reflexive rest later)

theorem alikeEntries_canonical (reflexive : ∀ n, same n n) :
    (entries : List (String × Json)) → DistinctEntries entries →
      AlikeEntries same entries (entries.map canonicalEntry)
  | [], _ => .nil
  | (key, value) :: rest, ⟨first, later⟩ =>
    .cons key (alike_canonical reflexive value first) (alikeEntries_canonical reflexive rest later)

end

end

end Json
end ClusterNet
