import Mathlib.Data.String.Basic
import ClusterNet.Label

/- Which texts are labels. The size of a label is measured in bytes; as all of its characters are
   ASCII, that is their number. -/
namespace ClusterNet

theorem Text.utf8ByteSize_of_ascii {s : String} (ascii : ∀ c ∈ s.toList, c.toNat < 128) :
    s.utf8ByteSize = s.length := by
  have sizes (cs : List Char) (ascii : ∀ c ∈ cs, c.toNat < 128) :
      String.utf8Len cs = cs.length := by
    induction cs with
    | nil => rfl
    | cons c cs ih =>
      obtain ⟨first, later⟩ := List.forall_mem_cons.mp ascii
      have one : c.utf8Size = 1 := Char.utf8Size_eq_one_iff.mpr (Nat.le_of_lt_succ first)
      rw [String.utf8Len_cons, ih later, one, List.length_cons]
  rw [← String.utf8Len_toList, sizes _ ascii, String.length_toList]

namespace Label

def Alphanumeric (c : Char) : Prop := 'a' ≤ c ∧ c ≤ 'z' ∨ '0' ≤ c ∧ c ≤ '9'

instance (c : Char) : Decidable (Alphanumeric c) := inferInstanceAs (Decidable (_ ∨ _))

structure WellFormed (label : String) : Prop where
  nonempty : 1 ≤ label.length
  short : label.length ≤ 63
  chars : ∀ c ∈ label.toList, Alphanumeric c ∨ c = '-'
  start : label.toList.head? ≠ some '-'
  finish : label.toList.getLast? ≠ some '-'

/-- The characters that end a line by Unicode. -/
def lineEnds : List Char := ['\n', '\x0b', '\x0c', '\r', '\x85', '\u2028', '\u2029']

theorem isAlphanumeric_iff {c : Char} : isAlphanumeric c = true ↔ Alphanumeric c := by
  have letter : c.isLower = (decide ('a' ≤ c) && decide (c ≤ 'z')) := rfl
  have digit : c.isDigit = (decide ('0' ≤ c) && decide (c ≤ '9')) := rfl
  simp [isAlphanumeric, Alphanumeric, letter, digit]

theorem ascii_of_allowed {c : Char} (allowed : Alphanumeric c ∨ c = '-') : c.toNat < 128 := by
  have bound {d : Char} (below : c ≤ d) : c.toNat ≤ d.toNat := below
  rcases allowed with (⟨-, letter⟩ | ⟨-, digit⟩) | rfl
  · exact Nat.lt_of_le_of_lt (bound letter) (by decide)
  · exact Nat.lt_of_le_of_lt (bound digit) (by decide)
  · decide

theorem fault?_eq_none_iff_checks {label : String} :
    fault? label = none ↔ label.utf8ByteSize ≤ 63 ∧ (∃ c ∈ label.toList.head?, Alphanumeric c) ∧
      label.toList.getLast? ≠ some '-' ∧ ∀ c ∈ label.toList, Alphanumeric c ∨ c = '-' := by
  unfold fault?
  cases label.toList with
  | nil => simp
  | cons c cs =>
    have allowed : (c :: cs).all (fun c => isAlphanumeric c || c = '-') = true ↔
        ∀ d ∈ c :: cs, Alphanumeric d ∨ d = '-' := by
      simp only [List.all_eq_true, Bool.or_eq_true, decide_eq_true_eq, isAlphanumeric_iff]
    have first : (∃ d ∈ (c :: cs).head?, Alphanumeric d) ↔ isAlphanumeric c = true := by
      simp [isAlphanumeric_iff]
    rw [← allowed, first]
    grind [longest]

theorem fault?_eq_none_iff {label : String} : fault? label = none ↔ WellFormed label := by
  have size (allowed : ∀ c ∈ label.toList, Alphanumeric c ∨ c = '-') :
      label.utf8ByteSize = label.length :=
    Text.utf8ByteSize_of_ascii fun c member => ascii_of_allowed (allowed c member)
  have hyphen : ¬Alphanumeric '-' := by decide
  rw [fault?_eq_none_iff_checks]
  constructor
  · rintro ⟨short, ⟨c, first, alphanumeric⟩, finish, chars⟩
    refine ⟨?_, size chars ▸ short, chars, ?_, finish⟩
    · rw [← String.length_toList]
      exact List.length_pos_of_mem (List.mem_of_mem_head? first)
    · rw [Option.mem_def.mp first]
      rintro ⟨⟩
      exact hyphen alphanumeric
  · intro well
    have some : 0 < label.toList.length := String.length_toList ▸ well.nonempty
    obtain ⟨c, rest, chars⟩ := List.exists_cons_of_length_pos some
    have first : label.toList.head? = .some c := by rw [chars, List.head?_cons]
    refine ⟨size well.chars ▸ well.short, ⟨c, first, ?_⟩, well.finish, well.chars⟩
    have plain : c ≠ '-' := fun same => well.start (same ▸ first)
    exact (well.chars c (List.mem_of_mem_head? first)).resolve_right plain

/-- A text is accepted if and only if it is one to 63 lowercase letters, digits and hyphens, and
    neither starts nor ends with a hyphen. No character of it is a slash, ends a line or is beyond
    ASCII. -/
theorem accepted_iff_wellFormed (label what : String) :
    (complaint? label what = none ↔ WellFormed label) ∧
      (complaint? label what = none →
        ∀ c ∈ label.toList, c ≠ '/' ∧ c ∉ lineEnds ∧ c.toNat < 128) := by
  have accepted : complaint? label what = none ↔ WellFormed label := by
    rw [complaint?, Option.map_eq_none_iff, fault?_eq_none_iff]
  refine ⟨accepted, ?_⟩
  intro none c member
  have allowed := (accepted.mp none).chars c member
  have others : ('/' :: lineEnds).all (fun d => ¬(Alphanumeric d ∨ d = '-')) = true := by decide
  have foreign : c ∉ '/' :: lineEnds := by
    intro listed
    exact of_decide_eq_true (List.all_eq_true.mp others c listed) allowed
  rw [List.mem_cons, not_or] at foreign
  exact ⟨foreign.1, foreign.2, ascii_of_allowed allowed⟩

theorem longest_label_is_accepted :
    let label := String.ofList ('0' :: List.replicate 61 '-' ++ ['z'])
    complaint? label "name" = none ∧ WellFormed label ∧
      ∀ c ∈ label.toList, c ≠ '/' ∧ c ∉ lineEnds ∧ c.toNat < 128 := by
  intro label
  have accepted : complaint? label "name" = none := by decide +kernel
  obtain ⟨grammar, plain⟩ := accepted_iff_wellFormed label "name"
  exact ⟨accepted, grammar.mp accepted, plain accepted⟩

end Label
end ClusterNet
