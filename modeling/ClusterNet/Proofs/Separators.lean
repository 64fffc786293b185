import ClusterNet.Proofs.Labels

/- Texts that are joined by a separator. A text without the separator is read back from before the
   first one, so what was joined can be told apart again. -/
namespace ClusterNet

section

variable {separator : Char} {text : List Char}

theorem ne_of_plain (plain : separator ∉ text) : ∀ c ∈ text, decide (c ≠ separator) = true := by
  intro c member
  exact decide_eq_true fun same => plain (same ▸ member)

theorem takeWhile_before (plain : separator ∉ text) (rest : List Char) :
    (text ++ separator :: rest).takeWhile (· ≠ separator) = text := by
  rw [List.takeWhile_append_of_pos (ne_of_plain plain)]
  simp

theorem dropWhile_before (plain : separator ∉ text) (rest : List Char) :
    (text ++ separator :: rest).dropWhile (· ≠ separator) = separator :: rest := by
  rw [List.dropWhile_append_of_pos (ne_of_plain plain)]
  simp

theorem eq_of_joined {other left right : List Char} (plain : separator ∉ text)
    (plain' : separator ∉ other) (same : text ++ separator :: left = other ++ separator :: right) :
    text = other ∧ left = right := by
  have heads := congrArg (List.takeWhile (· ≠ separator)) same
  rw [takeWhile_before plain, takeWhile_before plain'] at heads
  subst heads
  exact ⟨rfl, List.cons_inj_right separator |>.mp (List.append_cancel_left same)⟩

end

theorem mem_joined {separator c : Char} {parts : List (List Char)}
    (member : c ∈ [separator].intercalate parts) : c = separator ∨ ∃ part ∈ parts, c ∈ part := by
  induction parts with
  | nil => simp at member
  | cons first rest ih =>
    cases rest with
    | nil =>
      have own : c ∈ first := by simpa using member
      exact .inr ⟨first, List.mem_cons_self, own⟩
    | cons second others =>
      have shape : [separator].intercalate (first :: second :: others) =
          first ++ separator :: [separator].intercalate (second :: others) := by simp
      rw [shape, List.mem_append, List.mem_cons] at member
      rcases member with own | between | later
      · exact .inr ⟨first, List.mem_cons_self, own⟩
      · exact .inl between
      · rcases ih later with between | ⟨part, listed, inside⟩
        · exact .inl between
        · exact .inr ⟨part, List.mem_cons_of_mem _ listed, inside⟩

theorem eq_of_slash_joined {first second left right : String} (plain : '/' ∉ first.toList)
    (plain' : '/' ∉ second.toList) (same : first ++ "/" ++ left = second ++ "/" ++ right) :
    first = second ∧ left = right := by
  have chars : first.toList ++ '/' :: left.toList = second.toList ++ '/' :: right.toList := by
    simpa using congrArg String.toList same
  obtain ⟨heads, tails⟩ := eq_of_joined plain plain' chars
  exact ⟨String.toList_inj.mp heads, String.toList_inj.mp tails⟩

theorem eq_of_slash_ended {first second left right : String} (plain : '/' ∉ left.toList)
    (plain' : '/' ∉ right.toList) (same : first ++ "/" ++ left = second ++ "/" ++ right) :
    first = second ∧ left = right := by
  have chars : left.toList.reverse ++ '/' :: first.toList.reverse =
      right.toList.reverse ++ '/' :: second.toList.reverse := by
    simpa using congrArg (·.toList.reverse) same
  have ends := eq_of_joined (by simpa using plain) (by simpa using plain') chars
  exact ⟨String.toList_inj.mp (List.reverse_injective ends.2),
    String.toList_inj.mp (List.reverse_injective ends.1)⟩

theorem Label.plain_of_valid {label : String} (valid : fault? label = none) :
    '/' ∉ label.toList := by
  intro slash
  exact absurd ((fault?_eq_none_iff.mp valid).chars '/' slash) (by decide)

end ClusterNet
