import ClusterNet.Text.Blank

/- Removing white space at both ends. A text without any keeps all of its characters, and white
   space that is put around a text is removed with that of the text itself. -/
namespace ClusterNet.Text

section

variable {cs blank : List Char}

theorem dropBlank_of_unblank (plain : ∀ c ∈ cs, isBlank c = false) : dropBlank cs = cs := by
  cases cs with
  | nil => rfl
  | cons c rest => exact dropBlank_of_not_isBlank rest (plain c List.mem_cons_self)

theorem dropFinalBlank_of_unblank (plain : ∀ c ∈ cs, isBlank c = false) :
    dropFinalBlank cs = cs := by
  have back : dropBlank cs.reverse = cs.reverse := by
    apply dropBlank_of_unblank
    intro c member
    exact plain c (List.mem_reverse.mp member)
  rw [dropFinalBlank, ← dropBlank, back, List.reverse_reverse]

theorem trim_of_unblank {s : String} (plain : ∀ c ∈ s.toList, isBlank c = false) : trim s = s := by
  rw [trim, dropBlank_of_unblank plain, dropFinalBlank_of_unblank plain, String.ofList_toList]

theorem dropBlank_append (white : ∀ c ∈ blank, isBlank c = true) (cs : List Char) :
    dropBlank (blank ++ cs) = dropBlank cs := List.dropWhile_append_of_pos white

theorem dropFinalBlank_append (cs : List Char) (white : ∀ c ∈ blank, isBlank c = true) :
    dropFinalBlank (cs ++ blank) = dropFinalBlank cs := by
  have back : ∀ c ∈ blank.reverse, isBlank c = true := by
    intro c member
    exact white c (List.mem_reverse.mp member)
  rw [dropFinalBlank, dropFinalBlank, List.reverse_append, ← dropBlank, dropBlank_append back,
    dropBlank]

theorem dropFinalBlank_append_lost (cs : List Char) :
    ∃ lost, (∀ c ∈ lost, isBlank c = true) ∧ dropFinalBlank cs ++ lost = cs := by
  refine ⟨(cs.reverse.takeWhile isBlank).reverse, ?_, ?_⟩
  · intro c member
    exact List.all_eq_true.mp List.all_takeWhile c (List.mem_reverse.mp member)
  · rw [dropFinalBlank, ← List.reverse_append, List.takeWhile_append_dropWhile,
      List.reverse_reverse]

theorem getLast?_dropFinalBlank (cs : List Char) :
    ∀ c ∈ (dropFinalBlank cs).getLast?, isBlank c = false := by
  intro c last
  have first := List.head?_dropWhile_not isBlank cs.reverse
  rw [dropFinalBlank, List.getLast?_reverse] at last
  rwa [Option.mem_def.mp last] at first

/-- White space behind a text does not change where it starts, unless there is nothing else. -/
theorem dropBlank_append_or (cs : List Char) (white : ∀ c ∈ blank, isBlank c = true) :
    dropBlank (cs ++ blank) = dropBlank cs ++ blank ∨
      dropBlank (cs ++ blank) = [] ∧ dropBlank cs = [] := by
  induction cs with
  | nil =>
    have all := dropBlank_append white []
    rw [List.append_nil] at all
    exact .inr ⟨all, rfl⟩
  | cons c cs ih =>
    cases first : isBlank c with
    | true => simpa [dropBlank, first] using ih
    | false =>
      left
      rw [List.cons_append, dropBlank_of_not_isBlank _ first, dropBlank_of_not_isBlank _ first,
        List.cons_append]

theorem trim_surrounded {left right : String} (before : ∀ c ∈ left.toList, isBlank c = true)
    (s : String) (behind : ∀ c ∈ right.toList, isBlank c = true) :
    trim (left ++ s ++ right) = trim s := by
  rw [trim, trim, String.toList_append, String.toList_append, List.append_assoc,
    dropBlank_append before]
  rcases dropBlank_append_or s.toList behind with kept | ⟨all, none⟩
  · rw [kept, dropFinalBlank_append _ behind]
  · rw [all, none]

theorem mem_dropBlank_or {c : Char} (member : c ∈ cs) : c ∈ dropBlank cs ∨ isBlank c = true := by
  induction cs with
  | nil => cases member
  | cons d rest ih =>
    cases first : isBlank d with
    | false =>
      rw [dropBlank_of_not_isBlank rest first]
      exact .inl member
    | true =>
      rcases List.mem_cons.mp member with rfl | later
      · exact .inr first
      · rw [dropBlank, List.dropWhile_cons_of_pos first]
        exact ih later

theorem mem_trim_or {s : String} {c : Char} (member : c ∈ s.toList) :
    c ∈ (trim s).toList ∨ isBlank c = true := by
  rw [trim, String.toList_ofList, dropFinalBlank, List.mem_reverse, ← dropBlank]
  rcases mem_dropBlank_or member with kept | blank
  · exact mem_dropBlank_or (List.mem_reverse.mpr kept)
  · exact .inr blank

end

end ClusterNet.Text
