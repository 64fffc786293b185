import ClusterNet.Problem

/- What is left of a list of problems when repetitions are dropped: the same problems, each once. -/
namespace ClusterNet

def addNew (seen : List Problem) (problem : Problem) : List Problem :=
  if problem ∈ seen then seen else seen ++ [problem]

theorem distinct_eq_fold (problems : List Problem) :
    distinct problems = problems.foldl addNew [] := rfl

theorem mem_addNew {seen : List Problem} {problem other : Problem} :
    other ∈ addNew seen problem ↔ other ∈ seen ∨ other = problem := by
  unfold addNew
  split
  · next old =>
    constructor
    · exact Or.inl
    · rintro (member | rfl)
      · exact member
      · exact old
  · simp

theorem addNew_nodup {seen : List Problem} (nodup : seen.Nodup) (problem : Problem) :
    (addNew seen problem).Nodup := by
  unfold addNew
  split
  · exact nodup
  · next new =>
    refine List.nodup_append.mpr ⟨nodup, by simp, ?_⟩
    intro other member last single same
    rw [same, List.mem_singleton.mp single] at member
    exact new member

theorem mem_fold_addNew {problems seen : List Problem} {problem : Problem} :
    problem ∈ problems.foldl addNew seen ↔ problem ∈ seen ∨ problem ∈ problems := by
  induction problems generalizing seen with
  | nil => simp
  | cons head rest ih => rw [List.foldl_cons, ih, mem_addNew, List.mem_cons, or_assoc]

theorem fold_addNew_nodup (problems : List Problem) {seen : List Problem} (nodup : seen.Nodup) :
    (problems.foldl addNew seen).Nodup := by
  induction problems generalizing seen with
  | nil => exact nodup
  | cons head rest ih => exact ih (addNew_nodup nodup head)

theorem fold_addNew_of_nodup {problems seen : List Problem} (together : (seen ++ problems).Nodup) :
    problems.foldl addNew seen = seen ++ problems := by
  induction problems generalizing seen with
  | nil => simp
  | cons head rest ih =>
    have new : head ∉ seen := by
      intro member
      exact (List.nodup_append.mp together).2.2 head member head List.mem_cons_self rfl
    have step : addNew seen head = seen ++ [head] := if_neg new
    rw [List.foldl_cons, step, ih (by simpa using together)]
    simp

theorem mem_distinct {problems : List Problem} {problem : Problem} :
    problem ∈ distinct problems ↔ problem ∈ problems := by
  rw [distinct_eq_fold, mem_fold_addNew]
  simp

theorem distinct_eq_nil {problems : List Problem} : distinct problems = [] ↔ problems = [] := by
  simp only [List.eq_nil_iff_forall_not_mem, mem_distinct]

theorem distinct_nodup (problems : List Problem) : (distinct problems).Nodup :=
  fold_addNew_nodup problems List.nodup_nil

theorem distinct_of_nodup {problems : List Problem} (nodup : problems.Nodup) :
    distinct problems = problems := by
  rw [distinct_eq_fold, fold_addNew_of_nodup (by simpa using nodup), List.nil_append]

theorem fold_addNew_eq_eraseDups (problems seen : List Problem) :
    problems.foldl addNew seen = seen ++ (problems.filter (· ∉ seen)).eraseDups := by
  induction problems generalizing seen with
  | nil => simp
  | cons head rest ih =>
    rw [List.foldl_cons, ih]
    by_cases old : head ∈ seen
    · have step : addNew seen head = seen := if_pos old
      rw [step, List.filter_cons_of_neg (by simpa using old)]
    · have step : addNew seen head = seen ++ [head] := if_neg old
      rw [step, List.filter_cons_of_pos (by simpa using old), List.eraseDups_cons,
        List.filter_filter, List.append_assoc, List.singleton_append]
      congr 3
      refine List.filter_congr ?_
      intro problem _
      rw [Bool.eq_iff_iff]
      simp [and_comm]

theorem distinct_eq_eraseDups (problems : List Problem) :
    distinct problems = problems.eraseDups := by
  rw [distinct_eq_fold, fold_addNew_eq_eraseDups, List.nil_append,
    List.filter_eq_self.mpr fun _ _ => decide_eq_true List.not_mem_nil]

end ClusterNet
