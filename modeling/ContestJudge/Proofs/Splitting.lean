import ContestJudge.Text.Words

namespace ContestJudge

section Splitting

variable {α : Type} {separates : α → Bool}

theorem splitRuns_of_plain {list : List α} (plain : ∀ a ∈ list, separates a = false)
    (run : List α) (found : List (List α)) :
    splitRuns separates list run found = (found.reverse ++ [run.reverse ++ list]) := by
  induction list generalizing run with
  | nil => simp [splitRuns]
  | cons a rest ih =>
    rw [List.forall_mem_cons] at plain
    simp [splitRuns, plain.1, ih plain.2]

theorem splitRuns_found (list run : List α) (found : List (List α)) :
    splitRuns separates list run found = found.reverse ++ splitRuns separates list run [] := by
  induction list generalizing run found with
  | nil => simp [splitRuns]
  | cons a rest ih =>
    unfold splitRuns
    split
    · rw [ih, ih [] [run.reverse]]
      simp
    · exact ih _ _

theorem splitRuns_append {separator : α} (separated : separates separator) (front back : List α)
    (run : List α) (found : List (List α)) :
    splitRuns separates (front ++ separator :: back) run found =
      splitRuns separates front run found ++ splitAt separates back := by
  induction front generalizing run found with
  | nil =>
    rw [List.nil_append, splitRuns.eq_def]
    simp only [separated, if_true]
    rw [splitRuns_found, splitAt]
    rfl
  | cons a rest ih =>
    rw [List.cons_append, splitRuns, splitRuns]
    split
    · exact ih _ _
    · exact ih _ _

theorem splitAt_of_plain {list : List α} (plain : ∀ a ∈ list, separates a = false) :
    splitAt separates list = [list] := splitRuns_of_plain plain [] []

theorem splitAt_append (separates : α → Bool) {separator : α} (separated : separates separator)
    (front back : List α) :
    splitAt separates (front ++ separator :: back) =
      splitAt separates front ++ splitAt separates back :=
  splitRuns_append separated front back [] []

theorem plain_or_separated (separates : α → Bool) (list : List α) :
    (∀ a ∈ list, separates a = false) ∨ ∃ front separator back,
      list = front ++ separator :: back ∧ (∀ a ∈ front, separates a = false) ∧
        separates separator := by
  induction list with
  | nil => exact .inl (by simp)
  | cons a rest ih =>
    by_cases separated : separates a
    · exact .inr ⟨[], a, rest, rfl, by simp, separated⟩
    rw [Bool.not_eq_true] at separated
    rcases ih with plain | ⟨front, separator, back, rfl, plain, found⟩
    · exact .inl (List.forall_mem_cons.mpr ⟨separated, plain⟩)
    · exact .inr ⟨a :: front, separator, back, rfl, List.forall_mem_cons.mpr ⟨separated, plain⟩,
        found⟩

@[elab_as_elim]
theorem run_induction (separates : α → Bool) {motive : List α → Prop}
    (alone : ∀ run, (∀ a ∈ run, separates a = false) → motive run)
    (ahead : ∀ run separator back, (∀ a ∈ run, separates a = false) → separates separator →
      motive back → motive (run ++ separator :: back))
    (list : List α) : motive list := by
  rcases plain_or_separated separates list with
    plain | ⟨front, separator, back, split, plain, separated⟩
  · exact alone list plain
  · have shorter : back.length < list.length := by
      rw [split, List.length_append, List.length_cons]
      omega
    rw [split]
    exact ahead front separator back plain separated (run_induction separates alone ahead back)
termination_by list.length

theorem splitAt_ne_nil (list : List α) : splitAt separates list ≠ [] := by
  rcases plain_or_separated separates list with
    plain | ⟨front, separator, back, rfl, plain, separated⟩
  · simp [splitAt_of_plain plain]
  · simp [splitAt_append separates separated, splitAt_of_plain plain]

theorem splitRuns_run (list run : List α) :
    splitRuns separates list run [] = (splitAt separates list).modifyHead (run.reverse ++ ·) := by
  induction list generalizing run with
  | nil => simp [splitAt, splitRuns]
  | cons a rest ih =>
    cases separated : separates a with
    | true => simp [splitAt, splitRuns, separated, splitRuns_found rest [] [_]]
    | false => simp [splitAt, splitRuns, separated, ih (a :: run), ih [a], Function.comp_def]

theorem splitAt_cons_of_plain {a : α} (plain : separates a = false) (list : List α) :
    splitAt separates (a :: list) = (splitAt separates list).modifyHead (a :: ·) := by
  simp [splitAt, splitRuns, plain, splitRuns_run list [a]]

theorem plain_of_mem_splitAt {list run : List α} (listed : run ∈ splitAt separates list) :
    ∀ a ∈ run, separates a = false := by
  induction list using run_induction separates with
  | alone list plain =>
    rw [splitAt_of_plain plain, List.mem_singleton] at listed
    rw [listed]
    exact plain
  | ahead front separator back plain separated ih =>
    rw [splitAt_append separates separated, splitAt_of_plain plain, List.singleton_append] at listed
    rcases List.mem_cons.mp listed with rfl | later
    · exact plain
    · exact ih later

end Splitting
end ContestJudge
