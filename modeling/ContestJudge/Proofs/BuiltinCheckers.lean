import ContestJudge.Checker.Builtin
import ContestJudge.Proofs.TokenSpacing

namespace ContestJudge

/-- Outputs that differ in how long their runs of blanks are, or in blanks at their ends. -/
inductive Respaced : Bytes → Bytes → Prop where
  | run {run other : Bytes} (front back : Bytes) (blank : AllBlank run) (there : run ≠ [])
      (otherBlank : AllBlank other) (otherThere : other ≠ []) :
      Respaced (front ++ run ++ back) (front ++ other ++ back)
  | atFront {run : Bytes} (blank : AllBlank run) (data : Bytes) : Respaced data (run ++ data)
  | atBack {run : Bytes} (blank : AllBlank run) (data : Bytes) : Respaced data (data ++ run)

/-- Outputs of which the second has blanks inside a token of the first, or another byte in place of
one that is not blank. -/
inductive Damaged : Bytes → Bytes → Prop where
  | split {b c : UInt8} {run : Bytes} (front back : Bytes) (plain : isBlankByte b = false)
      (next : isBlankByte c = false) (blank : AllBlank run) (there : run ≠ []) :
      Damaged (front ++ b :: c :: back) (front ++ b :: (run ++ c :: back))
  | changed {b c : UInt8} (front back : Bytes) (plain : isBlankByte b = false) (apart : c ≠ b) :
      Damaged (front ++ b :: back) (front ++ c :: back)

theorem Respaced.tokens_eq {data other : Bytes} (respaced : Respaced data other) :
    tokens data = tokens other := by
  cases respaced with
  | run front back blank there otherBlank otherThere =>
    rw [tokens_append_run blank there, tokens_append_run otherBlank otherThere]
  | atFront blank => exact (tokens_blank_append blank data).symm
  | atBack blank => exact (tokens_append_blanks blank data).symm

theorem Damaged.tokens_ne {data other : Bytes} (damaged : Damaged data other) :
    tokens data ≠ tokens other := by
  cases damaged with
  | split front back plain next blank there =>
    exact tokens_ne_of_split plain next blank there front back
  | changed front back plain apart => exact tokens_ne_of_changed plain apart front back

namespace Checker

def compare (checker : Checker) (ctx : CheckContext) (expected actual : Bytes) : Consultation :=
  checker.check { ctx with judgeOutput := expected, submissionOutput := actual }

def Passes (checker : Checker) (ctx : CheckContext) (expected actual : Bytes) : Prop :=
  checker.compare ctx expected actual = .answer (.ok .pass)

section Standard

variable (ctx : CheckContext) (expected actual : Bytes)

theorem compare_standard : standard.compare ctx expected actual =
    .answer (.ok (if tokens expected = tokens actual then .pass else .fail)) := by
  by_cases same : tokens expected = tokens actual <;>
    simp [compare, standard, tokensMatch, Judgement.ofBool, same]

theorem standard_passes_iff :
    standard.Passes ctx expected actual ↔ tokens expected = tokens actual := by
  by_cases same : tokens expected = tokens actual <;> simp [Passes, compare_standard, same]

/-- The standard checker compares outputs once their blanks are evened out: no change of the blanks
between tokens is seen, and every change of a token is. -/
theorem standard_compares_spacing (ctx : CheckContext) :
    (∀ expected actual,
      (standard.Passes ctx expected actual ↔ evenlySpaced expected = evenlySpaced actual) ∧
      (¬ standard.Passes ctx expected actual →
        standard.compare ctx expected actual = .answer (.ok .fail))) ∧
    Equivalence (standard.Passes ctx) ∧
    (∀ data respaced, Respaced data respaced → ∀ other,
      (standard.Passes ctx data other ↔ standard.Passes ctx respaced other) ∧
      (standard.Passes ctx other data ↔ standard.Passes ctx other respaced)) ∧
    ∀ data damaged, Damaged data damaged → ¬ standard.Passes ctx data damaged := by
  refine ⟨?_, ?_, ?_, ?_⟩
  · intro expected actual
    rw [standard_passes_iff]
    constructor
    · exact tokens_eq_iff expected actual
    · intro apart
      rw [compare_standard, if_neg apart]
  · constructor
    · intro data
      rw [standard_passes_iff]
    · intro data other same
      rw [standard_passes_iff] at same ⊢
      exact same.symm
    · intro data other last first second
      rw [standard_passes_iff] at first second ⊢
      exact first.trans second
  · intro data respaced alike other
    simp [standard_passes_iff, alike.tokens_eq]
  · intro data damaged broken
    rw [standard_passes_iff]
    exact broken.tokens_ne

end Standard
end Checker

namespace Sample

def context : CheckContext where
  submissionOutput := []
  judgeOutput := []
  submissionSource := []
  pointValue := 1
  casePosition := 1
  batch := none
  submissionLanguage := "cpp"
  binaryData := false
  executionTime := 0
  problemId := "p"
  result := .fresh 1 none 1

/-- Numbers on lines of their own pass for numbers with a space between, but not for one number. -/
theorem lines_pass_for_columns :
    Respaced [49, 32, 50] [49, 13, 10, 50] ∧ Damaged [49, 50] [49, 13, 10, 50] ∧
    Checker.standard.Passes context [49, 32, 50] [49, 13, 10, 50] ∧
    ¬ Checker.standard.Passes context [49, 50] [49, 13, 10, 50] := by
  have respaced : Respaced [49, 32, 50] [49, 13, 10, 50] :=
    @Respaced.run [32] [13, 10] [49] [50] (by decide) (by decide) (by decide) (by decide)
  have damaged : Damaged [49, 50] [49, 13, 10, 50] :=
    @Damaged.split 49 50 [13, 10] [] [] rfl rfl (by decide) (by decide)
  obtain ⟨-, equivalence, unseen, seen⟩ := Checker.standard_compares_spacing context
  have same : Checker.standard.Passes context [49, 32, 50] [49, 32, 50] := equivalence.refl _
  exact ⟨respaced, damaged, (unseen _ _ respaced _).2.mp same, seen _ _ damaged⟩

end Sample

namespace Checker

section Identical

variable (ctx : CheckContext) (expected actual : Bytes)

theorem trimTrailingBlanks_eq (data : Bytes) :
    trimTrailingBlanks data = data.rdropWhile isBlankByte := rfl

theorem tokens_eq_of_trimmed {expected actual : Bytes}
    (same : expected.rdropWhile isBlankByte = actual.rdropWhile isBlankByte) :
    tokens expected = tokens actual := by
  rw [← tokens_rdropWhile expected, same, tokens_rdropWhile]

theorem compare_identical : identical.compare ctx expected actual =
    .answer (.ok (if expected.rdropWhile isBlankByte = actual.rdropWhile isBlankByte then .pass
      else if ctx.binaryData = false ∧ tokens expected = tokens actual then .graded presentationError
      else .fail)) := by
  by_cases trimmed : expected.rdropWhile isBlankByte = actual.rdropWhile isBlankByte <;>
    by_cases same : tokens expected = tokens actual <;>
    cases binary : ctx.binaryData <;>
    simp [compare, identical, judgeIdentical, tokensMatch, trimTrailingBlanks_eq, tokens_rdropWhile,
      trimmed, same, binary]

theorem compare_identical_comm :
    identical.compare ctx expected actual = identical.compare ctx actual expected := by
  have tokens_comm : tokens expected = tokens actual ↔ tokens actual = tokens expected := eq_comm
  have trimmed_comm : expected.rdropWhile isBlankByte = actual.rdropWhile isBlankByte ↔
      actual.rdropWhile isBlankByte = expected.rdropWhile isBlankByte := eq_comm
  simp only [compare_identical, tokens_comm, trimmed_comm]

theorem identical_passes_iff : identical.Passes ctx expected actual ↔
    expected.rdropWhile isBlankByte = actual.rdropWhile isBlankByte := by
  unfold Passes
  rw [compare_identical]
  split_ifs <;> simp [*]

/-- The identical checker compares outputs without the blanks at their ends. Text that only the
standard checker lets pass has wrong blanks and is told so. -/
theorem identical_compares_trimmed (ctx : CheckContext) :
    (∀ expected actual,
      (identical.Passes ctx expected actual ↔
        expected.rdropWhile isBlankByte = actual.rdropWhile isBlankByte) ∧
      (identical.compare ctx expected actual = .answer (.ok (.graded presentationError)) ↔
        ¬ identical.Passes ctx expected actual ∧ ctx.binaryData = false ∧
          standard.Passes ctx expected actual) ∧
      (identical.compare ctx expected actual = .answer (.ok .fail) ↔
        ¬ identical.Passes ctx expected actual ∧
          ¬ (ctx.binaryData = false ∧ standard.Passes ctx expected actual)) ∧
      (identical.Passes ctx expected actual → standard.Passes ctx expected actual) ∧
      identical.compare ctx actual expected = identical.compare ctx expected actual ∧
      ∀ run, AllBlank run →
        identical.compare ctx (expected ++ run) actual = identical.compare ctx expected actual ∧
        identical.compare ctx expected (actual ++ run) = identical.compare ctx expected actual) ∧
    presentationError.passed = false ∧ presentationError.points = 0 := by
  refine ⟨?_, rfl, rfl⟩
  intro expected actual
  refine ⟨identical_passes_iff ctx expected actual, ?_, ?_, ?_, ?_, ?_⟩
  · rw [identical_passes_iff, standard_passes_iff, compare_identical]
    split_ifs <;> simp [*]
  · rw [identical_passes_iff, standard_passes_iff, compare_identical]
    split_ifs <;> simp [*]
  · rw [identical_passes_iff, standard_passes_iff]
    exact tokens_eq_of_trimmed
  · exact compare_identical_comm ctx actual expected
  · intro run blank
    simp [compare_identical, rdropWhile_append_blanks blank, tokens_append_blanks blank]

end Identical
end Checker

namespace Sample

theorem wide_gap_told :
    Checker.identical.compare context [49, 32, 50] [49, 32, 32, 50] =
      .answer (.ok (.graded Checker.presentationError)) ∧
    Checker.identical.compare context [49, 32, 50] ([49, 32, 50] ++ [10]) =
      .answer (.ok .pass) := by
  have judged := (Checker.identical_compares_trimmed context).1
  obtain ⟨passes, told, -⟩ := judged [49, 32, 50] [49, 32, 32, 50]
  obtain ⟨passes', -, -, -, -, appended⟩ := judged [49, 32, 50] [49, 32, 50]
  constructor
  · apply told.mpr
    rw [passes, Checker.standard_passes_iff]
    decide
  · rw [(appended [10] (by decide)).2]
    exact passes'.mpr rfl

end Sample
end ContestJudge
