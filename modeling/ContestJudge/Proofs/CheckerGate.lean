import ContestJudge.Proofs.Delivery

namespace ContestJudge

theorem verdictOf_eq_error_iff (said : Except CheckerFault Judgement) (fault : Fault) :
    verdictOf said = .error fault ↔
      ∃ message, said = .error (.failed message) ∧ fault = .checker message := by
  rcases said with (_ | message) | judgement
  · simp only [verdictOf, reduceCtorEq, Except.error.injEq, false_and, exists_false]
  · simp only [verdictOf, Except.error.injEq, CheckerFault.failed.injEq, exists_eq_left']
    exact eq_comm
  · simp only [verdictOf, reduceCtorEq, false_and, exists_false]

namespace StandardGrader

variable {σ : Type}

section Gate

variable (g : StandardGrader σ) {c : TestCase} {result : CaseResult}

theorem runOn_runChecker_of_skipped (skipped : result.failed && !c.checker.runOnError)
    (desk : Desk σ) : (g.runChecker c result).runOn desk = (.ok .fail, desk) := by
  rw [runChecker, if_pos skipped, Work.runOn_pure]

theorem runOn_runChecker_of_asked (asked : (result.failed && !c.checker.runOnError) = false)
    {desk loaded : Desk σ} {expected : Bytes} (loads : c.outputData.Gives desk expected loaded) :
    ((g.runChecker c result).runOn desk).1 =
        verdictOf ((c.checker.check (g.checkContext c result expected)).settle
          (c.inputData.runOn loaded).1) ∧
      ((g.runChecker c result).runOn desk).2.consultations =
        desk.consultations ++ [(c.checker.name, g.checkContext c result expected)] := by
  let context := g.checkContext c result expected
  have notes : (Judge.note (.consulted c.checker.name context)).Gives loaded ()
    (loaded.note (.consulted c.checker.name context)) := rfl
  have sameInput : (c.inputData.runOn (loaded.note (.consulted c.checker.name context))).1 =
      (c.inputData.runOn loaded).1 :=
    (TestCase.alike_inputData Desk.sees_material c (loaded.note _) loaded rfl).1
  obtain ⟨later, settles, kept⟩ := runOn_consult (c := c) (c.checker.check context)
    (loaded.note (.consulted c.checker.name context))
  rw [sameInput] at settles
  rw [runChecker, if_neg (by rw [asked]; decide), Work.runOn_bind_of_gives loads,
    Work.runOn_bind_of_gives notes, Work.runOn_bind_of_gives settles, Work.runOn_ofExcept]
  refine ⟨rfl, ?_⟩
  change later.consultations = _
  rw [kept, Desk.consultations_note,
    (TestCase.keeps_outputData Desk.consultations_ignore_material.loads c).of_gives loads]
  rfl

end Gate

section Outcome

variable {g : StandardGrader σ} {c : TestCase} {desk loaded : Desk σ}
  {stdout stderr expected : Bytes} {report : ProcessReport}

/-- The marks of a submission are those of its report, with one for too much output, on either way
of capture. -/
theorem observed_flags (g : StandardGrader σ) (c : TestCase) (stdout stderr : Bytes)
    (report : ProcessReport) : (g.observed c stdout stderr report).flags =
      (c.freshResult.populate stderr (report.withExcess (exceeds c stdout))).flags := by
  rw [observed, CaseResult.populate_withOutput]
  exact CaseResult.populate_flags_eq c.freshResult _ _ _

theorem grade_of_unasked (delivers : g.Delivers c desk stdout stderr report)
    (skipped : (g.observed c stdout stderr report).failed && !c.checker.runOnError) :
    ((g.steps.gradeCase c).runOn desk).1 = .ok ((g.observed c stdout stderr report).apply
        (Judgement.normalize c.points .fail)) ∧
      ((g.steps.gradeCase c).runOn desk).2.consultations = desk.consultations := by
  obtain ⟨ended, -, unasked, answered, consulted⟩ := grade_of_delivers delivers
  rw [answered, consulted, runOn_runChecker_of_skipped g skipped]
  exact ⟨rfl, unasked⟩

theorem grade_of_asked (delivers : g.Delivers c desk stdout stderr report)
    (loads : c.outputData.Gives (c.inputFile.runOn desk).2 expected loaded)
    (asked : ((g.observed c stdout stderr report).failed && !c.checker.runOnError) = false) :
    ((g.steps.gradeCase c).runOn desk).1 =
        (verdictOf ((c.checker.check
          (g.checkContext c (g.observed c stdout stderr report) expected)).settle
            (c.inputData.runOn loaded).1)).map (fun judgement =>
              (g.observed c stdout stderr report).apply (judgement.normalize c.points)) ∧
      ((g.steps.gradeCase c).runOn desk).2.consultations = desk.consultations ++
        [(c.checker.name, g.checkContext c (g.observed c stdout stderr report) expected)] := by
  obtain ⟨ended, placed, unasked, answered, consulted⟩ := grade_of_delivers delivers
  obtain ⟨later, gives, alike⟩ :=
    (TestCase.alike_outputData Desk.sees_material c).gives placed.symm loads
  obtain ⟨judged, noted⟩ := runOn_runChecker_of_asked g asked gives
  have sameInput : (c.inputData.runOn later).1 = (c.inputData.runOn loaded).1 :=
    (TestCase.alike_inputData Desk.sees_material c later loaded alike.symm).1
  rw [answered, consulted, judged, noted, unasked, sameInput]
  exact ⟨rfl, rfl⟩

end Outcome

end StandardGrader

namespace Sample

deriving instance DecidableEq for StandardRun

def answer : Script := exiting 0 [53, 10] []

end Sample
end ContestJudge
