import ContestJudge.Proofs.CheckerGate

namespace ContestJudge

namespace StandardGrader

variable {σ τ : Type} {g : StandardGrader σ} {h : StandardGrader τ} {c : TestCase}

theorem checkContext_congr (problem : g.problem = h.problem) (submission : g.submission = h.submission)
    (result : CaseResult) (expected : Bytes) :
    g.checkContext c result expected = h.checkContext c result expected := by
  simp only [checkContext, problem, submission]

theorem alike_runChecker {υ : Type} {view : Desk σ → υ} {other : Desk τ → υ}
    (sees : Desk.SeesMaterial view other) (problem : g.problem = h.problem)
    (submission : g.submission = h.submission) (result : CaseResult) :
    Work.Alike view other (g.runChecker c result) (h.runChecker c result) := by
  unfold runChecker
  split
  · exact Work.alike_pure _
  · refine (TestCase.alike_outputData sees c).bind fun expected => ?_
    rw [checkContext_congr problem submission]
    refine (alike_note sees _).bind fun _ => (alike_consult sees _ _).bind fun said => ?_
    exact Work.alike_ofExcept _

variable {stdout stderr : Bytes} {report : ProcessReport}

theorem observed_eq_of_within (inMemory : g.bench.environment.memoryOutput = true)
    (piped : h.bench.environment.memoryOutput = false) (short : stderr.length ≤ stderrLimit)
    (within : stdout.length ≤ c.config.outputLimit) :
    g.observed c stdout stderr report = h.observed c stdout stderr report := by
  have kept : ¬ c.config.outputLimit < stdout.length := Nat.not_lt.mpr within
  simp only [observed, keptOutput, keptStderr, inMemory, piped, if_true, Bool.false_eq_true,
    if_false, kept, List.take_of_length_le within, List.take_of_length_le short]

/-- Past the limit nothing of stderr shows. -/
theorem observed_of_exceeds (excess : c.config.outputLimit < stdout.length) :
    g.observed c stdout stderr report =
      { (c.freshResult.withUsage (report.withExcess true)).withLimits (report.withExcess true) with
        output := g.keptOutput c stdout } := by
  have marked : exceeds c stdout = true := decide_eq_true excess
  rw [observed, marked, CaseResult.populate_withOutput,
    CaseResult.populate_of_isOle _ (ProcessReport.isOle_withExcess_true report)]

theorem observed_output (g : StandardGrader σ) (c : TestCase) (stdout stderr : Bytes)
    (report : ProcessReport) :
    (g.observed c stdout stderr report).output = g.keptOutput c stdout := by
  rw [observed, CaseResult.populate_withOutput]

theorem observed_contains_outputLimit (excess : c.config.outputLimit < stdout.length) :
    (g.observed c stdout stderr report).flags.contains .outputLimit := by
  rw [observed_of_exceeds excess]
  exact CaseResult.withLimits_contains_outputLimit _ (ProcessReport.isOle_withExcess_true report)

variable {desk : Desk σ} {desk' : Desk τ}

theorem grade_eq_of_within (problem : g.problem = h.problem) (submission : g.submission = h.submission)
    (inMemory : g.bench.environment.memoryOutput = true)
    (piped : h.bench.environment.memoryOutput = false) (material : desk.material = desk'.material)
    (short : stderr.length ≤ stderrLimit) (delivers : g.Delivers c desk stdout stderr report)
    (delivers' : h.Delivers c desk' stdout stderr report)
    (within : stdout.length ≤ c.config.outputLimit) :
    ((g.steps.gradeCase c).runOn desk).1 = ((h.steps.gradeCase c).runOn desk').1 := by
  obtain ⟨ended, placed, -, answered, -⟩ := grade_of_delivers delivers
  obtain ⟨ended', placed', -, answered', -⟩ := grade_of_delivers delivers'
  -- Both desks come to the checker with one material, and it reads nothing else of them.
  have supplied : (c.inputFile.runOn desk).2.material = (c.inputFile.runOn desk').2.material :=
    (TestCase.alike_inputFile Desk.sees_material c desk desk' material).2
  have alike : ended.material = ended'.material := placed.trans (supplied.trans placed'.symm)
  have observed : g.observed c stdout stderr report = h.observed c stdout stderr report :=
    observed_eq_of_within inMemory piped short within
  have checked : ((g.runChecker c (g.observed c stdout stderr report)).runOn ended).1 =
      ((h.runChecker c (g.observed c stdout stderr report)).runOn ended').1 :=
    (alike_runChecker Desk.sees_material problem submission _ ended ended' alike).1
  rw [answered, answered', checked, observed]

/-- Past the limit both ways of capture fail the case alike. The memory file holds all of the
output, and the pipe what is within the limit. -/
theorem grade_of_exceeds (inMemory : g.bench.environment.memoryOutput = true)
    (piped : h.bench.environment.memoryOutput = false)
    (delivers : g.Delivers c desk stdout stderr report)
    (delivers' : h.Delivers c desk' stdout stderr report)
    (excess : c.config.outputLimit < stdout.length) (gated : c.checker.runOnError = false) :
    ∃ result, ((g.steps.gradeCase c).runOn desk).1 = .ok result ∧
      ((h.steps.gradeCase c).runOn desk').1 =
        .ok { result with output := stdout.take c.config.outputLimit } ∧
      result.output = stdout ∧ result.flags.contains .outputLimit ∧ result.points = 0 := by
  have skipped {υ : Type} (g : StandardGrader υ) :
      ((g.observed c stdout stderr report).failed && !c.checker.runOnError) = true := by
    rw [gated, CaseResult.failed, Flags.isEmpty_of_contains (observed_contains_outputLimit excess)]
    rfl
  obtain ⟨answered, -⟩ := grade_of_unasked delivers (skipped g)
  obtain ⟨answered', -⟩ := grade_of_unasked delivers' (skipped h)
  have differ : h.observed c stdout stderr report =
      { g.observed c stdout stderr report with output := stdout.take c.config.outputLimit } := by
    rw [observed_of_exceeds excess, observed_of_exceeds excess]
    simp only [keptOutput, piped, Bool.false_eq_true, if_false]
  refine ⟨_, answered, ?_, ?_, ?_, ?_⟩
  · rw [answered', differ, CaseResult.apply_withOutput]
  · change (g.observed c stdout stderr report).output = stdout
    rw [observed_output, keptOutput, if_pos inMemory]
  · rw [CaseResult.apply_flags]
    exact Flags.insertIf_contains_of_contains (observed_contains_outputLimit excess) _ _
  · rw [CaseResult.apply_points, CaseResult.apply_isAccepted]
    simp [Judgement.normalize, Award.ofPoints]

/-- The two ways of capture agree on a submission that delivers the same through both. -/
theorem captures_agree (g : StandardGrader σ) (h : StandardGrader τ) (c : TestCase) (desk : Desk σ)
    (desk' : Desk τ) {stdout stderr : Bytes} {report : ProcessReport}
    (problem : g.problem = h.problem) (submission : g.submission = h.submission)
    (inMemory : g.bench.environment.memoryOutput = true)
    (piped : h.bench.environment.memoryOutput = false) (material : desk.material = desk'.material)
    (short : stderr.length ≤ stderrLimit) (delivers : g.Delivers c desk stdout stderr report)
    (delivers' : h.Delivers c desk' stdout stderr report) :
    let kept := ((Grader.standard g).grade c).runOn desk
    let read := ((Grader.standard h).grade c).runOn desk'
    (stdout.length ≤ c.config.outputLimit → kept.1 = read.1) ∧
    (c.config.outputLimit < stdout.length → c.checker.runOnError = false →
      ∃ result, kept.1 = .ok result ∧
        read.1 = .ok { result with output := stdout.take c.config.outputLimit } ∧
        result.output = stdout ∧ result.flags.contains .outputLimit ∧ result.points = 0) := by
  refine ⟨fun within => ?_, fun excess gated => ?_⟩
  · exact grade_eq_of_within problem submission inMemory piped material short delivers delivers'
      within
  · exact grade_of_exceeds inMemory piped delivers delivers' excess gated

end StandardGrader

namespace Sample

def flood : Script := exiting 0 [53, 10, 53] [120]

theorem flood_kept : (standard true).Delivers (testCase 2) (desk [("submission", flood)])
    [53, 10, 53] [120] flood.report := by
  have launches : ((standard true).launch (testCase 2)).Gives (desk [("submission", flood)])
      ⟨0, some 0, ⟨"/tmp/.tmp0", true⟩⟩ _ := Work.gives_of_answer (by decide +kernel)
  have ends : ((standard true).bench.sandbox.awaitEnd 0).Gives
      (((standard true).launch (testCase 2)).runOn (desk [("submission", flood)])).2 flood.report
      _ := Work.gives_of_answer (by decide +kernel)
  exact .inMemory launches ends (Work.gives_of_answer (by decide +kernel))
    (Work.gives_of_answer (by decide +kernel)) (Work.gives_of_answer (by decide +kernel))
    (by decide +kernel)

theorem flood_cut : (standard false).Delivers (testCase 2) (desk [("submission", flood)])
    [53, 10, 53] [120] flood.report := by
  have launches : ((standard false).launch (testCase 2)).Gives (desk [("submission", flood)])
      ⟨0, none, ⟨"/tmp/.tmp0", true⟩⟩ _ := Work.gives_of_answer (by decide +kernel)
  have captures : ((standard false).bench.sandbox.capture 0 2 stderrLimit).Gives
      (((standard false).launch (testCase 2)).runOn (desk [("submission", flood)])).2
      ⟨[53, 10], [120], .truncatedByJudgeLimit, .complete⟩ _ :=
    Work.gives_of_answer (by decide +kernel)
  exact .cutPipe launches (by decide) captures
    (Work.gives_of_answer (a := flood.report.withExcess true) (by decide +kernel))
    (by decide +kernel)

theorem flood_fails_alike :
    let kept := ((Grader.standard (standard true)).grade (testCase 2)).runOn
      (desk [("submission", flood)])
    let read := ((Grader.standard (standard false)).grade (testCase 2)).runOn
      (desk [("submission", flood)])
    2 < [53, 10, 53].length ∧ ∃ result, kept.1 = .ok result ∧
      read.1 = .ok { result with output := [53, 10] } ∧ result.output = [53, 10, 53] ∧
      result.flags.contains .outputLimit ∧ result.points = 0 := by
  have agree := StandardGrader.captures_agree (standard true) (standard false) (testCase 2) _ _ rfl
    rfl rfl rfl rfl (by decide) flood_kept flood_cut
  exact ⟨by decide, agree.2 (by decide) rfl⟩

end Sample
end ContestJudge
