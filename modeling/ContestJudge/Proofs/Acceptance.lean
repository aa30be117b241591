import ContestJudge.Proofs.Attendance
import ContestJudge.Proofs.Verdict
/-!
What an accepted result says about the run that it came of. Acceptance is the absence of marks, so
each shape of a report either makes a mark or passes; the one that passes without a success is a
report that tells of no end at all.
-/

namespace ContestJudge

namespace ProcessReport

/-- A report that says nothing against a run. It need not tell of an exit code. -/
structure IsClean (report : ProcessReport) : Prop where
  inTime : report.isTle = false
  inMemory : report.isMle = false
  inOutput : report.isOle = false
  unsignalled : report.signal = none
  exit : ∀ code, report.exitCode = some code → code = 0

variable {report : ProcessReport}

theorem succeeded_iff : report.succeeded ↔ report.exitCode = some 0 ∧ report.signal = none := by
  rw [succeeded, Bool.and_eq_true, beq_iff_eq, Option.isNone_iff_eq_none]

theorem IsClean.succeeded_iff (clean : report.IsClean) :
    report.succeeded ↔ report.exitCode.isSome := by
  rw [ProcessReport.succeeded_iff]
  constructor
  · rintro ⟨exit, -⟩
    rw [exit]
    rfl
  · intro told
    obtain ⟨code, exit⟩ := Option.isSome_iff_exists.mp told
    rw [exit, clean.exit code exit]
    exact ⟨rfl, clean.unsignalled⟩

end ProcessReport

namespace CaseResult

variable (r : CaseResult) (report : ProcessReport)

theorem withLimits_isEmpty : (r.withLimits report).flags.isEmpty =
    (r.flags.isEmpty && !report.isTle && !report.isMle && !report.isOle) := by
  rw [withLimits, Flags.insertIf_isEmpty, Flags.insertIf_isEmpty, Flags.insertIf_isEmpty]

theorem withEnd_isEmpty_iff (stderr : Bytes) : (r.withEnd stderr report).flags.isEmpty ↔
    r.flags.isEmpty ∧ report.signal = none ∧ ∀ code, report.exitCode = some code → code = 0 := by
  unfold withEnd
  cases signal : report.signal with
  | some number =>
    simp only [ProcessReport.signalName, signal, Option.map_some, Flags.insert_isEmpty,
      Bool.false_eq_true, reduceCtorEq, false_and, and_false]
  | none =>
    cases exit : report.exitCode with
    | none =>
      simp only [ProcessReport.signalName, signal, Option.map_none, reduceCtorEq, false_implies,
        implies_true, and_true]
    | some code =>
      simp only [ProcessReport.signalName, signal, Option.map_none, Option.some.injEq,
        forall_eq', true_and]
      split
      · rename_i success
        exact (and_iff_left success).symm
      · rename_i failure
        simp only [Flags.insert_isEmpty, Bool.false_eq_true, failure, and_false]

theorem populate_isEmpty_iff (stderr : Bytes) :
    (r.populate stderr report).flags.isEmpty ↔ r.flags.isEmpty ∧ report.IsClean := by
  have unused : (r.withUsage report).flags = r.flags := by rw [withUsage]
  have limits : ((r.withUsage report).withLimits report).flags.isEmpty ↔
      r.flags.isEmpty ∧ report.isTle = false ∧ report.isMle = false ∧ report.isOle = false := by
    rw [withLimits_isEmpty, unused]
    simp only [Bool.and_eq_true, Bool.not_eq_true', and_assoc]
  rw [populate_eq]
  split
  · rename_i breached
    have marked : ¬ ((r.withUsage report).withLimits report).flags.isEmpty := by
      simpa [failed] using breached
    refine iff_of_false marked ?_
    rintro ⟨unmarked, clean⟩
    exact marked (limits.mpr ⟨unmarked, clean.inTime, clean.inMemory, clean.inOutput⟩)
  · rw [withEnd_isEmpty_iff, limits]
    constructor
    · rintro ⟨⟨unmarked, inTime, inMemory, inOutput⟩, unsignalled, exit⟩
      exact ⟨unmarked, inTime, inMemory, inOutput, unsignalled, exit⟩
    · rintro ⟨unmarked, inTime, inMemory, inOutput, unsignalled, exit⟩
      exact ⟨⟨unmarked, inTime, inMemory, inOutput⟩, unsignalled, exit⟩

end CaseResult

namespace TestCase

variable (c : TestCase) (output stderr : Bytes) (report : ProcessReport) (judgement : Judgement)

theorem settled_isAccepted_iff : (c.settled output stderr report judgement).isAccepted ↔
    report.IsClean ∧ (judgement.normalize c.points).passed := by
  have fresh : ({ c.freshResult with output := output } : CaseResult).flags.isEmpty := rfl
  rw [settled, CaseResult.apply_isAccepted, Bool.and_eq_true, CaseResult.populate_isEmpty_iff]
  simp only [fresh, true_and]

theorem settled_output : (c.settled output stderr report judgement).output = output := by
  rw [settled, CaseResult.populate_withOutput]
  rfl

end TestCase

namespace StandardGrader

variable {σ : Type} {g : StandardGrader σ} {c : TestCase}

theorem Collected.length_le {process : Handle} {memory : Option Nat} {before later : Desk σ}
    {output stderr : Bytes} {report : ProcessReport}
    (collected : g.Collected c process memory before output stderr later)
    (handed : g.bench.sandbox.Handed process before.host)
    (reported : g.bench.sandbox.report? later.host process = some report)
    (clean : report.IsClean) (honours : g.bench.sandbox.HonoursLimits) :
    output.length ≤ c.config.outputLimit := by
  cases collected with
  | @inMemory index size first output _ ended sized taken _ _ waits sizes takes hears =>
    by_cases excess : size > c.config.outputLimit
    · -- Too much output leaves the mark of the judge in the report, which would not be clean.
      rw [if_pos excess] at takes
      have handed' : g.bench.sandbox.Handed process sized :=
        handed.of_reaches ((Sandbox.reaches_of_gives (.wait process _) waits).trans
          (Sandbox.reaches_of_gives (.memorySize index _) sizes))
      have read := Sandbox.reaches_of_gives (.memoryBytes index _) takes
      have heard := Sandbox.reaches_of_gives (.readStderr process taken) hears
      have marked : report.isOle := honours.marks handed' (read.trans heard) reported
      rw [clean.inOutput] at marked
      cases marked
    · rw [if_neg excess] at takes
      have measured : output.length = size := honours.measures sizes takes
      omega
  | whole captures => exact honours.captures captures
  | cut captures => exact honours.captures captures

theorem Collected.reaches {process : Handle} {memory : Option Nat} {before later : Desk σ}
    {output stderr : Bytes} (collected : g.Collected c process memory before output stderr later) :
    g.bench.sandbox.Reaches before.host later.host := by
  obtain ⟨waiting, waited, came, waits, goes⟩ := collected.waitsFor
  exact came.trans (waits.reaches.trans goes)

end StandardGrader

theorem InteractiveGrader.Collected.reaches {σ : Type} {g : InteractiveGrader σ}
    {submission interactor : Handle} {before later : Desk σ} {stderr : Bytes}
    (collected : g.Collected submission interactor before stderr later) :
    g.base.bench.sandbox.Reaches before.host later.host := by
  obtain ⟨waiting, waited, came, waits, goes⟩ := collected.waitsFor
  exact came.trans (waits.reaches.trans goes)

namespace Grader

variable {σ : Type} {g : Grader σ} {c : TestCase} {before later : Desk σ} {report : ProcessReport}
  {result : CaseResult}

theorem Attended.settled (attended : g.Attended c before report result later) :
    ∃ process host output stderr judgement, g.bench.sandbox.Handed process host ∧
      g.bench.sandbox.report? host process = some report ∧
      result = c.settled output stderr report judgement ∧
      (report.IsClean → g.bench.sandbox.HonoursLimits → output.length ≤ c.config.outputLimit) := by
  cases g with
  | standard g =>
    obtain @⟨run, output, stderr, judgement, launched, ended, started, collected, reported,
      settled, -, -⟩ := attended
    have handed := started.handed.of_reaches collected.reaches
    exact ⟨run.process, ended.host, output, stderr, judgement, handed, reported, settled,
      collected.length_le started.handed reported⟩
  | interactive g =>
    obtain @⟨run, interactor, stderr, award, launched, ended, judged, started, collected, reported,
      -, settled, -, -⟩ := attended
    have handed := started.handed.of_reaches collected.reaches
    exact ⟨run.submission, ended.host, [], stderr, _, handed, reported, settled,
      fun _ _ => Nat.zero_le _⟩

theorem clean_of_accepted {desk : Desk σ} (grades : (g.grade c).Gives desk result later)
    (accepted : result.isAccepted) :
    ∃ report, g.Attended c desk report result later ∧ report.IsClean := by
  obtain ⟨report, attended⟩ := attended_of_gives grades
  obtain ⟨-, -, output, stderr, judgement, -, -, rfl, -⟩ := attended.settled
  exact ⟨report, attended,
    ((c.settled_isAccepted_iff output stderr report judgement).mp accepted).1⟩

/-- An accepted result came of a run whose report breaks no limit, names no signal and tells of no
exit code but zero; one that tells of an exit code tells of a success. On a sandbox that honours its
limits the output that was accepted keeps to the limit of the case. -/
theorem report_of_accepted (g : Grader σ) (c : TestCase) (desk : Desk σ) {result : CaseResult}
    {later : Desk σ} (grades : (g.grade c).Gives desk result later) (accepted : result.isAccepted) :
    ∃ report, g.Attended c desk report result later ∧ report.IsClean ∧
      (report.succeeded ↔ report.exitCode.isSome) ∧
      (g.bench.sandbox.HonoursLimits → result.output.length ≤ c.config.outputLimit) := by
  obtain ⟨report, attended, clean⟩ := clean_of_accepted grades accepted
  obtain ⟨-, -, output, stderr, judgement, -, -, rfl, within⟩ := attended.settled
  refine ⟨report, attended, clean, clean.succeeded_iff, fun honours => ?_⟩
  rw [TestCase.settled_output]
  exact within clean honours

/-- A plain process always tells how it ended, so there an accepted result came of a success. -/
theorem succeeded_of_accepted {kernel : Kernel σ} {g : Grader (LocalHost σ)}
    (plain : g.bench.sandbox = .plain kernel) {desk later : Desk (LocalHost σ)}
    (grades : (g.grade c).Gives desk result later) (accepted : result.isAccepted) :
    ∃ report, g.Attended c desk report result later ∧ report.succeeded := by
  obtain ⟨report, attended, clean⟩ := clean_of_accepted grades accepted
  obtain ⟨process, host, -, -, -, handed, reported, -, -⟩ := attended.settled
  rw [plain] at handed reported
  refine ⟨report, attended, clean.succeeded_iff.mpr ?_⟩
  rcases Sandbox.plain_tellsEnd handed reported with told | signalled
  · exact told
  · rw [clean.unsignalled] at signalled
    cases signalled

end Grader

namespace Sample

theorem fitting_output_accepted :
    ∃ report result later,
      ((Grader.standard (piped [.chunk [53, 10]])).grade (testCase 2)).Gives bare result later ∧
      result.isAccepted ∧
      (Grader.standard (piped [.chunk [53, 10]])).Attended (testCase 2) bare report result later ∧
      report.IsClean ∧ result.output.length ≤ 2 := by
  have passed : (((Grader.standard (piped [.chunk [53, 10]])).grade (testCase 2)).runOn
      bare).1.map (·.isAccepted) = .ok true := by decide +kernel
  have honours : (piped [.chunk [53, 10]]).bench.sandbox.HonoursLimits := by
    refine Sandbox.plain_honoursLimits _ fun sizes takes => ?_
    cases sizes
    cases takes
    rfl
  rcases graded : ((Grader.standard (piped [.chunk [53, 10]])).grade (testCase 2)).runOn bare
    with ⟨fault | result, later⟩
  · rw [graded] at passed
    cases passed
  · rw [graded] at passed
    have accepted : result.isAccepted := Except.ok.inj passed
    obtain ⟨report, attended, clean, -, within⟩ :=
      Grader.report_of_accepted (.standard (piped [.chunk [53, 10]])) (testCase 2) bare graded accepted
    exact ⟨report, result, later, graded, accepted, attended, clean, within honours⟩

def vanishing : Script := { Script.silent with report := default }

/-- A process that tells of no end did not succeed, and what it wrote is accepted all the same. -/
theorem vanished_process_accepted :
    let graded := ((Grader.standard (standard true)).grade (testCase 64)).runOn
      (desk [("submission", vanishing)])
    graded.1.map (·.isAccepted) = .ok true ∧
    graded.2.host.processes.map (·.binary.language) = ["submission"] ∧
    ((standard true).bench.sandbox.report? graded.2.host 0).map (·.succeeded) = some false := by
  refine ⟨?_, ?_, ?_⟩ <;> decide +kernel

end Sample
end ContestJudge
