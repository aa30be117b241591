import ContestJudge.Proofs.AttendedSubmission
import ContestJudge.Proofs.Attribution
import ContestJudge.Proofs.CapturePaths
/-!
The size of the memory file for output. A submission that writes more than its case allows is found
out by the size of the file, or else by the signal for a file that may not grow; one that writes no
more is not blamed.
-/

namespace ContestJudge

namespace ProcessReport

/-- How a process ends that tries to write so many bytes into a file of a limited size, and is
within all other limits. It exits well if there is room, and is killed if there is not. -/
structure Capped (report : ProcessReport) (size count : Nat) : Prop where
  timely : report.cpuLimitExceeded = false
  watched : report.wallLimitExceeded = false
  sparing : report.memoryLimitExceeded = false
  unmarked : report.outputLimitExceeded = false
  room : count ≤ size → report.exitCode = some 0 ∧ report.signal = none
  burst : size < count → report.exitCode = none ∧ report.signal = some Signal.fileSizeLimit

variable {report : ProcessReport} {size count : Nat}

theorem withExcess_signal (report : ProcessReport) (excess : Bool) :
    (report.withExcess excess).signal = report.signal := rfl

theorem withExcess_exitCode (report : ProcessReport) (excess : Bool) :
    (report.withExcess excess).exitCode = report.exitCode := rfl

theorem Capped.isTle (capped : report.Capped size count) (excess : Bool) :
    (report.withExcess excess).isTle = false := by
  have unhurried : report.signal ≠ some Signal.cpuLimit := by
    by_cases bursts : size < count
    · rw [(capped.burst bursts).2]
      decide
    · rw [(capped.room (Nat.not_lt.mp bursts)).2]
      simp
  simp [ProcessReport.isTle, withExcess, capped.timely, capped.watched, unhurried]

theorem Capped.isMle (capped : report.Capped size count) (excess : Bool) :
    (report.withExcess excess).isMle = false := capped.sparing

theorem Capped.isOle (capped : report.Capped size count) (excess : Bool) :
    (report.withExcess excess).isOle = (excess || decide (size < count)) := by
  by_cases bursts : size < count
  · simp [ProcessReport.isOle, withExcess, (capped.burst bursts).2, bursts]
  · have quiet : report.signal = none := (capped.room (Nat.not_lt.mp bursts)).2
    simp [ProcessReport.isOle, withExcess, capped.unmarked, quiet, bursts]

/-- All that such an end can earn is the mark for too much output: by the judge, or by the signal.
The signal earns no mark of its own, as too much output explains it. -/
theorem Capped.earns (capped : report.Capped size count) (excess : Bool) (mark : Mark) :
    (report.withExcess excess).earns mark =
      ((excess || decide (size < count)) && decide (.outputLimit = mark)) := by
  have tle := capped.isTle excess
  have mle := capped.isMle excess
  have ole := capped.isOle excess
  by_cases bursts : size < count
  · cases mark <;> simp [ProcessReport.earns, isExcessive, ole, tle, mle, bursts]
  · obtain ⟨exit, signal⟩ := capped.room (Nat.not_lt.mp bursts)
    cases mark <;> simp [ProcessReport.earns, isExcessive, ole, tle, mle, bursts, withExcess_signal,
      withExcess_exitCode, exit, signal]

end ProcessReport

theorem Sandbox.dealings_of_start {σ : Type} {sandbox : Sandbox σ} {binary : Binary}
    {spec : LaunchSpec} {desk later : Desk σ} {process : Handle}
    (starts : (sandbox.start binary spec).Gives desk process later) :
    later.dealings = desk.dealings ++ [.launched process ⟨binary, spec, desk.files⟩] := by
  have excuses : sandbox.Excuses fun _ => True := ⟨fun _ => trivial, fun _ => trivial⟩
  rcases yields_start excuses binary spec desk with
    ⟨handle, reached, gives, -, dealt⟩ | ⟨fault, reached, stops, -⟩
  · cases gives.symm.trans starts
    exact dealt
  · cases stops.symm.trans starts

namespace StandardGrader

variable {σ : Type} {g : StandardGrader σ} {c : TestCase} {desk : Desk σ}

section Size

variable (g c)

theorem captureSize_le (built : g.binary.footprint ≤ sizeBound) : g.captureSize c ≤ sizeBound := by
  have least : leastCapture ≤ sizeBound := by decide
  unfold captureSize
  omega

theorem min_limit_le_captureSize :
    min (c.config.outputLimit + 1) sizeBound ≤ g.captureSize c := by
  have slack : 0 < captureSlack := by decide
  unfold captureSize
  omega

theorem limit_lt_captureSize (allowed : c.config.outputLimit ≤ sizeBound) :
    c.config.outputLimit < g.captureSize c ∨ c.config.outputLimit = sizeBound := by
  have room := min_limit_le_captureSize g c
  omega

/-- Too much output shows in the size of the file, or else in that it did not fit. -/
theorem exceeds_or_overflows (allowed : c.config.outputLimit ≤ sizeBound) (written : Bytes) :
    (exceeds c (written.take (g.captureSize c)) || decide (g.captureSize c < written.length)) =
      decide (c.config.outputLimit < written.length) := by
  rw [exceeds, ← Bool.decide_or, List.length_take]
  apply decide_eq_decide.mpr
  have room := min_limit_le_captureSize g c
  omega

end Size

theorem launch_tells_size (inMemory : g.bench.environment.memoryOutput = true)
    {run : StandardRun} {launched : Desk σ} (launches : (g.launch c).Gives desk run launched) :
    ∃ memory order, run.memory = some memory ∧ order.spec.stdout = .given (.memory memory) ∧
      order.spec.fileSize = some (g.captureSize c) ∧
      launched.dealings = desk.dealings ++ [.launched run.process order] := by
  obtain ⟨input, supplied, supplies, launches⟩ := Work.exists_of_gives_bind launches
  have launches := Work.gives_of_unlessDone launches
  obtain ⟨spec, planned, plans, launches⟩ := Work.exists_of_gives_bind launches
  obtain ⟨opened, ready, opens, launches⟩ := Work.exists_of_gives_bind launches
  simp only [inMemory, if_true] at launches
  obtain ⟨memory, provided, provides, launches⟩ := Work.exists_of_gives_bind launches
  obtain ⟨process, started, starts, launches⟩ := Work.exists_of_gives_bind launches
  simp only [Work.Gives, Work.runOn_pure, Prod.mk.injEq, Except.ok.injEq] at launches
  obtain ⟨rfl, rfl⟩ := launches
  have supplied_dealings := (TestCase.isQuiet_inputFile c).kept.of_gives supplies
  have planned_dealings := (g.isQuiet_submissionSpec c).kept.of_gives plans
  have ready_dealings := input.isQuiet_openToRead.kept.of_gives opens
  have opens_nothing : (Judge.onHost g.bench.sandbox.openMemory).Keeps Desk.dealings := by
    refine Work.keeps_within_unseen ?_ _
    intro state changed
    rfl
  have untouched : provided.dealings = desk.dealings := by
    calc provided.dealings
      _ = ready.dealings := opens_nothing.of_gives provides
      _ = desk.dealings := congrArg Prod.snd
          (ready_dealings.trans (planned_dealings.trans supplied_dealings))
  have dealt := Sandbox.dealings_of_start starts
  rw [untouched] at dealt
  refine ⟨memory, _, rfl, ?_, ?_, dealt⟩
  · rfl
  · rfl

/-- The operating system as a submission meets it that tries to write some output into a memory
file. It lets the submission write no more than the size that the launch tells, and kills it if
that is not all. -/
def CapsOutput (g : StandardGrader σ) (c : TestCase) (desk : Desk σ) (written stdout : Bytes)
    (report : ProcessReport) : Prop :=
  ∀ {run : StandardRun} {launched : Desk σ} {memory size : Nat} {order : LaunchOrder},
    (g.launch c).Gives desk run launched →
    launched.dealings = desk.dealings ++ [.launched run.process order] →
    order.spec.stdout = .given (.memory memory) → order.spec.fileSize = some size →
    stdout = written.take size ∧ report.Capped size written.length

section Outcome

variable {written stdout stderr : Bytes} {report : ProcessReport}

theorem capped_of_delivers (inMemory : g.bench.environment.memoryOutput = true)
    (caps : g.CapsOutput c desk written stdout report)
    (delivers : g.Delivers c desk stdout stderr report) :
    stdout = written.take (g.captureSize c) ∧
      report.Capped (g.captureSize c) written.length := by
  obtain ⟨run, launched, ended, launches, -, -⟩ := collected_of_delivers delivers
  obtain ⟨memory, order, captured, bound, told, dealt⟩ := launch_tells_size inMemory launches
  exact caps launches dealt bound told

theorem observed_contains_of_capped (stderr : Bytes)
    (allowed : c.config.outputLimit ≤ sizeBound) (kept : stdout = written.take (g.captureSize c))
    (capped : report.Capped (g.captureSize c) written.length) (mark : Mark) :
    (g.observed c stdout stderr report).flags.contains mark =
      (decide (c.config.outputLimit < written.length) && decide (.outputLimit = mark)) := by
  rw [observed_flags, CaseResult.populate_contains c.freshResult stderr _ rfl, capped.earns, kept,
    exceeds_or_overflows g c allowed]

theorem exists_award_of_grade (delivers : g.Delivers c desk stdout stderr report)
    {result : CaseResult} (graded : ((g.steps.gradeCase c).runOn desk).1 = .ok result) :
    ∃ award, result = (g.observed c stdout stderr report).apply award := by
  obtain ⟨ended, -, -, answered, -⟩ := grade_of_delivers delivers
  rw [graded] at answered
  cases judged : ((g.runChecker c (g.observed c stdout stderr report)).runOn ended).1 with
  | error fault =>
    rw [judged] at answered
    cases answered
  | ok judgement =>
    rw [judged] at answered
    cases answered
    exact ⟨_, rfl⟩

theorem contains_of_grade (delivers : g.Delivers c desk stdout stderr report)
    {result : CaseResult} (graded : ((g.steps.gradeCase c).runOn desk).1 = .ok result)
    {mark : Mark} (other : mark ≠ .wrongAnswer) : result.flags.contains mark =
      (g.observed c stdout stderr report).flags.contains mark := by
  obtain ⟨award, rfl⟩ := exists_award_of_grade delivers graded
  rw [CaseResult.apply_flags, Flags.contains_insertIf, decide_eq_false other.symm, Bool.and_false,
    Bool.or_false]

end Outcome

/-- In memory mode a submission is marked for too much output just if it tries to write more than
the limit, and for nothing else. -/
theorem grade_marks_breach (g : StandardGrader σ) (c : TestCase) (desk : Desk σ)
    {written stdout stderr : Bytes} {report : ProcessReport}
    (inMemory : g.bench.environment.memoryOutput = true)
    (allowed : c.config.outputLimit ≤ sizeBound) (built : g.binary.footprint ≤ sizeBound)
    (caps : g.CapsOutput c desk written stdout report)
    (delivers : g.Delivers c desk stdout stderr report) :
    let size := g.captureSize c
    let limit := c.config.outputLimit
    let graded := (((Grader.standard g).grade c).runOn desk).1
    size ≤ sizeBound ∧
    (limit < size ∨ limit = sizeBound) ∧
    (∃ run launched memory order, (g.launch c).Gives desk run launched ∧
      launched.dealings = desk.dealings ++ [.launched run.process order] ∧
      order.spec.stdout = .given (.memory memory) ∧ order.spec.fileSize = some size) ∧
    (∀ result, graded = .ok result →
      (result.flags.contains .outputLimit ↔ limit < written.length) ∧
      result.flags.contains .runtimeError = false ∧ result.flags.contains .invalidReturn = false ∧
      result.flags.contains .timeLimit = false ∧ result.flags.contains .memoryLimit = false ∧
      result.output = written.take size) ∧
    (limit < written.length → c.checker.runOnError = false → ∃ result, graded = .ok result) ∧
    (∀ {expected loaded}, c.outputData.Gives (c.inputFile.runOn desk).2 expected loaded →
      ∀ fault, graded = .error fault → ∃ message, fault = .checker message) := by
  intro size limit graded
  obtain ⟨kept, capped⟩ := capped_of_delivers inMemory caps delivers
  have marks := observed_contains_of_capped stderr allowed kept capped
  refine ⟨captureSize_le g c built, limit_lt_captureSize g c allowed, ?_, ?_, ?_, ?_⟩
  · obtain ⟨run, launched, ended, launches, -, -⟩ := collected_of_delivers delivers
    obtain ⟨memory, order, captured, bound, told, dealt⟩ := launch_tells_size inMemory launches
    exact ⟨run, launched, memory, order, launches, dealt, bound, told⟩
  · intro result answered
    have told (mark : Mark) (other : mark ≠ .wrongAnswer) : result.flags.contains mark =
        (decide (limit < written.length) && decide (.outputLimit = mark)) :=
      (contains_of_grade delivers answered other).trans (marks mark)
    refine ⟨?_, ?_, ?_, ?_, ?_, ?_⟩
    · simp [told .outputLimit (by decide)]
    · simp [told .runtimeError (by decide)]
    · simp [told .invalidReturn (by decide)]
    · simp [told .timeLimit (by decide)]
    · simp [told .memoryLimit (by decide)]
    · obtain ⟨award, rfl⟩ := exists_award_of_grade delivers answered
      change (g.observed c stdout stderr report).output = _
      rw [observed_output, keptOutput, if_pos inMemory, kept]
  · intro excess gated
    have marked : (g.observed c stdout stderr report).flags.contains .outputLimit := by
      rw [marks]
      simp [excess, limit]
    have skipped :
        ((g.observed c stdout stderr report).failed && !c.checker.runOnError) = true := by
      rw [gated, CaseResult.failed, Flags.isEmpty_of_contains marked]
      rfl
    exact ⟨_, (grade_of_unasked delivers skipped).1⟩
  · intro expected loaded loads fault stopped
    rcases Bool.eq_false_or_eq_true
      ((g.observed c stdout stderr report).failed && !c.checker.runOnError) with skipped | asked
    · cases (grade_of_unasked delivers skipped).1.symm.trans stopped
    · have answered := (grade_of_asked delivers loads asked).1.symm.trans stopped
      obtain ⟨message, -, told⟩ :=
        (verdictOf_eq_error_iff _ fault).mp ((map_eq_error_iff _ _).mp answered)
      exact ⟨message, told⟩

end StandardGrader

namespace Sample

theorem flood_capped : (standard true).CapsOutput (testCase 2) (desk [("submission", flood)])
    [53, 10, 53] [53, 10, 53] flood.report := by
  intro run launched memory size order launches dealt _ told
  obtain ⟨_, order', -, -, told', dealt'⟩ :=
    StandardGrader.launch_tells_size (g := standard true) (c := testCase 2) rfl launches
  have same : order = order' := by
    rw [dealt] at dealt'
    simpa using dealt'
  have least : size = StandardGrader.leastCapture := by
    rw [same, told'] at told
    exact (Option.some.inj told).symm.trans (by decide +kernel)
  have room : ([53, 10, 53] : Bytes).length ≤ size := least ▸ (by decide)
  refine ⟨(List.take_of_length_le room).symm, rfl, rfl, rfl, rfl, fun _ => ⟨rfl, rfl⟩, ?_⟩
  intro burst
  exact absurd burst (Nat.not_lt.mpr room)

/-- A flood that fits into the memory file is found out by its size. -/
theorem flood_marked :
    let graded := (((Grader.standard (standard true)).grade (testCase 2)).runOn
      (desk [("submission", flood)])).1
    (∃ result, graded = .ok result) ∧ ∀ result, graded = .ok result →
      result.flags.contains .outputLimit ∧ result.flags.contains .runtimeError = false ∧
      result.output = [53, 10, 53] := by
  intro graded
  have kept : (standard true).captureSize (testCase 2) = StandardGrader.leastCapture := by
    decide +kernel
  obtain ⟨-, -, -, marks, answers, -⟩ := StandardGrader.grade_marks_breach (standard true)
    (testCase 2) _ rfl (by decide) (by decide) flood_capped flood_kept
  refine ⟨answers (by decide) rfl, fun result answered => ?_⟩
  obtain ⟨excess, unsignalled, -, -, -, output⟩ := marks result answered
  refine ⟨excess.mpr (by decide), unsignalled, output.trans ?_⟩
  exact List.take_of_length_le (by rw [kept]; decide)

end Sample
end ContestJudge
