import ContestJudge.Proofs.Material
import ContestJudge.Proofs.Sequence

namespace ContestJudge.StandardGrader

variable {σ τ : Type}

def keptOutput (g : StandardGrader σ) (c : TestCase) (stdout : Bytes) : Bytes :=
  if g.bench.environment.memoryOutput then stdout else stdout.take c.config.outputLimit

/-- What is kept of the stderr of a submission. Nothing is read from one that was stopped. -/
def keptStderr (g : StandardGrader σ) (c : TestCase) (stdout stderr : Bytes) : Bytes :=
  if g.bench.environment.memoryOutput then stderr
  else if c.config.outputLimit < stdout.length then [] else stderr.take stderrLimit

def collect (g : StandardGrader σ) (c : TestCase) (run : StandardRun) : Judge σ (Bytes × Bytes) :=
  match run.memory with
  | some memory => g.collectMemory c run.process memory
  | none => g.collectPiped c run.process

def exceeds (c : TestCase) (stdout : Bytes) : Bool := decide (c.config.outputLimit < stdout.length)

def observed (g : StandardGrader σ) (c : TestCase) (stdout stderr : Bytes)
    (report : ProcessReport) : CaseResult :=
  { c.freshResult with output := g.keptOutput c stdout }.populate (g.keptStderr c stdout stderr)
    (report.withExcess (exceeds c stdout))

/-- A case in which the launch, the waits and the capture succeed. The submission writes to stdout
and stderr and ends with a report, in which only the mark of the judge is missing. -/
inductive Delivers (g : StandardGrader σ) (c : TestCase) (desk : Desk σ) (stdout stderr : Bytes)
    (report : ProcessReport) : Prop where
  /-- The memory file holds all output once the submission has ended. -/
  | inMemory {process : Handle} {memory : Nat} {input : CaseInput} {first : ProcessReport}
      {launched ended sized taken heard : Desk σ}
      (launches : (g.launch c).Gives desk ⟨process, some memory, input⟩ launched)
      (ends : (g.bench.sandbox.awaitEnd process).Gives launched first ended)
      (sizes : (Judge.onHost (g.bench.sandbox.memorySize memory)).Gives ended stdout.length sized)
      (holds : (Judge.onHost (g.bench.sandbox.memoryBytes memory)).Gives
        (if exceeds c stdout then ((g.bench.sandbox.markExcess process).runOn sized).2 else sized)
        stdout taken)
      (hears : (g.bench.sandbox.stderrOf process).Gives taken stderr heard)
      (reported : g.bench.sandbox.report? heard.host process =
        some (report.withExcess (exceeds c stdout)))
  /-- The pipe gives all output, and the submission is waited for. -/
  | throughPipe {process : Handle} {input : CaseInput} {integrity stderrIntegrity : OutputIntegrity}
      {launched captured : Desk σ}
      (launches : (g.launch c).Gives desk ⟨process, none, input⟩ launched)
      (within : stdout.length ≤ c.config.outputLimit)
      (whole : integrity ≠ .truncatedByJudgeLimit)
      (captures : (g.bench.sandbox.capture process c.config.outputLimit stderrLimit).Gives launched
        ⟨stdout, stderr.take stderrLimit, integrity, stderrIntegrity⟩ captured)
      (reported : g.bench.sandbox.report? captured.host process = some report)
  /-- The pipe is cut at the limit; the submission is stopped and then waited for. -/
  | cutPipe {process : Handle} {input : CaseInput} {lost : Bytes} {stderrIntegrity : OutputIntegrity}
      {last : ProcessReport} {launched captured ended : Desk σ}
      (launches : (g.launch c).Gives desk ⟨process, none, input⟩ launched)
      (excess : c.config.outputLimit < stdout.length)
      (captures : (g.bench.sandbox.capture process c.config.outputLimit stderrLimit).Gives launched
        ⟨stdout.take c.config.outputLimit, lost, .truncatedByJudgeLimit, stderrIntegrity⟩ captured)
      (ends : (g.bench.sandbox.awaitEnd process).Gives
        ((g.bench.sandbox.markExcess process).runOn
          ((g.bench.sandbox.stop process).runOn captured).2).2 last ended)
      (reported : g.bench.sandbox.report? ended.host process = some (report.withExcess true))

section Steps

variable {g : StandardGrader σ} {c : TestCase}

theorem keeps_launchOn {view : Desk σ → τ} (unsandboxed : Desk.IgnoresSandbox view)
    (g : StandardGrader σ) (c : TestCase) (input : CaseInput) :
    (g.launchOn c input).Keeps view := by
  refine (Work.keeps_ofExcept _).bind fun spec => (keeps_onFiles _).bind fun opened => ?_
  dsimp only
  split
  · refine (keeps_onHost unsandboxed _).bind fun memory => ?_
    exact (Sandbox.keeps_start unsandboxed _ _ _).bind fun _ => Work.keeps_pure _
  · exact (Sandbox.keeps_start unsandboxed _ _ _).bind fun _ => Work.keeps_pure _

theorem run_of_launchOn {input : CaseInput} {desk launched : Desk σ} {run : StandardRun}
    (launches : (g.launchOn c input).Gives desk run launched) :
    run.input = input ∧ run.memory.isSome = g.bench.environment.memoryOutput := by
  obtain ⟨spec, _, -, launches⟩ := Work.exists_of_gives_bind launches
  obtain ⟨opened, _, -, launches⟩ := Work.exists_of_gives_bind launches
  dsimp only at launches
  split at launches
  · rename_i inMemory
    obtain ⟨memory, _, -, launches⟩ := Work.exists_of_gives_bind launches
    obtain ⟨process, _, -, launches⟩ := Work.exists_of_gives_bind launches
    simp only [Work.Gives, Work.runOn_pure, Prod.mk.injEq, Except.ok.injEq] at launches
    obtain ⟨rfl, -⟩ := launches
    exact ⟨rfl, inMemory.symm⟩
  · rename_i piped
    obtain ⟨process, _, -, launches⟩ := Work.exists_of_gives_bind launches
    simp only [Work.Gives, Work.runOn_pure, Prod.mk.injEq, Except.ok.injEq] at launches
    obtain ⟨rfl, -⟩ := launches
    exact ⟨rfl, (Bool.eq_false_iff.mpr piped).symm⟩

theorem supplied_of_launch {desk launched : Desk σ} {run : StandardRun}
    (launches : (g.launch c).Gives desk run launched) :
    ∃ supplied, c.inputFile.Gives desk run.input supplied ∧
      launched.material = supplied.material ∧ launched.consultations = desk.consultations ∧
      run.memory.isSome = g.bench.environment.memoryOutput := by
  obtain ⟨input, supplied, supplies, launches⟩ := Work.exists_of_gives_bind launches
  have launches := Work.gives_of_unlessDone launches
  obtain ⟨rfl, mode⟩ := run_of_launchOn launches
  refine ⟨supplied, supplies, ?_, ?_, mode⟩
  · exact (keeps_launchOn Desk.material_ignores_sandbox g c _).of_gives launches
  · rw [(keeps_launchOn Desk.consultations_ignore_sandbox g c _).of_gives launches,
      (TestCase.keeps_inputFile Desk.consultations_ignore_material c).of_gives supplies]

theorem populate_gives {desk : Desk σ} {run : StandardRun} {report : ProcessReport}
    (reported : g.bench.sandbox.report? desk.host run.process = some report)
    (stderr : Bytes) (result : CaseResult) :
    (g.populate stderr result).Gives ⟨desk, run⟩ (result.populate stderr report) ⟨desk, run⟩ := by
  rw [Work.Gives, populate, Work.runOn_bind, Work.runOn_get]
  exact Session.atDesk_gives (Sandbox.populate_gives reported stderr result) _

theorem interact_gives {launched ended : Desk σ} {run : StandardRun} {output stderr : Bytes}
    (collects : (g.collect c run).Gives launched (output, stderr) ended)
    (result : CaseResult) :
    (g.interact c result).Gives ⟨launched, run⟩ ({ result with output := output }, stderr)
      ⟨ended, run⟩ := by
  rw [Work.Gives, interact, Work.runOn_bind, Work.runOn_get]
  exact Work.runOn_bind_of_gives (Session.atDesk_gives collects run) _

theorem collectMemory_gives {process : Handle} {memory : Nat} {stdout stderr : Bytes}
    {first : ProcessReport} {launched ended sized taken heard : Desk σ}
    (ends : (g.bench.sandbox.awaitEnd process).Gives launched first ended)
    (sizes : (Judge.onHost (g.bench.sandbox.memorySize memory)).Gives ended stdout.length sized)
    (holds : (Judge.onHost (g.bench.sandbox.memoryBytes memory)).Gives
      (if exceeds c stdout then ((g.bench.sandbox.markExcess process).runOn sized).2 else sized)
      stdout taken)
    (hears : (g.bench.sandbox.stderrOf process).Gives taken stderr heard) :
    (g.collectMemory c process memory).Gives launched (stdout, stderr) heard := by
  have read : (do
      let output ← Judge.onHost (g.bench.sandbox.memoryBytes memory)
      let stderr ← g.bench.sandbox.stderrOf process
      return (output, stderr) : Judge σ (Bytes × Bytes)).Gives
      (if exceeds c stdout then ((g.bench.sandbox.markExcess process).runOn sized).2 else sized)
      (stdout, stderr) heard := by
    rw [Work.Gives, Work.runOn_bind_of_gives holds, Work.runOn_bind_of_gives hears,
      Work.runOn_pure]
  rw [Work.Gives, collectMemory, Work.runOn_bind_of_gives ends, Work.runOn_bind_of_gives sizes]
  by_cases excess : c.config.outputLimit < stdout.length
  · simp only [exceeds, excess, decide_true, if_true] at read
    rw [if_pos excess]
    exact read
  · simp only [exceeds, excess, decide_false, Bool.false_eq_true, if_false] at read
    rw [if_neg excess]
    exact read

theorem collectPiped_gives {process : Handle} {stdout stderr : Bytes}
    {integrity stderrIntegrity : OutputIntegrity} {launched captured : Desk σ}
    (whole : integrity ≠ .truncatedByJudgeLimit)
    (captures : (g.bench.sandbox.capture process c.config.outputLimit stderrLimit).Gives launched
      ⟨stdout, stderr, integrity, stderrIntegrity⟩ captured) :
    (g.collectPiped c process).Gives launched (stdout, stderr) captured := by
  have untouched : CapturedOutput.isTruncated ⟨stdout, stderr, integrity, stderrIntegrity⟩ = false :=
    beq_eq_false_iff_ne.mpr whole
  rw [Work.Gives, collectPiped, Work.runOn_bind_of_gives captures, if_neg (by rw [untouched]; decide)]
  rfl

theorem collectPiped_gives_of_cut {process : Handle} {kept lost : Bytes}
    {stderrIntegrity : OutputIntegrity} {last : ProcessReport} {launched captured ended : Desk σ}
    (captures : (g.bench.sandbox.capture process c.config.outputLimit stderrLimit).Gives launched
      ⟨kept, lost, .truncatedByJudgeLimit, stderrIntegrity⟩ captured)
    (ends : (g.bench.sandbox.awaitEnd process).Gives
      ((g.bench.sandbox.markExcess process).runOn
        ((g.bench.sandbox.stop process).runOn captured).2).2 last ended) :
    (g.collectPiped c process).Gives launched (kept, []) ended := by
  have cut : CapturedOutput.isTruncated ⟨kept, lost, .truncatedByJudgeLimit, stderrIntegrity⟩ := rfl
  have stops : (g.bench.sandbox.stop process).Gives captured ()
    ((g.bench.sandbox.stop process).runOn captured).2 := rfl
  have marks (stopped : Desk σ) : (g.bench.sandbox.markExcess process).Gives stopped ()
    ((g.bench.sandbox.markExcess process).runOn stopped).2 := rfl
  rw [Work.Gives, collectPiped, Work.runOn_bind_of_gives captures, if_pos cut,
    Work.runOn_bind_of_gives stops, Work.runOn_bind_of_gives (marks _),
    Work.runOn_bind_of_gives ends, Work.runOn_pure]

end Steps

variable {g : StandardGrader σ} {c : TestCase} {desk : Desk σ} {stdout stderr : Bytes}
  {report : ProcessReport}

/-- On either way of capture, a delivered case is collected, and its report bears the mark of the
judge where there is too much output. -/
theorem collected_of_delivers (delivers : g.Delivers c desk stdout stderr report) :
    ∃ run launched ended, (g.launch c).Gives desk run launched ∧
      (g.collect c run).Gives launched
          (g.keptOutput c stdout, g.keptStderr c stdout stderr) ended ∧
      g.bench.sandbox.report? ended.host run.process =
        some (report.withExcess (exceeds c stdout)) := by
  cases delivers with
  | inMemory launches ends sizes holds hears reported =>
    obtain ⟨-, -, -, -, mode⟩ := supplied_of_launch launches
    have inMemory : g.bench.environment.memoryOutput = true := mode.symm
    refine ⟨_, _, _, launches, ?_, reported⟩
    simp only [keptOutput, keptStderr, inMemory, if_true]
    exact collectMemory_gives ends sizes holds hears
  | throughPipe launches within whole captures reported =>
    obtain ⟨-, -, -, -, mode⟩ := supplied_of_launch launches
    have piped : g.bench.environment.memoryOutput = false := mode.symm
    have kept : ¬ c.config.outputLimit < stdout.length := Nat.not_lt.mpr within
    have unmarked : report.withExcess (exceeds c stdout) = report := by
      simp only [exceeds, kept, decide_false, ProcessReport.withExcess_false]
    refine ⟨_, _, _, launches, ?_, unmarked ▸ reported⟩
    simp only [keptOutput, keptStderr, piped, Bool.false_eq_true, if_false, kept,
      List.take_of_length_le within]
    exact collectPiped_gives whole captures
  | cutPipe launches excess captures ends reported =>
    obtain ⟨-, -, -, -, mode⟩ := supplied_of_launch launches
    have piped : g.bench.environment.memoryOutput = false := mode.symm
    have marked : exceeds c stdout = true := decide_eq_true excess
    refine ⟨_, _, _, launches, ?_, marked ▸ reported⟩
    simp only [keptOutput, keptStderr, piped, Bool.false_eq_true, if_false, excess, if_true]
    exact collectPiped_gives_of_cut captures ends

theorem view_finish {view : Desk σ → τ} (unsandboxed : Desk.IgnoresSandbox view)
    (unsupplied : Desk.IgnoresMaterial view) (g : StandardGrader σ) (run : StandardRun)
    (desk : Desk σ) : view (g.finish run desk) = view desk :=
  (CaseInput.view_letGo unsupplied _ _).trans (Sandbox.view_letGo unsandboxed _ _ _)

theorem keeps_collectMemory {view : Desk σ → τ} (unsandboxed : Desk.IgnoresSandbox view)
    (g : StandardGrader σ) (c : TestCase) (process : Handle) (memory : Nat) :
    (g.collectMemory c process memory).Keeps view := by
  refine (Sandbox.keeps_awaitEnd unsandboxed _ _).bind fun _ => ?_
  refine (keeps_onHost unsandboxed _).bind fun size => ?_
  have read : (do
      let output ← Judge.onHost (g.bench.sandbox.memoryBytes memory)
      let stderr ← g.bench.sandbox.stderrOf process
      return (output, stderr) : Judge σ (Bytes × Bytes)).Keeps view :=
    (keeps_onHost unsandboxed _).bind fun _ =>
      (Sandbox.keeps_stderrOf unsandboxed _ _).bind fun _ => Work.keeps_pure _
  split
  · exact (Sandbox.keeps_markExcess unsandboxed _ _).bind fun _ => read
  · exact read

theorem keeps_collectPiped {view : Desk σ → τ} (unsandboxed : Desk.IgnoresSandbox view)
    (g : StandardGrader σ) (c : TestCase) (process : Handle) :
    (g.collectPiped c process).Keeps view := by
  refine (Sandbox.keeps_capture unsandboxed _ _ _ _).bind fun output => ?_
  split
  · refine (Sandbox.keeps_stop unsandboxed _ _).bind fun _ => ?_
    refine (Sandbox.keeps_markExcess unsandboxed _ _).bind fun _ => ?_
    exact (Sandbox.keeps_awaitEnd unsandboxed _ _).bind fun _ => Work.keeps_pure _
  · exact Work.keeps_pure _

theorem keeps_collect {view : Desk σ → τ} (unsandboxed : Desk.IgnoresSandbox view)
    (g : StandardGrader σ) (c : TestCase) (run : StandardRun) : (g.collect c run).Keeps view := by
  unfold collect
  split
  · exact keeps_collectMemory unsandboxed g c _ _
  · exact keeps_collectPiped unsandboxed g c _

section Collected

variable {run : StandardRun} {launched ended : Desk σ} {output diagnostics : Bytes}
  {observed : ProcessReport}
  (launches : (g.launch c).Gives desk run launched)
  (collects : (g.collect c run).Gives launched (output, diagnostics) ended)
  (reported : g.bench.sandbox.report? ended.host run.process = some observed)
include launches collects reported

theorem steps_of_collected :
    (g.steps.interact c c.freshResult).Gives ⟨launched, run⟩
        ({ c.freshResult with output := output }, diagnostics) ⟨ended, run⟩ ∧
      (g.steps.populate diagnostics { c.freshResult with output := output }).Gives ⟨ended, run⟩
        ({ c.freshResult with output := output }.populate diagnostics observed) ⟨ended, run⟩ ∧
      ended.material = (c.inputFile.runOn desk).2.material ∧
      ended.consultations = desk.consultations := by
  obtain ⟨supplied, supplies, placed, unasked, -⟩ := supplied_of_launch launches
  refine ⟨interact_gives collects c.freshResult, populate_gives reported _ _, ?_, ?_⟩
  · rw [supplies, (keeps_collect Desk.material_ignores_sandbox g c run).of_gives collects, placed]
  · rw [(keeps_collect Desk.consultations_ignore_sandbox g c run).of_gives collects, unasked]

theorem grade_of_collected :
    let result := { c.freshResult with output := output }.populate diagnostics observed
    ∃ ended : Desk σ, ended.material = (c.inputFile.runOn desk).2.material ∧
      ended.consultations = desk.consultations ∧
      ((g.steps.gradeCase c).runOn desk).1 = ((g.runChecker c result).runOn ended).1.map
        (fun judgement => result.apply (judgement.normalize c.points)) ∧
      ((g.steps.gradeCase c).runOn desk).2.consultations =
        ((g.runChecker c result).runOn ended).2.consultations := by
  obtain ⟨interact, populate, placed, unasked⟩ := steps_of_collected launches collects reported
  rw [GradingSteps.runOn_gradeCase launches interact populate]
  refine ⟨ended, placed, unasked, rfl, ?_⟩
  refine (Desk.view_freeData Desk.consultations_ignore_material _).trans ?_
  exact view_finish Desk.consultations_ignore_sandbox Desk.consultations_ignore_material g _ _

end Collected

theorem grade_of_delivers (delivers : g.Delivers c desk stdout stderr report) :
    ∃ ended : Desk σ, ended.material = (c.inputFile.runOn desk).2.material ∧
      ended.consultations = desk.consultations ∧
      ((g.steps.gradeCase c).runOn desk).1 =
        ((g.runChecker c (g.observed c stdout stderr report)).runOn ended).1.map (fun judgement =>
          (g.observed c stdout stderr report).apply (judgement.normalize c.points)) ∧
      ((g.steps.gradeCase c).runOn desk).2.consultations =
        ((g.runChecker c (g.observed c stdout stderr report)).runOn ended).2.consultations := by
  obtain ⟨run, launched, ended, launches, collects, reported⟩ := collected_of_delivers delivers
  exact grade_of_collected launches collects reported

end ContestJudge.StandardGrader
