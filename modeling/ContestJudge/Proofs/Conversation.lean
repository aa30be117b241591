import ContestJudge.Proofs.Sequence

namespace ContestJudge

namespace CrossPipes

def forInteractor (toSubmission toInteractor : Nat) : CrossPipes :=
  ⟨none, none, some ⟨toInteractor, .read⟩, some ⟨toSubmission, .write⟩⟩

theorem takeBoth_cross (toSubmission toInteractor : Nat) :
    (cross toSubmission toInteractor).takeBoth .submissionStdin .submissionStdout =
      .ok (⟨toSubmission, .read⟩, ⟨toInteractor, .write⟩,
        forInteractor toSubmission toInteractor) := rfl

theorem takeBoth_forInteractor (toSubmission toInteractor : Nat) :
    (forInteractor toSubmission toInteractor).takeBoth .interactorStdin .interactorStdout =
      .ok (⟨toInteractor, .read⟩, ⟨toSubmission, .write⟩, closed) := rfl

variable {σ τ : Type}

theorem close_closed (sandbox : Sandbox σ) (desk : Desk σ) : closed.close sandbox desk = desk := rfl

theorem view_close {view : Desk σ → τ} (blind : Desk.IgnoresSandbox view) (pipes : CrossPipes)
    (sandbox : Sandbox σ) (desk : Desk σ) : view (pipes.close sandbox desk) = view desk := by
  unfold close
  generalize pipes.held = held
  induction held generalizing desk with
  | nil => rfl
  | cons e rest ih => exact (ih _).trans (Sandbox.view_closeAtDesk blind sandbox e desk)

theorem keeps_openAt {view : Desk σ → τ} (blind : Desk.IgnoresSandbox view)
    (sandbox : Sandbox σ) : (openAt sandbox).Keeps view := by
  refine (Sandbox.keeps_openPipeAtDesk blind sandbox).bind fun toSubmission => ?_
  refine Work.Keeps.bind ?_ fun toInteractor => Work.keeps_pure _
  refine (Sandbox.keeps_openPipeAtDesk blind sandbox).unlessDone fun desk => ?_
  rw [Sandbox.view_closeAtDesk blind, Sandbox.view_closeAtDesk blind]

theorem openAt_gives {sandbox : Sandbox σ} {desk opened crossed : Desk σ}
    {toSubmission toInteractor : Nat}
    (opens : sandbox.openPipeAtDesk.Gives desk toSubmission opened)
    (crosses : sandbox.openPipeAtDesk.Gives opened toInteractor crossed) :
    (openAt sandbox).Gives desk (cross toSubmission toInteractor) crossed := by
  rw [Work.Gives, openAt, Work.runOn_bind_of_gives opens,
    Work.runOn_bind_of_gives (Work.gives_unlessDone _ crosses), Work.runOn_pure]

end CrossPipes

namespace InteractiveGrader

variable {σ τ : Type}

/-- A case in which every launch, every wait, every read of stderr and every request to the files
succeeds, with what is learned of the submission and of the interactor. -/
inductive Converses (g : InteractiveGrader σ) (c : TestCase) (desk : Desk σ)
    (report : ProcessReport) (stderr : Bytes) (interactorReport : ProcessReport)
    (interactorStderr : Bytes) : Prop where
  | intro {wall : Duration} {base : LaunchSpec} {toSubmission toInteractor : Nat}
      {submission interactor : Handle} {input : CaseInput} {answer : String} {expected : Bytes}
      {filled : FileStore} {first second : ProcessReport}
      {opened crossed launched supplied provided loaded joined left ended heard asked told : Desk σ}
      (wallTime : scaledWallTime g.limits.time c.config.wallTimeFactor = .ok wall)
      (limits : g.base.submissionSpec c = .ok base)
      (opens : g.base.bench.sandbox.openPipeAtDesk.Gives desk toSubmission opened)
      (crosses : g.base.bench.sandbox.openPipeAtDesk.Gives opened toInteractor crossed)
      (launches : (g.base.bench.sandbox.start g.base.binary
        { base with
          stdin := .given (.pipe ⟨toSubmission, .read⟩)
          stdout := .given (.pipe ⟨toInteractor, .write⟩) }).Gives crossed submission launched)
      (supplies : c.inputFile.Gives launched input supplied)
      (provides : TestCase.newTemporary.Gives supplied answer provided)
      (loads : c.outputData.Gives provided expected loaded)
      (fills : loaded.files.fill answer expected = .ok filled)
      (joins : (g.base.bench.sandbox.start g.interactor
        (g.interactorSpec wall input.path answer ⟨toInteractor, .read⟩
          ⟨toSubmission, .write⟩)).Gives (loaded.withFiles filled) interactor joined)
      (ends : (g.base.bench.sandbox.awaitEnd submission).Gives joined first left)
      (follows : (g.base.bench.sandbox.awaitEnd interactor).Gives left second ended)
      (hears : (g.base.bench.sandbox.stderrOf submission).Gives ended stderr heard)
      (reported : g.base.bench.sandbox.report? heard.host submission = some report)
      (asks : (g.base.bench.sandbox.stderrOf interactor).Gives
        (input.letGo (heard.discard answer)) interactorStderr asked)
      (tells : (g.base.bench.sandbox.awaitEnd interactor).Gives asked interactorReport told) :
      Converses g c desk report stderr interactorReport interactorStderr

section Steps

variable {g : InteractiveGrader σ} {c : TestCase}

theorem launch_gives {wall : Duration} {base : LaunchSpec} {toSubmission toInteractor : Nat}
    {submission : Handle} {desk opened crossed launched : Desk σ}
    (wallTime : scaledWallTime g.limits.time c.config.wallTimeFactor = .ok wall)
    (limits : g.base.submissionSpec c = .ok base)
    (opens : g.base.bench.sandbox.openPipeAtDesk.Gives desk toSubmission opened)
    (crosses : g.base.bench.sandbox.openPipeAtDesk.Gives opened toInteractor crossed)
    (launches : (g.base.bench.sandbox.start g.base.binary
      { base with
        stdin := .given (.pipe ⟨toSubmission, .read⟩)
        stdout := .given (.pipe ⟨toInteractor, .write⟩) }).Gives crossed submission launched) :
    (g.launch c).Gives desk
      ⟨submission, .forInteractor toSubmission toInteractor, none, wall⟩ launched := by
  rw [Work.Gives, launch, wallTime, limits]
  simp only [Work.runOn_bind, Work.runOn_ofExcept]
  rw [CrossPipes.openAt_gives opens crosses]
  simp only [CrossPipes.takeBoth_cross, Work.runOn_unlessDone, Work.runOn_ofExcept]
  rw [launches]
  rfl

theorem launchInteractor_gives {submission interactor : Handle} {toSubmission toInteractor : Nat}
    {wall : Duration} {input answer : String} {desk joined : Desk σ}
    (joins : (g.base.bench.sandbox.start g.interactor
      (g.interactorSpec wall input answer ⟨toInteractor, .read⟩ ⟨toSubmission, .write⟩)).Gives
      desk interactor joined) :
    (g.launchInteractor input answer).Gives
      ⟨desk, ⟨submission, .forInteractor toSubmission toInteractor, none, wall⟩⟩ interactor
      ⟨joined, ⟨submission, .closed, some interactor, wall⟩⟩ := by
  rw [Work.Gives, launchInteractor]
  simp only [Work.runOn_bind, Work.runOn_get, CrossPipes.takeBoth_forInteractor,
    Work.runOn_ofExcept, Work.runOn_attempt, Session.runOn_atDesk, Work.runOn_modify,
    Work.runOn_pure, CrossPipes.close_closed]
  rw [joins]

theorem converse_gives {submission interactor : Handle} {toSubmission toInteractor : Nat}
    {wall : Duration} {input answer : String} {expected stderr : Bytes} {filled : FileStore}
    {first second : ProcessReport} {provided loaded joined left ended heard : Desk σ}
    (loads : c.outputData.Gives provided expected loaded)
    (fills : loaded.files.fill answer expected = .ok filled)
    (joins : (g.base.bench.sandbox.start g.interactor
      (g.interactorSpec wall input answer ⟨toInteractor, .read⟩ ⟨toSubmission, .write⟩)).Gives
      (loaded.withFiles filled) interactor joined)
    (ends : (g.base.bench.sandbox.awaitEnd submission).Gives joined first left)
    (follows : (g.base.bench.sandbox.awaitEnd interactor).Gives left second ended)
    (hears : (g.base.bench.sandbox.stderrOf submission).Gives ended stderr heard) :
    (g.converse c input answer).Gives
      ⟨provided, ⟨submission, .forInteractor toSubmission toInteractor, none, wall⟩⟩ stderr
      ⟨heard, ⟨submission, .closed, some interactor, wall⟩⟩ := by
  have written : (do TestCase.fillTemporary answer (← c.outputData) : Judge σ Unit).Gives provided
      () (loaded.withFiles filled) := by
    rw [Work.Gives, Work.runOn_bind_of_gives loads]
    exact TestCase.fillTemporary_gives fills
  have finished : (do
      let _ ← g.base.bench.sandbox.awaitEnd submission
      let _ ← g.base.bench.sandbox.awaitEnd interactor
      g.base.bench.sandbox.stderrOf submission : Judge σ Bytes).Gives joined stderr heard := by
    rw [Work.Gives, Work.runOn_bind_of_gives ends, Work.runOn_bind_of_gives follows, hears]
  rw [Work.Gives, converse, Work.runOn_bind_of_gives (Session.atDesk_gives written _),
    Work.runOn_bind_of_gives (launchInteractor_gives joins), Work.runOn_bind, Work.runOn_get]
  exact Session.atDesk_gives finished _

theorem interact_gives {input : CaseInput} {answer : String} {stderr : Bytes}
    {launched supplied provided heard : Desk σ} {run later : InteractiveRun}
    (supplies : c.inputFile.Gives launched input supplied)
    (provides : TestCase.newTemporary.Gives supplied answer provided)
    (converses : (g.converse c input.path answer).Gives ⟨provided, run⟩ stderr ⟨heard, later⟩)
    (result : CaseResult) :
    (g.interact c result).Gives ⟨launched, run⟩ (result, stderr)
      ⟨input.letGo (heard.discard answer), later⟩ := by
  rw [Work.Gives, interact, Work.runOn_bind_of_gives (Session.atDesk_gives supplies _),
    Work.runOn_bind, Work.runOn_always,
    Work.runOn_bind_of_gives (Session.atDesk_gives provides _), Work.runOn_always, converses]
  rfl

theorem populate_gives {desk : Desk σ} {run : InteractiveRun} {report : ProcessReport}
    (reported : g.base.bench.sandbox.report? desk.host run.submission = some report)
    (stderr : Bytes) (result : CaseResult) :
    (g.populate stderr result).Gives ⟨desk, run⟩ (result.populate stderr report) ⟨desk, run⟩ := by
  rw [Work.Gives, populate, Work.runOn_bind, Work.runOn_get]
  exact Session.atDesk_gives (Sandbox.populate_gives reported stderr result) _

/-- The check of a case is the adapter's word on the interactor; a submission that failed before
only turns a judgement into a failure. -/
theorem runOn_check {desk asked told : Desk σ} {run : InteractiveRun} {interactor : Handle}
    {interactorReport : ProcessReport} {interactorStderr : Bytes}
    (joined : run.interactor = some interactor)
    (asks : (g.base.bench.sandbox.stderrOf interactor).Gives desk interactorStderr asked)
    (tells : (g.base.bench.sandbox.awaitEnd interactor).Gives asked interactorReport told)
    (result : CaseResult) :
    (g.check c result).runOn ⟨desk, run⟩ =
      ((g.adapter.judge (g.outcome c interactorReport interactorStderr)).map fun award =>
        if result.failed then .fail else .graded award, ⟨told, run⟩) := by
  have heard : (do
      let stderr ← g.base.bench.sandbox.stderrOf interactor
      let report ← g.base.bench.sandbox.awaitEnd interactor
      Work.ofExcept (g.adapter.judge (g.outcome c report stderr)) : Judge σ Award).runOn desk =
        (g.adapter.judge (g.outcome c interactorReport interactorStderr), told) := by
    rw [Work.runOn_bind_of_gives asks, Work.runOn_bind_of_gives tells, Work.runOn_ofExcept]
  rw [check, Work.runOn_bind, Work.runOn_get]
  simp only [joined]
  rw [Work.runOn_bind, Session.runOn_atDesk, heard]
  cases g.adapter.judge (g.outcome c interactorReport interactorStderr) <;> rfl

end Steps

theorem grade_of_converses {g : InteractiveGrader σ} {c : TestCase} {desk : Desk σ}
    {report interactorReport : ProcessReport} {stderr interactorStderr : Bytes}
    (talk : g.Converses c desk report stderr interactorReport interactorStderr) :
    ((g.steps.gradeCase c).runOn desk).1 =
      (g.adapter.judge (g.outcome c interactorReport interactorStderr)).map fun award =>
        (c.freshResult.populate stderr report).apply
          (Judgement.normalize c.points
            (if (c.freshResult.populate stderr report).failed then .fail else .graded award)) := by
  cases talk with
  | @intro wall base toSubmission toInteractor submission interactor input answer expected
      filled first second opened crossed launched supplied provided loaded joined left ended heard
      asked told wallTime limits opens crosses launches supplies provides loads fills joins ends
      follows hears reported asks tells =>
  have launch : (g.steps.launch c).Gives desk
      ⟨submission, .forInteractor toSubmission toInteractor, none, wall⟩ launched :=
    launch_gives wallTime limits opens crosses launches
  have interact : (g.steps.interact c c.freshResult).Gives
      ⟨launched, submission, .forInteractor toSubmission toInteractor, none, wall⟩
      (c.freshResult, stderr)
      ⟨input.letGo (heard.discard answer), submission, .closed, some interactor, wall⟩ :=
    interact_gives supplies provides (converse_gives loads fills joins ends follows hears) c.freshResult
  -- Letting go of the input and of the answer changes files only, so the report is still there.
  have sameHost : (input.letGo (heard.discard answer)).host = heard.host :=
    CaseInput.view_letGo Desk.host_ignores_material input _
  have seen : (g.steps.populate stderr c.freshResult).Gives
      ⟨input.letGo (heard.discard answer), submission, .closed, some interactor, wall⟩
      (c.freshResult.populate stderr report)
      ⟨input.letGo (heard.discard answer), submission, .closed, some interactor, wall⟩ :=
    populate_gives (sameHost ▸ reported) stderr c.freshResult
  rw [GradingSteps.runOn_gradeCase launch interact seen]
  change ((g.check c _).runOn _).1.map _ = _
  rw [runOn_check rfl asks tells]
  cases g.adapter.judge (g.outcome c interactorReport interactorStderr) <;> simp only [Except.map]

section Views

variable {view : Desk σ → τ} (unsandboxed : Desk.IgnoresSandbox view)
  (unsupplied : Desk.IgnoresMaterial view) (g : InteractiveGrader σ) (c : TestCase)

include unsandboxed in
theorem keeps_launch : (g.launch c).Keeps view := by
  refine (Work.keeps_ofExcept _).bind fun wall => (Work.keeps_ofExcept _).bind fun base => ?_
  refine (CrossPipes.keeps_openAt unsandboxed _).bind fun pipes => ?_
  refine ((Work.keeps_ofExcept _).unlessDone (CrossPipes.view_close unsandboxed pipes _)).bind ?_
  rintro ⟨stdin, stdout, rest⟩
  refine Work.Keeps.bind ?_ fun _ => Work.keeps_pure _
  exact (Sandbox.keeps_start unsandboxed _ _ _).unlessDone (CrossPipes.view_close unsandboxed rest _)

include unsandboxed in
theorem keeps_launchInteractor (input answer : String) :
    (g.launchInteractor input answer).Keeps fun session => view session.desk := by
  refine Work.keeps_get.bind fun session => (Work.keeps_ofExcept _).bind ?_
  rintro ⟨stdin, stdout, rest⟩
  refine (Session.keeps_atDesk (Sandbox.keeps_start unsandboxed _ _ _)).attempt.bind fun joined => ?_
  refine Work.Keeps.bind ?_ fun _ => (Work.keeps_ofExcept joined).bind fun interactor => ?_
  · exact Work.keeps_modify fun later => CrossPipes.view_close unsandboxed rest _ later.desk
  · refine Work.Keeps.bind ?_ fun _ => Work.keeps_pure interactor
    exact Work.keeps_modify fun _ => rfl

include unsandboxed in
theorem keeps_meeting (input answer : String) : (do
    let interactor ← g.launchInteractor input answer
    let submission := (← get).run.submission
    Session.atDesk (do
      let _ ← g.base.bench.sandbox.awaitEnd submission
      let _ ← g.base.bench.sandbox.awaitEnd interactor
      g.base.bench.sandbox.stderrOf submission) : Work (Session σ InteractiveRun) Bytes).Keeps
    fun session => view session.desk := by
  refine (keeps_launchInteractor unsandboxed g input answer).bind fun interactor => ?_
  refine Work.keeps_get.bind fun session => Session.keeps_atDesk ?_
  exact (Sandbox.keeps_awaitEnd unsandboxed _ _).bind fun _ =>
    (Sandbox.keeps_awaitEnd unsandboxed _ _).bind fun _ => Sandbox.keeps_stderrOf unsandboxed _ _

include unsandboxed unsupplied in
theorem keeps_converse (input answer : String) :
    (g.converse c input answer).Keeps fun session => view session.desk := by
  refine Work.Keeps.bind ?_ fun _ => keeps_meeting unsandboxed g input answer
  refine Session.keeps_atDesk ?_
  exact (TestCase.keeps_outputData unsupplied.loads c).bind fun data =>
    TestCase.keeps_fillTemporary unsupplied answer data

include unsandboxed unsupplied in
theorem keeps_interact (result : CaseResult) :
    (g.interact c result).Keeps fun session => view session.desk := by
  refine (Session.keeps_atDesk (TestCase.keeps_inputFile unsupplied c)).bind fun input => ?_
  refine Work.Keeps.bind ?_ fun _ => Work.keeps_pure _
  refine Work.Keeps.always ?_ fun session => CaseInput.view_letGo unsupplied input session.desk
  refine (Session.keeps_atDesk (TestCase.keeps_newTemporary unsupplied)).bind fun answer => ?_
  exact (keeps_converse unsandboxed unsupplied g c input.path answer).always fun session =>
    TestCase.view_discard unsupplied answer session.desk

theorem keeps_populate (stderr : Bytes) (result : CaseResult) :
    (g.populate stderr result).Keeps fun session => view session.desk :=
  Work.keeps_get.bind fun _ => Session.keeps_atDesk (Sandbox.keeps_populate _ _ stderr result)

include unsandboxed in
theorem keeps_check (result : CaseResult) :
    (g.check c result).Keeps fun session => view session.desk := by
  refine Work.keeps_get.bind fun session => ?_
  split
  · exact Work.keeps_throw _
  · refine Work.Keeps.bind ?_ fun _ => Work.keeps_pure _
    refine Session.keeps_atDesk ?_
    exact (Sandbox.keeps_stderrOf unsandboxed _ _).bind fun _ =>
      (Sandbox.keeps_awaitEnd unsandboxed _ _).bind fun _ => Work.keeps_ofExcept _

include unsandboxed in
theorem view_finish (run : InteractiveRun) (desk : Desk σ) :
    view (g.finish run desk) = view desk := by
  have closed : view (run.pipes.close g.base.bench.sandbox
      (g.base.bench.sandbox.letGo run.submission desk)) = view desk :=
    (CrossPipes.view_close unsandboxed _ _ _).trans (Sandbox.view_letGo unsandboxed _ _ _)
  unfold finish
  split
  · exact (Sandbox.view_letGo unsandboxed _ _ _).trans closed
  · exact closed

include unsandboxed unsupplied in
theorem keeps_grade : (g.steps.gradeCase c).Keeps view :=
  GradingSteps.keeps_gradeCase (keeps_launch unsandboxed g c)
    (keeps_interact unsandboxed unsupplied g c) (keeps_populate g) (keeps_check unsandboxed g c)
    (view_finish unsandboxed g) (Desk.view_freeData unsupplied)

end Views

section Outcome

variable {g : InteractiveGrader σ} {c : TestCase} {desk : Desk σ}
  {report interactorReport : ProcessReport} {stderr interactorStderr : Bytes}
  (talk : g.Converses c desk report stderr interactorReport interactorStderr)
include talk

theorem errs_iff (fault : Fault) : ((g.steps.gradeCase c).runOn desk).1 = .error fault ↔
    g.adapter.judge (g.outcome c interactorReport interactorStderr) = .error fault := by
  rw [grade_of_converses talk, map_eq_error_iff]

theorem answers_of_accepts {award : Award}
    (accepts : g.adapter.judge (g.outcome c interactorReport interactorStderr) = .ok award) :
    ∃ result, ((g.steps.gradeCase c).runOn desk).1 = .ok result ∧
      (c.freshResult.populate stderr report).Judged c.points
        (.graded (award.silencedIf (c.freshResult.populate stderr report).failed)) result := by
  have answered := grade_of_converses talk
  rw [accepts] at answered
  generalize c.freshResult.populate stderr report = observed at answered
  refine ⟨_, answered, ?_⟩
  cases failed : observed.failed
  · exact CaseResult.apply_judged observed c.points _
  · simpa only [failed, if_true] using CaseResult.judged_of_failed observed failed

end Outcome

theorem gradeCase_withChecker (g : InteractiveGrader σ) (c : TestCase) (checker : Checker) :
    g.steps.gradeCase { c with checker := checker } = g.steps.gradeCase c := rfl

/-- The adapter alone decides whether an interactive case is graded, whatever became of the
submission; the submission decides how. The checker of the case has no part in it. -/
theorem grade_answers_iff_adapter_accepts (g : InteractiveGrader σ) (c : TestCase) (desk : Desk σ)
    {report interactorReport : ProcessReport} {stderr interactorStderr : Bytes}
    (talk : g.Converses c desk report stderr interactorReport interactorStderr) :
    let graded := ((Grader.interactive g).grade c).runOn desk
    let shown : InteractorOutcome :=
      { report := interactorReport
        maxPoints := c.points
        timeLimit := g.limits.time
        memoryLimit := g.limits.memory
        feedback := if g.config.feedback then some (Utf8.decodeLossy interactorStderr) else none
        name := "interactor"
        stderr := interactorStderr }
    let heard := g.adapter.judge shown
    let observed := c.freshResult.populate stderr report
    (∀ fault, graded.1 = .error fault ↔ heard = .error fault) ∧
    (∀ award, heard = .ok award → ∃ result, graded.1 = .ok result ∧
      observed.Judged c.points (.graded (award.silencedIf observed.failed)) result) ∧
    (∀ other otherReport otherStderr,
      g.Converses c other otherReport otherStderr interactorReport interactorStderr →
      ∀ fault, graded.1 = .error fault ↔
        (((Grader.interactive g).grade c).runOn other).1 = .error fault) ∧
    graded.2.consultations = desk.consultations ∧
    ∀ checker, ((Grader.interactive g).grade { c with checker := checker }).runOn desk = graded := by
  refine ⟨errs_iff talk, fun award accepts => answers_of_accepts talk accepts, ?_, ?_, ?_⟩
  · intro other otherReport otherStderr otherTalk fault
    exact (errs_iff talk fault).trans (errs_iff otherTalk fault).symm
  · exact keeps_grade Desk.consultations_ignore_sandbox Desk.consultations_ignore_material g c desk
  · intro checker
    exact congrArg (·.runOn desk) (gradeCase_withChecker g c checker)

end InteractiveGrader

namespace Sample

def guessing : InteractiveGrader ScriptedHost :=
  ⟨standard true, ⟨.one "interactor", "interactor", [], none, true, none, none, none, false,
    "testlib"⟩, binary "interactor", .testlib, ⟨.ofSeconds 3, 65536⟩⟩

def crash : Script := exiting 11 [] [120]

def assertion : Script := exiting 3 [] [110, 111]

/-- An interactor that found a fault of its own is heard over a submission that crashed. -/
theorem failed_assertion_outweighs_crash :
    let desk := desk [("submission", crash), ("interactor", assertion)]
    guessing.Converses (testCase 64) desk crash.report [120]
      assertion.report [110, 111] ∧
    (((Grader.interactive guessing).grade (testCase 64)).runOn desk).1 =
      .error (.internal (.failedAssertion "interactor" "no")) := by
  have wall : scaledWallTime guessing.limits.time
      (testCase 64).config.wallTimeFactor = .ok (.ofSeconds 9) := by decide +kernel
  have limits : guessing.base.submissionSpec (testCase 64) =
      .ok { LaunchSpec.limited (.ofSeconds 1) 65536 with wallTime := some (.ofSeconds 3) } := by
    decide +kernel
  have rejects : guessing.adapter.judge (guessing.outcome (testCase 64)
      assertion.report [110, 111]) =
      .error (.internal (.failedAssertion "interactor" "no")) := by decide +kernel
  have talk : guessing.Converses (testCase 64)
      (desk [("submission", crash), ("interactor", assertion)])
      crash.report [120] assertion.report [110, 111] :=
    .intro wall limits (Work.gives_of_answer rfl) (Work.gives_of_answer rfl)
      (Work.gives_of_answer rfl) (Work.gives_of_answer rfl) (Work.gives_of_answer rfl)
      (Work.gives_of_answer rfl) rfl (Work.gives_of_answer rfl) (Work.gives_of_answer rfl)
      (Work.gives_of_answer rfl) (Work.gives_of_answer rfl) rfl (Work.gives_of_answer rfl)
      (Work.gives_of_answer rfl)
  have judged := InteractiveGrader.grade_answers_iff_adapter_accepts guessing (testCase 64) _ talk
  exact ⟨talk, (judged.1 _).2 rejects⟩

end Sample
end ContestJudge
