import ContestJudge.Judge.Arguments
import ContestJudge.Judge.CrossPipes
import ContestJudge.Judge.Standard
/-!
Grading a submission that converses with an interactor of the judge. Both run at once, each
reading what the other writes, and an adapter judges the end of the interactor.
-/

namespace ContestJudge

structure InteractorLimits where
  /-- Processor time. -/
  time : Duration
  /-- KiB. -/
  memory : Nat
  deriving DecidableEq

structure InteractiveGrader (σ : Type) where
  base : StandardGrader σ
  config : InteractiveConfig
  interactor : Binary
  adapter : Adapter
  limits : InteractorLimits

structure InteractiveRun where
  submission : Handle
  pipes : CrossPipes
  interactor : Option Handle
  interactorWall : Duration

def interactorName : String := "interactor"

def discardedOutput : String := "/dev/null"

/-- An interactor has the time of the submission and its own on top. -/
def InteractorLimits.derive (problem : Problem) (config : InteractiveConfig)
    (environment : JudgeEnvironment) : Except Fault InteractorLimits := do
  let preprocessing ← config.preprocessing
  match preprocessing.add? problem.timeLimit with
  | some time => return ⟨time, config.memoryLimit.getD environment.helperMemoryLimit⟩
  | none => throw (.config .interactorTimeOverflow)

/-- One source of an interactor, under its name without directories. -/
def readInteractorSource (problem : Problem) (files : FileStore) (file : String) :
    Except Fault SourceFile :=
  let path := Path.join problem.root file
  match files.read path with
  | .ok content => .ok ⟨some ((Path.fileName? file).getD file), content⟩
  | .error cause => .error (.internal (.sourceUnreadable path cause))

def interactorCompilerTime (config : InteractiveConfig) (environment : JudgeEnvironment) :
    Except Fault Duration :=
  match config.compilerTimeLimit.filter (Binary64.lt 0) with
  | some value => configuredTime value "compiler_time_limit"
  | none => environment.compilerTime

def interactorRequest (problem : Problem) (config : InteractiveConfig)
    (environment : JudgeEnvironment) (files : FileStore) : Except Fault CompileRequest := do
  let sources ← config.files.toList.mapM (readInteractorSource problem files)
  let time ← interactorCompilerTime config environment
  return ⟨sources, config.flags, config.lang, time, config.unbuffered⟩

def blameInteractor : Fault → Fault
  | .compile diagnostics => .interactorCompile diagnostics
  | fault => fault

def compileInteractor {σ : Type} (problem : Problem) (config : InteractiveConfig)
    (bench : Bench σ) : Judge σ Binary := do
  let desk ← get
  let request ← Work.ofExcept (interactorRequest problem config bench.environment desk.files)
  (bench.compiler.request request).relabel blameInteractor

namespace InteractiveGrader

variable {σ : Type}

/-- A grader with all that it needs built. The judge's own part comes first, so that its faults
show before anything of the contestant is built. -/
def build (problem : Problem) (submission : Submission) (bench : Bench σ) :
    Judge σ (InteractiveGrader σ) := do
  match problem.config.interactive with
  | none => throw (.config (.noInteractiveSection problem.id))
  | some config =>
    let adapter ← Work.ofExcept (bench.adapters.find config.adapter)
    let limits ← Work.ofExcept (InteractorLimits.derive problem config bench.environment)
    let interactor ← compileInteractor problem config bench
    let binary ← (compileSubmission problem submission bench).unlessDone interactor.letGo
    return ⟨⟨problem, submission, binary, bench⟩, config, interactor, adapter, limits⟩

def argsTemplate (g : InteractiveGrader σ) : String :=
  g.config.argsTemplate.getD g.adapter.argsTemplate

def launch (g : InteractiveGrader σ) (c : TestCase) : Judge σ InteractiveRun := do
  let sandbox := g.base.bench.sandbox
  let interactorWall ← Work.ofExcept (scaledWallTime g.limits.time c.config.wallTimeFactor)
  let spec ← Work.ofExcept (g.base.submissionSpec c)
  let pipes ← CrossPipes.openAt sandbox
  let (stdin, stdout, rest) ←
    (Work.ofExcept (pipes.takeBoth .submissionStdin .submissionStdout)).unlessDone
      (pipes.close sandbox)
  let submission ← (sandbox.start g.base.binary
    { spec with stdin := .given (.pipe stdin), stdout := .given (.pipe stdout) }).unlessDone
      (rest.close sandbox)
  return ⟨submission, rest, none, interactorWall⟩

def interactorSpec (g : InteractiveGrader σ) (wall : Duration) (input answer : String)
    (stdin stdout : PipeEnd) : LaunchSpec :=
  { LaunchSpec.limited g.limits.time g.limits.memory with
    args := InteractorFiles.arguments ⟨input, discardedOutput, answer⟩ g.argsTemplate
    wallTime := some wall
    stdin := .given (.pipe stdin)
    stdout := .given (.pipe stdout)
    readable := [input] }

/-- Launches the interactor, and lets go of the pipes in any case. -/
def launchInteractor (g : InteractiveGrader σ) (input answer : String) :
    Work (Session σ InteractiveRun) Handle := do
  let sandbox := g.base.bench.sandbox
  let run := (← get).run
  let (stdin, stdout, rest) ←
    Work.ofExcept (run.pipes.takeBoth .interactorStdin .interactorStdout)
  let spec := g.interactorSpec run.interactorWall input answer stdin stdout
  let launched ← (Session.atDesk (sandbox.start g.interactor spec)).attempt
  modify fun session =>
    ⟨rest.close sandbox session.desk, { session.run with pipes := .closed }⟩
  let interactor ← Work.ofExcept launched
  modify fun session => { session with run := { session.run with interactor := some interactor } }
  return interactor

def converse (g : InteractiveGrader σ) (c : TestCase) (input answer : String) :
    Work (Session σ InteractiveRun) Bytes := do
  let sandbox := g.base.bench.sandbox
  Session.atDesk (do TestCase.fillTemporary answer (← c.outputData))
  let interactor ← g.launchInteractor input answer
  let submission := (← get).run.submission
  Session.atDesk (do
    let _ ← sandbox.awaitEnd submission
    let _ ← sandbox.awaitEnd interactor
    sandbox.stderrOf submission)

def tidying (tidy : Desk σ → Desk σ) (session : Session σ InteractiveRun) :
    Session σ InteractiveRun := { session with desk := tidy session.desk }

def interact (g : InteractiveGrader σ) (c : TestCase) (result : CaseResult) :
    Work (Session σ InteractiveRun) (CaseResult × Bytes) := do
  let input ← Session.atDesk c.inputFile
  let stderr ← Work.always (tidying input.letGo) do
    let answer ← Session.atDesk TestCase.newTemporary
    (g.converse c input.path answer).always (tidying (Desk.discard answer))
  return (result, stderr)

def populate (g : InteractiveGrader σ) (stderr : Bytes) (result : CaseResult) :
    Work (Session σ InteractiveRun) CaseResult := do
  let run := (← get).run
  Session.atDesk (g.base.bench.sandbox.populate run.submission stderr result)

def outcome (g : InteractiveGrader σ) (c : TestCase) (report : ProcessReport) (stderr : Bytes) :
    InteractorOutcome where
  report := report
  maxPoints := c.points
  timeLimit := g.limits.time
  memoryLimit := g.limits.memory
  feedback := if g.config.feedback then some (Utf8.decodeLossy stderr) else none
  name := interactorName
  stderr := stderr

/-- The judgement on the interactor, which comes before what is known of the submission, so that a
broken interactor is never hidden. -/
def check (g : InteractiveGrader σ) (c : TestCase) (result : CaseResult) :
    Work (Session σ InteractiveRun) Judgement := do
  match (← get).run.interactor with
  | none => throw (.internal .interactorNeverLaunched)
  | some interactor =>
    let sandbox := g.base.bench.sandbox
    let award ← Session.atDesk (do
      let stderr ← sandbox.stderrOf interactor
      let report ← sandbox.awaitEnd interactor
      Work.ofExcept (g.adapter.judge (g.outcome c report stderr)))
    return if result.failed then .fail else .graded award

def finish (g : InteractiveGrader σ) (run : InteractiveRun) (desk : Desk σ) : Desk σ :=
  let sandbox := g.base.bench.sandbox
  let desk := run.pipes.close sandbox (sandbox.letGo run.submission desk)
  match run.interactor with
  | some interactor => sandbox.letGo interactor desk
  | none => desk

def steps (g : InteractiveGrader σ) : GradingSteps σ InteractiveRun where
  launch := g.launch
  interact := g.interact
  populate := g.populate
  check := g.check
  finish := g.finish

end InteractiveGrader
end ContestJudge
