import ContestJudge.Adapter.Builtin
import ContestJudge.Build.Compiler
import ContestJudge.Config.Environment
import ContestJudge.Judge.Sequence
/-!
Grading a submission that reads its input and writes its output. The output is captured in a
memory file or through a pipe, and a checker judges it.
-/

namespace ContestJudge

structure Submission where
  language : String
  source : Bytes
  deriving DecidableEq

structure Bench (σ : Type) where
  sandbox : Sandbox σ
  compiler : Compiler σ
  adapters : AdapterRegistry
  environment : JudgeEnvironment

structure StandardGrader (σ : Type) where
  problem : Problem
  submission : Submission
  binary : Binary
  bench : Bench σ

structure StandardRun where
  process : Handle
  /-- The memory file that captures the output. -/
  memory : Option Nat
  input : CaseInput

def wallTimeOf (seconds factor : Binary64) : Except Fault Duration :=
  match Duration.ofSeconds? seconds with
  | some wall => .ok wall
  | none => .error (.config (.wallFactorOutOfRange factor))

/-- A time stretched by a factor, which counts as one where it is less. -/
def scaledWallTime (time : Duration) (factor : Binary64) : Except Fault Duration :=
  wallTimeOf (time.toSeconds * factor.max 1) factor

def compileSubmission {σ : Type} (problem : Problem) (submission : Submission)
    (bench : Bench σ) : Judge σ Binary := do
  let time ← Work.ofExcept bench.environment.compilerTime
  bench.compiler.request
    ⟨[⟨none, submission.source⟩], [], submission.language, time, problem.config.unbuffered⟩

def consult {σ : Type} (c : TestCase) : LazyBytes → Consultation →
    Judge σ (Except CheckerFault Judgement)
  | _, .answer answer => return answer
  | lazy, .readInput next => do
    match ← (lazy.get c.inputData).attempt with
    | .ok (read, data) =>
      Judge.note (.inputShown data)
      consult c read (next (.ok data))
    | .error fault => consult c lazy (next (.error fault))

/-- The award for output that is not the text that a checker needs. -/
def unreadableAward : Award := (Award.ofPoints false 0).withFeedback (some "invalid unicode")

def verdictOf : Except CheckerFault Judgement → Except Fault Judgement
  | .ok judgement => .ok judgement
  | .error .invalidUnicode => .ok (.graded unreadableAward)
  | .error (.failed message) => .error (.checker message)

namespace StandardGrader

variable {σ : Type}

def build (problem : Problem) (submission : Submission) (bench : Bench σ) :
    Judge σ (StandardGrader σ) := do
  let binary ← compileSubmission problem submission bench
  return ⟨problem, submission, binary, bench⟩

/-- The limits of the submission in a case. The wall clock allows at least the processor time. -/
def submissionSpec (g : StandardGrader σ) (c : TestCase) : Except Fault LaunchSpec := do
  let wall ← scaledWallTime g.problem.timeLimit c.config.wallTimeFactor
  return { LaunchSpec.limited g.problem.timeLimit g.problem.memoryLimit with
    wallTime := some wall
    symlinks := c.config.symlinks }

def leastCapture : Nat := 1024 * 1024

/-- Room past the output limit, so that a breach is seen and not fatal. -/
def captureSlack : Nat := 1024

def sizeBound : Nat := 18446744073709551615

def captureSize (g : StandardGrader σ) (c : TestCase) : Nat :=
  max (max g.binary.footprint (min (c.config.outputLimit + captureSlack) sizeBound)) leastCapture

def checkContext (g : StandardGrader σ) (c : TestCase) (result : CaseResult)
    (judgeOutput : Bytes) : CheckContext where
  submissionOutput := result.output
  judgeOutput := judgeOutput
  submissionSource := g.submission.source
  pointValue := c.points
  casePosition := c.position
  batch := c.batch
  submissionLanguage := g.submission.language
  binaryData := c.config.binaryData
  executionTime := result.executionTime
  problemId := g.problem.id
  result := result

/-- The judgement of the checker, which is asked about a failed submission only if it wants to. -/
def runChecker (g : StandardGrader σ) (c : TestCase) (result : CaseResult) :
    Judge σ Judgement := do
  if result.failed && !c.checker.runOnError then return .fail
  let judgeOutput ← c.outputData
  let context := g.checkContext c result judgeOutput
  Judge.note (.consulted c.checker.name context)
  let answer ← consult c .unread (c.checker.check context)
  Work.ofExcept (verdictOf answer)

def launchOn (g : StandardGrader σ) (c : TestCase) (input : CaseInput) :
    Judge σ StandardRun := do
  let spec ← Work.ofExcept (g.submissionSpec c)
  let opened ← input.openToRead
  let spec := { spec with stdin := .given (.file opened) }
  if g.bench.environment.memoryOutput then
    let memory ← Judge.onHost g.bench.sandbox.openMemory
    let process ← g.bench.sandbox.start g.binary
      { spec with stdout := .given (.memory memory), fileSize := some (g.captureSize c) }
    return ⟨process, some memory, input⟩
  else
    let process ← g.bench.sandbox.start g.binary { spec with stdout := .piped }
    return ⟨process, none, input⟩

def launch (g : StandardGrader σ) (c : TestCase) : Judge σ StandardRun := do
  let input ← c.inputFile
  (g.launchOn c input).unlessDone input.letGo

def collectMemory (g : StandardGrader σ) (c : TestCase) (process : Handle) (memory : Nat) :
    Judge σ (Bytes × Bytes) := do
  let sandbox := g.bench.sandbox
  let _ ← sandbox.awaitEnd process
  let size ← Judge.onHost (sandbox.memorySize memory)
  if size > c.config.outputLimit then sandbox.markExcess process
  let output ← Judge.onHost (sandbox.memoryBytes memory)
  let stderr ← sandbox.stderrOf process
  return (output, stderr)

/-- Reads the output of the submission through a pipe, and stops the submission at the limit. -/
def collectPiped (g : StandardGrader σ) (c : TestCase) (process : Handle) :
    Judge σ (Bytes × Bytes) := do
  let sandbox := g.bench.sandbox
  let output ← sandbox.capture process c.config.outputLimit stderrLimit
  if output.isTruncated then
    sandbox.stop process
    sandbox.markExcess process
    let _ ← sandbox.awaitEnd process
    return (output.stdout, [])
  else return (output.stdout, output.stderr)

def interact (g : StandardGrader σ) (c : TestCase) (result : CaseResult) :
    Work (Session σ StandardRun) (CaseResult × Bytes) := do
  let run := (← get).run
  let (output, stderr) ← Session.atDesk (match run.memory with
    | some memory => g.collectMemory c run.process memory
    | none => g.collectPiped c run.process)
  return ({ result with output := output }, stderr)

def populate (g : StandardGrader σ) (stderr : Bytes) (result : CaseResult) :
    Work (Session σ StandardRun) CaseResult := do
  let run := (← get).run
  Session.atDesk (g.bench.sandbox.populate run.process stderr result)

def finish (g : StandardGrader σ) (run : StandardRun) (desk : Desk σ) : Desk σ :=
  run.input.letGo (g.bench.sandbox.letGo run.process desk)

def steps (g : StandardGrader σ) : GradingSteps σ StandardRun where
  launch := g.launch
  interact := g.interact
  populate := g.populate
  check c result := Session.atDesk (g.runChecker c result)
  finish := g.finish

end StandardGrader
end ContestJudge
