import ContestJudge.Checker.Registry
import ContestJudge.Command.Request
import ContestJudge.Command.Session
import ContestJudge.Command.Toolchain
import ContestJudge.Host.Sandbox
import ContestJudge.Judge.Grader
import ContestJudge.Problem.Manifest

namespace ContestJudge

inductive SetupFault where
  | fault (cause : Fault)
  | submissionUnreadable (path : String) (cause : FileFault)
  deriving DecidableEq

def SetupFault.message : SetupFault → String
  | .fault cause => cause.message
  | .submissionUnreadable path cause => s!"Failed to read submission {path}: {cause.message}"

structure Assignment where
  environment : JudgeEnvironment
  problem : Problem
  cases : List TestCase
  submission : Submission

namespace GradeOptions

def loadEnvironment (options : GradeOptions) (files : FileStore) :
    Except Fault JudgeEnvironment := do
  let environment ← match options.environment with
    | some path => JudgeEnvironment.load files path
    | none => .ok .usual
  return { environment with memoryOutput := environment.memoryOutput && !options.pipeOutput }

/-- The environment comes first, then the problem, then the submission. -/
def load (options : GradeOptions) (files : FileStore) : Except SetupFault Assignment := do
  let environment ← (options.loadEnvironment files).mapError .fault
  let (problem, cases) ← (loadProblem files options.problem .builtin).mapError .fault
  let source ← (files.read options.source).mapError (.submissionUnreadable options.source)
  return ⟨environment, problem, cases, ⟨options.language, source⟩⟩

end GradeOptions

namespace Assignment

variable {σ : Type}

def bench (assignment : Assignment) (sandbox : Sandbox σ) : Bench σ :=
  ⟨sandbox, Build.compiler sandbox assignment.environment.compilerMemoryLimit, .builtin,
    assignment.environment⟩

def perform (assignment : Assignment) (sandbox : Sandbox σ) (desk : Desk σ) : Grading × Desk σ :=
  Grading.perform
    (Grader.build assignment.problem assignment.submission (assignment.bench sandbox))
    Grader.grade assignment.cases desk

end Assignment

namespace Request

def programVersion : String := "gradebox 0.1.0"

def helpLines : List String :=
  ["Usage: gradebox <COMMAND>", "", "Commands:",
    "  grade       Grade a submission against every case of a problem",
    "              --problem <PROBLEM> --language <LANGUAGE> --source <SOURCE>",
    "              [--env <ENV>] [--pipe-output]",
    "  check-deps  Check that the language toolchains are installed",
    "              [--verbose]"]

def answer {σ : Type} (kernel : Kernel σ) (bindings : List (String × String))
    (files : FileStore) (host : σ) : Request → Transcript
  | .grade options =>
    match options.load files with
    | .error fault => ⟨[], ["Error: " ++ fault.message], Transcript.faultCode⟩
    | .ok assignment =>
      (assignment.perform (.plain kernel) (.fresh files (.start host))).1.transcript
  | .checkTools isVerbose =>
    .ofChecks (Toolchain.checkAll kernel files bindings Toolchain.all host).1 isVerbose
  | .version => ⟨[programVersion], [], Transcript.successCode⟩
  | .help => ⟨helpLines, [], Transcript.successCode⟩
  | .unclear => ⟨[], "error: the command line is not understood" :: "" :: helpLines,
      Transcript.faultCode⟩

def respond (request : Request) (bindings : List (String × String)) (files : FileStore) :
    Transcript :=
  request.answer (Host.kernel Host.programs) bindings files .start

def named (bindings : List (String × String)) : Request → List String
  | .grade options =>
    options.environment.toList ++ [Path.join options.problem manifestName, options.source]
  | .checkTools _ =>
    let path := (bindings.lookup "PATH").getD ""
    Toolchain.all.flatMap fun chain => chain.tools.flatMap fun tool =>
      Host.Machine.candidates tool.name path
  | _ => []

def mentioned (files : FileStore) : Request → List String
  | .grade options =>
    match loadProblem files options.problem .builtin with
    | .error _ => []
    | .ok (problem, cases) =>
      let sources := (problem.config.interactive.map (·.files.toList)).getD []
      sources.map (Path.join options.problem) ++ cases.flatMap fun c =>
        [c.input, c.output].filterMap DataSource.path?
  | _ => []

end Request
end ContestJudge
