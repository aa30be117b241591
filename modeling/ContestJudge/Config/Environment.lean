import ContestJudge.Config.Seconds
import ContestJudge.Files.Store
import ContestJudge.Json.Reader
import ContestJudge.Json.Record

namespace ContestJudge

def manifestName : String := "problem.json"

structure JudgeEnvironment where
  /-- KiB for helpers such as interactors. -/
  helperMemoryLimit : Nat
  /-- Seconds for a compiler where a problem sets none. -/
  compilerTimeLimit : Binary64
  /-- KiB for compilers. -/
  compilerMemoryLimit : Nat
  /-- Whether output is captured in a memory file and not through a pipe. -/
  memoryOutput : Bool
  /-- The directories that hold problems. -/
  problemRoots : List String
  deriving DecidableEq

namespace JudgeEnvironment

def usual : JudgeEnvironment := ⟨262144, 10, 2 * 1024 * 1024, true, []⟩

def fieldNames : List String :=
  ["generator_memory_limit", "compiler_time_limit", "compiler_memory_limit", "memfd_output",
    "problem_roots"]

def ofJson? (document : Json) : Option JudgeEnvironment := do
  match ← document.fields? fieldNames with
  | [helper, compilerTime, compilerMemory, memoryOutput, roots] =>
    return {
      helperMemoryLimit := ← Json.default? usual.helperMemoryLimit (Json.natural? wordBound) helper
      compilerTimeLimit := ← Json.default? usual.compilerTimeLimit Json.real? compilerTime
      compilerMemoryLimit :=
        ← Json.default? usual.compilerMemoryLimit (Json.natural? wordBound) compilerMemory
      memoryOutput := ← Json.default? usual.memoryOutput Json.bool? memoryOutput
      problemRoots := ← Json.default? usual.problemRoots Json.texts? roots }
  | _ => none

def load (files : FileStore) (path : String) : Except Fault JudgeEnvironment :=
  match files.readText path with
  | .error cause => .error (.config (.environmentUnreadable path cause))
  | .ok text =>
    match (Json.parse? text).bind ofJson? with
    | some environment => .ok environment
    | none => .error (.config .environmentMalformed)

/-- The time for a compiler; below zero there is none. -/
def compilerTime (environment : JudgeEnvironment) : Except Fault Duration :=
  configuredTime (environment.compilerTimeLimit.max 0) "compiler_time_limit"

def problemRoot? (environment : JudgeEnvironment) (files : FileStore) (problem : String) :
    Option String :=
  (environment.problemRoots.map fun root => Path.join root problem).find? fun directory =>
    files.isFile (Path.join directory manifestName)

end JudgeEnvironment
end ContestJudge
