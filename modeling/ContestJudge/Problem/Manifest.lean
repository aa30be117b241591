import ContestJudge.Config.Environment
import ContestJudge.Problem.Case

namespace ContestJudge

structure ManifestCase where
  input : String
  output : Option String
  points : Binary64
  batch : Option Nat
  checker : Option String
  config : List (WrittenText × Json)

structure Manifest where
  id : String
  /-- Seconds. -/
  timeLimit : Binary64
  /-- KiB. -/
  memoryLimit : Nat
  checker : String
  unbuffered : Bool
  interactive : Option InteractiveConfig
  /-- Settings beneath those of every case. -/
  caseDefaults : List (WrittenText × Json)
  cases : List ManifestCase

namespace ManifestCase

def fieldNames : List String := ["input", "output", "points", "batch", "checker", "config"]

def ofJson? (document : Json) : Option ManifestCase := do
  match ← document.fields? fieldNames with
  | [input, output, points, batch, checker, config] =>
    return {
      input := ← Json.required? Json.text? input
      output := ← Json.default? none (Json.nullable? Json.text?) output
      points := ← Json.required? Json.real? points
      batch := ← Json.default? none (Json.nullable? (Json.natural? 4294967296)) batch
      checker := ← Json.default? none (Json.nullable? Json.text?) checker
      config := ← Json.default? [] (Json.freeForm? (Json.nestingLimit - 3)) config }
  | _ => none

end ManifestCase

namespace Manifest

def fieldNames : List String :=
  ["id", "time_limit", "memory_limit", "checker", "unbuffered", "interactive", "case_defaults",
    "cases"]

def ofJson? (document : Json) : Option Manifest := do
  match ← document.fields? fieldNames with
  | [id, time, memory, checker, unbuffered, interactive, defaults, cases] =>
    return {
      id := ← Json.required? Json.text? id
      timeLimit := ← Json.required? Json.real? time
      memoryLimit := ← Json.required? (Json.natural? wordBound) memory
      checker := ← Json.default? "standard" Json.text? checker
      unbuffered := ← Json.default? true Json.bool? unbuffered
      interactive := ← Json.default? none (Json.nullable? InteractiveConfig.ofJson?) interactive
      caseDefaults := ← Json.default? [] (Json.freeForm? (Json.nestingLimit - 1)) defaults
      cases := ← Json.required? (Json.list? ManifestCase.ofJson?) cases }
  | _ => none

def problem (manifest : Manifest) (directory : String) : Except Fault Problem :=
  if manifest.timeLimit.isFinite && Binary64.lt 0 manifest.timeLimit then do
    let timeLimit ← configuredTime manifest.timeLimit "time_limit"
    return ⟨manifest.id, timeLimit, manifest.memoryLimit, directory,
      ⟨manifest.interactive, manifest.unbuffered⟩⟩
  else .error (.config (.timeLimitNotPositive manifest.timeLimit))

/-- A case of the problem in a directory. An unknown checker is found before bad settings. -/
def testCase (manifest : Manifest) (directory : String) (checkers : CheckerRegistry)
    (position : Nat) (entry : ManifestCase) : Except Fault TestCase := do
  let checker ← checkers.find (entry.checker.getD manifest.checker)
  let config ← match CaseConfig.merge? manifest.caseDefaults entry.config with
    | some config => .ok config
    | none => .error (.config .caseConfigMalformed)
  let output := match entry.output with
    | some name => .file (Path.join directory name)
    | none => .inline []
  return ⟨position, entry.batch, entry.points, .file (Path.join directory entry.input), output,
    config, checker⟩

/-- Cases from a position on; the first bad one is the fault. -/
def testCases (manifest : Manifest) (directory : String) (checkers : CheckerRegistry) :
    Nat → List ManifestCase → Except Fault (List TestCase)
  | _, [] => .ok []
  | position, entry :: rest => do
    let case ← manifest.testCase directory checkers position entry
    let later ← testCases manifest directory checkers (position + 1) rest
    return case :: later

def load (manifest : Manifest) (directory : String) (checkers : CheckerRegistry) :
    Except Fault (Problem × List TestCase) := do
  let problem ← manifest.problem directory
  let cases ← manifest.testCases directory checkers 1 manifest.cases
  return (problem, cases)

end Manifest

def loadProblem (files : FileStore) (directory : String) (checkers : CheckerRegistry) :
    Except Fault (Problem × List TestCase) :=
  let path := Path.join directory manifestName
  match files.readText path with
  | .error cause => .error (.config (.manifestUnreadable path cause))
  | .ok text =>
    match (Json.parse? text).bind Manifest.ofJson? with
    | some manifest => manifest.load directory checkers
    | none => .error (.config .manifestMalformed)

end ContestJudge
