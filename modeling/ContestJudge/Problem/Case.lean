import ContestJudge.Checker.Registry
import ContestJudge.Config.Case
import ContestJudge.Config.Interactive

namespace ContestJudge

inductive DataSource where
  | inline (data : Bytes)
  | file (path : String)
  deriving DecidableEq

def DataSource.path? : DataSource → Option String
  | .inline _ => none
  | .file path => some path

structure TestCase where
  position : Nat
  batch : Option Nat
  points : Binary64
  input : DataSource
  output : DataSource
  config : CaseConfig
  checker : Checker

namespace TestCase

def freshResult (c : TestCase) : CaseResult := .fresh c.position c.batch c.points

def stoppedResult (c : TestCase) (message : String) : CaseResult :=
  .stopped c.position c.batch c.points message

def debugText (c : TestCase) : String :=
  let batch := match c.batch with
    | none => "None"
    | some n => s!"Some({n})"
  let points := NumberLayout.debug.text c.points
  let checker := Text.quoted c.checker.name
  s!"TestCase \x7b position: {c.position}, batch: {batch}, points: {points}, " ++
    s!"checker: {checker} \x7d"

end TestCase

structure CaseData where
  input : Option Bytes
  output : Option Bytes
  /-- The temporary file that holds the input. -/
  materialized : Option String
  deriving DecidableEq

namespace CaseData

def none : CaseData := ⟨.none, .none, .none⟩

instance : Inhabited CaseData := ⟨none⟩

def isLoaded (data : CaseData) : Bool :=
  data.input.isSome || data.output.isSome || data.materialized.isSome

end CaseData

structure Problem where
  id : String
  /-- Processor time for each case. -/
  timeLimit : Duration
  /-- KiB for each case. -/
  memoryLimit : Nat
  /-- The directory of the manifest and its files. -/
  root : String
  config : ProblemConfig

def Problem.isInteractive (problem : Problem) : Bool := problem.config.interactive.isSome

end ContestJudge
