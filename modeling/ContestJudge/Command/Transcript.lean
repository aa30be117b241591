import ContestJudge.Fault
import ContestJudge.Json.Writer
import ContestJudge.Verdict

namespace ContestJudge

inductive Record where
  /-- A case with its result. -/
  | graded (result : CaseResult)
  /-- The submission did not build. -/
  | notBuilt (diagnostics : String)
  /-- Grading never began. -/
  | notBegun (fault : Fault)

namespace Record

def verdict : Record → String
  | .graded result => result.flags.verdict
  | .notBuilt _ => "CE"
  | .notBegun _ => "IE"

def details : Record → List (String × Json)
  | .graded result => result.recordFields ++ result.measuredFields
  | .notBuilt diagnostics => [("message", .ofString diagnostics)]
  | .notBegun fault => [("message", .ofString fault.message)]

def fields (record : Record) : List (String × Json) :=
  ("verdict", .ofString record.verdict) :: record.details

/-- The record with its fields in the order of their names. -/
def toJson (record : Record) : Json :=
  .record (record.fields.mergeSort fun a b => decide (a.1 ≤ b.1))

end Record

structure Transcript where
  output : List String
  complaints : List String
  code : Nat
  deriving DecidableEq

namespace Transcript

def successCode : Nat := 0

/-- The submission did not build, or a tool is missing. -/
def shortcomingCode : Nat := 1

/-- Grading stopped on the judge's side, or the command line was not understood. -/
def faultCode : Nat := 2

end Transcript
end ContestJudge
