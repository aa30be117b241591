import ContestJudge.Fault
import ContestJudge.Verdict
/-!
Checkers judge the captured output of a submission against the expected one. A checker answers
with a judgement, which is brought into the bounds of the case once, or with a fault.
-/

namespace ContestJudge

namespace Award

def ofPoints (passed : Bool) (points : Binary64) : Award := ⟨passed, points, none, none⟩

def withFeedback (award : Award) (feedback : Option String) : Award :=
  { award with feedback := feedback.orElse fun _ => award.feedback }

end Award

inductive Judgement where
  | fail
  | pass
  | graded (award : Award)
  deriving DecidableEq

namespace Judgement

def ofBool (passed : Bool) : Judgement := if passed then .pass else .fail

/-- Points in the range from zero to the points of the case; NaN counts as zero. -/
def bounded (points maxPoints : Binary64) : Binary64 :=
  if (Binary64.le 0 points) && points.le maxPoints then points
  else if points.isNan then 0
  else points.clamp 0 (maxPoints.max 0)

def normalize (maxPoints : Binary64) : Judgement → Award
  | .fail => .ofPoints false 0
  | .pass => .ofPoints true maxPoints
  | .graded award =>
    { award with points := if award.passed then bounded award.points maxPoints else 0 }

end Judgement

inductive CheckerFault where
  /-- The checker reads text, and the data is none. -/
  | invalidUnicode
  | failed (message : String)
  deriving DecidableEq

def CheckerFault.message : CheckerFault → String
  | .invalidUnicode => "invalid unicode in checked data"
  | .failed message => message

structure CheckContext where
  submissionOutput : Bytes
  judgeOutput : Bytes
  submissionSource : Bytes
  pointValue : Binary64
  casePosition : Nat
  batch : Option Nat
  submissionLanguage : String
  /-- The output is no text. -/
  binaryData : Bool
  /-- Processor seconds of the submission. -/
  executionTime : Binary64
  problemId : String
  /-- The result of the case so far. -/
  result : CaseResult

/-- What a checker does: it answers, or it asks for the judge input, which is loaded only then, and
goes on with what it got. -/
inductive Consultation where
  | answer (answer : Except CheckerFault Judgement)
  | readInput (next : Except Fault Bytes → Consultation)

structure Checker where
  name : String
  /-- Whether the checker is asked also when the submission has failed. -/
  runOnError : Bool
  check : CheckContext → Consultation

end ContestJudge
