import ContestJudge.Command.Transcript
import ContestJudge.Judge.Desk

namespace ContestJudge

structure Grading where
  records : List Record
  code : Nat

namespace Grading

variable {σ γ : Type}

def record (result : CaseResult) (later : Grading) : Grading :=
  { later with records := .graded result :: later.records }

def stopped (c : TestCase) (fault : Fault) : Grading :=
  ⟨[.graded (c.stoppedResult fault.message)], Transcript.faultCode⟩

def notBegun : Fault → Grading
  | .compile diagnostics => ⟨[.notBuilt diagnostics], Transcript.shortcomingCode⟩
  | fault => ⟨[.notBegun fault], Transcript.faultCode⟩

/-- Grades cases in their order. Those behind one that cannot be graded are left alone. -/
def ofCases (grade : TestCase → Judge σ CaseResult) :
    List TestCase → Desk σ → Grading × Desk σ
  | [], desk => (⟨[], Transcript.successCode⟩, desk)
  | c :: rest, desk =>
    match (grade c).runOn desk with
    | (.error fault, desk) => (stopped c fault, desk)
    | (.ok result, desk) =>
      let (later, desk) := ofCases grade rest desk
      (later.record result, desk)

def perform (build : Judge σ γ) (grade : γ → TestCase → Judge σ CaseResult)
    (cases : List TestCase) (desk : Desk σ) : Grading × Desk σ :=
  match build.runOn desk with
  | (.error fault, desk) => (notBegun fault, desk)
  | (.ok grader, desk) => ofCases (grade grader) cases desk

def transcript (grading : Grading) : Transcript :=
  ⟨grading.records.map (·.toJson.render), [], grading.code⟩

end Grading
end ContestJudge
