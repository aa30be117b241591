import ContestJudge.Judge.Interactive

namespace ContestJudge

inductive Grader (σ : Type) where
  | standard (grader : StandardGrader σ)
  | interactive (grader : InteractiveGrader σ)

namespace Grader

variable {σ : Type}

def build (problem : Problem) (submission : Submission) (bench : Bench σ) :
    Judge σ (Grader σ) := do
  if problem.isInteractive then
    return .interactive (← InteractiveGrader.build problem submission bench)
  else return .standard (← StandardGrader.build problem submission bench)

def isInteractive : Grader σ → Bool
  | .standard _ => false
  | .interactive _ => true

def grade : Grader σ → TestCase → Judge σ CaseResult
  | .standard grader, c => grader.steps.gradeCase c
  | .interactive grader, c => grader.steps.gradeCase c

def binaries : Grader σ → List Binary
  | .standard grader => [grader.binary]
  | .interactive grader => [grader.base.binary, grader.interactor]

def letGo (grader : Grader σ) (desk : Desk σ) : Desk σ :=
  grader.binaries.foldl (fun desk binary => binary.letGo desk) desk

end Grader
end ContestJudge
