import ContestJudge.Judge.Material
/-!
The steps of grading a case, in the order that every grader keeps: launch, interact, take the
report, check, apply the judgement, let go. What a case has loaded is freed on every way out.
-/

namespace ContestJudge

structure Session (σ Run : Type) where
  desk : Desk σ
  run : Run

namespace Session

variable {σ Run α : Type}

def atDesk (work : Judge σ α) : Work (Session σ Run) α :=
  work.within Session.desk fun session desk => { session with desk := desk }

end Session

/-- The steps of a kind of grading. A run lives from its launch until the case is graded. -/
structure GradingSteps (σ Run : Type) where
  launch : TestCase → Judge σ Run
  /-- Sees the run to its end. Gives the result with the output in it, and stderr. -/
  interact : TestCase → CaseResult → Work (Session σ Run) (CaseResult × Bytes)
  /-- Takes what was observed of the run into the result. -/
  populate : Bytes → CaseResult → Work (Session σ Run) CaseResult
  check : TestCase → CaseResult → Work (Session σ Run) Judgement
  /-- Lets go of what the run holds. -/
  finish : Run → Desk σ → Desk σ

namespace GradingSteps

variable {σ Run : Type}

def conclude (steps : GradingSteps σ Run) (c : TestCase) : Work (Session σ Run) CaseResult := do
  let (captured, stderr) ← steps.interact c c.freshResult
  let observed ← steps.populate stderr captured
  let judgement ← steps.check c observed
  return observed.apply (judgement.normalize c.points)

def runCase (steps : GradingSteps σ Run) (c : TestCase) : Judge σ CaseResult := do
  let run ← steps.launch c
  fun desk =>
    let (answer, session) := (steps.conclude c).runOn ⟨desk, run⟩
    (answer, steps.finish session.run session.desk)

def gradeCase (steps : GradingSteps σ Run) (c : TestCase) : Judge σ CaseResult :=
  (steps.runCase c).always Desk.freeData

end GradingSteps
end ContestJudge
