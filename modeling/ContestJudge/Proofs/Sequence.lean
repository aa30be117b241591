import ContestJudge.Judge.Grader
import ContestJudge.Proofs.Desk
import ContestJudge.Proofs.Verdict
import ContestJudge.Sandbox.Scripted

namespace ContestJudge

namespace Sandbox

variable {σ τ : Type}

theorem populate_gives {sandbox : Sandbox σ} {desk : Desk σ} {process : Handle}
    {report : ProcessReport} (reported : sandbox.report? desk.host process = some report)
    (stderr : Bytes) (result : CaseResult) :
    (sandbox.populate process stderr result).Gives desk (result.populate stderr report) desk := by
  rw [Work.Gives, populate, Work.runOn_bind, Work.runOn_get]
  simp only [reported, Work.runOn_pure]

theorem keeps_populate {view : Desk σ → τ} (sandbox : Sandbox σ) (process : Handle)
    (stderr : Bytes) (result : CaseResult) :
    (sandbox.populate process stderr result).Keeps view := by
  refine Work.keeps_get.bind fun desk => ?_
  split
  · exact Work.keeps_pure _
  · exact Work.keeps_throw _

end Sandbox

namespace Session

variable {σ τ Run α : Type}

theorem atDesk_gives {work : Judge σ α} {desk later : Desk σ} {a : α}
    (gives : work.Gives desk a later) (run : Run) :
    (atDesk work).Gives (⟨desk, run⟩ : Session σ Run) a ⟨later, run⟩ := by
  rw [Work.Gives, atDesk, Work.runOn_within, gives]

theorem runOn_atDesk (work : Judge σ α) (session : Session σ Run) :
    (atDesk work).runOn session =
      ((work.runOn session.desk).1, ⟨(work.runOn session.desk).2, session.run⟩) := rfl

theorem keeps_atDesk {view : Desk σ → τ} {work : Judge σ α} (kept : work.Keeps view) :
    (atDesk work : Work (Session σ Run) α).Keeps fun session => view session.desk :=
  kept.within (fun _ => rfl) fun _ _ => rfl

theorem keeps_run_atDesk (work : Judge σ α) :
    (atDesk work : Work (Session σ Run) α).Keeps Session.run := fun _ => rfl

theorem gives_of_atDesk {work : Judge σ α} {session later : Session σ Run} {a : α}
    (gives : (atDesk work).Gives session a later) : work.Gives session.desk a later.desk := by
  rw [Work.Gives, runOn_atDesk, Prod.mk.injEq] at gives
  rw [← gives.2]
  exact Work.gives_of_answer gives.1

theorem leads_atDesk {work : Judge σ α} {session : Session σ Run} {done : α → Desk σ → Prop}
    {stopped : Desk σ → Prop} (leads : work.Leads session.desk done stopped) :
    (atDesk work : Work (Session σ Run) α).Leads session
      (fun a later => done a later.desk ∧ later.run = session.run)
      (fun later => stopped later.desk ∧ later.run = session.run) := by
  rcases leads with ⟨a, later, gives, held⟩ | ⟨fault, later, stops, held⟩
  · exact .inl ⟨a, ⟨later, session.run⟩, atDesk_gives gives session.run, held, rfl⟩
  · refine .inr ⟨fault, ⟨later, session.run⟩, ?_, held, rfl⟩
    rw [Work.Stops, runOn_atDesk, stops]

end Session

namespace GradingSteps

variable {σ τ Run : Type} {steps : GradingSteps σ Run} {c : TestCase}

theorem runOn_runCase {desk launched : Desk σ} {run : Run}
    (launch : (steps.launch c).Gives desk run launched) :
    (steps.runCase c).runOn desk =
      (((steps.conclude c).runOn ⟨launched, run⟩).1,
        steps.finish ((steps.conclude c).runOn ⟨launched, run⟩).2.run
          ((steps.conclude c).runOn ⟨launched, run⟩).2.desk) := by
  rw [runCase, Work.runOn_bind_of_gives launch]
  rfl

theorem runOn_conclude {session ended seen : Session σ Run} {captured observed : CaseResult}
    {stderr : Bytes}
    (interact : (steps.interact c c.freshResult).Gives session (captured, stderr) ended)
    (populate : (steps.populate stderr captured).Gives ended observed seen) :
    (steps.conclude c).runOn session =
      (((steps.check c observed).runOn seen).1.map fun judgement =>
        observed.apply (judgement.normalize c.points), ((steps.check c observed).runOn seen).2) := by
  rw [conclude, Work.runOn_bind_of_gives interact, Work.runOn_bind_of_gives populate,
    Work.runOn_bind]
  rcases (steps.check c observed).runOn seen with ⟨fault | judgement, later⟩ <;> rfl

theorem runOn_gradeCase {desk launched : Desk σ} {run : Run} {captured observed : CaseResult}
    {stderr : Bytes} {ended seen : Session σ Run}
    (launch : (steps.launch c).Gives desk run launched)
    (interact : (steps.interact c c.freshResult).Gives ⟨launched, run⟩ (captured, stderr) ended)
    (populate : (steps.populate stderr captured).Gives ended observed seen) :
    (steps.gradeCase c).runOn desk =
      (((steps.check c observed).runOn seen).1.map fun judgement =>
          observed.apply (judgement.normalize c.points),
        (steps.finish ((steps.check c observed).runOn seen).2.run
          ((steps.check c observed).runOn seen).2.desk).freeData) := by
  rw [gradeCase, Work.runOn_always, runOn_runCase launch, runOn_conclude interact populate]

theorem keeps_conclude {view : Session σ Run → τ}
    (interact : ∀ result, (steps.interact c result).Keeps view)
    (populate : ∀ stderr result, (steps.populate stderr result).Keeps view)
    (check : ∀ result, (steps.check c result).Keeps view) : (steps.conclude c).Keeps view :=
  (interact _).bind fun _ =>
    (populate _ _).bind fun observed => (check observed).bind fun _ => Work.keeps_pure _

theorem keeps_gradeCase {view : Desk σ → τ} (launch : (steps.launch c).Keeps view)
    (interact : ∀ result, (steps.interact c result).Keeps fun session => view session.desk)
    (populate : ∀ stderr result,
      (steps.populate stderr result).Keeps fun session => view session.desk)
    (check : ∀ result, (steps.check c result).Keeps fun session => view session.desk)
    (finish : ∀ run desk, view (steps.finish run desk) = view desk)
    (free : ∀ desk : Desk σ, view desk.freeData = view desk) :
    (steps.gradeCase c).Keeps view := by
  have concluded : (steps.conclude c).Keeps fun session => view session.desk :=
    keeps_conclude interact populate check
  refine Work.Keeps.always ?_ free
  refine launch.bind fun run desk => ?_
  exact (finish _ _).trans (concluded ⟨desk, run⟩)

end GradingSteps

/-! A small judge whose sandbox plays scripts. -/

namespace Sample

def problem : Problem := ⟨"guess", .ofSeconds 1, 65536, "/problems/guess", ⟨none, true⟩⟩

def binary (language : String) : Binary := ⟨language, [language], [], 0, true, none⟩

def checker : Checker :=
  ⟨"lenient", false, fun _ => .answer (.ok (.graded ⟨true, 7, some "well done", none⟩))⟩

def testCase (outputLimit : Nat) : TestCase :=
  ⟨1, none, 10, .inline [52], .inline [53], { CaseConfig.usual with outputLimit := outputLimit },
    checker⟩

def bench (memoryOutput : Bool) : Bench ScriptedHost :=
  ⟨.scripted, .ofFunction fun request => .ok (binary request.language), .builtin,
    { JudgeEnvironment.usual with memoryOutput := memoryOutput }⟩

def standard (memoryOutput : Bool) : StandardGrader ScriptedHost :=
  ⟨problem, ⟨"submission", []⟩, binary "submission", bench memoryOutput⟩

def exiting (code : Int) (stdout stderr : Bytes) : Script :=
  { Script.silent with
    report := { (default : ProcessReport) with exitCode := some code }
    stdout := stdout
    stderr := stderr }

def desk (scripts : List (String × Script)) : Desk ScriptedHost :=
  .fresh .empty (.start (scripts.map fun (language, script) => (language, [script])))

end Sample
end ContestJudge
