import ContestJudge.Proofs.CapturePaths
import ContestJudge.Proofs.Conversation
/-!
A judge never looks into its journal: behind any earlier acts it does what it does at an empty
journal, comes to the same answer, and notes the same acts.
-/

namespace ContestJudge

def Desk.behind {σ : Type} (earlier : List Act) (desk : Desk σ) : Desk σ :=
  { desk with journal := earlier ++ desk.journal }

section Behind

variable {σ α : Type} (earlier : List Act)

theorem Desk.note_behind (act : Act) (desk : Desk σ) :
    (desk.note act).behind earlier = (desk.behind earlier).note act := by
  rw [note, note, behind, behind]
  exact congrArg (fun journal => (⟨desk.files, desk.data, journal, desk.host⟩ : Desk σ))
    (List.append_assoc ..).symm

theorem Desk.sees_behind : Desk.SeesMaterial (Desk.behind earlier) (id : Desk σ → Desk σ) where
  material same := (congrArg Desk.material same :)
  files same files := congrArg (Desk.withFiles · files) same
  data same data := congrArg (fun desk : Desk σ => { desk with data := data }) same
  act same act := (Desk.note_behind earlier act _).trans (congrArg (Desk.note act) same)

theorem blind_onHost (work : Work σ α) : (Judge.onHost work).Blind (Desk.behind earlier) := by
  rintro desk _ rfl
  exact ⟨rfl, rfl⟩

theorem blind_withHost (change : σ → σ) :
    (modify fun desk => desk.withHost (change desk.host) : Judge σ PUnit).Blind
      (Desk.behind earlier) := by
  rintro desk _ rfl
  exact ⟨rfl, rfl⟩

namespace Sandbox

variable (sandbox : Sandbox σ)

theorem blind_start (binary : Binary) (spec : LaunchSpec) :
    (sandbox.start binary spec).Blind (Desk.behind earlier) := by
  refine Work.alike_get_bind ?_
  rintro desk _ rfl
  refine (blind_onHost earlier _).attempt.bind fun launched => ?_
  cases launched with
  | ok process =>
    exact (alike_note (Desk.sees_behind earlier) _).bind fun _ => Work.alike_pure process
  | error fault =>
    exact (alike_note (Desk.sees_behind earlier) _).bind fun _ => Work.alike_throw fault

theorem blind_awaitEnd (process : Handle) :
    (sandbox.awaitEnd process).Blind (Desk.behind earlier) :=
  (alike_note (Desk.sees_behind earlier) _).bind fun _ => blind_onHost earlier _

theorem blind_capture (process : Handle) (outLimit errLimit : Nat) :
    (sandbox.capture process outLimit errLimit).Blind (Desk.behind earlier) :=
  (alike_note (Desk.sees_behind earlier) _).bind fun _ => blind_onHost earlier _

theorem blind_stderrOf (process : Handle) :
    (sandbox.stderrOf process).Blind (Desk.behind earlier) :=
  (alike_note (Desk.sees_behind earlier) _).bind fun _ => blind_onHost earlier _

theorem blind_stop (process : Handle) : (sandbox.stop process).Blind (Desk.behind earlier) :=
  (alike_note (Desk.sees_behind earlier) _).bind fun _ => blind_withHost earlier _

theorem blind_markExcess (process : Handle) :
    (sandbox.markExcess process).Blind (Desk.behind earlier) :=
  (alike_note (Desk.sees_behind earlier) _).bind fun _ => blind_withHost earlier _

theorem blind_openPipeAtDesk : sandbox.openPipeAtDesk.Blind (Desk.behind earlier) :=
  (blind_onHost earlier _).bind fun pipe =>
    (alike_note (Desk.sees_behind earlier) _).bind fun _ => Work.alike_pure pipe

theorem blind_populate (process : Handle) (stderr : Bytes) (result : CaseResult) :
    (sandbox.populate process stderr result).Blind (Desk.behind earlier) := by
  refine Work.alike_get_bind ?_
  rintro desk _ rfl
  dsimp only [Desk.behind, id]
  split
  · exact Work.alike_pure _
  · exact Work.alike_throw _

theorem letGo_behind (process : Handle) (desk : Desk σ) :
    (sandbox.letGo process desk).behind earlier = sandbox.letGo process (desk.behind earlier) :=
  Desk.note_behind earlier _ _

theorem closeAtDesk_behind (e : PipeEnd) (desk : Desk σ) :
    (sandbox.closeAtDesk e desk).behind earlier = sandbox.closeAtDesk e (desk.behind earlier) :=
  Desk.note_behind earlier _ _

end Sandbox

theorem CrossPipes.close_behind (pipes : CrossPipes) (sandbox : Sandbox σ) (desk : Desk σ) :
    (pipes.close sandbox desk).behind earlier = pipes.close sandbox (desk.behind earlier) := by
  unfold close
  generalize pipes.held = held
  induction held generalizing desk with
  | nil => rfl
  | cons e rest ih =>
    rw [List.foldl_cons, List.foldl_cons, ih, Sandbox.closeAtDesk_behind]

theorem CaseInput.letGo_behind (input : CaseInput) (desk : Desk σ) :
    (input.letGo desk).behind earlier = input.letGo (desk.behind earlier) := by
  unfold letGo
  split <;> rfl

theorem Desk.freeData_behind (desk : Desk σ) :
    desk.freeData.behind earlier = (desk.behind earlier).freeData := by
  simp only [freeData, behind]
  split <;> rfl

end Behind

section Sessions

variable {σ Run α : Type} (earlier : List Act)

def Session.behind (session : Session σ Run) : Session σ Run :=
  { session with desk := session.desk.behind earlier }

theorem Session.blind_atDesk {work : Judge σ α}
    (alike : work.Blind (Desk.behind earlier)) :
    (atDesk work : Work (Session σ Run) α).Blind (Session.behind earlier) := by
  rintro session _ rfl
  obtain ⟨answered, left⟩ := alike session.desk _ rfl
  exact ⟨answered, congrArg (fun desk => (⟨desk, session.run⟩ : Session σ Run)) left⟩

theorem Session.blind_get_bind {β : Type} {next : Session σ Run → Work (Session σ Run) β}
    (later : ∀ session : Session σ Run,
      Work.Alike (Session.behind earlier) id (next session) (next (session.behind earlier))) :
    (get >>= next).Blind (Session.behind earlier) := by
  refine Work.alike_get_bind ?_
  rintro session _ rfl
  exact later session

namespace GradingSteps

variable {steps : GradingSteps σ Run} {c : TestCase}

theorem blind_conclude
    (interact : ∀ result, (steps.interact c result).Blind (Session.behind earlier))
    (populate : ∀ stderr result, (steps.populate stderr result).Blind (Session.behind earlier))
    (check : ∀ result, (steps.check c result).Blind (Session.behind earlier)) :
    (steps.conclude c).Blind (Session.behind earlier) :=
  (interact _).bind fun _ =>
    (populate _ _).bind fun observed => (check observed).bind fun _ => Work.alike_pure _

theorem blind_gradeCase
    (launch : (steps.launch c).Blind (Desk.behind earlier))
    (conclude : (steps.conclude c).Blind (Session.behind earlier))
    (finish : ∀ run desk,
      (steps.finish run desk).behind earlier = steps.finish run (desk.behind earlier)) :
    (steps.gradeCase c).Blind (Desk.behind earlier) := by
  refine Work.Alike.always (launch.bind fun run => ?_) ?_
  · rintro desk _ rfl
    obtain ⟨answered, left⟩ := conclude ⟨desk, run⟩ _ rfl
    refine ⟨answered, (finish _ _).trans ?_⟩
    exact congrArg (fun session : Session σ Run => steps.finish session.run session.desk) left
  · rintro desk _ rfl
    exact Desk.freeData_behind earlier desk

end GradingSteps
end Sessions

namespace StandardGrader

variable {σ : Type} (g : StandardGrader σ) (c : TestCase) (earlier : List Act)

theorem blind_launchOn (input : CaseInput) : (g.launchOn c input).Blind (Desk.behind earlier) := by
  refine (Work.alike_ofExcept _).bind fun spec => ?_
  refine (alike_onFiles (Desk.sees_behind earlier) _).bind fun opened => ?_
  dsimp only
  split
  · refine (blind_onHost earlier _).bind fun memory => ?_
    exact (Sandbox.blind_start earlier _ _ _).bind fun _ => Work.alike_pure _
  · exact (Sandbox.blind_start earlier _ _ _).bind fun _ => Work.alike_pure _

theorem blind_launch : (g.launch c).Blind (Desk.behind earlier) := by
  refine (TestCase.alike_inputFile (Desk.sees_behind earlier) c).bind fun input => ?_
  refine (g.blind_launchOn c earlier input).unlessDone ?_
  rintro desk _ rfl
  exact input.letGo_behind earlier desk

theorem blind_readOutput (process : Handle) (memory : Nat) :
    (do
        let output ← Judge.onHost (g.bench.sandbox.memoryBytes memory)
        let stderr ← g.bench.sandbox.stderrOf process
        return (output, stderr) : Judge σ (Bytes × Bytes)).Blind (Desk.behind earlier) :=
  (blind_onHost earlier _).bind fun _ =>
    (Sandbox.blind_stderrOf earlier _ _).bind fun _ => Work.alike_pure _

theorem blind_collect (run : StandardRun) : (g.collect c run).Blind (Desk.behind earlier) := by
  unfold collect
  split
  · refine (Sandbox.blind_awaitEnd earlier _ _).bind fun _ => ?_
    refine (blind_onHost earlier _).bind fun size => ?_
    split
    · exact (Sandbox.blind_markExcess earlier _ _).bind fun _ => g.blind_readOutput earlier _ _
    · exact g.blind_readOutput earlier _ _
  · refine (Sandbox.blind_capture earlier _ _ _ _).bind fun output => ?_
    split
    · refine (Sandbox.blind_stop earlier _ _).bind fun _ => ?_
      refine (Sandbox.blind_markExcess earlier _ _).bind fun _ => ?_
      exact (Sandbox.blind_awaitEnd earlier _ _).bind fun _ => Work.alike_pure _
    · exact Work.alike_pure _

theorem blind_gradeCase : (g.steps.gradeCase c).Blind (Desk.behind earlier) := by
  refine GradingSteps.blind_gradeCase earlier (g.blind_launch c earlier) ?_ fun run desk => ?_
  · refine GradingSteps.blind_conclude earlier (fun result => ?_) (fun stderr result => ?_)
      fun result => ?_
    · refine Session.blind_get_bind earlier fun session => ?_
      refine (Session.blind_atDesk earlier ?_).bind fun _ => Work.alike_pure _
      exact g.blind_collect c earlier session.run
    · refine Session.blind_get_bind earlier fun session => Session.blind_atDesk earlier ?_
      exact Sandbox.blind_populate earlier _ _ stderr result
    · refine Session.blind_atDesk earlier ?_
      exact alike_runChecker (Desk.sees_behind earlier) rfl rfl result
  · exact (CaseInput.letGo_behind earlier _ _).trans
      (congrArg run.input.letGo (Sandbox.letGo_behind earlier _ _ desk))

end StandardGrader

namespace InteractiveGrader

variable {σ : Type} (g : InteractiveGrader σ) (c : TestCase) (earlier : List Act)

theorem blind_openAt (sandbox : Sandbox σ) :
    (CrossPipes.openAt sandbox).Blind (Desk.behind earlier) := by
  refine (Sandbox.blind_openPipeAtDesk earlier _).bind fun toSubmission => ?_
  refine Work.Alike.bind ?_ fun toInteractor => Work.alike_pure _
  refine (Sandbox.blind_openPipeAtDesk earlier _).unlessDone ?_
  rintro desk _ rfl
  rw [Sandbox.closeAtDesk_behind, Sandbox.closeAtDesk_behind]
  rfl

theorem blind_launch : (g.launch c).Blind (Desk.behind earlier) := by
  refine (Work.alike_ofExcept _).bind fun wall => (Work.alike_ofExcept _).bind fun base => ?_
  refine (blind_openAt earlier _).bind fun pipes => ?_
  have closes (pipes : CrossPipes) (desk desk' : Desk σ) (same : desk.behind earlier = id desk') :
      (pipes.close g.base.bench.sandbox desk).behind earlier =
        id (pipes.close g.base.bench.sandbox desk') := by
    rw [CrossPipes.close_behind, same]
    rfl
  refine ((Work.alike_ofExcept _).unlessDone (closes pipes)).bind ?_
  rintro ⟨stdin, stdout, rest⟩
  refine Work.Alike.bind ?_ fun submission => Work.alike_pure _
  exact (Sandbox.blind_start earlier _ _ _).unlessDone (closes rest)

theorem blind_launchInteractor (input answer : String) :
    (g.launchInteractor input answer).Blind (Session.behind earlier) := by
  refine Session.blind_get_bind earlier fun session => (Work.alike_ofExcept _).bind ?_
  rintro ⟨stdin, stdout, rest⟩
  refine (Session.blind_atDesk earlier (Sandbox.blind_start earlier _ _ _)).attempt.bind ?_
  refine fun launched => (Work.alike_modify ?_).bind fun _ => ?_
  · rintro session _ rfl
    exact congrArg (fun desk => (⟨desk, _⟩ : Session σ InteractiveRun))
      (CrossPipes.close_behind earlier rest _ session.desk)
  refine (Work.alike_ofExcept launched).bind fun interactor => ?_
  refine (Work.alike_modify ?_).bind fun _ => Work.alike_pure interactor
  rintro session _ rfl
  rfl

theorem blind_converse (input answer : String) :
    (g.converse c input answer).Blind (Session.behind earlier) := by
  refine (Session.blind_atDesk earlier ?_).bind fun _ => ?_
  · exact (TestCase.alike_outputData (Desk.sees_behind earlier) c).bind fun expected =>
      TestCase.alike_fillTemporary (Desk.sees_behind earlier) answer expected
  refine (g.blind_launchInteractor earlier input answer).bind fun interactor => ?_
  refine Session.blind_get_bind earlier fun session => Session.blind_atDesk earlier ?_
  exact (Sandbox.blind_awaitEnd earlier _ _).bind fun _ =>
    (Sandbox.blind_awaitEnd earlier _ _).bind fun _ => Sandbox.blind_stderrOf earlier _ _

theorem tidying_behind {tidy : Desk σ → Desk σ}
    (unseen : ∀ desk, (tidy desk).behind earlier = tidy (desk.behind earlier))
    (session session' : Session σ InteractiveRun) (same : session.behind earlier = id session') :
    (tidying tidy session).behind earlier = id (tidying tidy session') := by
  obtain rfl : session.behind earlier = session' := same
  have tidied := unseen session.desk
  exact congrArg (fun desk => (⟨desk, session.run⟩ : Session σ InteractiveRun)) tidied

theorem blind_interact (result : CaseResult) :
    (g.interact c result).Blind (Session.behind earlier) := by
  have sees := Desk.sees_behind (σ := σ) earlier
  refine (Session.blind_atDesk earlier (TestCase.alike_inputFile sees c)).bind fun input => ?_
  refine Work.Alike.bind ?_ fun stderr => Work.alike_pure _
  refine Work.Alike.always ?_ (tidying_behind earlier (input.letGo_behind earlier))
  refine (Session.blind_atDesk earlier (TestCase.alike_newTemporary sees)).bind fun answer => ?_
  exact (g.blind_converse c earlier input.path answer).always
    (tidying_behind earlier fun _ => rfl)

theorem blind_check (result : CaseResult) : (g.check c result).Blind (Session.behind earlier) := by
  refine Session.blind_get_bind earlier fun session => ?_
  dsimp only [Session.behind]
  split
  · exact Work.alike_throw _
  · refine Work.Alike.bind (Session.blind_atDesk earlier ?_) fun award => Work.alike_pure _
    refine (Sandbox.blind_stderrOf earlier _ _).bind fun stderr => ?_
    exact (Sandbox.blind_awaitEnd earlier _ _).bind fun report => Work.alike_ofExcept _

theorem finish_behind (run : InteractiveRun) (desk : Desk σ) :
    (g.finish run desk).behind earlier = g.finish run (desk.behind earlier) := by
  unfold finish
  split
  · rw [Sandbox.letGo_behind, CrossPipes.close_behind, Sandbox.letGo_behind]
  · rw [CrossPipes.close_behind, Sandbox.letGo_behind]

theorem blind_gradeCase : (g.steps.gradeCase c).Blind (Desk.behind earlier) := by
  have launch := g.blind_launch c earlier
  refine GradingSteps.blind_gradeCase earlier launch ?_ (g.finish_behind earlier)
  refine GradingSteps.blind_conclude earlier (g.blind_interact c earlier) (fun stderr result => ?_)
    (g.blind_check c earlier)
  refine Session.blind_get_bind earlier fun session => Session.blind_atDesk earlier ?_
  exact Sandbox.blind_populate earlier _ _ stderr result

end InteractiveGrader

/-- What a grader does behind earlier acts is what it does without them. -/
theorem Grader.runOn_behind {σ : Type} (g : Grader σ) (c : TestCase) (earlier : List Act)
    (desk : Desk σ) : (g.grade c).runOn (desk.behind earlier) =
      (((g.grade c).runOn desk).1, ((g.grade c).runOn desk).2.behind earlier) := by
  have blind : (g.grade c).Blind (Desk.behind earlier) := by
    cases g with
    | standard grader => exact grader.blind_gradeCase c earlier
    | interactive grader => exact grader.blind_gradeCase c earlier
  obtain ⟨answered, left⟩ := blind desk (desk.behind earlier) rfl
  exact Prod.ext answered.symm left.symm

end ContestJudge
