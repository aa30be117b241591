import ContestJudge.Judge.Material
import ContestJudge.Proofs.Work

namespace ContestJudge

namespace Act

def consultation? : Act → Option (String × CheckContext)
  | .consulted checker context => some (checker, context)
  | _ => none

def request? : Act → Option CompileRequest
  | .requested request => some request
  | _ => none

/-- What was to be launched, whether or not that succeeded. -/
def order? : Act → Option LaunchOrder
  | .launched _ order => some order
  | .notLaunched order => some order
  | _ => none

def isOfSandbox : Act → Bool
  | .requested _ => false
  | .consulted .. => false
  | .inputShown _ => false
  | _ => true

end Act

def orders (acts : List Act) : List LaunchOrder := acts.filterMap Act.order?

namespace Desk

variable {σ τ : Type}

def consultations (desk : Desk σ) : List (String × CheckContext) :=
  desk.journal.filterMap Act.consultation?

def requests (desk : Desk σ) : List CompileRequest := desk.journal.filterMap Act.request?

def material (desk : Desk σ) : FileStore × CaseData := (desk.files, desk.data)

/-- A view in which nothing shows that is done with the sandbox. -/
structure IgnoresSandbox (view : Desk σ → τ) : Prop where
  host : ∀ desk host, view (desk.withHost host) = view desk
  act : ∀ desk act, act.isOfSandbox → view (desk.note act) = view desk

structure IgnoresMaterial (view : Desk σ → τ) : Prop where
  files : ∀ desk files, view (desk.withFiles files) = view desk
  data : ∀ desk data, view { desk with data := data } = view desk

structure IgnoresLoads (view : Desk σ → τ) : Prop where
  input : ∀ desk content,
    view { desk with data := { desk.data with input := content } } = view desk
  output : ∀ desk content,
    view { desk with data := { desk.data with output := content } } = view desk

theorem IgnoresMaterial.loads {view : Desk σ → τ} (blind : IgnoresMaterial view) :
    IgnoresLoads view where
  input desk _ := blind.data desk _
  output desk _ := blind.data desk _

theorem consultations_note (desk : Desk σ) (act : Act) :
    (desk.note act).consultations = desk.consultations ++ act.consultation?.toList := by
  cases act <;> simp [note, consultations, Act.consultation?]

theorem requests_note (desk : Desk σ) (act : Act) :
    (desk.note act).requests = desk.requests ++ act.request?.toList := by
  cases act <;> simp [note, requests, Act.request?]

theorem consultations_ignore_sandbox :
    IgnoresSandbox (consultations : Desk σ → List (String × CheckContext)) where
  host _ _ := rfl
  act desk act ofSandbox := by
    cases act <;> simp_all [Act.isOfSandbox, consultations_note, Act.consultation?]

theorem requests_ignore_sandbox : IgnoresSandbox (requests : Desk σ → List CompileRequest) where
  host _ _ := rfl
  act desk act ofSandbox := by
    cases act <;> simp_all [Act.isOfSandbox, requests_note, Act.request?]

theorem material_ignores_sandbox : IgnoresSandbox (material : Desk σ → FileStore × CaseData) where
  host _ _ := rfl
  act _ _ _ := rfl

theorem consultations_ignore_material :
    IgnoresMaterial (consultations : Desk σ → List (String × CheckContext)) where
  files _ _ := rfl
  data _ _ := rfl

theorem host_ignores_material : IgnoresMaterial (host : Desk σ → σ) where
  files _ _ := rfl
  data _ _ := rfl

end Desk

section Sandboxed

variable {σ τ α : Type} {view : Desk σ → τ} (blind : Desk.IgnoresSandbox view)
  (sandbox : Sandbox σ)
include blind

theorem keeps_note {act : Act} (ofSandbox : act.isOfSandbox) :
    (Judge.note act : Judge σ Unit).Keeps view :=
  Work.keeps_modify fun desk => blind.act desk act ofSandbox

theorem keeps_onHost (work : Work σ α) : (Judge.onHost work).Keeps view :=
  Work.keeps_within_unseen blind.host work

namespace Sandbox

theorem keeps_start (binary : Binary) (spec : LaunchSpec) :
    (sandbox.start binary spec).Keeps view := by
  refine Work.keeps_get.bind fun desk => ?_
  refine (keeps_onHost blind _).attempt.bind fun launched => ?_
  cases launched with
  | ok process => exact (keeps_note blind rfl).bind fun _ => Work.keeps_pure process
  | error fault => exact (keeps_note blind rfl).bind fun _ => Work.keeps_throw fault

theorem keeps_awaitEnd (process : Handle) : (sandbox.awaitEnd process).Keeps view :=
  (keeps_note blind rfl).bind fun _ => keeps_onHost blind _

theorem keeps_capture (process : Handle) (outLimit errLimit : Nat) :
    (sandbox.capture process outLimit errLimit).Keeps view :=
  (keeps_note blind rfl).bind fun _ => keeps_onHost blind _

theorem keeps_stderrOf (process : Handle) : (sandbox.stderrOf process).Keeps view :=
  (keeps_note blind rfl).bind fun _ => keeps_onHost blind _

theorem keeps_stop (process : Handle) : (sandbox.stop process).Keeps view :=
  (keeps_note blind rfl).bind fun _ => Work.keeps_modify fun desk => blind.host desk _

theorem keeps_markExcess (process : Handle) : (sandbox.markExcess process).Keeps view :=
  (keeps_note blind rfl).bind fun _ => Work.keeps_modify fun desk => blind.host desk _

theorem keeps_openPipeAtDesk : sandbox.openPipeAtDesk.Keeps view :=
  (keeps_onHost blind _).bind fun pipe =>
    (keeps_note blind rfl).bind fun _ => Work.keeps_pure pipe

theorem view_letGo (process : Handle) (desk : Desk σ) :
    view (sandbox.letGo process desk) = view desk :=
  (blind.act _ _ rfl).trans (blind.host desk _)

theorem view_closeAtDesk (e : PipeEnd) (desk : Desk σ) :
    view (sandbox.closeAtDesk e desk) = view desk :=
  (blind.act _ _ rfl).trans (blind.host desk _)

end Sandbox
end Sandboxed

section Uses

variable {σ α : Type} {sandbox : Sandbox σ} {desk : Desk σ}

theorem runOn_note_onHost (act : Act) (work : Work σ α) (desk : Desk σ) :
    (do Judge.note act; Judge.onHost work : Judge σ α).runOn desk =
      ((work.runOn desk.host).1, (desk.note act).withHost (work.runOn desk.host).2) := rfl

namespace Sandbox

section Handled

variable {process : Handle} {outLimit errLimit : Nat} {later : σ}

theorem capture_gives {output : CapturedOutput}
    (captures : (sandbox.communicate process outLimit errLimit).Gives desk.host output later) :
    (sandbox.capture process outLimit errLimit).Gives desk output
      ((desk.note (.communicated process)).withHost later) := by
  rw [Work.Gives, capture, runOn_note_onHost, captures]

theorem capture_stops {fault : Fault}
    (lost : (sandbox.communicate process outLimit errLimit).Stops desk.host fault later) :
    (sandbox.capture process outLimit errLimit).Stops desk fault
      ((desk.note (.communicated process)).withHost later) := by
  rw [Work.Stops, capture, runOn_note_onHost, lost]

theorem awaitEnd_gives {report : ProcessReport}
    (waits : (sandbox.wait process).Gives desk.host report later) :
    (sandbox.awaitEnd process).Gives desk report
      ((desk.note (.waited process)).withHost later) := by
  rw [Work.Gives, awaitEnd, runOn_note_onHost, waits]

theorem awaitEnd_stops {fault : Fault}
    (lost : (sandbox.wait process).Stops desk.host fault later) :
    (sandbox.awaitEnd process).Stops desk fault ((desk.note (.waited process)).withHost later) := by
  rw [Work.Stops, awaitEnd, runOn_note_onHost, lost]

end Handled

section Launching

variable {binary : Binary} {spec : LaunchSpec} {later : σ}

theorem start_gives {process : Handle}
    (launches : (sandbox.launch desk.files binary spec).Gives desk.host process later) :
    (sandbox.start binary spec).Gives desk process
      ((desk.withHost later).note (.launched process ⟨binary, spec, desk.files⟩)) := by
  rw [Work.Gives, start, Work.runOn_bind, Work.runOn_get]
  dsimp only
  rw [Work.runOn_bind, Work.runOn_attempt, Judge.onHost, Work.runOn_within, launches]
  rfl

theorem start_stops {fault : Fault}
    (refused : (sandbox.launch desk.files binary spec).Stops desk.host fault later) :
    (sandbox.start binary spec).Stops desk fault
      ((desk.withHost later).note (.notLaunched ⟨binary, spec, desk.files⟩)) := by
  rw [Work.Stops, start, Work.runOn_bind, Work.runOn_get]
  dsimp only
  rw [Work.runOn_bind, Work.runOn_attempt, Judge.onHost, Work.runOn_within, refused]
  rfl

end Launching
end Sandbox
end Uses

section Supplied

variable {σ τ : Type} {view : Desk σ → τ}

theorem keeps_onFiles {α : Type} (ask : FileStore → Except FileFault α) :
    (Judge.onFiles ask : Judge σ α).Keeps view :=
  Work.keeps_get.bind fun _ => Work.keeps_ofExcept _

theorem onFiles_gives {α : Type} {ask : FileStore → Except FileFault α} {desk : Desk σ} {a : α}
    (answers : ask desk.files = .ok a) : (Judge.onFiles ask).Gives desk a desk :=
  Work.gives_ofExcept (congrArg (·.mapError Fault.ofFile) answers) desk

theorem onFiles_stops {α : Type} {ask : FileStore → Except FileFault α} {desk : Desk σ}
    {cause : FileFault} (refuses : ask desk.files = .error cause) :
    (Judge.onFiles ask).Stops desk (.ofFile cause) desk :=
  Work.stops_ofExcept (congrArg (·.mapError Fault.ofFile) refuses) desk

theorem TestCase.fillTemporary_gives {path : String} {data : Bytes} {desk : Desk σ}
    {filled : FileStore} (fills : desk.files.fill path data = .ok filled) :
    (fillTemporary path data).Gives desk () (desk.withFiles filled) := by
  rw [Work.Gives, fillTemporary, Work.runOn_bind_of_gives (onFiles_gives fills), Work.runOn_modify]

theorem TestCase.leads_fillTemporary (path : String) (data : Bytes) (desk : Desk σ) :
    (fillTemporary path data).Leads desk
      (fun _ later => ∃ filled, desk.files.fill path data = .ok filled ∧
        later = desk.withFiles filled)
      (fun later => later = desk) := by
  cases filled : desk.files.fill path data with
  | ok files => exact .inl ⟨(), _, fillTemporary_gives filled, files, rfl, rfl⟩
  | error cause =>
    exact .inr ⟨.ofFile cause, desk, Work.runOn_bind_of_stops (onFiles_stops filled) _, rfl⟩

namespace TestCase

variable (unread : Desk.IgnoresLoads view) (c : TestCase)
include unread

theorem keeps_inputData : (c.inputData : Judge σ Bytes).Keeps view := by
  refine Work.keeps_get.bind fun desk => ?_
  split
  · exact Work.keeps_pure _
  · refine (keeps_onFiles _).bind fun data => ?_
    exact (Work.keeps_modify fun later => unread.input later _).bind fun _ => Work.keeps_pure data

theorem keeps_outputData : (c.outputData : Judge σ Bytes).Keeps view := by
  refine Work.keeps_get.bind fun desk => ?_
  split
  · exact Work.keeps_pure _
  · refine (keeps_onFiles _).bind fun data => ?_
    exact (Work.keeps_modify fun later => unread.output later _).bind fun _ => Work.keeps_pure data

end TestCase

variable (blind : Desk.IgnoresMaterial view) (c : TestCase)
include blind

namespace TestCase

theorem keeps_newTemporary : (newTemporary : Judge σ String).Keeps view :=
  fun desk => blind.files desk _

theorem keeps_fillTemporary (path : String) (data : Bytes) :
    (fillTemporary path data : Judge σ Unit).Keeps view :=
  (keeps_onFiles _).bind fun _ => Work.keeps_modify fun desk => blind.files desk _

theorem view_discard (path : String) (desk : Desk σ) : view (desk.discard path) = view desk :=
  blind.files desk _

theorem keeps_materialize : (c.materialize : Judge σ String).Keeps view := by
  refine Work.keeps_get.bind fun desk => ?_
  split
  · exact Work.keeps_pure _
  · refine (keeps_newTemporary blind).bind fun path => ?_
    refine Work.Keeps.bind ?_ fun _ => Work.keeps_pure path
    refine Work.Keeps.unlessDone ?_ fun later => view_discard blind path later
    refine (keeps_inputData blind.loads c).bind fun data => ?_
    exact (keeps_fillTemporary blind path data).bind fun _ =>
      Work.keeps_modify fun later => blind.data later _

theorem keeps_inputFile : (c.inputFile : Judge σ CaseInput).Keeps view := by
  unfold inputFile
  split
  · exact Work.keeps_pure _
  · refine (keeps_materialize blind c).bind fun path => ?_
    exact (Work.keeps_modify fun later => blind.files later _).bind fun _ => Work.keeps_pure _

end TestCase

theorem CaseInput.view_letGo (input : CaseInput) (desk : Desk σ) :
    view (input.letGo desk) = view desk := by
  unfold letGo
  split
  · exact blind.files desk _
  · rfl

theorem Desk.view_freeData (desk : Desk σ) : view desk.freeData = view desk := by
  refine (blind.data _ _).trans ?_
  split
  · exact blind.files desk _
  · rfl

end Supplied
end ContestJudge
