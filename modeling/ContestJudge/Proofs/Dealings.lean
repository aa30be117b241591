import ContestJudge.Proofs.SandboxContract
import ContestJudge.Proofs.Sequence
/-!
What a judge does with its sandbox, one use at a time: what each use leaves behind when it is done,
and whose fault it is when it is not. Work with the files and the checker leaves the sandbox alone.
-/

namespace ContestJudge

namespace Desk

variable {σ : Type}

def dealings (desk : Desk σ) : List Act := desk.journal.filter Act.isOfSandbox

def outside (desk : Desk σ) : σ × List Act := (desk.host, desk.dealings)

theorem dealings_note {act : Act} (ofSandbox : act.isOfSandbox) (desk : Desk σ) :
    (desk.note act).dealings = desk.dealings ++ [act] := by
  simp [dealings, note, ofSandbox]

theorem outside_note {act : Act} (other : act.isOfSandbox = false) (desk : Desk σ) :
    (desk.note act).outside = desk.outside := by
  simp [outside, dealings, note, other]

theorem eq_of_outside {desk later : Desk σ} (same : later.outside = desk.outside) :
    later.host = desk.host ∧ later.dealings = desk.dealings := Prod.mk.inj same

theorem outside_ignores_material : IgnoresMaterial (outside : Desk σ → σ × List Act) where
  files _ _ := rfl
  data _ _ := rfl

end Desk

theorem Sandbox.outside_letGo {σ : Type} (sandbox : Sandbox σ) (process : Handle)
    (desk : Desk σ) : (sandbox.letGo process desk).outside =
      (sandbox.release process desk.host, desk.dealings ++ [.released process]) :=
  Prod.ext rfl (Desk.dealings_note rfl _)

/-- Work that leaves the sandbox alone, and stops with no fault over what was launched or opened. -/
structure Judge.IsQuiet {σ α : Type} (work : Judge σ α) : Prop where
  kept : work.Keeps Desk.outside
  harmless : work.StopsOnly fun fault => fault.isDefensive = false

section Quiet

open Judge

variable {σ α β : Type}

theorem isQuiet_pure (a : α) : IsQuiet (pure a : Judge σ α) :=
  ⟨Work.keeps_pure a, Work.stopsOnly_pure a⟩

theorem isQuiet_get : IsQuiet (get : Judge σ (Desk σ)) := ⟨Work.keeps_get, Work.stopsOnly_get⟩

theorem isQuiet_modify {change : Desk σ → Desk σ}
    (same : ∀ desk, (change desk).outside = desk.outside) :
    IsQuiet (modify change : Judge σ Unit) := ⟨Work.keeps_modify same, Work.stopsOnly_modify change⟩

theorem isQuiet_note {act : Act} (other : act.isOfSandbox = false) :
    IsQuiet (Judge.note act : Judge σ Unit) := isQuiet_modify fun desk => Desk.outside_note other desk

theorem isQuiet_ofExcept {answer : Except Fault α}
    (harmless : ∀ fault, answer = .error fault → fault.isDefensive = false) :
    IsQuiet (Work.ofExcept answer : Judge σ α) :=
  ⟨Work.keeps_ofExcept answer, Work.stopsOnly_ofExcept harmless⟩

theorem Judge.IsQuiet.bind {work : Judge σ α} {next : α → Judge σ β} (first : work.IsQuiet)
    (second : ∀ a, (next a).IsQuiet) : IsQuiet (work >>= next) :=
  ⟨first.kept.bind fun a => (second a).kept, first.harmless.bind fun a => (second a).harmless⟩

theorem Judge.IsQuiet.attempt {work : Judge σ α} (quiet : work.IsQuiet) : IsQuiet work.attempt :=
  ⟨quiet.kept.attempt, Work.stopsOnly_attempt work⟩

theorem Judge.IsQuiet.unlessDone {work : Judge σ α} (quiet : work.IsQuiet)
    {tidy : Desk σ → Desk σ} (same : ∀ desk, (tidy desk).outside = desk.outside) :
    IsQuiet (work.unlessDone tidy) :=
  ⟨quiet.kept.unlessDone same, quiet.harmless.unlessDone tidy⟩

theorem mapError_ofFile {answer : Except FileFault α} {fault : Fault}
    (fails : answer.mapError Fault.ofFile = .error fault) : fault.isDefensive = false := by
  cases answer with
  | ok a => cases fails
  | error cause =>
    cases fails
    rfl

theorem isQuiet_onFiles (ask : FileStore → Except FileFault α) :
    IsQuiet (Judge.onFiles ask : Judge σ α) :=
  isQuiet_get.bind fun _ => isQuiet_ofExcept fun _ fails => mapError_ofFile fails

namespace TestCase

theorem isQuiet_newTemporary : IsQuiet (newTemporary : Judge σ String) := by
  refine ⟨keeps_newTemporary Desk.outside_ignores_material, fun desk fault later stops => ?_⟩
  have answered : desk.files.createTemporary.1.mapError Fault.ofFile = .error fault :=
    congrArg Prod.fst stops
  exact mapError_ofFile answered

theorem isQuiet_fillTemporary (path : String) (data : Bytes) :
    IsQuiet (fillTemporary path data : Judge σ Unit) :=
  (isQuiet_onFiles _).bind fun _ => isQuiet_modify fun _ => by rfl

variable (c : TestCase)

theorem isQuiet_inputData : IsQuiet (c.inputData : Judge σ Bytes) := by
  refine isQuiet_get.bind fun desk => ?_
  split
  · exact isQuiet_pure _
  · refine (isQuiet_onFiles _).bind fun data => ?_
    exact (isQuiet_modify fun _ => by rfl).bind fun _ => isQuiet_pure data

theorem isQuiet_outputData : IsQuiet (c.outputData : Judge σ Bytes) := by
  refine isQuiet_get.bind fun desk => ?_
  split
  · exact isQuiet_pure _
  · refine (isQuiet_onFiles _).bind fun data => ?_
    exact (isQuiet_modify fun _ => by rfl).bind fun _ => isQuiet_pure data

theorem isQuiet_inputFile : IsQuiet (c.inputFile : Judge σ CaseInput) := by
  unfold inputFile
  split
  · exact isQuiet_pure _
  · refine Judge.IsQuiet.bind ?_ fun path =>
      (isQuiet_modify fun _ => by rfl).bind fun _ => isQuiet_pure _
    refine isQuiet_get.bind fun desk => ?_
    split
    · exact isQuiet_pure _
    · refine isQuiet_newTemporary.bind fun path => ?_
      refine Judge.IsQuiet.bind ?_ fun _ => isQuiet_pure path
      refine Judge.IsQuiet.unlessDone ?_ fun _ => rfl
      refine (isQuiet_inputData c).bind fun data => ?_
      exact (isQuiet_fillTemporary path data).bind fun _ => isQuiet_modify fun _ => by rfl

end TestCase

theorem isQuiet_consult {c : TestCase} (consultation : Consultation) (lazy : LazyBytes) :
    IsQuiet (consult c lazy consultation : Judge σ (Except CheckerFault Judgement)) := by
  induction consultation generalizing lazy with
  | answer said => exact isQuiet_pure said
  | readInput next ih =>
    have reads : IsQuiet (lazy.get c.inputData : Judge σ (LazyBytes × Bytes)) := by
      unfold LazyBytes.get
      split
      · exact isQuiet_pure _
      · exact (TestCase.isQuiet_inputData c).bind fun data => isQuiet_pure _
    unfold consult
    refine reads.attempt.bind fun loaded => ?_
    rcases loaded with fault | ⟨read, data⟩
    · exact ih _ _
    · exact (isQuiet_note rfl).bind fun _ => ih _ _

theorem StandardGrader.isQuiet_runChecker (g : StandardGrader σ) (c : TestCase)
    (result : CaseResult) : IsQuiet (g.runChecker c result) := by
  unfold runChecker
  split
  · exact isQuiet_pure _
  · refine (TestCase.isQuiet_outputData c).bind fun judgeOutput => ?_
    refine (isQuiet_note rfl).bind fun _ => ?_
    refine (isQuiet_consult _ _).bind fun said => isQuiet_ofExcept fun fault fails => ?_
    rcases said with (_ | message) | judgement <;> cases fails
    rfl

theorem CaseInput.isQuiet_openToRead (input : CaseInput) :
    IsQuiet (input.openToRead : Judge σ OpenedFile) := isQuiet_onFiles _

end Quiet

/-- A way to tell faults apart in which nobody is to blame for those of the sandbox, nor for those
that do not say that the judge lost track. -/
structure Sandbox.Excuses {σ : Type} (sandbox : Sandbox σ) (blamed : Fault → Prop) : Prop where
  own : ∀ {fault}, sandbox.Raises fault → blamed fault
  harmless : ∀ {fault}, fault.isDefensive = false → blamed fault

section Uses

variable {σ α : Type} {sandbox : Sandbox σ} {blamed : Fault → Prop}
  (excuses : sandbox.Excuses blamed)
include excuses

theorem Judge.IsQuiet.yields {work : Judge σ α} (quiet : work.IsQuiet) (desk : Desk σ) :
    work.Yields desk (fun _ later => later.outside = desk.outside) blamed := by
  have only : work.StopsOnly blamed := fun _ _ _ stops => excuses.harmless (quiet.harmless stops)
  exact only.yields fun _ _ gives => quiet.kept.of_gives gives

omit excuses in
theorem yields_onHost {work : Work σ α} {desk : Desk σ}
    (own : ∀ fault later, work.Stops desk.host fault later → blamed fault) :
    (Judge.onHost work).Yields desk
      (fun a later => work.Gives desk.host a later.host ∧ later.dealings = desk.dealings)
      blamed := by
  rcases Work.gives_or_stops work desk.host with ⟨a, host, gives⟩ | ⟨fault, host, stops⟩
  · refine .inl ⟨a, desk.withHost host, ?_, gives, rfl⟩
    rw [Work.Gives, Judge.onHost, Work.runOn_within, gives]
  · refine .inr ⟨fault, desk.withHost host, ?_, own fault host stops⟩
    rw [Work.Stops, Judge.onHost, Work.runOn_within, stops]

omit excuses in
theorem yields_note_onHost {work : Work σ α} {desk : Desk σ} {act : Act}
    (ofSandbox : act.isOfSandbox)
    (own : ∀ fault later, work.Stops desk.host fault later → blamed fault) :
    (do Judge.note act; Judge.onHost work : Judge σ α).Yields desk
      (fun a later => work.Gives desk.host a later.host ∧
        later.dealings = desk.dealings ++ [act]) blamed := by
  have notes : (Judge.note act).Gives desk () (desk.note act) := rfl
  have works : (Judge.onHost work).Yields (desk.note act)
      (fun a later => work.Gives desk.host a later.host ∧
        later.dealings = (desk.note act).dealings) blamed := yields_onHost own
  rw [Desk.dealings_note ofSandbox] at works
  exact Work.yields_bind_of_gives notes works

namespace Sandbox

variable {process : Handle} {desk : Desk σ}

theorem yields_awaitEnd (handed : sandbox.Handed process desk.host) :
    (sandbox.awaitEnd process).Yields desk
      (fun report later => (sandbox.wait process).Gives desk.host report later.host ∧
        later.dealings = desk.dealings ++ [.waited process]) blamed :=
  yields_note_onHost rfl fun _ _ stops => excuses.own (.wait handed stops)

theorem yields_capture (handed : sandbox.Handed process desk.host) (outLimit errLimit : Nat) :
    (sandbox.capture process outLimit errLimit).Yields desk
      (fun output later =>
        (sandbox.communicate process outLimit errLimit).Gives desk.host output later.host ∧
        later.dealings = desk.dealings ++ [.communicated process]) blamed :=
  yields_note_onHost rfl fun _ _ stops => excuses.own (.communicate handed stops)

theorem yields_stderrOf (handed : sandbox.Handed process desk.host) :
    (sandbox.stderrOf process).Yields desk
      (fun data later => (sandbox.readStderr process).Gives desk.host data later.host ∧
        later.dealings = desk.dealings ++ [.stderrRead process]) blamed :=
  yields_note_onHost rfl fun _ _ stops => excuses.own (.readStderr handed stops)

def Launches (sandbox : Sandbox σ) (order : LaunchOrder) (before : σ) (process : Handle)
    (after : σ) : Prop :=
  (sandbox.launch order.files order.binary order.spec).Gives before process after

theorem yields_start (binary : Binary) (spec : LaunchSpec) (desk : Desk σ) :
    (sandbox.start binary spec).Yields desk
      (fun process later => sandbox.Launches ⟨binary, spec, desk.files⟩ desk.host process later.host ∧
        later.dealings = desk.dealings ++ [.launched process ⟨binary, spec, desk.files⟩])
      blamed := by
  have launch : (Judge.onHost (sandbox.launch desk.files binary spec)).Yields desk _ blamed :=
    yields_onHost fun _ _ stops => excuses.own (.launch stops)
  rcases launch with ⟨process, later, gives, launches, kept⟩ | ⟨fault, later, stops, held⟩
  · refine .inl ⟨process, later.note (.launched process ⟨binary, spec, desk.files⟩), ?_, launches, ?_⟩
    · rw [Work.Gives, start, Work.runOn_bind, Work.runOn_get]
      dsimp only
      rw [Work.runOn_bind, Work.runOn_attempt, gives]
      rfl
    · rw [Desk.dealings_note rfl, kept]
  · refine .inr ⟨fault, later.note (.notLaunched ⟨binary, spec, desk.files⟩), ?_, held⟩
    rw [Work.Stops, start, Work.runOn_bind, Work.runOn_get]
    dsimp only
    rw [Work.runOn_bind, Work.runOn_attempt, stops]
    rfl

theorem yields_openPipeAtDesk (desk : Desk σ) :
    sandbox.openPipeAtDesk.Yields desk
      (fun pipe later => sandbox.openPipe.Gives desk.host pipe later.host ∧
        later.dealings = desk.dealings ++ [.pipeOpened pipe]) blamed := by
  refine (yields_onHost fun _ _ stops => excuses.own (.openPipe stops)).bind ?_
  rintro pipe opened ⟨opens, kept⟩
  refine .inl ⟨pipe, opened.note (.pipeOpened pipe), rfl, opens, ?_⟩
  rw [Desk.dealings_note rfl, kept]

omit excuses in
theorem yields_populate (stderr : Bytes) (result : CaseResult)
    (unreported : sandbox.report? desk.host process = none →
      blamed (.internal (.unreported (sandbox.pid desk.host process)))) :
    (sandbox.populate process stderr result).Yields desk
      (fun observed later => later = desk ∧ ∃ report,
        sandbox.report? desk.host process = some report ∧ observed = result.populate stderr report)
      blamed := by
  cases reported : sandbox.report? desk.host process with
  | some report =>
    exact Work.yields_of_gives (populate_gives reported stderr result) ⟨rfl, report, rfl, rfl⟩
  | none =>
    refine .inr ⟨_, desk, ?_, unreported reported⟩
    rw [Work.Stops, populate, Work.runOn_bind, Work.runOn_get]
    simp only [reported, Work.runOn_throw]

end Sandbox

omit excuses in
theorem Session.yields_atDesk {Run : Type} {work : Judge σ α} {session : Session σ Run}
    {done : α → Desk σ → Prop} (yields : work.Yields session.desk done blamed) :
    (atDesk work : Work (Session σ Run) α).Yields session
      (fun a later => done a later.desk ∧ later.run = session.run) blamed := by
  rcases yields with ⟨a, later, gives, held⟩ | ⟨fault, later, stops, held⟩
  · exact .inl ⟨a, ⟨later, session.run⟩, atDesk_gives gives session.run, held, rfl⟩
  · refine .inr ⟨fault, ⟨later, session.run⟩, ?_, held⟩
    rw [Work.Stops, runOn_atDesk, stops]

omit excuses in
theorem Session.yields_populate {Run : Type} (process : Run → Handle) {session : Session σ Run}
    (stderr : Bytes) (captured : CaseResult)
    (unreported : sandbox.report? session.desk.host (process session.run) = none →
      ∀ pid, blamed (.internal (.unreported pid))) :
    (do
      let run := (← get).run
      atDesk (sandbox.populate (process run) stderr captured) :
        Work (Session σ Run) CaseResult).Yields session
      (fun observed later => later = session ∧ ∃ report,
        sandbox.report? session.desk.host (process session.run) = some report ∧
        observed = captured.populate stderr report) blamed := by
  have takes : (sandbox.populate (process session.run) stderr captured).Yields session.desk _
      blamed := Sandbox.yields_populate stderr captured fun missing => unreported missing _
  refine Work.yields_get_bind ((yields_atDesk takes).mono ?_)
  rintro observed ⟨_, _⟩ ⟨⟨rfl, report, reported, populated⟩, rfl⟩
  exact ⟨rfl, report, reported, populated⟩

end Uses

theorem GradingSteps.yields_gradeCase {σ Run : Type} {steps : GradingSteps σ Run} {c : TestCase}
    {desk : Desk σ} {blamed : Fault → Prop} {launched : Run → Desk σ → Prop}
    {done : CaseResult → Desk σ → Prop} (launch : (steps.launch c).Yields desk launched blamed)
    (conclude : ∀ run later, launched run later →
      (steps.conclude c).Yields ⟨later, run⟩
        (fun result session => done result (steps.finish session.run session.desk).freeData) blamed) :
    (steps.gradeCase c).Yields desk done blamed := by
  have ran : (steps.runCase c).Yields desk (fun result later => done result later.freeData) blamed := by
    refine launch.bind fun run later held => ?_
    rcases conclude run later held with ⟨result, session, gives, held⟩ | ⟨fault, session, stops, held⟩
    · refine .inl ⟨result, steps.finish session.run session.desk, ?_, held⟩
      exact congrArg (fun ran => (ran.1, steps.finish ran.2.run ran.2.desk)) gives
    · refine .inr ⟨fault, steps.finish session.run session.desk, ?_, held⟩
      exact congrArg (fun ran => (ran.1, steps.finish ran.2.run ran.2.desk)) stops
  exact ran.always fun _ _ held => held

end ContestJudge
