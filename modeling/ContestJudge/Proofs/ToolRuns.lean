import ContestJudge.Build.Compiler
import ContestJudge.Proofs.Desk

namespace ContestJudge

namespace Build

variable {σ τ : Type}

/-- The sandbox once the output of a compiler was read. One that says too much is killed. -/
def heard (sandbox : Sandbox σ) (process : Handle) (output : CapturedOutput) (host : σ) : σ :=
  if output.isTruncated then sandbox.kill process host else host

inductive Ends (sandbox : Sandbox σ) (order : LaunchOrder) (host : σ) (output : CapturedOutput)
    (report : ProcessReport) : Prop where
  | intro {process : Handle} {launched captured ended : σ}
      (launches : (sandbox.launch order.files order.binary order.spec).Gives host process launched)
      (reads : (sandbox.communicate process outputLimit outputLimit).Gives launched output captured)
      (waits : (sandbox.wait process).Gives (heard sandbox process output captured) report ended)

inductive Fails (sandbox : Sandbox σ) (order : LaunchOrder) (host : σ) : InternalFault → Prop where
  | notStarted {fault : Fault} {later : σ}
      (refused : (sandbox.launch order.files order.binary order.spec).Stops host fault later) :
      Fails sandbox order host (.compilerNotStarted fault.message)
  | unreadable {process : Handle} {launched later : σ} {fault : Fault}
      (launches : (sandbox.launch order.files order.binary order.spec).Gives host process launched)
      (lost : (sandbox.communicate process outputLimit outputLimit).Stops launched fault later) :
      Fails sandbox order host (.compilerUnreadable fault.message)
  | notReaped {process : Handle} {launched captured later : σ} {output : CapturedOutput}
      {fault : Fault}
      (launches : (sandbox.launch order.files order.binary order.spec).Gives host process launched)
      (reads : (sandbox.communicate process outputLimit outputLimit).Gives launched output captured)
      (lost : (sandbox.wait process).Stops (heard sandbox process output captured) fault later) :
      Fails sandbox order host (.compilerNotReaped fault.message)

theorem ends_or_fails (sandbox : Sandbox σ) (order : LaunchOrder) (host : σ) :
    (∃ output report, Ends sandbox order host output report) ∨
      ∃ cause, Fails sandbox order host cause := by
  rcases Work.gives_or_stops (sandbox.launch order.files order.binary order.spec) host with
    ⟨process, launched, launches⟩ | ⟨fault, later, refused⟩
  · rcases Work.gives_or_stops (sandbox.communicate process outputLimit outputLimit) launched with
      ⟨output, captured, reads⟩ | ⟨fault, later, lost⟩
    · rcases Work.gives_or_stops (sandbox.wait process) (heard sandbox process output captured) with
        ⟨report, ended, waits⟩ | ⟨fault, later, lost⟩
      · exact .inl ⟨output, report, .intro launches reads waits⟩
      · exact .inr ⟨_, .notReaped launches reads lost⟩
    · exact .inr ⟨_, .unreadable launches lost⟩
  · exact .inr ⟨_, .notStarted refused⟩

section Verdicts

def said (output : CapturedOutput) : String :=
  Utf8.decodeLossy output.stderr ++ Utf8.decodeLossy output.stdout

theorem isBlank_append (front back : String) :
    Text.isBlank (front ++ back) = (Text.isBlank front && Text.isBlank back) := by
  simp [Text.isBlank]

theorem isBlank_silentEnd (report : ProcessReport) : Text.isBlank (silentEnd report) = false := by
  have killed : Text.isBlank "compiler killed by " = false := by decide
  have exited : Text.isBlank "compiler exited with code " = false := by decide
  have failed : Text.isBlank "compiler failed" = false := by decide
  unfold silentEnd
  split
  · simp [isBlank_append, killed, toString]
  · simp [isBlank_append, exited, toString]
  · exact failed

theorem diagnostics_of_said {output : CapturedOutput} (visible : Text.isBlank (said output) = false)
    (report : ProcessReport) : diagnostics output report = said output := by
  unfold said at visible
  simp only [diagnostics, said, visible, Bool.false_eq_true, if_false]

theorem isBlank_diagnostics (output : CapturedOutput) (report : ProcessReport) :
    Text.isBlank (diagnostics output report) = false := by
  by_cases silent : Text.isBlank (said output) = true
  · have text : diagnostics output report = silentEnd report := if_pos silent
    rw [text, isBlank_silentEnd]
  · rw [Bool.not_eq_true] at silent
    rw [diagnostics_of_said silent, silent]

/-- The sources are to blame for a run of a compiler that took too long or did not succeed. -/
def Blames (report : ProcessReport) : Prop := report.isTle = true ∨ report.succeeded = false

variable {timeLimit : Duration} {output : CapturedOutput} {report : ProcessReport}

theorem conclude_of_blames (blames : Blames report) :
    ∃ diagnostics, conclude timeLimit output report = .error (.compile diagnostics) := by
  unfold conclude
  by_cases late : report.isTle = true
  · rw [if_pos late]
    exact ⟨_, rfl⟩
  · have failed : report.succeeded = false := blames.resolve_left late
    simp only [late, failed, Bool.false_eq_true, if_false, Bool.not_false, if_true]
    exact ⟨_, rfl⟩

/-- What a run of a compiler is blamed with says more than nothing, and what the compiler says if it
was in time and said something. -/
theorem exists_of_conclude_eq_error {fault : Fault}
    (fails : conclude timeLimit output report = .error fault) :
    Blames report ∧ ∃ diagnostics, fault = .compile diagnostics ∧
      Text.isBlank diagnostics = false ∧ (report.isTle = false →
        Text.isBlank (said output) = false → diagnostics = said output) := by
  unfold conclude at fails
  split at fails
  · rename_i late
    cases fails
    have started : Text.isBlank "compiler timed out (> " = false := by decide
    refine ⟨.inl late, _, rfl, ?_, ?_⟩
    · simp [isBlank_append, started, toString]
    · intro inTime
      rw [late] at inTime
      cases inTime
  split at fails
  · rename_i failed
    cases fails
    rw [Bool.not_eq_true'] at failed
    exact ⟨.inr failed, _, rfl, isBlank_diagnostics output report,
      fun _ visible => diagnostics_of_said visible report⟩
  · cases fails

end Verdicts

section Views

variable {view : Desk σ → τ} (sandbox : Sandbox σ) (process : Handle)

theorem keeps_follow (captured : (sandbox.capture process outputLimit outputLimit).Keeps view)
    (stopped : (sandbox.stop process).Keeps view)
    (ended : (sandbox.awaitEnd process).Keeps view) : (follow sandbox process).Keeps view := by
  refine (captured.relabel _).bind fun output => ?_
  have reaped : (do
      let report ← (sandbox.awaitEnd process).relabel
        fun fault => .internal (.compilerNotReaped fault.message)
      return (output, report) : Judge σ (CapturedOutput × ProcessReport)).Keeps view :=
    (ended.relabel _).bind fun _ => Work.keeps_pure _
  split
  · exact stopped.bind fun _ => reaped
  · exact reaped

theorem keeps_runTool (blind : Desk.IgnoresSandbox view) (tool : Binary) (spec : LaunchSpec) :
    (runTool sandbox tool spec).Keeps view := by
  refine ((Sandbox.keeps_start blind _ _ _).relabel _).bind fun process => ?_
  have followed : (follow sandbox process).Keeps view :=
    keeps_follow sandbox process (Sandbox.keeps_capture blind _ _ _ _)
      (Sandbox.keeps_stop blind _ _) (Sandbox.keeps_awaitEnd blind _ _)
  refine (followed.always ?_).bind fun _ => Work.keeps_ofExcept _
  exact Sandbox.view_letGo blind sandbox process

end Views

section Following

variable {sandbox : Sandbox σ} {process : Handle} {desk : Desk σ} {captured later : σ}
  {output : CapturedOutput}

theorem runOn_follow_of_read
    (reads : (sandbox.communicate process outputLimit outputLimit).Gives desk.host output captured) :
    ∃ left : Desk σ, left.host = heard sandbox process output captured ∧
      (follow sandbox process).runOn desk = (do
        let report ← (sandbox.awaitEnd process).relabel
          fun fault => .internal (.compilerNotReaped fault.message)
        return (output, report) : Judge σ (CapturedOutput × ProcessReport)).runOn left := by
  have read := Work.gives_relabel (fun fault => .internal (.compilerUnreadable fault.message))
    (Sandbox.capture_gives reads)
  let quiet := (desk.note (.communicated process)).withHost captured
  by_cases cut : output.isTruncated = true
  · let killed := (quiet.note (.killed process)).withHost (sandbox.kill process captured)
    have stops : (sandbox.stop process).Gives quiet () killed := rfl
    have host : heard sandbox process output captured = killed.host := if_pos cut
    refine ⟨killed, host.symm, ?_⟩
    rw [follow, Work.runOn_bind_of_gives read, if_pos cut, Work.runOn_bind_of_gives stops]
  · have host : heard sandbox process output captured = quiet.host := if_neg cut
    refine ⟨quiet, host.symm, ?_⟩
    rw [follow, Work.runOn_bind_of_gives read, if_neg cut]

theorem follow_gives {report : ProcessReport}
    (reads : (sandbox.communicate process outputLimit outputLimit).Gives desk.host output captured)
    (waits : (sandbox.wait process).Gives (heard sandbox process output captured) report later) :
    ∃ left, (follow sandbox process).Gives desk (output, report) left := by
  obtain ⟨quiet, host, same⟩ := runOn_follow_of_read reads
  rw [← host] at waits
  have ends := Work.gives_relabel (fun fault => .internal (.compilerNotReaped fault.message))
    (Sandbox.awaitEnd_gives waits)
  exact ⟨_, same.trans (Work.runOn_bind_of_gives ends _)⟩

theorem follow_stops_of_lost {fault : Fault}
    (reads : (sandbox.communicate process outputLimit outputLimit).Gives desk.host output captured)
    (lost : (sandbox.wait process).Stops (heard sandbox process output captured) fault later) :
    ∃ left, (follow sandbox process).Stops desk (.internal (.compilerNotReaped fault.message))
      left := by
  obtain ⟨quiet, host, same⟩ := runOn_follow_of_read reads
  rw [← host] at lost
  have ends := Work.stops_relabel (fun fault => .internal (.compilerNotReaped fault.message))
    (Sandbox.awaitEnd_stops lost)
  exact ⟨_, same.trans (Work.runOn_bind_of_stops ends _)⟩

theorem follow_stops_of_unread {fault : Fault}
    (lost : (sandbox.communicate process outputLimit outputLimit).Stops desk.host fault later) :
    ∃ left, (follow sandbox process).Stops desk (.internal (.compilerUnreadable fault.message))
      left := by
  have unread := Work.stops_relabel (fun fault => .internal (.compilerUnreadable fault.message))
    (Sandbox.capture_stops lost)
  exact ⟨_, Work.runOn_bind_of_stops unread _⟩

end Following

section Running

variable {sandbox : Sandbox σ} {tool : Binary} {spec : LaunchSpec} {desk : Desk σ}

theorem runOn_runTool_of_started {process : Handle} {launched : σ}
    (launches : (sandbox.launch desk.files tool spec).Gives desk.host process launched) :
    (runTool sandbox tool spec).runOn desk = ((follow sandbox process).always
      (sandbox.letGo process) >>= fun seen => Work.ofExcept (conclude spec.time seen.1 seen.2)).runOn
        ((desk.withHost launched).note (.launched process ⟨tool, spec, desk.files⟩)) := by
  have starts := Work.gives_relabel (fun fault => .internal (.compilerNotStarted fault.message))
    (Sandbox.start_gives launches)
  exact Work.runOn_bind_of_gives starts _

theorem runTool_of_ends {output : CapturedOutput} {report : ProcessReport}
    (ends : Ends sandbox ⟨tool, spec, desk.files⟩ desk.host output report) :
    ((runTool sandbox tool spec).runOn desk).1 = conclude spec.time output report := by
  obtain ⟨launches, reads, waits⟩ := ends
  rename_i process launched captured ended
  let running := (desk.withHost launched).note (.launched process ⟨tool, spec, desk.files⟩)
  have host : running.host = launched := rfl
  rw [← host] at reads
  obtain ⟨left, follows⟩ := follow_gives reads waits
  have tidied := Work.gives_always (sandbox.letGo process) follows
  rw [runOn_runTool_of_started launches, Work.runOn_bind_of_gives tidied]
  rfl

theorem runTool_of_fails {cause : InternalFault}
    (fails : Fails sandbox ⟨tool, spec, desk.files⟩ desk.host cause) :
    ((runTool sandbox tool spec).runOn desk).1 = .error (.internal cause) := by
  cases fails with
  | notStarted refused =>
    have starts := Work.stops_relabel (fun fault => .internal (.compilerNotStarted fault.message))
      (Sandbox.start_stops refused)
    exact congrArg Prod.fst (Work.runOn_bind_of_stops starts _)
  | @unreadable process launched later fault launches lost =>
    let running := (desk.withHost launched).note (.launched process ⟨tool, spec, desk.files⟩)
    have host : running.host = launched := rfl
    rw [← host] at lost
    obtain ⟨left, stops⟩ := follow_stops_of_unread lost
    have tidied := Work.stops_always (sandbox.letGo process) stops
    rw [runOn_runTool_of_started launches]
    exact congrArg Prod.fst (Work.runOn_bind_of_stops tidied _)
  | @notReaped process launched captured later output fault launches reads lost =>
    let running := (desk.withHost launched).note (.launched process ⟨tool, spec, desk.files⟩)
    have host : running.host = launched := rfl
    rw [← host] at reads
    obtain ⟨left, stops⟩ := follow_stops_of_lost reads lost
    have tidied := Work.stops_always (sandbox.letGo process) stops
    rw [runOn_runTool_of_started launches]
    exact congrArg Prod.fst (Work.runOn_bind_of_stops tidied _)

end Running

section Launches

variable (sandbox : Sandbox σ)

def launches (desk : Desk σ) : List LaunchOrder := orders desk.journal

theorem launches_note (desk : Desk σ) (act : Act) :
    launches (desk.note act) = launches desk ++ act.order?.toList := by
  cases act <;> simp [launches, orders, Desk.note, Act.order?]

theorem launches_note_of_other {act : Act} (other : act.order? = none) (desk : Desk σ) :
    launches (desk.note act) = launches desk := by
  simp [launches_note, other]

theorem keeps_launches_follow (process : Handle) : (follow sandbox process).Keeps launches := by
  have noted {α : Type} {act : Act} (other : act.order? = none) (work : Work σ α) :
      (do Judge.note act; Judge.onHost work : Judge σ α).Keeps launches :=
    fun desk => launches_note_of_other other desk
  refine keeps_follow sandbox process (noted rfl _) ?_ (noted rfl _)
  intro desk
  exact launches_note_of_other rfl desk

theorem launches_runTool (tool : Binary) (spec : LaunchSpec) (desk : Desk σ) :
    launches ((runTool sandbox tool spec).runOn desk).2 =
      launches desk ++ [⟨tool, spec, desk.files⟩] := by
  rcases Work.gives_or_stops (sandbox.launch desk.files tool spec) desk.host with
    ⟨process, launched, started⟩ | ⟨fault, later, refused⟩
  · rw [runOn_runTool_of_started started]
    have tidied : ((follow sandbox process).always (sandbox.letGo process)).Keeps launches :=
      (keeps_launches_follow sandbox process).always fun _ => launches_note_of_other rfl _
    rw [tidied.bind (fun _ => Work.keeps_ofExcept _), launches_note]
    rfl
  · have starts := Work.stops_relabel (fun fault => .internal (.compilerNotStarted fault.message))
      (Sandbox.start_stops refused)
    have stops : (runTool sandbox tool spec).Stops desk _ _ := Work.runOn_bind_of_stops starts _
    rw [stops, launches_note]
    rfl

end Launches
end Build
end ContestJudge
