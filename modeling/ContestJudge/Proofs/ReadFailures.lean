import ContestJudge.Proofs.Attendance
import ContestJudge.Proofs.CheckerGate
/-!
What becomes of a failed read. The loop that reads a stream tells of it and the capture hands it on,
but a grader takes it for the end of the output: what was read until then is judged.
-/

namespace ContestJudge

def ReadOutcome.GoesOn (read : ReadOutcome) : Prop := read ≠ .failed ∧ read ≠ .chunk []

namespace Capture

variable {limit : Nat} {capture : Capture}

theorem take_of_fits {chunk : Bytes} (whole : capture.integrity = .complete)
    (fits : capture.size + chunk.length ≤ limit) : capture.take limit chunk = capture.keep chunk := by
  rw [take, if_neg (by rw [whole]; decide), if_neg (by omega)]

/-- A read that fails within the limit ends a capture with what was read until then. -/
theorem finish_readOn_of_break (overflow : Overflow) {reads : List ReadOutcome}
    (rest : List ReadOutcome) (goes : ∀ read ∈ reads, read.GoesOn)
    (whole : capture.integrity = .complete)
    (fits : capture.size + (ReadOutcome.bytes reads).length ≤ limit) :
    (readOn limit overflow capture (reads ++ .failed :: rest)).1.finish =
      ⟨capture.finish.data ++ ReadOutcome.bytes reads, .readError⟩ := by
  induction reads generalizing capture with
  | nil =>
    change capture.fail.finish = ⟨capture.finish.data ++ [], .readError⟩
    rw [fail, if_pos whole, List.append_nil]
    rfl
  | cons read reads ih =>
    have goes' : ∀ read ∈ reads, read.GoesOn := fun later listed =>
      goes later (List.mem_cons_of_mem read listed)
    obtain ⟨reliable, unended⟩ := goes read List.mem_cons_self
    match read with
    | .failed => exact absurd rfl reliable
    | .interrupted => exact ih goes' whole fits
    | .chunk [] => exact absurd rfl unended
    | .chunk (b :: data) =>
      have split : ReadOutcome.bytes (.chunk (b :: data) :: reads) =
          (b :: data) ++ ReadOutcome.bytes reads := rfl
      rw [split, List.length_append] at fits
      have kept : capture.take limit (b :: data) = capture.keep (b :: data) :=
        take_of_fits whole (by omega)
      have goesOn : readOn limit overflow capture (.chunk (b :: data) :: (reads ++ .failed :: rest)) =
          readOn limit overflow (capture.keep (b :: data)) (reads ++ .failed :: rest) := by
        rw [readOn, kept, if_neg]
        rintro ⟨cut, -⟩
        cases whole.symm.trans cut
      have size : (capture.keep (b :: data)).size = (b :: data).length + capture.size := rfl
      have whole' : (capture.keep (b :: data)).integrity = .complete := whole
      rw [List.cons_append, goesOn, ih goes' whole' (by omega), split]
      simp only [finish, keep, List.reverse_cons, List.flatten_append, List.flatten_cons,
        List.flatten_nil, List.append_nil, List.append_assoc]

end Capture

theorem readBounded_of_break {limit : Nat} (overflow : Overflow) {reads : List ReadOutcome}
    (rest : List ReadOutcome) (goes : ∀ read ∈ reads, read.GoesOn)
    (fits : (ReadOutcome.bytes reads).length ≤ limit) :
    (readBounded (reads ++ .failed :: rest) limit overflow).1 =
      ⟨ReadOutcome.bytes reads, .readError⟩ := by
  have begins : Capture.start.size + (ReadOutcome.bytes reads).length ≤ limit :=
    (Nat.zero_add _).symm ▸ fits
  exact Capture.finish_readOn_of_break overflow rest goes rfl begins

theorem LocalProcess.communicate_of_break {σ : Type} {control : JobControl σ}
    {outLimit errLimit : Nat} {output : CapturedOutput} {s later : Supervised σ}
    (captures : (communicate control outLimit errLimit).Gives s output later)
    (opened : s.process.outputOpen) {reads rest : List ReadOutcome}
    (breaks : (control.readOutput s.process.job outLimit s.kernel).1 = reads ++ .failed :: rest)
    (goes : ∀ read ∈ reads, read.GoesOn) (fits : (ReadOutcome.bytes reads).length ≤ outLimit) :
    output.stdout = ReadOutcome.bytes reads ∧ output.stdoutIntegrity = .readError := by
  obtain ⟨taken, middle, takes, captures⟩ := Work.exists_of_gives_bind captures
  have broken : taken = ⟨ReadOutcome.bytes reads, .readError⟩ := by
    obtain ⟨_, _, same, takes⟩ := Work.exists_of_gives_bind takes
    cases same
    dsimp only at takes
    rw [if_pos opened] at takes
    obtain ⟨read, _, acts, takes⟩ := Work.exists_of_gives_bind takes
    obtain ⟨_, _, -, takes⟩ := Work.exists_of_gives_bind takes
    cases acts
    cases takes
    rw [breaks]
    exact readBounded_of_break .stop rest goes fits
  subst broken
  obtain ⟨_, _, -, captures⟩ := Work.exists_of_gives_bind captures
  obtain ⟨_, _, -, captures⟩ := Work.exists_of_gives_bind captures
  cases captures
  exact ⟨rfl, rfl⟩

def CapturedOutput.overlook (output : CapturedOutput) : CapturedOutput :=
  match output.stdoutIntegrity with
  | .readError => { output with stdoutIntegrity := .complete }
  | _ => output

namespace CapturedOutput

variable (output : CapturedOutput)

theorem overlook_isTruncated : output.overlook.isTruncated = output.isTruncated := by
  unfold overlook
  split
  · rename_i broken
    rw [isTruncated, isTruncated, broken]
    rfl
  · rfl

theorem overlook_stdout : output.overlook.stdout = output.stdout := by
  unfold overlook
  split <;> rfl

theorem overlook_stderr : output.overlook.stderr = output.stderr := by
  unfold overlook
  split <;> rfl

end CapturedOutput

/-- The sandbox that keeps every failed read to itself. -/
def Sandbox.overlooking {σ : Type} (sandbox : Sandbox σ) : Sandbox σ :=
  { sandbox with
    communicate := fun process outLimit errLimit => do
      let output ← sandbox.communicate process outLimit errLimit
      return output.overlook }

theorem Sandbox.runOn_capture_overlooking {σ : Type} (sandbox : Sandbox σ) (process : Handle)
    (outLimit errLimit : Nat) (desk : Desk σ) :
    (sandbox.overlooking.capture process outLimit errLimit).runOn desk =
      (((sandbox.capture process outLimit errLimit).runOn desk).1.map CapturedOutput.overlook,
        ((sandbox.capture process outLimit errLimit).runOn desk).2) := by
  have notes : (Judge.note (.communicated process) : Judge σ Unit).Gives desk ()
    (desk.note (.communicated process)) := rfl
  rw [capture, capture, Work.runOn_bind_of_gives notes, Work.runOn_bind_of_gives notes]
  change ((do
    let output ← sandbox.communicate process outLimit errLimit
    return output.overlook : Work σ CapturedOutput).within Desk.host Desk.withHost).runOn _ = _
  rw [Judge.onHost, Work.runOn_within, Work.runOn_within, Work.runOn_bind]
  rcases (sandbox.communicate process outLimit errLimit).runOn (desk.note _).host
    with ⟨fault | output, later⟩ <;> rfl

namespace StandardGrader

variable {σ : Type}

def overlooking (g : StandardGrader σ) : StandardGrader σ :=
  { g with bench := { g.bench with sandbox := g.bench.sandbox.overlooking } }

theorem collectPiped_overlooking (g : StandardGrader σ) (c : TestCase) (process : Handle) :
    g.overlooking.collectPiped c process = g.collectPiped c process := by
  funext desk
  change (g.overlooking.collectPiped c process).runOn desk = (g.collectPiped c process).runOn desk
  have captures : (g.overlooking.bench.sandbox.capture process c.config.outputLimit
      stderrLimit).runOn desk = _ :=
    g.bench.sandbox.runOn_capture_overlooking process c.config.outputLimit stderrLimit desk
  rw [collectPiped, collectPiped, Work.runOn_bind, Work.runOn_bind, captures]
  rcases (g.bench.sandbox.capture process c.config.outputLimit stderrLimit).runOn desk
    with ⟨fault | output, later⟩
  · rfl
  · simp only [Except.map, CapturedOutput.overlook_isTruncated, CapturedOutput.overlook_stdout,
      CapturedOutput.overlook_stderr]
    rfl

theorem steps_overlooking (g : StandardGrader σ) : g.overlooking.steps = g.steps := by
  have interacts : g.overlooking.interact = g.interact := by
    funext c result
    simp only [interact, collectPiped_overlooking]
    rfl
  have changes : g.overlooking.steps = { g.steps with interact := g.overlooking.interact } := rfl
  rw [changes, interacts]
  rfl

inductive BreaksOff (g : StandardGrader σ) (c : TestCase) (desk : Desk σ) (stdout stderr : Bytes)
    (report : ProcessReport) : Prop where
  | intro {process : Handle} {input : CaseInput} {stderrIntegrity : OutputIntegrity}
      {launched captured : Desk σ}
      (launches : (g.launch c).Gives desk ⟨process, none, input⟩ launched)
      (captures : (g.bench.sandbox.capture process c.config.outputLimit stderrLimit).Gives launched
        ⟨stdout, stderr, .readError, stderrIntegrity⟩ captured)
      (reported : g.bench.sandbox.report? captured.host process = some report)

/-- The output of a plain process breaks off where the kernel fails to read within the limit. -/
theorem breaksOff_of_plain {kernel : Kernel σ} {g : StandardGrader (LocalHost σ)}
    (plain : g.bench.sandbox = .plain kernel) {c : TestCase} {desk launched captured : Desk (LocalHost σ)}
    {process : Handle} {input : CaseInput} {p : LocalProcess} {output : CapturedOutput}
    {report : ProcessReport} {reads rest : List ReadOutcome}
    (launches : (g.launch c).Gives desk ⟨process, none, input⟩ launched)
    (present : launched.host.processes[process]? = some p) (opened : p.outputOpen)
    (breaks : (kernel.readOutput p.job c.config.outputLimit launched.host.kernel).1 =
      reads ++ .failed :: rest)
    (goes : ∀ read ∈ reads, read.GoesOn)
    (fits : (ReadOutcome.bytes reads).length ≤ c.config.outputLimit)
    (captures : (g.bench.sandbox.capture process c.config.outputLimit stderrLimit).Gives launched
      output captured)
    (reported : g.bench.sandbox.report? captured.host process = some report) :
    g.BreaksOff c desk (ReadOutcome.bytes reads) output.stderr report := by
  have broken : output.stdout = ReadOutcome.bytes reads ∧ output.stdoutIntegrity = .readError := by
    obtain ⟨_, noted, notes, communicates⟩ := Work.exists_of_gives_bind captures
    cases notes
    rw [Work.Gives, Judge.onHost, Work.runOn_within, Prod.mk.injEq, plain] at communicates
    have worked : (LocalHost.onProcess process (LocalProcess.communicate kernel.toJobControl
        c.config.outputLimit stderrLimit)).Gives launched.host output _ :=
      Work.gives_of_answer communicates.1
    obtain ⟨found, s, there, worked, -⟩ := LocalHost.exists_of_gives_onProcess worked
    cases there.symm.trans present
    exact LocalProcess.communicate_of_break worked opened breaks goes fits
  obtain ⟨stdout, stderr, integrity, stderrIntegrity⟩ := output
  obtain ⟨rfl, rfl⟩ := broken
  exact .intro launches captures reported

/-- A failed read makes no difference to a grader: it does the same on a sandbox that keeps failed
reads to itself, and what was read before the failure is judged as the output of the submission. -/
theorem grade_of_failed_read (g : StandardGrader σ) (c : TestCase) (desk : Desk σ)
    {stdout stderr : Bytes} {report : ProcessReport}
    (breaks : g.BreaksOff c desk stdout stderr report) :
    let observed := { c.freshResult with output := stdout }.populate stderr report
    (∃ ended : Desk σ, ended.material = (c.inputFile.runOn desk).2.material ∧
      ended.consultations = desk.consultations ∧
      ((g.steps.gradeCase c).runOn desk).1 = ((g.runChecker c observed).runOn ended).1.map
        fun judgement => observed.apply (judgement.normalize c.points)) ∧
    g.overlooking.steps.gradeCase c = g.steps.gradeCase c := by
  obtain @⟨process, input, stderrIntegrity, launched, captured, launches, captures, reported⟩ :=
    breaks
  have collects : (g.collect c ⟨process, none, input⟩).Gives launched (stdout, stderr) captured :=
    collectPiped_gives (by decide) captures
  obtain ⟨ended, placed, unasked, answered, -⟩ := grade_of_collected launches collects reported
  exact ⟨⟨ended, placed, unasked, answered⟩, congrArg (·.gradeCase c) (steps_overlooking g)⟩

end StandardGrader

namespace Sample

def broken : StandardGrader (LocalHost Unit) := piped [.chunk [53, 10], .failed]

def ending : ProcessReport :=
  { (default : ProcessReport) with
    exitCode := some 0
    maxMemory := 64
    timeLimit := problem.timeLimit
    memoryLimit := problem.memoryLimit }

theorem broken_breaksOff : broken.BreaksOff (testCase 64) bare [53, 10] [] ending := by
  have launches : (broken.launch (testCase 64)).Gives bare ⟨0, none, ⟨"/tmp/.tmp0", true⟩⟩ _ :=
    Work.gives_of_answer (by decide +kernel)
  have captures : (broken.bench.sandbox.capture 0 64 stderrLimit).Gives
      ((broken.launch (testCase 64)).runOn bare).2 ⟨[53, 10], [], .readError, .complete⟩ _ :=
    Work.gives_of_answer (by decide +kernel)
  exact .intro launches captures (by decide +kernel)

theorem broken_output_judged :
    broken.BreaksOff (testCase 64) bare [53, 10] [] ending ∧ ∃ ended : Desk (LocalHost Unit),
      ((broken.steps.gradeCase (testCase 64)).runOn bare).1 =
        ((broken.runChecker (testCase 64) ({ (testCase 64).freshResult with
          output := [53, 10] }.populate [] ending)).runOn ended).1.map fun judgement =>
            ({ (testCase 64).freshResult with output := [53, 10] }.populate [] ending).apply
              (judgement.normalize 10) := by
  obtain ⟨⟨ended, -, -, answered⟩, -⟩ :=
    StandardGrader.grade_of_failed_read broken (testCase 64) bare broken_breaksOff
  exact ⟨broken_breaksOff, ended, answered⟩

/-- An answer that may have gone on where the read failed is accepted. -/
theorem broken_output_accepted :
    broken.BreaksOff (testCase 64) bare [53, 10] [] ending ∧
    (((Grader.standard broken).grade (testCase 64)).runOn bare).1.map (·.isAccepted) = .ok true :=
  ⟨broken_breaksOff, by decide +kernel⟩

end Sample
end ContestJudge
