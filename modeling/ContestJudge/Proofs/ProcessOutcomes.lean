import ContestJudge.Proofs.BoundedReading
/-!
What each thing that the owner of a process does comes to: the report is filed once, stdout is taken
once, and so are the diagnostics, which are given again to whoever asks. A mark of too much output
commutes with all of it.
-/

namespace ContestJudge

def ProcessReport.markedIf (report : ProcessReport) (excess : Bool) : ProcessReport :=
  { report with outputLimitExceeded := excess }

namespace ProcessReport

variable (report : ProcessReport)

@[simp] theorem markedIf_markedIf (excess other : Bool) :
    (report.markedIf excess).markedIf other = report.markedIf other := rfl

@[simp] theorem outputLimitExceeded_markedIf (excess : Bool) :
    (report.markedIf excess).outputLimitExceeded = excess := rfl

@[simp] theorem markedIf_outputLimitExceeded :
    report.markedIf report.outputLimitExceeded = report := rfl

end ProcessReport

namespace LocalProcess

section Waiting

variable {σ : Type} (control : JobControl σ)

theorem runOn_act {α : Type} (change : σ → α × σ) (s : Supervised σ) :
    (act change).runOn s =
      (.ok (change s.kernel).1, { s with kernel := (change s.kernel).2 }) := rfl

def conclude (job : JobId) : Work σ (Ending × Usage × Duration × Bool) := do
  let wall ← control.awaitExit job
  let ended ← get
  let (watch, locked) := control.lockWatch job ended
  let seen := control.unlockWatch job watch.seeExit.2 locked
  modify fun _ => control.sweep job (control.joinAlarm job seen)
  let (ending, usage) ← control.reap job
  return (ending, usage, wall, watch.seeExit.1)

def reportOf (p : LocalProcess) (told : Ending × Usage × Duration × Bool) : ProcessReport :=
  p.buildReport told.1 told.2.1 told.2.2.1 told.2.2.2

theorem runOn_awaitReport (s : Supervised σ) :
    (awaitReport control).runOn s =
      match (conclude control s.process.job).runOn s.kernel with
      | (.ok told, kernel) =>
        (.ok (s.process.reportOf told),
          ⟨kernel, { s.process with report := some (s.process.reportOf told) }⟩)
      | (.error fault, kernel) => (.error fault, ⟨kernel, s.process⟩) := by
  simp only [awaitReport, conclude, onKernel, perform, update, Work.runOn_bind, Work.runOn_get,
    Work.runOn_within, Work.runOn_modify, Work.runOn_pure]
  rcases (control.awaitExit s.process.job).runOn s.kernel with ⟨fault | wall, ended⟩
  · rfl
  · dsimp only
    rw [runOn_act]
    dsimp only
    rcases (control.reap s.process.job).runOn _ with ⟨fault | ⟨ending, usage⟩, reaped⟩
    · rfl
    · rfl

variable {control} {s : Supervised σ}

/-- A process is waited for once: a report that is filed is given again, and otherwise the new one
is filed, unless the kernel fails. -/
theorem wait_outcome (control : JobControl σ) (s : Supervised σ) :
    (∃ report kernel,
      (wait control).Gives s report ⟨kernel, { s.process with report := some report }⟩ ∧
      (s.process.report = some report ∨
        s.process.report = none ∧ report.outputLimitExceeded = s.process.marked)) ∨
    ∃ fault kernel, (wait control).Stops s fault ⟨kernel, s.process⟩ ∧ s.process.report = none := by
  cases filed : s.process.report with
  | some report =>
    have same : { s.process with report := some report } = s.process := by
      rw [← filed]
    refine .inl ⟨report, s.kernel, ?_, .inl rfl⟩
    rw [same]
    simp [Work.Gives, wait, Work.runOn_bind, filed]
  | none =>
    have ran : (wait control).runOn s = (awaitReport control).runOn s := by
      simp [wait, Work.runOn_bind, filed]
    rw [runOn_awaitReport] at ran
    rcases ended : (conclude control s.process.job).runOn s.kernel with ⟨fault | told, kernel⟩
    · rw [ended] at ran
      exact .inr ⟨fault, kernel, ran, rfl⟩
    · rw [ended] at ran
      exact .inl ⟨s.process.reportOf told, kernel, ran, .inr ⟨rfl, rfl⟩⟩

theorem takeOutput_outcome (control : JobControl σ) (limit : Nat) (s : Supervised σ) :
    ∃ taken kernel,
      (takeOutput control limit).Gives s taken ⟨kernel, { s.process with outputOpen := false }⟩ ∧
      (s.process.outputOpen = false → taken = .empty) := by
  cases opened : s.process.outputOpen with
  | true =>
    refine ⟨(readBounded (control.readOutput s.process.job limit s.kernel).1 limit .stop).1,
      (control.readOutput s.process.job limit s.kernel).2, ?_, by simp⟩
    simp only [Work.Gives, takeOutput, Work.runOn_bind, Work.runOn_get, opened, if_true, runOn_act,
      update, Work.runOn_modify, Work.runOn_pure]
  | false =>
    have same : { s.process with outputOpen := false } = s.process := by
      rw [← opened]
    refine ⟨.empty, s.kernel, ?_, by simp⟩
    rw [same]
    simp [Work.Gives, takeOutput, Work.runOn_bind, opened]

def heard (p : LocalProcess) : CapturedStream := p.diagnostics.getD .empty

theorem takeDiagnostics_outcome (control : JobControl σ) (s : Supervised σ) :
    ∃ captured kernel taken,
      (takeDiagnostics control).Gives s captured
        ⟨kernel, { s.process with diagnosticsOpen := false, diagnostics := taken }⟩ ∧
      taken.getD .empty = captured ∧
      (s.process.diagnosticsOpen = false → captured = s.process.heard) ∧
      (s.process.diagnosticsOpen = true → captured.Takes stderrLimit
        (ReadOutcome.delivered (control.readDiagnostics s.process.job s.kernel).1)) := by
  cases opened : s.process.diagnosticsOpen with
  | true =>
    refine ⟨_, (control.readDiagnostics s.process.job s.kernel).2, some _, ?_, rfl, by simp,
      fun _ => takes_readBounded _ stderrLimit .discard⟩
    simp only [Work.Gives, takeDiagnostics, Work.runOn_bind, Work.runOn_get, opened, if_true,
      runOn_act, update, Work.runOn_modify, Work.runOn_pure, Option.getD_some]
  | false =>
    have same : { s.process with
        diagnosticsOpen := false, diagnostics := s.process.diagnostics } = s.process := by
      rw [← opened]
    refine ⟨s.process.heard, s.kernel, s.process.diagnostics, ?_, rfl, fun _ => rfl, by simp⟩
    rw [same]
    simp [Work.Gives, takeDiagnostics, Work.runOn_bind, opened, heard]

end Waiting

section Captures

variable {captured : CapturedStream} {arrived : Bytes}

theorem data_shorten (captured : CapturedStream) (limit : Nat) :
    (shorten captured limit).data = captured.data.take limit := by
  unfold shorten
  split
  · rfl
  · rw [List.take_of_length_le (by omega)]

/-- A shortened stream is marked if it is shorter, or if it was cut when it was captured. -/
theorem cut_shorten (takes : captured.Takes stderrLimit arrived) (limit : Nat) :
    (shorten captured limit).integrity = .truncatedByJudgeLimit ↔
      (shorten captured limit).data.length < captured.data.length ∨
        stderrLimit < arrived.length := by
  rw [← takes.cut, data_shorten, List.length_take]
  unfold shorten
  split
  · simp
    omega
  · have whole : ¬min limit captured.data.length < captured.data.length := by omega
    simp [whole]

end Captures

section Communicating

variable {σ : Type} {control : JobControl σ} {outLimit : Nat} (errLimit : Nat)
  {s middle ended last : Supervised σ} {output captured : CapturedStream}

theorem communicate_of_cut (takes : (takeOutput control outLimit).Gives s output middle)
    (cut : output.integrity = .truncatedByJudgeLimit) :
    (communicate control outLimit errLimit).runOn s =
      (.ok ⟨output.data, [], output.integrity, .complete⟩, middle) := by
  rw [communicate, Work.runOn_bind_of_gives takes, if_pos cut, Work.runOn_pure]

theorem communicate_of_unended (takes : (takeOutput control outLimit).Gives s output middle)
    (whole : output.integrity ≠ .truncatedByJudgeLimit) {fault : Fault}
    (stops : (wait control).Stops middle fault ended) :
    (communicate control outLimit errLimit).runOn s = (.error fault, ended) := by
  rw [communicate, Work.runOn_bind_of_gives takes, if_neg whole]
  exact Work.runOn_bind_of_stops stops _

theorem communicate_of_ended (takes : (takeOutput control outLimit).Gives s output middle)
    (whole : output.integrity ≠ .truncatedByJudgeLimit) {report : ProcessReport}
    (waits : (wait control).Gives middle report ended)
    (reads : (takeDiagnostics control).Gives ended captured last) :
    (communicate control outLimit errLimit).runOn s =
      (.ok ⟨output.data, (shorten captured errLimit).data, output.integrity,
        (shorten captured errLimit).integrity⟩, last) := by
  rw [communicate, Work.runOn_bind_of_gives takes, if_neg whole, Work.runOn_bind_of_gives waits,
    Work.runOn_bind_of_gives reads, Work.runOn_pure]

theorem runOn_readStderr (reads : (takeDiagnostics control).Gives s captured last) :
    (readStderr control).runOn s = (.ok captured.data, last) := by
  rw [readStderr, Work.runOn_bind_of_gives reads, Work.runOn_pure]

end Communicating

section Marking

variable {σ : Type} {control : JobControl σ}

variable (control) in
/-- A process that is marked before it is waited for comes to the same as one that is marked after
it. -/
theorem runOn_wait_markOutput (s : Supervised σ) :
    (wait control).runOn (markOutput s) =
      (((wait control).runOn s).1.map (·.markedIf true),
        markOutput ((wait control).runOn s).2) := by
  cases filed : s.process.report with
  | some report =>
    simp [wait, Work.runOn_bind, markOutput, filed, Except.map, ProcessReport.markedIf]
  | none =>
    have ran : (wait control).runOn s = (awaitReport control).runOn s := by
      simp [wait, Work.runOn_bind, filed]
    have ran' :
        (wait control).runOn (markOutput s) = (awaitReport control).runOn (markOutput s) := by
      simp [wait, Work.runOn_bind, markOutput, filed]
    rw [ran, ran', runOn_awaitReport, runOn_awaitReport]
    have same : (conclude control (markOutput s).process.job).runOn (markOutput s).kernel =
        (conclude control s.process.job).runOn s.kernel := rfl
    rw [same]
    rcases (conclude control s.process.job).runOn s.kernel with ⟨fault | told, kernel⟩
    · rfl
    · rfl

theorem blind_wait_bind {α : Type} {next : Work (Supervised σ) α}
    (blind : Work.Blind markOutput next) :
    Work.Blind markOutput (wait control >>= fun _ => next) := by
  intro s marked same
  obtain rfl : markOutput s = marked := same
  rw [Work.runOn_bind, Work.runOn_bind, runOn_wait_markOutput]
  rcases (wait control).runOn s with ⟨fault | report, later⟩
  · exact ⟨rfl, rfl⟩
  · exact blind later (markOutput later) rfl

theorem blind_act {α : Type} (change : σ → α × σ) : Work.Blind markOutput (act change) := by
  intro s marked same
  obtain rfl : markOutput s = marked := same
  exact ⟨rfl, rfl⟩

theorem blind_update {change : LocalProcess → LocalProcess}
    (apart : ∀ s : Supervised σ, (markOutput { s with process := change s.process }).process =
      change (markOutput s).process) :
    Work.Blind markOutput (update change : Work (Supervised σ) Unit) := by
  intro s marked same
  obtain rfl : markOutput s = marked := same
  exact ⟨rfl, congrArg (Supervised.mk s.kernel) (apart s)⟩

theorem blind_takeOutput (limit : Nat) : Work.Blind markOutput (takeOutput control limit) := by
  refine Work.alike_get_bind fun s marked same => ?_
  obtain rfl : markOutput s = marked := same
  change Work.Blind markOutput (if s.process.outputOpen = true then _ else _)
  split
  · refine (blind_act _).bind fun reads => ?_
    exact (blind_update fun _ => rfl).bind fun _ => Work.alike_pure _
  · exact Work.alike_pure _

theorem blind_takeDiagnostics : Work.Blind markOutput (takeDiagnostics control) := by
  refine Work.alike_get_bind fun s marked same => ?_
  obtain rfl : markOutput s = marked := same
  change Work.Blind markOutput (if s.process.diagnosticsOpen = true then _ else _)
  split
  · refine (blind_act _).bind fun reads => ?_
    exact (blind_update fun _ => rfl).bind fun _ => Work.alike_pure _
  · exact Work.alike_pure _

theorem blind_communicate (outLimit errLimit : Nat) :
    Work.Blind markOutput (communicate control outLimit errLimit) := by
  refine (blind_takeOutput outLimit).bind fun output => ?_
  split
  · exact Work.alike_pure _
  · exact blind_wait_bind (blind_takeDiagnostics.bind fun _ => Work.alike_pure _)

theorem blind_readStderr : Work.Blind markOutput (readStderr control) :=
  blind_takeDiagnostics.bind fun _ => Work.alike_pure _

end Marking
end LocalProcess

end ContestJudge
