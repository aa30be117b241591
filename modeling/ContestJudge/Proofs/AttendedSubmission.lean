import ContestJudge.Proofs.Conversation
import ContestJudge.Proofs.Dealings
import ContestJudge.Proofs.Delivery

namespace ContestJudge

def TestCase.settled (c : TestCase) (output stderr : Bytes) (report : ProcessReport)
    (judgement : Judgement) : CaseResult :=
  ({ c.freshResult with output := output }.populate stderr report).apply
    (judgement.normalize c.points)

theorem wallTimeOf_error {seconds factor : Binary64} {fault : Fault}
    (fails : wallTimeOf seconds factor = .error fault) : ∃ cause, fault = .config cause := by
  unfold wallTimeOf at fails
  split at fails
  · cases fails
  · cases fails
    exact ⟨_, rfl⟩

theorem scaledWallTime_error {time : Duration} {factor : Binary64} {fault : Fault}
    (fails : scaledWallTime time factor = .error fault) : ∃ cause, fault = .config cause :=
  wallTimeOf_error fails

namespace StandardGrader

variable {σ : Type}

theorem submissionSpec_error {g : StandardGrader σ} {c : TestCase} {fault : Fault}
    (fails : g.submissionSpec c = .error fault) : ∃ cause, fault = .config cause := by
  rcases (bind_eq_error_iff _ _).mp fails with fails | ⟨wall, -, fails⟩
  · exact scaledWallTime_error fails
  · cases fails

theorem isQuiet_submissionSpec (g : StandardGrader σ) (c : TestCase) :
    Judge.IsQuiet (Work.ofExcept (g.submissionSpec c) : Judge σ LaunchSpec) := by
  refine isQuiet_ofExcept fun fault fails => ?_
  obtain ⟨cause, rfl⟩ := submissionSpec_error fails
  rfl

section Courses

variable (g : StandardGrader σ) (c : TestCase)

inductive Started (before : Desk σ) (run : StandardRun) (later : Desk σ) : Prop where
  | inMemory {memory : Nat} {opened : σ} {order : LaunchOrder}
      (mode : g.bench.environment.memoryOutput = true)
      (opens : g.bench.sandbox.openMemory.Gives before.host memory opened)
      (launches : g.bench.sandbox.Launches order opened run.process later.host)
      (captured : run.memory = some memory)
      (dealt : later.dealings = before.dealings ++ [.launched run.process order])
  | piped {order : LaunchOrder} (mode : g.bench.environment.memoryOutput = false)
      (launches : g.bench.sandbox.Launches order before.host run.process later.host)
      (captured : run.memory = none)
      (dealt : later.dealings = before.dealings ++ [.launched run.process order])

def marks (process : Handle) (size : Nat) : List Act :=
  if size > c.config.outputLimit then [.outputMarked process] else []

/-- How the output of a submission was collected. On each way the submission is waited for; one whose
output is cut is stopped and marked before that. -/
inductive Collected (process : Handle) :
    Option Nat → Desk σ → Bytes → Bytes → Desk σ → Prop where
  | inMemory {memory size : Nat} {first : ProcessReport} {output stderr : Bytes}
      {ended sized taken : σ} {before later : Desk σ}
      (waits : (g.bench.sandbox.wait process).Gives before.host first ended)
      (sizes : (g.bench.sandbox.memorySize memory).Gives ended size sized)
      (takes : (g.bench.sandbox.memoryBytes memory).Gives
        (if size > c.config.outputLimit then g.bench.sandbox.markOutput process sized else sized)
        output taken)
      (hears : (g.bench.sandbox.readStderr process).Gives taken stderr later.host)
      (dealt : later.dealings = before.dealings ++
        (.waited process :: marks c process size ++ [.stderrRead process])) :
      Collected process (some memory) before output stderr later
  | whole {output : CapturedOutput} {before later : Desk σ}
      (captures : (g.bench.sandbox.communicate process c.config.outputLimit stderrLimit).Gives
        before.host output later.host)
      (whole : output.isTruncated = false)
      (dealt : later.dealings = before.dealings ++ [.communicated process]) :
      Collected process none before output.stdout output.stderr later
  | cut {output : CapturedOutput} {last : ProcessReport} {captured : σ} {before later : Desk σ}
      (captures : (g.bench.sandbox.communicate process c.config.outputLimit stderrLimit).Gives
        before.host output captured)
      (cut : output.isTruncated = true)
      (waits : (g.bench.sandbox.wait process).Gives
        (g.bench.sandbox.markOutput process (g.bench.sandbox.kill process captured)) last later.host)
      (dealt : later.dealings = before.dealings ++
        [.communicated process, .killed process, .outputMarked process, .waited process]) :
      Collected process none before output.stdout [] later

inductive Attended (before : Desk σ) (report : ProcessReport) (result : CaseResult)
    (later : Desk σ) : Prop where
  | intro {run : StandardRun} {output stderr : Bytes} {judgement : Judgement}
      {launched ended : Desk σ}
      (started : g.Started before run launched)
      (collected : g.Collected c run.process run.memory launched output stderr ended)
      (reported : g.bench.sandbox.report? ended.host run.process = some report)
      (settled : result = c.settled output stderr report judgement)
      (host : later.host = g.bench.sandbox.release run.process ended.host)
      (dealt : later.dealings = ended.dealings ++ [.released run.process])

end Courses

variable {g : StandardGrader σ} {c : TestCase} {blamed : Fault → Prop}

theorem Started.handed {before later : Desk σ} {run : StandardRun}
    (started : g.Started before run later) :
    g.bench.sandbox.Handed run.process later.host := by
  cases started with
  | inMemory mode opens launches => exact Sandbox.handed_of_launch launches
  | piped mode launches => exact Sandbox.handed_of_launch launches

theorem Collected.waitsFor {process : Handle} {memory : Option Nat} {before later : Desk σ}
    {output stderr : Bytes} (collected : g.Collected c process memory before output stderr later) :
    ∃ waiting waited, g.bench.sandbox.Reaches before.host waiting ∧
      g.bench.sandbox.WaitsFor process waiting waited ∧
      g.bench.sandbox.Reaches waited later.host := by
  cases collected with
  | @inMemory index size first _ _ ended sized taken _ _ waits sizes takes hears =>
    refine ⟨_, ended, .refl _, .wait waits, ?_⟩
    have measured := Sandbox.reaches_of_gives (.memorySize index ended) sizes
    have read := Sandbox.reaches_of_gives (.memoryBytes index _) takes
    have heard := Sandbox.reaches_of_gives (.readStderr process taken) hears
    split at read
    · exact measured.trans ((Sandbox.Moves.markOutput process sized).reaches.trans (read.trans heard))
    · exact measured.trans (read.trans heard)
  | whole captures whole => exact ⟨_, _, .refl _, .communicate captures whole, .refl _⟩
  | cut captures _ waits =>
    have captured := Sandbox.reaches_of_gives (.communicate process _ _ before.host) captures
    refine ⟨_, _, captured.trans ?_, .wait waits, .refl _⟩
    exact (Sandbox.Moves.kill process _).reaches.trans (Sandbox.Moves.markOutput process _).reaches

theorem Collected.reported {process : Handle} {memory : Option Nat} {before later : Desk σ}
    {output stderr : Bytes} (collected : g.Collected c process memory before output stderr later)
    (handed : g.bench.sandbox.Handed process before.host) (keeps : g.bench.sandbox.KeepsReports) :
    g.bench.sandbox.report? later.host process ≠ none := by
  obtain ⟨waiting, waited, came, waits, goes⟩ := collected.waitsFor
  exact Option.isSome_iff_ne_none.mp (keeps (handed.of_reaches came) waits goes)

section Yields

variable (excuses : g.bench.sandbox.Excuses blamed)
include excuses

theorem yields_launchOn (input : CaseInput) (desk : Desk σ) :
    (g.launchOn c input).Yields desk (g.Started desk) blamed := by
  refine ((g.isQuiet_submissionSpec c).yields excuses desk).bind fun spec limited same => ?_
  refine ((input.isQuiet_openToRead).yields excuses limited).bind fun opened ready same' => ?_
  obtain ⟨host, dealings⟩ := Desk.eq_of_outside (same'.trans same)
  dsimp only
  split
  · rename_i mode
    have opens : (Judge.onHost g.bench.sandbox.openMemory).Yields ready _ blamed :=
      yields_onHost fun _ _ stops => excuses.own (.openMemory stops)
    refine opens.bind fun memory provided ⟨opens, kept⟩ => ?_
    refine (Sandbox.yields_start excuses _ _ provided).bind fun process later ⟨launches, dealt⟩ => ?_
    rw [host] at opens
    rw [kept, dealings] at dealt
    exact Work.yields_of_gives rfl (.inMemory mode opens launches rfl dealt)
  · rename_i mode
    refine (Sandbox.yields_start excuses _ _ ready).bind fun process later ⟨launches, dealt⟩ => ?_
    rw [host] at launches
    rw [dealings] at dealt
    exact Work.yields_of_gives rfl (.piped (Bool.eq_false_iff.mpr mode) launches rfl dealt)

theorem yields_launch (desk : Desk σ) :
    (g.launch c).Yields desk (g.Started desk) blamed := by
  refine ((TestCase.isQuiet_inputFile c).yields excuses desk).bind fun input supplied same => ?_
  obtain ⟨host, dealings⟩ := Desk.eq_of_outside same
  refine (yields_launchOn excuses input supplied).unlessDone.mono fun run later started => ?_
  cases started with
  | inMemory mode opens launches captured dealt =>
    rw [host] at opens
    rw [dealings] at dealt
    exact .inMemory mode opens launches captured dealt
  | piped mode launches captured dealt =>
    rw [host] at launches
    rw [dealings] at dealt
    exact .piped mode launches captured dealt

variable {process : Handle} {desk : Desk σ} (handed : g.bench.sandbox.Handed process desk.host)
include handed

theorem yields_collectMemory (memory : Nat) :
    (g.collectMemory c process memory).Yields desk
      (fun kept later => g.Collected c process (some memory) desk kept.1 kept.2 later) blamed := by
  refine (Sandbox.yields_awaitEnd excuses handed).bind fun first ended ⟨waits, waited⟩ => ?_
  have measures : (Judge.onHost (g.bench.sandbox.memorySize memory)).Yields ended _ blamed :=
    yields_onHost fun _ _ stops => excuses.own (.memorySize stops)
  refine measures.bind fun size sized ⟨sizes, kept⟩ => ?_
  have sizing : g.bench.sandbox.Reaches desk.host sized.host :=
    (Sandbox.reaches_of_gives (.wait process desk.host) waits).trans
      (Sandbox.reaches_of_gives (.memorySize memory ended.host) sizes)
  -- What is left is the same whether or not the mark was made.
  have read (marked : Desk σ) (host : marked.host = if size > c.config.outputLimit then
        g.bench.sandbox.markOutput process sized.host else sized.host)
      (reaches : g.bench.sandbox.Reaches sized.host marked.host)
      (dealt : marked.dealings = desk.dealings ++ (.waited process :: marks c process size)) :
      (do
        let output ← Judge.onHost (g.bench.sandbox.memoryBytes memory)
        let stderr ← g.bench.sandbox.stderrOf process
        return (output, stderr) : Judge σ (Bytes × Bytes)).Yields marked
        (fun kept later => g.Collected c process (some memory) desk kept.1 kept.2 later) blamed := by
    have takes : (Judge.onHost (g.bench.sandbox.memoryBytes memory)).Yields marked _ blamed :=
      yields_onHost fun _ _ stops => excuses.own (.memoryBytes stops)
    refine takes.bind fun output taken ⟨takes, kept'⟩ => ?_
    have handed' : g.bench.sandbox.Handed process taken.host :=
      handed.of_reaches ((sizing.trans reaches).trans
        (Sandbox.reaches_of_gives (.memoryBytes memory marked.host) takes))
    refine (Sandbox.yields_stderrOf excuses handed').bind fun stderr later ⟨hears, heard⟩ => ?_
    rw [host] at takes
    rw [kept', dealt, List.append_assoc] at heard
    exact Work.yields_of_gives rfl (.inMemory waits sizes takes hears heard)
  have dealt : sized.dealings = desk.dealings ++ [.waited process] := kept.trans waited
  by_cases excess : size > c.config.outputLimit
  · have marks : (g.bench.sandbox.markExcess process).Gives sized ()
        ((sized.note (.outputMarked process)).withHost
          (g.bench.sandbox.markOutput process sized.host)) := rfl
    rw [if_pos excess]
    refine Work.yields_bind_of_gives marks (read _ ?_ ?_ ?_)
    · rw [if_pos excess]
      rfl
    · exact (Sandbox.Moves.markOutput process sized.host).reaches
    · change (sized.note (.outputMarked process)).dealings = _
      rw [Desk.dealings_note rfl, dealt, StandardGrader.marks, if_pos excess, List.append_assoc]
      rfl
  · rw [if_neg excess]
    refine read sized ?_ (.refl _) ?_
    · rw [if_neg excess]
    · rw [dealt, StandardGrader.marks, if_neg excess]

theorem yields_collectPiped :
    (g.collectPiped c process).Yields desk
      (fun kept later => g.Collected c process none desk kept.1 kept.2 later) blamed := by
  refine (Sandbox.yields_capture excuses handed _ _).bind fun output captured ⟨captures, dealt⟩ => ?_
  have reaches : g.bench.sandbox.Reaches desk.host captured.host :=
    Sandbox.reaches_of_gives (.communicate process _ _ desk.host) captures
  by_cases cut : output.isTruncated = true
  · rw [if_pos cut]
    have stops : (g.bench.sandbox.stop process).Gives captured ()
        ((captured.note (.killed process)).withHost
          (g.bench.sandbox.kill process captured.host)) := rfl
    have marks : (g.bench.sandbox.markExcess process).Gives
        ((captured.note (.killed process)).withHost (g.bench.sandbox.kill process captured.host)) ()
        ((((captured.note (.killed process)).withHost
            (g.bench.sandbox.kill process captured.host)).note (.outputMarked process)).withHost
          (g.bench.sandbox.markOutput process (g.bench.sandbox.kill process captured.host))) := rfl
    refine Work.yields_bind_of_gives stops (Work.yields_bind_of_gives marks ?_)
    have handed' : g.bench.sandbox.Handed process
        (g.bench.sandbox.markOutput process (g.bench.sandbox.kill process captured.host)) :=
      handed.of_reaches ((reaches.trans (Sandbox.Moves.kill process _).reaches).trans
        (Sandbox.Moves.markOutput process _).reaches)
    refine (Sandbox.yields_awaitEnd excuses handed').bind fun last later ⟨waits, waited⟩ => ?_
    refine Work.yields_of_gives rfl (.cut captures cut waits ?_)
    rw [waited]
    change ((captured.note (.killed process)).note (.outputMarked process)).dealings ++ _ = _
    rw [Desk.dealings_note rfl, Desk.dealings_note rfl, dealt]
    simp only [List.append_assoc, List.cons_append, List.nil_append]
  · rw [if_neg cut]
    exact Work.yields_of_gives rfl (.whole captures (Bool.not_eq_true _ ▸ cut) dealt)

omit handed in
theorem yields_interact {run : StandardRun}
    (handed : g.bench.sandbox.Handed run.process desk.host) (result : CaseResult) :
    (g.interact c result).Yields ⟨desk, run⟩
      (fun captured later => later.run = run ∧ ∃ output,
        captured.1 = { result with output := output } ∧
        g.Collected c run.process run.memory desk output captured.2 later.desk) blamed := by
  have collects : (g.collect c run).Yields desk
      (fun kept later => g.Collected c run.process run.memory desk kept.1 kept.2 later) blamed := by
    unfold collect
    split
    · rename_i memory captured
      rw [captured]
      exact yields_collectMemory excuses handed memory
    · rename_i captured
      rw [captured]
      exact yields_collectPiped excuses handed
  refine Work.yields_get_bind ((Session.yields_atDesk collects).bind ?_)
  rintro ⟨output, stderr⟩ later ⟨collected, kept⟩
  exact Work.yields_of_gives rfl ⟨kept, output, rfl, collected⟩

omit handed in
theorem yields_gradeCase (desk : Desk σ)
    (lost : ¬ g.bench.sandbox.KeepsReports → ∀ pid, blamed (.internal (.unreported pid))) :
    (g.steps.gradeCase c).Yields desk
      (fun result later => ∃ report, g.Attended c desk report result later) blamed := by
  refine GradingSteps.yields_gradeCase (yields_launch excuses desk) fun run launched started => ?_
  refine (yields_interact excuses started.handed _).bind ?_
  rintro ⟨captured, stderr⟩ ⟨ended, held⟩ ⟨kept, output, same, collected⟩
  obtain rfl : held = run := kept
  obtain rfl : captured = { c.freshResult with output := output } := same
  have unreported (missing : g.bench.sandbox.report? ended.host held.process = none) :
      ∀ pid, blamed (.internal (.unreported pid)) :=
    lost fun keeps => collected.reported started.handed keeps missing
  refine (Session.yields_populate StandardRun.process stderr _ unreported).bind ?_
  rintro observed _ ⟨rfl, report, reported, rfl⟩
  have judges := (g.isQuiet_runChecker c
    ({ c.freshResult with output := output }.populate stderr report)).yields excuses ended
  refine (Session.yields_atDesk judges).bind ?_
  rintro judgement ⟨judged, kept⟩ ⟨quiet, same⟩
  obtain rfl : kept = held := same
  obtain ⟨host, dealings⟩ := Desk.eq_of_outside quiet
  have left : (g.finish kept judged).freeData.outside =
      (g.bench.sandbox.release kept.process judged.host,
        judged.dealings ++ [.released kept.process]) :=
    (Desk.view_freeData Desk.outside_ignores_material _).trans
      ((CaseInput.view_letGo Desk.outside_ignores_material _ _).trans (Sandbox.outside_letGo ..))
  rw [host, dealings] at left
  obtain ⟨host, dealt⟩ := Prod.mk.inj left
  exact Work.yields_of_gives rfl
    ⟨report, .intro started collected reported rfl host dealt⟩

end Yields
end StandardGrader
end ContestJudge
