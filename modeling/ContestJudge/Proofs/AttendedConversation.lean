import ContestJudge.Proofs.AttendedSubmission

namespace ContestJudge.InteractiveGrader

variable {σ : Type}

section Courses

variable (g : InteractiveGrader σ) (c : TestCase)

inductive Started (before : Desk σ) (run : InteractiveRun) (later : Desk σ) : Prop where
  | intro {toSubmission toInteractor : Nat} {submission : Handle} {wall : Duration}
      {order : LaunchOrder} {opened crossed : σ}
      (opens : g.base.bench.sandbox.openPipe.Gives before.host toSubmission opened)
      (crosses : g.base.bench.sandbox.openPipe.Gives opened toInteractor crossed)
      (launches : g.base.bench.sandbox.Launches order crossed submission later.host)
      (held : run = ⟨submission, .forInteractor toSubmission toInteractor, none, wall⟩)
      (dealt : later.dealings = before.dealings ++ [.pipeOpened toSubmission,
        .pipeOpened toInteractor, .launched submission order])

inductive Collected (submission interactor : Handle) (before : Desk σ) (stderr : Bytes)
    (later : Desk σ) : Prop where
  | intro {order : LaunchOrder} {first second : ProcessReport} {joined left ended : σ}
      (joins : g.base.bench.sandbox.Launches order before.host interactor joined)
      (waits : (g.base.bench.sandbox.wait submission).Gives joined first left)
      (follows : (g.base.bench.sandbox.wait interactor).Gives left second ended)
      (hears : (g.base.bench.sandbox.readStderr submission).Gives ended stderr later.host)
      (dealt : later.dealings = before.dealings ++ [.launched interactor order,
        .waited submission, .waited interactor, .stderrRead submission])

inductive Consulted (interactor : Handle) (before : Desk σ) (award : Award) (later : Desk σ) :
    Prop where
  | intro {report : ProcessReport} {stderr : Bytes} {asked : σ}
      (asks : (g.base.bench.sandbox.readStderr interactor).Gives before.host stderr asked)
      (tells : (g.base.bench.sandbox.wait interactor).Gives asked report later.host)
      (judges : g.adapter.judge (g.outcome c report stderr) = .ok award)
      (dealt : later.dealings = before.dealings ++ [.stderrRead interactor, .waited interactor])

/-- How a graded case came about: submission and interactor were started and seen to their ends, the
report of the submission was taken, the adapter was asked, and then both were let go of. -/
inductive Attended (before : Desk σ) (report : ProcessReport) (result : CaseResult)
    (later : Desk σ) : Prop where
  | intro {run : InteractiveRun} {interactor : Handle} {stderr : Bytes} {award : Award}
      {launched ended judged : Desk σ}
      (started : g.Started before run launched)
      (collected : g.Collected run.submission interactor launched stderr ended)
      (reported : g.base.bench.sandbox.report? ended.host run.submission = some report)
      (consulted : g.Consulted c interactor ended award judged)
      (settled : result = c.settled [] stderr report
        (if (c.freshResult.populate stderr report).failed then .fail else .graded award))
      (host : later.host = g.base.bench.sandbox.release interactor
        (g.base.bench.sandbox.release run.submission judged.host))
      (dealt : later.dealings = judged.dealings ++ [.released run.submission, .released interactor])

def Ended (submission : Handle) (wall : Duration) (before : Desk σ) (stderr : Bytes)
    (later : Session σ InteractiveRun) : Prop :=
  ∃ interactor, g.Collected submission interactor before stderr later.desk ∧
    later.run = ⟨submission, .closed, some interactor, wall⟩

end Courses

variable {g : InteractiveGrader σ} {c : TestCase} {blamed : Fault → Prop}

theorem Started.handed {before later : Desk σ} {run : InteractiveRun}
    (started : g.Started before run later) :
    g.base.bench.sandbox.Handed run.submission later.host := by
  cases started with
  | intro _ _ launches held =>
    subst held
    exact Sandbox.handed_of_launch launches

theorem Started.run_eq {before later : Desk σ} {run : InteractiveRun}
    (started : g.Started before run later) : ∃ toSubmission toInteractor submission wall,
      run = ⟨submission, .forInteractor toSubmission toInteractor, none, wall⟩ := by
  obtain ⟨-, -, -, held, -⟩ := started
  exact ⟨_, _, _, _, held⟩

section Collecting

variable {submission interactor : Handle} {before later : Desk σ} {stderr : Bytes}
  (collected : g.Collected submission interactor before stderr later)
include collected

/-- The submission has been waited for, and nobody let go of it since. -/
theorem Collected.waitsFor :
    ∃ waiting waited, g.base.bench.sandbox.Reaches before.host waiting ∧
      g.base.bench.sandbox.WaitsFor submission waiting waited ∧
      g.base.bench.sandbox.Reaches waited later.host := by
  obtain @⟨order, first, second, joined, left, ended, joins, waits, follows, hears, -⟩ := collected
  have reaches := Sandbox.reaches_of_gives (.launch _ _ _ before.host) joins
  refine ⟨joined, left, reaches, .wait waits, ?_⟩
  exact (Sandbox.reaches_of_gives (.wait interactor left) follows).trans
    (Sandbox.reaches_of_gives (.readStderr submission ended) hears)

theorem Collected.reported (handed : g.base.bench.sandbox.Handed submission before.host)
    (keeps : g.base.bench.sandbox.KeepsReports) :
    g.base.bench.sandbox.report? later.host submission ≠ none := by
  obtain ⟨waiting, waited, came, waits, goes⟩ := collected.waitsFor
  exact Option.isSome_iff_ne_none.mp (keeps (handed.of_reaches came) waits goes)

theorem Collected.handed : g.base.bench.sandbox.Handed interactor later.host := by
  obtain @⟨order, first, second, joined, left, ended, joins, waits, follows, hears, -⟩ := collected
  refine (Sandbox.handed_of_launch joins).of_reaches ?_
  exact (Sandbox.reaches_of_gives (.wait submission joined) waits).trans
    ((Sandbox.reaches_of_gives (.wait interactor left) follows).trans
      (Sandbox.reaches_of_gives (.readStderr submission ended) hears))

/-- What is done with the files meanwhile does not count. -/
theorem Collected.of_outside {before' later' : Desk σ} (first : before'.outside = before.outside)
    (last : later'.outside = later.outside) :
    g.Collected submission interactor before' stderr later' := by
  obtain ⟨joins, waits, follows, hears, dealt⟩ := collected
  obtain ⟨host, dealings⟩ := Desk.eq_of_outside first
  obtain ⟨host', dealings'⟩ := Desk.eq_of_outside last
  rw [← host] at joins
  rw [← host'] at hears
  rw [← dealings, ← dealings'] at dealt
  exact ⟨joins, waits, follows, hears, dealt⟩

end Collecting

section Yields

variable (excuses : g.base.bench.sandbox.Excuses blamed)
include excuses

theorem yields_openAt (desk : Desk σ) :
    (CrossPipes.openAt g.base.bench.sandbox).Yields desk
      (fun pipes later => ∃ toSubmission toInteractor opened,
        g.base.bench.sandbox.openPipe.Gives desk.host toSubmission opened ∧
        g.base.bench.sandbox.openPipe.Gives opened toInteractor later.host ∧
        pipes = .cross toSubmission toInteractor ∧
        later.dealings = desk.dealings ++ [.pipeOpened toSubmission, .pipeOpened toInteractor])
      blamed := by
  refine (Sandbox.yields_openPipeAtDesk excuses desk).bind ?_
  rintro toSubmission opened ⟨opens, first⟩
  refine (Sandbox.yields_openPipeAtDesk excuses opened).unlessDone.bind ?_
  rintro toInteractor crossed ⟨crosses, second⟩
  rw [first, List.append_assoc] at second
  exact Work.yields_of_gives rfl ⟨_, _, _, opens, crosses, rfl, second⟩

theorem yields_launch (desk : Desk σ) : (g.launch c).Yields desk (g.Started desk) blamed := by
  have timed : Judge.IsQuiet (Work.ofExcept (scaledWallTime g.limits.time c.config.wallTimeFactor) :
      Judge σ Duration) := by
    refine isQuiet_ofExcept fun fault fails => ?_
    obtain ⟨cause, rfl⟩ := scaledWallTime_error fails
    rfl
  refine (timed.yields excuses desk).bind fun wall later same => ?_
  refine ((g.base.isQuiet_submissionSpec c).yields excuses later).bind fun spec limited same' => ?_
  obtain ⟨host, dealings⟩ := Desk.eq_of_outside (same'.trans same)
  refine (yields_openAt excuses limited).bind ?_
  rintro _ crossed ⟨toSubmission, toInteractor, opened, opens, crosses, rfl, dealt⟩
  have taken : ((Work.ofExcept ((CrossPipes.cross toSubmission toInteractor).takeBoth
      .submissionStdin .submissionStdout)).unlessDone
      ((CrossPipes.cross toSubmission toInteractor).close g.base.bench.sandbox)).Gives crossed
      (⟨toSubmission, .read⟩, ⟨toInteractor, .write⟩, .forInteractor toSubmission toInteractor)
      crossed := rfl
  refine Work.yields_bind_of_gives taken ?_
  refine (Sandbox.yields_start excuses _ _ crossed).unlessDone.bind ?_
  rintro submission launched ⟨launches, started⟩
  rw [host] at opens
  rw [dealt, dealings, List.append_assoc] at started
  exact Work.yields_of_gives rfl (.intro opens crosses launches rfl started)

theorem yields_launchInteractor {toSubmission toInteractor : Nat} {submission : Handle}
    {wall : Duration} (input answer : String) (desk : Desk σ) :
    (g.launchInteractor input answer).Yields
      ⟨desk, ⟨submission, .forInteractor toSubmission toInteractor, none, wall⟩⟩
      (fun interactor later => ∃ order,
        g.base.bench.sandbox.Launches order desk.host interactor later.desk.host ∧
        later.desk.dealings = desk.dealings ++ [.launched interactor order] ∧
        later.run = ⟨submission, .closed, some interactor, wall⟩) blamed := by
  let spec := g.interactorSpec wall input answer ⟨toInteractor, .read⟩ ⟨toSubmission, .write⟩
  rcases Sandbox.yields_start excuses g.interactor spec desk with
    ⟨interactor, joined, gives, launches, dealt⟩ | ⟨fault, left, stops, held⟩
  · exact Work.yields_of_gives (launchInteractor_gives gives) ⟨_, launches, dealt, rfl⟩
  · refine .inr ⟨fault, ⟨left, ⟨submission, .closed, none, wall⟩⟩, ?_, held⟩
    rw [Work.Stops, launchInteractor]
    simp only [Work.runOn_bind, Work.runOn_get, CrossPipes.takeBoth_forInteractor,
      Work.runOn_ofExcept, Work.runOn_attempt, Session.runOn_atDesk, Work.runOn_modify,
      CrossPipes.close_closed]
    rw [stops]

theorem yields_ends {submission interactor : Handle} {desk : Desk σ}
    (handed : g.base.bench.sandbox.Handed submission desk.host)
    (handed' : g.base.bench.sandbox.Handed interactor desk.host) :
    (do
      let _ ← g.base.bench.sandbox.awaitEnd submission
      let _ ← g.base.bench.sandbox.awaitEnd interactor
      g.base.bench.sandbox.stderrOf submission : Judge σ Bytes).Yields desk
      (fun stderr later => ∃ first second left ended,
        (g.base.bench.sandbox.wait submission).Gives desk.host first left ∧
        (g.base.bench.sandbox.wait interactor).Gives left second ended ∧
        (g.base.bench.sandbox.readStderr submission).Gives ended stderr later.host ∧
        later.dealings = desk.dealings ++
          [.waited submission, .waited interactor, .stderrRead submission]) blamed := by
  refine (Sandbox.yields_awaitEnd excuses handed).bind fun first left ⟨waits, dealt⟩ => ?_
  have parted := Sandbox.reaches_of_gives (.wait submission desk.host) waits
  refine (Sandbox.yields_awaitEnd excuses (handed'.of_reaches parted)).bind
    fun second ended ⟨follows, dealt'⟩ => ?_
  have finished := Sandbox.reaches_of_gives (.wait interactor left.host) follows
  refine (Sandbox.yields_stderrOf excuses (handed.of_reaches (parted.trans finished))).mono
    fun stderr later ⟨hears, heard⟩ => ⟨first, second, _, _, waits, follows, hears, ?_⟩
  rw [heard, dealt', dealt, List.append_assoc, List.append_assoc]
  rfl

theorem yields_converse {toSubmission toInteractor : Nat} {submission : Handle}
    {wall : Duration} (input answer : String) {desk : Desk σ}
    (handed : g.base.bench.sandbox.Handed submission desk.host) :
    (g.converse c input answer).Yields
      ⟨desk, ⟨submission, .forInteractor toSubmission toInteractor, none, wall⟩⟩
      (g.Ended submission wall desk) blamed := by
  have fills : Judge.IsQuiet (do TestCase.fillTemporary answer (← c.outputData) : Judge σ Unit) :=
    (TestCase.isQuiet_outputData c).bind fun data => TestCase.isQuiet_fillTemporary answer data
  refine (Session.yields_atDesk (fills.yields excuses desk)).bind ?_
  rintro _ ⟨filled, held⟩ ⟨quiet, same⟩
  obtain rfl : held = ⟨submission, .forInteractor toSubmission toInteractor, none, wall⟩ := same
  obtain ⟨host, dealings⟩ := Desk.eq_of_outside quiet
  refine (yields_launchInteractor excuses input answer filled).bind ?_
  rintro interactor ⟨joined, held⟩ ⟨order, launches, dealt, same⟩
  obtain rfl : held = ⟨submission, .closed, some interactor, wall⟩ := same
  rw [host] at launches
  have reaches := Sandbox.reaches_of_gives (.launch _ _ _ desk.host) launches
  refine Work.yields_get_bind ?_
  refine (Session.yields_atDesk (yields_ends excuses (handed.of_reaches reaches)
    (Sandbox.handed_of_launch launches))).mono ?_
  rintro stderr later ⟨⟨first, second, left, ended, waits, follows, hears, watched⟩, same⟩
  refine ⟨interactor, .intro launches waits follows hears ?_, same⟩
  rw [watched, dealt, dealings, List.append_assoc]
  rfl

omit excuses in
theorem yields_tidied {work : Work (Session σ InteractiveRun) Bytes} {submission : Handle}
    {wall : Duration} {before : Desk σ} {session : Session σ InteractiveRun}
    {tidy : Desk σ → Desk σ} (unseen : ∀ desk, (tidy desk).outside = desk.outside)
    (quiet : session.desk.outside = before.outside)
    (yields : work.Yields session (g.Ended submission wall session.desk) blamed) :
    (work.always (tidying tidy)).Yields session (g.Ended submission wall before) blamed := by
  refine yields.always ?_
  rintro stderr later ⟨interactor, collected, same⟩
  exact ⟨interactor, collected.of_outside quiet.symm (unseen later.desk), same⟩

theorem yields_conversation {toSubmission toInteractor : Nat} {submission : Handle}
    {wall : Duration} (input : String) {desk : Desk σ}
    (handed : g.base.bench.sandbox.Handed submission desk.host) :
    (do
      let answer ← Session.atDesk TestCase.newTemporary
      (g.converse c input answer).always (tidying (Desk.discard answer)) :
        Work (Session σ InteractiveRun) Bytes).Yields
      ⟨desk, ⟨submission, .forInteractor toSubmission toInteractor, none, wall⟩⟩
      (g.Ended submission wall desk) blamed := by
  refine (Session.yields_atDesk (TestCase.isQuiet_newTemporary.yields excuses desk)).bind ?_
  rintro answer ⟨provided, held⟩ ⟨quiet, same⟩
  obtain rfl : held = ⟨submission, .forInteractor toSubmission toInteractor, none, wall⟩ := same
  have handed' : g.base.bench.sandbox.Handed submission provided.host :=
    (Desk.eq_of_outside quiet).1.symm ▸ handed
  exact yields_tidied (fun _ => rfl) quiet (yields_converse excuses input answer handed')

theorem yields_interact {toSubmission toInteractor : Nat} {submission : Handle}
    {wall : Duration} {desk : Desk σ} (handed : g.base.bench.sandbox.Handed submission desk.host)
    (result : CaseResult) :
    (g.interact c result).Yields
      ⟨desk, ⟨submission, .forInteractor toSubmission toInteractor, none, wall⟩⟩
      (fun captured later => captured.1 = result ∧ g.Ended submission wall desk captured.2 later)
      blamed := by
  refine (Session.yields_atDesk ((TestCase.isQuiet_inputFile c).yields excuses desk)).bind ?_
  rintro input ⟨supplied, held⟩ ⟨quiet, same⟩
  obtain rfl : held = ⟨submission, .forInteractor toSubmission toInteractor, none, wall⟩ := same
  have handed' : g.base.bench.sandbox.Handed submission supplied.host :=
    (Desk.eq_of_outside quiet).1.symm ▸ handed
  have unseen := CaseInput.view_letGo (Desk.outside_ignores_material (σ := σ)) input
  refine (yields_tidied unseen quiet
    (yields_conversation excuses input.path handed')).bind fun stderr later ended => ?_
  exact Work.yields_of_gives rfl ⟨rfl, ended⟩

theorem yields_check {desk : Desk σ} {run : InteractiveRun} {interactor : Handle}
    (joined : run.interactor = some interactor)
    (handed : g.base.bench.sandbox.Handed interactor desk.host)
    (adapter : ∀ {outcome fault}, g.adapter.judge outcome = .error fault → blamed fault)
    (result : CaseResult) :
    (g.check c result).Yields ⟨desk, run⟩
      (fun judgement later => later.run = run ∧ ∃ award,
        g.Consulted c interactor desk award later.desk ∧
        judgement = if result.failed then .fail else .graded award) blamed := by
  have asks : (do
      let stderr ← g.base.bench.sandbox.stderrOf interactor
      let report ← g.base.bench.sandbox.awaitEnd interactor
      Work.ofExcept (g.adapter.judge (g.outcome c report stderr)) : Judge σ Award).Yields desk
      (fun award later => g.Consulted c interactor desk award later) blamed := by
    refine (Sandbox.yields_stderrOf excuses handed).bind fun stderr asked ⟨asks, dealt⟩ => ?_
    have heard := Sandbox.reaches_of_gives (.readStderr interactor desk.host) asks
    refine (Sandbox.yields_awaitEnd excuses (handed.of_reaches heard)).bind
      fun report told ⟨tells, dealt'⟩ => ?_
    rw [dealt, List.append_assoc] at dealt'
    cases judges : g.adapter.judge (g.outcome c report stderr) with
    | ok award => exact Work.yields_of_gives rfl ⟨asks, tells, judges, dealt'⟩
    | error fault => exact .inr ⟨fault, told, rfl, adapter judges⟩
  refine Work.yields_get_bind ?_
  simp only [joined]
  refine (Session.yields_atDesk asks).bind ?_
  rintro award later ⟨consulted, same⟩
  exact Work.yields_of_gives rfl ⟨same, award, consulted, rfl⟩

omit excuses in
theorem outside_finish {submission interactor : Handle} {wall : Duration} (desk : Desk σ) :
    (g.finish ⟨submission, .closed, some interactor, wall⟩ desk).outside =
      (g.base.bench.sandbox.release interactor (g.base.bench.sandbox.release submission desk.host),
        desk.dealings ++ [.released submission, .released interactor]) := by
  change (g.base.bench.sandbox.letGo interactor
    (g.base.bench.sandbox.letGo submission desk)).outside = _
  obtain ⟨host, dealings⟩ := Prod.mk.inj (Sandbox.outside_letGo g.base.bench.sandbox submission desk)
  rw [Sandbox.outside_letGo, host, dealings, List.append_assoc]
  rfl

/-- A graded case was attended, and a fault is excused unless the sandbox keeps no reports. -/
theorem yields_gradeCase (desk : Desk σ)
    (adapter : ∀ {outcome fault}, g.adapter.judge outcome = .error fault → blamed fault)
    (lost : ¬ g.base.bench.sandbox.KeepsReports → ∀ pid, blamed (.internal (.unreported pid))) :
    (g.steps.gradeCase c).Yields desk
      (fun result later => ∃ report, g.Attended c desk report result later) blamed := by
  refine GradingSteps.yields_gradeCase (yields_launch excuses desk) fun run launched started => ?_
  have handed := started.handed
  obtain ⟨toSubmission, toInteractor, submission, wall, rfl⟩ := started.run_eq
  refine (yields_interact excuses handed _).bind ?_
  rintro ⟨captured, stderr⟩ ⟨ended, held⟩ ⟨rfl, interactor, collected, same⟩
  obtain rfl : held = ⟨submission, .closed, some interactor, wall⟩ := same
  have unreported (missing : g.base.bench.sandbox.report? ended.host submission = none) :
      ∀ pid, blamed (.internal (.unreported pid)) :=
    lost fun keeps => collected.reported handed keeps missing
  refine (Session.yields_populate InteractiveRun.submission stderr _ unreported).bind ?_
  rintro observed _ ⟨rfl, report, reported, rfl⟩
  refine (yields_check excuses rfl collected.handed adapter _).bind ?_
  rintro judgement ⟨judged, kept⟩ ⟨same, award, consulted, rfl⟩
  obtain rfl : kept = ⟨submission, .closed, some interactor, wall⟩ := same
  have left : (g.finish ⟨submission, .closed, some interactor, wall⟩ judged).freeData.outside = _ :=
    (Desk.view_freeData Desk.outside_ignores_material _).trans (outside_finish judged)
  obtain ⟨host, dealt⟩ := Prod.mk.inj left
  exact Work.yields_of_gives rfl
    ⟨report, .intro started collected reported consulted rfl host dealt⟩

end Yields
end ContestJudge.InteractiveGrader
