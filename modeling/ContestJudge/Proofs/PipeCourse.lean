import ContestJudge.Proofs.Conversation
/-!
What a judge does with pipes and processes in an interactive case, on every way that the case can
go. The courses differ in how far the case gets; each of them ends with the judge letting go of what
it then holds.
-/

namespace ContestJudge

structure LaunchOrder.Wired (order : LaunchOrder) (stdin stdout : PipeEnd) : Prop where
  stdin : order.spec.stdin = .given (.pipe stdin)
  stdout : order.spec.stdout = .given (.pipe stdout)
  stderr : order.spec.stderr = .piped

theorem LaunchOrder.Wired.ends {order : LaunchOrder} {stdin stdout : PipeEnd}
    (wired : order.Wired stdin stdout) : order.ends = [stdin, stdout] := by
  simp [LaunchOrder.ends, LaunchSpec.pipeEnds, wired.stdin, wired.stdout, wired.stderr,
    Stdio.pipeEnd?]

def Act.IsWatch : Act → Prop
  | .waited _ => True
  | .stderrRead _ => True
  | _ => False

/-- A sandbox that opens a new pipe while a pipe that it has just opened is still held. -/
def Sandbox.OpensNewPipes {σ : Type} (sandbox : Sandbox σ) : Prop :=
  ∀ state first opened second crossed, sandbox.openPipe.Gives state first opened →
    sandbox.openPipe.Gives opened second crossed → second ≠ first

section Noting

variable {σ : Type} (sandbox : Sandbox σ) (desk : Desk σ)

theorem Desk.journal_ignores_material : Desk.IgnoresMaterial (Desk.journal : Desk σ → List Act) where
  files _ _ := rfl
  data _ _ := rfl

theorem leads_onHost {α : Type} (work : Work σ α) :
    (Judge.onHost work).Leads desk
      (fun a later => work.Gives desk.host a later.host ∧ later.journal = desk.journal)
      (fun later => later.journal = desk.journal) := by
  rcases Work.gives_or_stops work desk.host with ⟨a, host, gives⟩ | ⟨fault, host, stops⟩
  · refine .inl ⟨a, desk.withHost host, ?_, gives, rfl⟩
    rw [Work.Gives, Judge.onHost, Work.runOn_within, gives]
  · refine .inr ⟨fault, desk.withHost host, ?_, rfl⟩
    rw [Work.Stops, Judge.onHost, Work.runOn_within, stops]

namespace Sandbox

theorem leads_start (binary : Binary) (spec : LaunchSpec) :
    (sandbox.start binary spec).Leads desk
      (fun process later =>
        later.journal = desk.journal ++ [.launched process ⟨binary, spec, desk.files⟩])
      (fun later => later.journal = desk.journal ++ [.notLaunched ⟨binary, spec, desk.files⟩]) := by
  rcases Work.gives_or_stops (sandbox.launch desk.files binary spec) desk.host with
    ⟨process, later, launches⟩ | ⟨fault, later, refused⟩
  · exact .inl ⟨process, _, start_gives launches, rfl⟩
  · exact .inr ⟨fault, _, start_stops refused, rfl⟩

theorem leads_openPipeAtDesk :
    sandbox.openPipeAtDesk.Leads desk
      (fun pipe later => sandbox.openPipe.Gives desk.host pipe later.host ∧
        later.journal = desk.journal ++ [.pipeOpened pipe])
      (fun later => later.journal = desk.journal) := by
  refine (leads_onHost desk sandbox.openPipe).bind fun pipe opened _ ⟨gives, kept⟩ => ?_
  exact .inl ⟨pipe, opened.note (.pipeOpened pipe), rfl, gives, congrArg (· ++ _) kept⟩

end Sandbox

def Desk.WatchedSince (start : List Act) (desk : Desk σ) : Prop :=
  ∃ watch, desk.journal = start ++ watch ∧ ∀ act ∈ watch, act.IsWatch

theorem Desk.WatchedSince.note {start : List Act} {desk : Desk σ}
    (watched : desk.WatchedSince start) {act : Act} (looks : act.IsWatch) :
    (desk.note act).WatchedSince start := by
  obtain ⟨watch, same, looked⟩ := watched
  refine ⟨watch ++ [act], ?_, ?_⟩
  · rw [Desk.note, same, List.append_assoc]
  · intro other listed
    rcases List.mem_append.mp listed with earlier | last
    · exact looked other earlier
    · obtain rfl := List.mem_singleton.mp last
      exact looks

theorem Desk.WatchedSince.of_journal {start : List Act} {desk later : Desk σ}
    (watched : desk.WatchedSince start) (same : later.journal = desk.journal) :
    later.WatchedSince start := by
  obtain ⟨watch, grown, looked⟩ := watched
  exact ⟨watch, same.trans grown, looked⟩

theorem maintains_note_onHost {α : Type} {start : List Act} {act : Act} (looks : act.IsWatch)
    (work : Work σ α) :
    (do Judge.note act; Judge.onHost work : Judge σ α).Maintains (Desk.WatchedSince start) := by
  have kept : (Judge.onHost work).Keeps Desk.journal := fun _ => rfl
  intro desk watched
  exact (watched.note looks).of_journal (kept (desk.note act))

theorem maintains_awaitEnd (start : List Act) (process : Handle) :
    (sandbox.awaitEnd process).Maintains (Desk.WatchedSince start) :=
  maintains_note_onHost (show Act.IsWatch (.waited process) from trivial) _

theorem maintains_stderrOf (start : List Act) (process : Handle) :
    (sandbox.stderrOf process).Maintains (Desk.WatchedSince start) :=
  maintains_note_onHost (show Act.IsWatch (.stderrRead process) from trivial) _

end Noting

namespace InteractiveGrader

variable {σ : Type}

section Courses

variable (g : InteractiveGrader σ) (c : TestCase) (material : FileStore × CaseData)

inductive Ordered (toSubmission toInteractor : Nat) (order : LaunchOrder) : Prop where
  | intro {wall : Duration} {input : CaseInput} {answer : String} {expected : Bytes}
      {launched supplied provided loaded : Desk σ}
      (same : launched.material = material)
      (supplies : c.inputFile.Gives launched input supplied)
      (provides : TestCase.newTemporary.Gives supplied answer provided)
      (loads : c.outputData.Gives provided expected loaded)
      (fills : loaded.files.fill answer expected = .ok order.files)
      (binary : order.binary = g.interactor)
      (spec : order.spec = g.interactorSpec wall input.path answer ⟨toInteractor, .read⟩
        ⟨toSubmission, .write⟩)

/-- How far the interactor of a case gets once the submission runs, with the acts that it takes. -/
inductive Meets (toSubmission toInteractor : Nat) (submission : Handle) (wall : Duration) :
    InteractiveRun → List Act → Prop where
  | alone : Meets toSubmission toInteractor submission wall
      ⟨submission, .forInteractor toSubmission toInteractor, none, wall⟩ []
  | refused (order : LaunchOrder) (ordered : g.Ordered c material toSubmission toInteractor order) :
      Meets toSubmission toInteractor submission wall
        ⟨submission, .closed, none, wall⟩ [.notLaunched order]
  | joined (interactor : Handle) (order : LaunchOrder) (watch : List Act)
      (ordered : g.Ordered c material toSubmission toInteractor order)
      (watches : ∀ act ∈ watch, act.IsWatch) :
      Meets toSubmission toInteractor submission wall
        ⟨submission, .closed, some interactor, wall⟩ (.launched interactor order :: watch)

/-- What a judge does in a whole interactive case, by how far the case gets. -/
inductive PipeCourse : List Act → Prop where
  | unopened : PipeCourse []
  | uncrossed (pipe : Nat) : PipeCourse
      [.pipeOpened pipe, .endClosed ⟨pipe, .read⟩, .endClosed ⟨pipe, .write⟩]
  | unlaunched (toSubmission toInteractor : Nat) (order : LaunchOrder)
      (distinct : g.base.bench.sandbox.OpensNewPipes → toInteractor ≠ toSubmission)
      (wired : order.Wired ⟨toSubmission, .read⟩ ⟨toInteractor, .write⟩) :
      PipeCourse [.pipeOpened toSubmission, .pipeOpened toInteractor, .notLaunched order,
        .endClosed ⟨toInteractor, .read⟩, .endClosed ⟨toSubmission, .write⟩]
  | alone (toSubmission toInteractor : Nat) (submission : Handle) (order : LaunchOrder)
      (distinct : g.base.bench.sandbox.OpensNewPipes → toInteractor ≠ toSubmission)
      (wired : order.Wired ⟨toSubmission, .read⟩ ⟨toInteractor, .write⟩) :
      PipeCourse [.pipeOpened toSubmission, .pipeOpened toInteractor, .launched submission order,
        .released submission, .endClosed ⟨toInteractor, .read⟩, .endClosed ⟨toSubmission, .write⟩]
  | refused (toSubmission toInteractor : Nat) (submission : Handle) (order other : LaunchOrder)
      (distinct : g.base.bench.sandbox.OpensNewPipes → toInteractor ≠ toSubmission)
      (wired : order.Wired ⟨toSubmission, .read⟩ ⟨toInteractor, .write⟩)
      (ordered : g.Ordered c material toSubmission toInteractor other) :
      PipeCourse [.pipeOpened toSubmission, .pipeOpened toInteractor, .launched submission order,
        .notLaunched other, .released submission]
  | joined (toSubmission toInteractor : Nat) (submission interactor : Handle)
      (order other : LaunchOrder) (watch : List Act)
      (distinct : g.base.bench.sandbox.OpensNewPipes → toInteractor ≠ toSubmission)
      (wired : order.Wired ⟨toSubmission, .read⟩ ⟨toInteractor, .write⟩)
      (ordered : g.Ordered c material toSubmission toInteractor other)
      (watches : ∀ act ∈ watch, act.IsWatch) :
      PipeCourse ([.pipeOpened toSubmission, .pipeOpened toInteractor, .launched submission order,
        .launched interactor other] ++ watch ++ [.released submission, .released interactor])

end Courses

section Conversing

variable {g : InteractiveGrader σ} {c : TestCase} {material : FileStore × CaseData}
  {toSubmission toInteractor : Nat} {submission : Handle} {wall : Duration}

theorem Ordered.wired {order : LaunchOrder}
    (ordered : g.Ordered c material toSubmission toInteractor order) :
    order.Wired ⟨toInteractor, .read⟩ ⟨toSubmission, .write⟩ := by
  cases ordered with
  | intro same supplies provides loads fills binary spec => constructor <;> rw [spec] <;> rfl

def Met (g : InteractiveGrader σ) (c : TestCase) (material : FileStore × CaseData)
    (toSubmission toInteractor : Nat) (submission : Handle) (wall : Duration) (start : List Act)
    (session : Session σ InteractiveRun) : Prop :=
  ∃ acts, session.desk.journal = start ++ acts ∧
    g.Meets c material toSubmission toInteractor submission wall session.run acts

def Joined (g : InteractiveGrader σ) (c : TestCase) (material : FileStore × CaseData)
    (toSubmission toInteractor : Nat) (submission : Handle) (wall : Duration) (start : List Act)
    (session : Session σ InteractiveRun) : Prop :=
  ∃ interactor order, g.Ordered c material toSubmission toInteractor order ∧
    session.run = ⟨submission, .closed, some interactor, wall⟩ ∧
    session.desk.WatchedSince (start ++ [.launched interactor order])

theorem Joined.met {start : List Act} {session : Session σ InteractiveRun}
    (joined : g.Joined c material toSubmission toInteractor submission wall start session) :
    g.Met c material toSubmission toInteractor submission wall start session := by
  obtain ⟨interactor, order, ordered, run, watch, grown, watches⟩ := joined
  refine ⟨.launched interactor order :: watch, ?_, ?_⟩
  · rw [grown, List.append_assoc, List.singleton_append]
  · rw [run]
    exact .joined interactor order watch ordered watches

theorem Joined.atDesk {start : List Act} {α : Type} {work : Judge σ α}
    (watches : ∀ start, work.Maintains (Desk.WatchedSince start)) :
    (Session.atDesk work : Work (Session σ InteractiveRun) α).Maintains
      (g.Joined c material toSubmission toInteractor submission wall start) := by
  rintro session ⟨interactor, order, ordered, run, watched⟩
  exact ⟨interactor, order, ordered, run, watches _ session.desk watched⟩

variable (g) in
theorem leads_launchInteractor {input answer : String} {session : Session σ InteractiveRun}
    (run : session.run = ⟨submission, .forInteractor toSubmission toInteractor, none, wall⟩)
    (ordered : g.Ordered c material toSubmission toInteractor
      ⟨g.interactor, g.interactorSpec wall input answer ⟨toInteractor, .read⟩
        ⟨toSubmission, .write⟩, session.desk.files⟩) :
    (g.launchInteractor input answer).Leads session
      (fun _ => g.Joined c material toSubmission toInteractor submission wall session.desk.journal)
      (g.Met c material toSubmission toInteractor submission wall session.desk.journal) := by
  obtain ⟨desk, held⟩ := session
  obtain rfl : held = ⟨submission, .forInteractor toSubmission toInteractor, none, wall⟩ := run
  let spec := g.interactorSpec wall input answer ⟨toInteractor, .read⟩ ⟨toSubmission, .write⟩
  rcases g.base.bench.sandbox.leads_start desk g.interactor spec with
    ⟨interactor, joined, gives, grown⟩ | ⟨fault, left, stops, grown⟩
  · have joins : (g.launchInteractor input answer).Gives
        ⟨desk, ⟨submission, .forInteractor toSubmission toInteractor, none, wall⟩⟩ interactor
        ⟨joined, ⟨submission, .closed, some interactor, wall⟩⟩ := launchInteractor_gives gives
    have watched : joined.WatchedSince
        (desk.journal ++ [.launched interactor ⟨g.interactor, spec, desk.files⟩]) :=
      ⟨[], grown.trans (List.append_nil _).symm, List.forall_mem_nil _⟩
    exact .inl ⟨interactor, _, joins, interactor, _, ordered, rfl, watched⟩
  · have refuses : (g.launchInteractor input answer).Stops
        ⟨desk, ⟨submission, .forInteractor toSubmission toInteractor, none, wall⟩⟩ fault
        ⟨left, ⟨submission, .closed, none, wall⟩⟩ := by
      rw [Work.Stops, launchInteractor]
      simp only [Work.runOn_bind, Work.runOn_get, CrossPipes.takeBoth_forInteractor,
        Work.runOn_ofExcept, Work.runOn_attempt, Session.runOn_atDesk, Work.runOn_modify,
        CrossPipes.close_closed]
      rw [stops]
    exact .inr ⟨fault, _, refuses, _, grown, .refused _ ordered⟩

theorem leads_fillAnswer (answer : String) (desk : Desk σ) :
    (do TestCase.fillTemporary answer (← c.outputData) : Judge σ Unit).Leads desk
      (fun _ later => later.journal = desk.journal ∧ ∃ expected loaded,
        c.outputData.Gives desk expected loaded ∧
        loaded.files.fill answer expected = .ok later.files)
      (fun later => later.journal = desk.journal) := by
  have loads := (TestCase.keeps_outputData Desk.journal_ignores_material.loads c).leads desk
  refine loads.bind fun expected loaded gives kept => ?_
  refine (TestCase.leads_fillTemporary answer expected loaded).mono ?_ ?_
  · rintro _ _ ⟨filled, fills, rfl⟩
    exact ⟨kept, expected, loaded, gives, fills⟩
  · rintro _ rfl
    exact kept

theorem maintains_ends (interactor : Handle) (start : List Act) :
    (do
      let submission := (← get).run.submission
      Session.atDesk (do
        let _ ← g.base.bench.sandbox.awaitEnd submission
        let _ ← g.base.bench.sandbox.awaitEnd interactor
        g.base.bench.sandbox.stderrOf submission) : Work (Session σ InteractiveRun) Bytes).Maintains
      (g.Joined c material toSubmission toInteractor submission wall start) := by
  refine Work.maintains_get.bind fun session => Joined.atDesk fun start => ?_
  refine (maintains_awaitEnd _ start session.run.submission).bind fun _ => ?_
  exact (maintains_awaitEnd _ start interactor).bind fun _ => maintains_stderrOf _ start _

variable (g) in
theorem leads_converse {input : CaseInput} {answer : String} {launched supplied provided : Desk σ}
    (same : launched.material = material) (supplies : c.inputFile.Gives launched input supplied)
    (provides : TestCase.newTemporary.Gives supplied answer provided) :
    (g.converse c input.path answer).Leads
      ⟨provided, submission, .forInteractor toSubmission toInteractor, none, wall⟩
      (fun _ => g.Joined c material toSubmission toInteractor submission wall provided.journal)
      (g.Met c material toSubmission toInteractor submission wall provided.journal) := by
  refine ((Session.leads_atDesk (leads_fillAnswer answer provided)).mono (fun _ _ held => held)
    ?_).bind ?_
  · rintro ⟨desk, run⟩ ⟨kept, rfl⟩
    exact ⟨[], kept.trans (List.append_nil _).symm, .alone⟩
  rintro _ session - ⟨⟨kept, expected, loaded, loads, fills⟩, run⟩
  have launch := leads_launchInteractor g run
    (.intro same supplies provides loads fills rfl rfl)
  rw [kept] at launch
  refine launch.bind fun interactor session _ joined => ?_
  exact ((maintains_ends interactor provided.journal).leads joined).mono (fun _ _ held => held)
    fun _ held => held.met

theorem Met.tidying {start : List Act} {session : Session σ InteractiveRun}
    (met : g.Met c material toSubmission toInteractor submission wall start session)
    {tidy : Desk σ → Desk σ} (same : ∀ desk, (tidy desk).journal = desk.journal) :
    g.Met c material toSubmission toInteractor submission wall start
      (InteractiveGrader.tidying tidy session) := by
  obtain ⟨acts, grown, meets⟩ := met
  exact ⟨acts, (same _).trans grown, meets⟩

theorem Joined.tidying {start : List Act} {session : Session σ InteractiveRun}
    (joined : g.Joined c material toSubmission toInteractor submission wall start session)
    {tidy : Desk σ → Desk σ} (same : ∀ desk, (tidy desk).journal = desk.journal) :
    g.Joined c material toSubmission toInteractor submission wall start
      (InteractiveGrader.tidying tidy session) := by
  obtain ⟨interactor, order, ordered, run, watched⟩ := joined
  exact ⟨interactor, order, ordered, run, watched.of_journal (same _)⟩

variable (g) in
theorem leads_interact {launched : Desk σ} (same : launched.material = material)
    (result : CaseResult) :
    (g.interact c result).Leads
      ⟨launched, submission, .forInteractor toSubmission toInteractor, none, wall⟩
      (fun _ => g.Joined c material toSubmission toInteractor submission wall launched.journal)
      (g.Met c material toSubmission toInteractor submission wall launched.journal) := by
  let run : InteractiveRun :=
    ⟨submission, .forInteractor toSubmission toInteractor, none, wall⟩
  have unmet {session : Session σ InteractiveRun} (kept : session.desk.journal = launched.journal)
      (held : session.run = run) :
      g.Met c material toSubmission toInteractor submission wall launched.journal session :=
    ⟨[], kept.trans (List.append_nil _).symm, held ▸ .alone⟩
  have supply : (Session.atDesk c.inputFile).Leads ⟨launched, run⟩ _ _ := Session.leads_atDesk
    ((TestCase.keeps_inputFile Desk.journal_ignores_material c).leads launched)
  refine (supply.mono (fun _ _ held => held) fun later ⟨kept, held⟩ => unmet kept held).bind ?_
  rintro input ⟨supplied, run'⟩ supplies ⟨kept, rfl⟩
  have conversation : (do
      let answer ← Session.atDesk TestCase.newTemporary
      (g.converse c input.path answer).always (InteractiveGrader.tidying (Desk.discard answer)) :
        Work (Session σ InteractiveRun) Bytes).Leads ⟨supplied, run⟩
      (fun _ => g.Joined c material toSubmission toInteractor submission wall launched.journal)
      (g.Met c material toSubmission toInteractor submission wall launched.journal) := by
    have provide : (Session.atDesk TestCase.newTemporary).Leads ⟨supplied, run⟩ _ _ :=
      Session.leads_atDesk
        ((TestCase.keeps_newTemporary Desk.journal_ignores_material).leads supplied)
    refine (provide.mono (fun _ _ held => held)
      fun later ⟨same, held⟩ => unmet (same.trans kept) held).bind ?_
    rintro answer ⟨provided, run'⟩ provides ⟨same', rfl⟩
    have talk : (g.converse c input.path answer).Leads ⟨provided, run⟩
        (fun _ => g.Joined c material toSubmission toInteractor submission wall provided.journal)
        (g.Met c material toSubmission toInteractor submission wall provided.journal) :=
      leads_converse g same (Session.gives_of_atDesk supplies) (Session.gives_of_atDesk provides)
    have quiet : provided.journal = launched.journal := same'.trans kept
    rw [quiet] at talk
    exact talk.always (fun _ _ held => held.tidying fun _ => rfl)
      fun _ held => held.tidying fun _ => rfl
  have letsGo : ∀ desk : Desk σ, (input.letGo desk).journal = desk.journal :=
    CaseInput.view_letGo Desk.journal_ignores_material input
  refine (conversation.always (fun _ _ held => held.tidying letsGo)
    fun _ held => held.tidying letsGo).bind ?_
  exact fun stderr later _ held => .inl ⟨(result, stderr), later, rfl, held⟩

theorem maintains_populate (start : List Act) (stderr : Bytes) (result : CaseResult) :
    (g.populate stderr result).Maintains
      (g.Joined c material toSubmission toInteractor submission wall start) := by
  refine Work.maintains_get.bind fun session => Joined.atDesk fun start => ?_
  have kept : (g.base.bench.sandbox.populate session.run.submission stderr result).Keeps
      Desk.journal := Sandbox.keeps_populate _ _ _ _
  exact kept.maintains fun desk later same watched => watched.of_journal same

theorem maintains_check (start : List Act) (result : CaseResult) :
    (g.check c result).Maintains
      (g.Joined c material toSubmission toInteractor submission wall start) := by
  refine Work.maintains_get.bind fun session => ?_
  split
  · exact Work.maintains_throw _
  · rename_i interactor _
    refine Work.Maintains.bind (Joined.atDesk fun start => ?_) fun award => Work.maintains_pure _
    refine (maintains_stderrOf _ start interactor).bind fun stderr => ?_
    exact (maintains_awaitEnd _ start interactor).bind fun report => Work.maintains_ofExcept _

theorem maintains_verdict (start : List Act) (stderr : Bytes) (captured : CaseResult) :
    (do
      let observed ← g.steps.populate stderr captured
      let judgement ← g.steps.check c observed
      return observed.apply (judgement.normalize c.points) :
        Work (Session σ InteractiveRun) CaseResult).Maintains
      (g.Joined c material toSubmission toInteractor submission wall start) := by
  refine (maintains_populate start stderr captured).bind fun observed => ?_
  exact (maintains_check start observed).bind fun judgement => Work.maintains_pure _

theorem conclude_met (g : InteractiveGrader σ) {launched : Desk σ}
    (same : launched.material = material) :
    g.Met c material toSubmission toInteractor submission wall launched.journal
      ((g.steps.conclude c).runOn
        ⟨launched, submission, .forInteractor toSubmission toInteractor, none, wall⟩).2 := by
  refine Work.Leads.left ((leads_interact g same _).bind ?_)
  rintro ⟨captured, stderr⟩ session - joined
  exact ((maintains_verdict launched.journal stderr captured).leads joined).mono
    (fun _ _ held => held.met) fun _ held => held.met

end Conversing
section Grading

variable (g : InteractiveGrader σ) (c : TestCase) (material : FileStore × CaseData)

def Took (start : List Act) (desk : Desk σ) : Prop :=
  ∃ acts, desk.journal = start ++ acts ∧ g.PipeCourse c material acts

theorem leads_openAt (desk : Desk σ) :
    (CrossPipes.openAt g.base.bench.sandbox).Leads desk
      (fun pipes later => ∃ toSubmission toInteractor,
        (g.base.bench.sandbox.OpensNewPipes → toInteractor ≠ toSubmission) ∧
        pipes = .cross toSubmission toInteractor ∧
        later.journal = desk.journal ++ [.pipeOpened toSubmission, .pipeOpened toInteractor])
      (g.Took c material desk.journal) := by
  refine ((Sandbox.leads_openPipeAtDesk _ desk).mono (fun _ _ held => held) ?_).bind ?_
  · exact fun later same => ⟨[], same.trans (List.append_nil _).symm, .unopened⟩
  rintro toSubmission opened - ⟨first, grown⟩
  have closes : ∀ later : Desk σ, later.journal = opened.journal →
      g.Took c material desk.journal (g.base.bench.sandbox.closeAtDesk ⟨toSubmission, .write⟩
        (g.base.bench.sandbox.closeAtDesk ⟨toSubmission, .read⟩ later)) := by
    intro later same
    refine ⟨_, ?_, .uncrossed toSubmission⟩
    change (later.journal ++ [_]) ++ [_] = _
    rw [same, grown, List.append_assoc, List.append_assoc]
    rfl
  refine ((Sandbox.leads_openPipeAtDesk _ opened).unlessDone closes).bind ?_
  rintro toInteractor crossed - ⟨second, grown'⟩
  refine .inl ⟨_, crossed, rfl, toSubmission, toInteractor, ?_, rfl, ?_⟩
  · exact fun renews => renews _ _ _ _ _ first second
  · rw [grown', grown, List.append_assoc]
    rfl

theorem submissionSpec_stderr {c : TestCase} {base : LaunchSpec}
    (limits : g.base.submissionSpec c = .ok base) : base.stderr = .piped := by
  rw [StandardGrader.submissionSpec] at limits
  cases wall : scaledWallTime g.base.problem.timeLimit c.config.wallTimeFactor with
  | error fault =>
    rw [wall] at limits
    cases limits
  | ok limit =>
    rw [wall] at limits
    cases limits
    rfl

theorem leads_launch (desk : Desk σ) :
    (g.launch c).Leads desk
      (fun run later => ∃ toSubmission toInteractor submission wall order,
        (g.base.bench.sandbox.OpensNewPipes → toInteractor ≠ toSubmission) ∧
        order.Wired ⟨toSubmission, .read⟩ ⟨toInteractor, .write⟩ ∧
        run = ⟨submission, .forInteractor toSubmission toInteractor, none, wall⟩ ∧
        later.journal = desk.journal ++ [.pipeOpened toSubmission, .pipeOpened toInteractor,
          .launched submission order])
      (g.Took c material desk.journal) := by
  have unopened : g.Took c material desk.journal desk :=
    ⟨[], (List.append_nil _).symm, .unopened⟩
  refine Work.leads_ofExcept_bind unopened fun wall _ => ?_
  refine Work.leads_ofExcept_bind unopened fun base limits => ?_
  refine (g.leads_openAt c material desk).bind ?_
  rintro _ crossed - ⟨toSubmission, toInteractor, distinct, rfl, grown⟩
  let order : LaunchOrder := ⟨g.base.binary, { base with
    stdin := .given (.pipe ⟨toSubmission, .read⟩)
    stdout := .given (.pipe ⟨toInteractor, .write⟩) }, crossed.files⟩
  have piped : base.stderr = .piped := g.submissionSpec_stderr limits
  have wired : order.Wired ⟨toSubmission, .read⟩ ⟨toInteractor, .write⟩ := ⟨rfl, rfl, piped⟩
  have closes : ∀ later : Desk σ, later.journal = crossed.journal ++ [.notLaunched order] →
      g.Took c material desk.journal ((CrossPipes.forInteractor toSubmission toInteractor).close
        g.base.bench.sandbox later) := by
    intro later same
    refine ⟨_, ?_, .unlaunched toSubmission toInteractor order distinct wired⟩
    change (later.journal ++ [_]) ++ [_] = _
    rw [same, grown, List.append_assoc, List.append_assoc, List.append_assoc]
    rfl
  have taken : ((Work.ofExcept ((CrossPipes.cross toSubmission toInteractor).takeBoth
      .submissionStdin .submissionStdout)).unlessDone
      ((CrossPipes.cross toSubmission toInteractor).close g.base.bench.sandbox)).Gives crossed
      (⟨toSubmission, .read⟩, ⟨toInteractor, .write⟩, .forInteractor toSubmission toInteractor)
      crossed := rfl
  refine Work.leads_bind_of_gives taken ?_
  refine ((Sandbox.leads_start _ crossed _ _).unlessDone closes).bind ?_
  intro submission launched _ grown'
  refine .inl ⟨_, launched, rfl, toSubmission, toInteractor, submission, wall, order, distinct,
    wired, rfl, ?_⟩
  rw [grown', grown, List.append_assoc]
  rfl

theorem finish_took {start : List Act} {toSubmission toInteractor : Nat} {submission : Handle}
    {wall : Duration} {order : LaunchOrder} {session : Session σ InteractiveRun}
    (distinct : g.base.bench.sandbox.OpensNewPipes → toInteractor ≠ toSubmission)
    (wired : order.Wired ⟨toSubmission, .read⟩ ⟨toInteractor, .write⟩)
    (met : g.Met c material toSubmission toInteractor submission wall
      (start ++ [.pipeOpened toSubmission, .pipeOpened toInteractor, .launched submission order])
      session) : g.Took c material start (g.finish session.run session.desk) := by
  obtain ⟨desk, run⟩ := session
  obtain ⟨acts, grown, meets⟩ := met
  dsimp only at grown meets ⊢
  cases meets with
  | alone =>
    refine ⟨_, ?_, .alone toSubmission toInteractor submission order distinct wired⟩
    change ((desk.journal ++ [_]) ++ [_]) ++ [_] = _
    rw [grown]
    simp only [List.append_assoc]
    rfl
  | refused other ordered =>
    refine ⟨_, ?_, .refused toSubmission toInteractor submission order other distinct wired ordered⟩
    change desk.journal ++ [_] = _
    rw [grown]
    simp only [List.append_assoc]
    rfl
  | joined interactor other watch ordered watches =>
    refine ⟨_, ?_, .joined toSubmission toInteractor submission interactor order other watch distinct
      wired ordered watches⟩
    change (desk.journal ++ [_]) ++ [_] = _
    rw [grown]
    simp only [List.append_assoc]
    rfl

theorem Took.of_journal {start : List Act} {desk later : Desk σ}
    (took : g.Took c material start desk) (same : later.journal = desk.journal) :
    g.Took c material start later := by
  obtain ⟨acts, grown, course⟩ := took
  exact ⟨acts, same.trans grown, course⟩

theorem grade_took (desk : Desk σ) :
    g.Took c desk.material desk.journal ((g.steps.gradeCase c).runOn desk).2 := by
  have ran : g.Took c desk.material desk.journal ((g.steps.runCase c).runOn desk).2 := by
    rcases g.leads_launch c desk.material desk with ⟨run, launched, gives, held⟩ |
      ⟨fault, left, stops, took⟩
    · obtain ⟨toSubmission, toInteractor, submission, wall, order, distinct, wired, rfl, grown⟩ := held
      have same : launched.material = desk.material :=
        (keeps_launch Desk.material_ignores_sandbox g c).of_gives gives
      have met : g.Met c desk.material toSubmission toInteractor submission wall launched.journal
          ((g.steps.conclude c).runOn
            ⟨launched, submission, .forInteractor toSubmission toInteractor, none, wall⟩).2 :=
        g.conclude_met same
      rw [grown] at met
      have launch : (g.steps.launch c).Gives desk
          ⟨submission, .forInteractor toSubmission toInteractor, none, wall⟩ launched := gives
      rw [GradingSteps.runOn_runCase launch]
      exact g.finish_took c desk.material distinct wired met
    · have launch : (g.steps.launch c).Stops desk fault left := stops
      rw [GradingSteps.runCase, Work.runOn_bind_of_stops launch]
      exact took
  have freed := Desk.view_freeData Desk.journal_ignores_material ((g.steps.runCase c).runOn desk).2
  rw [GradingSteps.gradeCase, Work.runOn_always]
  exact Took.of_journal g c desk.material ran freed

end Grading
end InteractiveGrader
end ContestJudge
