import ContestJudge.Judge.Grader
import ContestJudge.Proofs.AttendedConversation
import ContestJudge.Proofs.PlainSandbox
/-!
A judge never loses track of what it launched and opened: every process is waited for before its
report is taken, an interactor that is asked about was launched, and every pipe end is handed out once.
-/

namespace ContestJudge

inductive Sandbox.SeesOut {σ : Type} (sandbox : Sandbox σ) (order : LaunchOrder)
    (process : Handle) : Prop where
  | intro {asked launched waiting waited : σ}
      (launches : sandbox.Launches order asked process launched)
      (reaches : sandbox.Reaches launched waiting)
      (waits : sandbox.WaitsFor process waiting waited)

namespace StandardGrader

variable {σ : Type} {g : StandardGrader σ} {c : TestCase} {before later : Desk σ}
  {report : ProcessReport} {result : CaseResult}

theorem Started.launches {run : StandardRun} (started : g.Started before run later) :
    ∃ asked order, g.bench.sandbox.Launches order asked run.process later.host ∧
      later.dealings = before.dealings ++ [.launched run.process order] := by
  cases started with
  | inMemory _ _ launches _ dealt => exact ⟨_, _, launches, dealt⟩
  | piped _ launches _ dealt => exact ⟨_, _, launches, dealt⟩

theorem Collected.launches_none {process : Handle} {memory : Option Nat} {output stderr : Bytes}
    (collected : g.Collected c process memory before output stderr later) :
    ∃ acts, later.dealings = before.dealings ++ acts ∧ ∀ p order, .launched p order ∉ acts := by
  cases collected with
  | inMemory _ _ _ _ dealt =>
    refine ⟨_, dealt, fun p order => ?_⟩
    unfold marks
    split <;> simp
  | whole _ _ dealt => exact ⟨_, dealt, fun p order => by simp⟩
  | cut _ _ _ dealt => exact ⟨_, dealt, fun p order => by simp⟩

theorem Attended.seesOut (attended : g.Attended c before report result later) :
    ∃ acts, later.dealings = before.dealings ++ acts ∧
      ∀ process order, .launched process order ∈ acts → g.bench.sandbox.SeesOut order process := by
  obtain @⟨run, _, _, _, launched, ended, started, collected, -, -, -, dealt⟩ := attended
  obtain ⟨asked, order, launches, start⟩ := started.launches
  obtain ⟨waiting, waited, came, waits, -⟩ := collected.waitsFor
  obtain ⟨acts, collecting, unlaunched⟩ := collected.launches_none
  refine ⟨[.launched run.process order] ++ (acts ++ [.released run.process]), ?_, ?_⟩
  · rw [dealt, collecting, start, List.append_assoc, List.append_assoc]
  · intro p other listed
    simp only [List.mem_append, List.mem_singleton, Act.launched.injEq, unlaunched p other,
      reduceCtorEq, or_false] at listed
    obtain ⟨rfl, rfl⟩ := listed
    exact ⟨launches, came, waits⟩

end StandardGrader

namespace InteractiveGrader

variable {σ : Type} {g : InteractiveGrader σ} {c : TestCase} {before later : Desk σ}
  {report : ProcessReport} {result : CaseResult}

theorem Attended.seesOut (attended : g.Attended c before report result later) :
    ∃ acts, later.dealings = before.dealings ++ acts ∧
      ∀ process order, .launched process order ∈ acts →
        g.base.bench.sandbox.SeesOut order process := by
  obtain @⟨run, interactor, stderr, award, launched, ended, judged, started, collected, -,
    consulted, -, -, dealt⟩ := attended
  obtain ⟨waiting, waited, came, waits, -⟩ := collected.waitsFor
  obtain @⟨toSubmission, toInteractor, submission, wall, order, opened, crossed, -, -, launches,
    rfl, start⟩ := started
  obtain @⟨other, first, second, joined, left, parted, joins, ends, follows, -, collecting⟩ :=
    collected
  obtain ⟨-, -, -, consulting⟩ := consulted
  refine ⟨[.pipeOpened toSubmission, .pipeOpened toInteractor, .launched submission order,
    .launched interactor other, .waited submission, .waited interactor, .stderrRead submission,
    .stderrRead interactor, .waited interactor, .released submission, .released interactor],
    ?_, ?_⟩
  · rw [dealt, consulting, collecting, start]
    simp only [List.append_assoc]
    rfl
  · intro p other listed
    simp only [List.mem_cons, Act.launched.injEq, reduceCtorEq, List.not_mem_nil, or_false,
      false_or] at listed
    rcases listed with ⟨rfl, rfl⟩ | ⟨rfl, rfl⟩
    · exact ⟨launches, came, waits⟩
    · exact ⟨joins, Sandbox.reaches_of_gives (.wait _ _) ends, .wait follows⟩

end InteractiveGrader

namespace Grader

variable {σ : Type}

def bench : Grader σ → Bench σ
  | .standard g => g.bench
  | .interactive g => g.base.bench

/-- A fault of somebody that a judge relies on: of its sandbox, or of the adapter that judges its
interactors. -/
inductive Borrows : Grader σ → Fault → Prop where
  | sandbox {g : Grader σ} {fault : Fault} (raises : g.bench.sandbox.Raises fault) :
      Borrows g fault
  | adapter {g : InteractiveGrader σ} {outcome : InteractorOutcome} {fault : Fault}
      (judges : g.adapter.judge outcome = .error fault) : Borrows (.interactive g) fault

def Attended : Grader σ → TestCase → Desk σ → ProcessReport → CaseResult → Desk σ → Prop
  | .standard g => g.Attended
  | .interactive g => g.Attended

theorem Attended.seesOut {g : Grader σ} {c : TestCase} {before later : Desk σ}
    {report : ProcessReport} {result : CaseResult}
    (attended : g.Attended c before report result later) :
    ∃ acts, later.dealings = before.dealings ++ acts ∧
      ∀ process order, .launched process order ∈ acts → g.bench.sandbox.SeesOut order process := by
  cases g with
  | standard g => exact StandardGrader.Attended.seesOut attended
  | interactive g => exact InteractiveGrader.Attended.seesOut attended

/-- A case is graded and was attended, or stops with a fault. That the judge lost track of something
is a fault that it can only have borrowed, if its sandbox keeps reports. -/
theorem yields_grade (g : Grader σ) (c : TestCase) (desk : Desk σ) :
    (g.grade c).Yields desk (fun result later => ∃ report, g.Attended c desk report result later)
      (fun fault => g.bench.sandbox.KeepsReports → fault.isDefensive → g.Borrows fault) := by
  cases g with
  | standard g =>
    have excuses : g.bench.sandbox.Excuses fun fault =>
        g.bench.sandbox.KeepsReports → fault.isDefensive → (Grader.standard g).Borrows fault := by
      refine ⟨fun raises _ _ => .sandbox raises, fun harmless _ defensive => ?_⟩
      rw [harmless] at defensive
      cases defensive
    exact StandardGrader.yields_gradeCase excuses desk fun loses _ keeps => absurd keeps loses
  | interactive g =>
    have excuses : g.base.bench.sandbox.Excuses fun fault =>
        g.base.bench.sandbox.KeepsReports → fault.isDefensive →
          (Grader.interactive g).Borrows fault := by
      refine ⟨fun raises _ _ => .sandbox raises, fun harmless _ defensive => ?_⟩
      rw [harmless] at defensive
      cases defensive
    exact InteractiveGrader.yields_gradeCase excuses desk (fun judges _ _ => .adapter judges)
      fun loses _ keeps => absurd keeps loses

theorem attended_of_gives {g : Grader σ} {c : TestCase} {desk later : Desk σ} {result : CaseResult}
    (grades : (g.grade c).Gives desk result later) :
    ∃ report, g.Attended c desk report result later := by
  rcases g.yields_grade c desk with ⟨_, _, gives, attended⟩ | ⟨_, _, stops, -⟩
  · cases grades.symm.trans gives
    exact attended
  · cases grades.symm.trans stops

/-- On a sandbox that keeps its reports a judge never loses track of what it launched and opened:
it comes to no such fault of its own, and whenever a case is graded, every process that was launched
for it has been waited for. -/
theorem grade_keeps_track (g : Grader σ) (keeps : g.bench.sandbox.KeepsReports) (c : TestCase)
    (desk : Desk σ) :
    (∀ fault, ((g.grade c).runOn desk).1 = .error fault → fault.isDefensive → g.Borrows fault) ∧
    ∀ result later, (g.grade c).Gives desk result later →
      (∃ report, g.Attended c desk report result later) ∧
      ∃ acts, later.dealings = desk.dealings ++ acts ∧
        ∀ process order, .launched process order ∈ acts →
          g.bench.sandbox.SeesOut order process := by
  constructor
  · intro fault stopped defensive
    rcases g.yields_grade c desk with ⟨_, _, gives, -⟩ | ⟨_, _, stops, blamed⟩
    · rw [gives] at stopped
      cases stopped
    · rw [stops] at stopped
      cases stopped
      exact blamed keeps defensive
  · intro result later grades
    obtain ⟨report, attended⟩ := attended_of_gives grades
    exact ⟨⟨report, attended⟩, attended.seesOut⟩

/-- On plain processes a judge comes to such a fault only if the kernel or the adapter does. -/
theorem raises_of_plain {kernel : Kernel σ} {g : Grader (LocalHost σ)}
    (plain : g.bench.sandbox = .plain kernel) {c : TestCase} {desk later : Desk (LocalHost σ)}
    {fault : Fault} (stops : (g.grade c).Stops desk fault later) (defensive : fault.isDefensive) :
    kernel.Raises fault ∨
      ∃ i outcome, g = .interactive i ∧ i.adapter.judge outcome = .error fault := by
  have borrows : g.Borrows fault := by
    rcases g.yields_grade c desk with ⟨_, _, gives, -⟩ | ⟨_, _, stopped, blamed⟩
    · cases stops.symm.trans gives
    · cases stops.symm.trans stopped
      exact blamed (plain ▸ Sandbox.plain_keepsReports kernel) defensive
  cases borrows with
  | sandbox raises => exact .inl (Sandbox.plain_raises kernel (plain ▸ raises) defensive)
  | adapter judges => exact .inr ⟨_, _, rfl, judges⟩

end Grader

namespace Sample

def kernel (output : List ReadOutcome) : Kernel Unit where
  awaitExit _ := pure .zero
  lockWatch _ state := (.armed, state)
  unlockWatch _ _ := id
  joinAlarm _ := id
  kill _ := id
  sweep _ := id
  reap _ := pure (.exited 0, ⟨.zero, 64⟩)
  readOutput _ _ state := (output, state)
  readDiagnostics _ state := ([], state)
  start _ _ state := (.ok 0, state)
  pid _ _ := 4242
  openMemory := pure 0
  memorySize _ := pure 0
  memoryBytes _ := pure []
  openPipe := pure 0
  closeEnd _ := id

def piped (output : List ReadOutcome) : StandardGrader (LocalHost Unit) :=
  ⟨problem, ⟨"submission", []⟩, binary "submission",
    ⟨.plain (kernel output), .ofFunction fun request => .ok (binary request.language), .builtin,
      { JudgeEnvironment.usual with memoryOutput := false }⟩⟩

def bare : Desk (LocalHost Unit) := .fresh .empty (.start ())

/-- A submission that writes too much is stopped, marked and waited for before it is judged. -/
theorem flood_attended :
    (piped [.chunk [53, 10, 53]]).bench.sandbox.KeepsReports ∧ ∃ report result later,
      (Grader.standard (piped [.chunk [53, 10, 53]])).Attended (testCase 2) bare report result later ∧
      result.isAccepted = false := by
  have keeps : (piped [.chunk [53, 10, 53]]).bench.sandbox.KeepsReports :=
    Sandbox.plain_keepsReports _
  have rejected : (((Grader.standard (piped [.chunk [53, 10, 53]])).grade (testCase 2)).runOn
      bare).1.map (·.isAccepted) = .ok false := by decide +kernel
  have tracks := Grader.grade_keeps_track (.standard (piped [.chunk [53, 10, 53]])) keeps
    (testCase 2) bare
  rcases graded : ((Grader.standard (piped [.chunk [53, 10, 53]])).grade (testCase 2)).runOn bare
    with ⟨fault | result, later⟩
  · rw [graded] at rejected
    cases rejected
  · obtain ⟨⟨report, attended⟩, -⟩ := tracks.2 result later graded
    rw [graded] at rejected
    exact ⟨keeps, report, result, later, attended, Except.ok.inj rejected⟩

end Sample
end ContestJudge
