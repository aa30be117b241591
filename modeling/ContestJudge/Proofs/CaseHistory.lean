import ContestJudge.Proofs.CaseFiles
import ContestJudge.Proofs.JournalBlindness
import ContestJudge.Proofs.PipeCustody

namespace ContestJudge

section Turns

variable {σ : Type}

/-- One of the times that a case is graded: by whom, and what becomes beforehand of the files and
of what the sandbox works on. -/
structure Turn (σ : Type) where
  grader : Grader σ
  meanwhile : FileStore × σ → FileStore × σ

namespace Turn

def start (turn : Turn σ) (desk : Desk σ) : Desk σ :=
  let (files, host) := turn.meanwhile (desk.files, desk.host)
  (desk.withFiles files).withHost host

def take (c : TestCase) (turn : Turn σ) (desk : Desk σ) : Except Fault CaseResult × Desk σ :=
  (turn.grader.grade c).runOn (turn.start desk)

def takeAll (c : TestCase) (turns : List (Turn σ)) (desk : Desk σ) : Desk σ :=
  turns.foldl (fun desk turn => (turn.take c desk).2) desk

def KeepsFiles (turn : Turn σ) : Prop := ∀ files host, (turn.meanwhile (files, host)).1 = files

variable (c : TestCase)

theorem cleared_take (turn : Turn σ) {desk : Desk σ} (unloaded : desk.data = .none) :
    (turn.take c desk).2.Cleared (turn.start desk).files :=
  turn.grader.cleared_grade c (turn.start desk) unloaded

theorem unloaded_takeAll (turns : List (Turn σ)) {desk : Desk σ} (unloaded : desk.data = .none) :
    (takeAll c turns desk).data = .none := by
  induction turns generalizing desk with
  | nil => exact unloaded
  | cons turn rest ih => exact ih (turn.cleared_take c unloaded).data

theorem cleared_takeAll {first : FileStore} (turns : List (Turn σ))
    (calm : ∀ turn ∈ turns, turn.KeepsFiles) {desk : Desk σ} (cleared : desk.Cleared first) :
    (takeAll c turns desk).Cleared first := by
  induction turns generalizing desk with
  | nil => exact cleared
  | cons turn rest ih =>
    have later : ∀ other ∈ rest, other.KeepsFiles :=
      fun other listed => calm other (List.mem_cons_of_mem turn listed)
    obtain ⟨data, number, files⟩ := turn.cleared_take c cleared.data
    obtain ⟨earlier, files'⟩ := cleared.files
    have found : (turn.start desk).files = desk.files := calm turn List.mem_cons_self _ _
    rw [found, files'] at files
    exact ih later ⟨data, number, files⟩

end Turn
end Turns

namespace InteractiveGrader

variable {σ : Type}

/-- A launch of an interactor whose files are there: the input of the case, and the expected output
as the answer. -/
structure Briefed (g : InteractiveGrader σ) (c : TestCase) (order : LaunchOrder)
    (input answer : String) : Prop where
  arguments : order.spec.args =
    InteractorFiles.arguments ⟨input, discardedOutput, answer⟩ g.argsTemplate
  readable : order.spec.readable = [input]
  input : order.files.read input = c.input.load order.files
  answer : ∃ expected, c.output.load order.files = .ok expected ∧
    order.files.read answer = .ok expected

theorem PipeCourse.ordered_of_mem_tail {g : InteractiveGrader σ} {c : TestCase}
    {material : FileStore × CaseData} {acts : List Act} (course : g.PipeCourse c material acts)
    {order : LaunchOrder} (listed : order ∈ (orders acts).tail) :
    ∃ toSubmission toInteractor, g.Ordered c material toSubmission toInteractor order := by
  cases course with
  | unopened => cases listed
  | uncrossed pipe => cases listed
  | unlaunched toSubmission toInteractor first distinct wired => cases listed
  | alone toSubmission toInteractor submission first distinct wired => cases listed
  | refused toSubmission toInteractor submission first other distinct wired ordered =>
    obtain rfl := List.mem_singleton.mp listed
    exact ⟨toSubmission, toInteractor, ordered⟩
  | joined toSubmission toInteractor submission interactor first other watch distinct wired ordered
      watches =>
    rw [orders_around_watch watches] at listed
    obtain rfl := List.mem_singleton.mp listed
    exact ⟨toSubmission, toInteractor, ordered⟩

theorem Ordered.briefed {g : InteractiveGrader σ} {c : TestCase} {first : FileStore}
    {toSubmission toInteractor : Nat} {order : LaunchOrder}
    (ordered : g.Ordered c (first, .none) toSubmission toInteractor order) :
    ∃ input answer, g.Briefed c order input answer ∧ first.Extends order.files ∧
      first.isPresent answer = false ∧ (c.input.path? = none → first.isPresent input = false) := by
  obtain @⟨wall, input, answer, expected, launched, supplied, provided, loaded, same, supplies,
    provides, loads, fills, binary, spec⟩ := ordered
  have files : launched.files = first := congrArg Prod.fst same
  have data : launched.data = .none := congrArg Prod.snd same
  obtain ⟨inPlace, unread⟩ := (TestCase.leads_inputFile c data).of_gives supplies
  obtain ⟨-, location, vacant, made⟩ := (TestCase.leads_newTemporary supplied).of_gives provides
  generalize supplied.files.nextName + 1 = number at vacant made
  subst made
  rw [files] at inPlace
  let leased := supplied.withFiles ((supplied.files.renumber number).lease location answer [] 1)
  have unread' : leased.data.output = none := unread
  obtain ⟨expects, loaded'⟩ := TestCase.outputData_of_gives unread' loads
  have filled :
      order.files = (supplied.files.renumber number).lease location answer expected 1 := by
    rw [loaded', FileStore.fill] at fills
    split at fills
    · cases fills
    · exact (Except.ok.inj fills).symm.trans (FileStore.overwrite_lease vacant expected)
  have grown : supplied.files.Extends order.files := by
    rw [filled]
    exact (FileStore.extends_renumber _ number).trans (FileStore.extends_lease vacant)
  refine ⟨input.path, answer, ⟨?_, ?_, inPlace.read grown, expected, ?_, ?_⟩,
    inPlace.extends.trans grown, ?_, inPlace.absent⟩
  · rw [spec]
    rfl
  · rw [spec]
    rfl
  · rw [filled]
    exact DataSource.load_filled expects
  · rw [filled]
    exact FileStore.read_lease vacant
  · have unfound := FileStore.not_isPresent_of_vacant vacant
    exact (inPlace.extends.trans (FileStore.extends_renumber _ number)).not_isPresent unfound

end InteractiveGrader

/-- A case may be graded time and again, by graders of all kinds, and all that they work with may
fail at any point. In each turn a grader does and answers what it would do and answer if the case
were new; afterwards nothing of the case is loaded, and the files are those that it found. Whenever
an interactor is launched, it finds the input and the expected output of the case in the files that
it is told of, beside all files that there were; those of the two that are temporary are gone at the
end. -/
theorem Turn.leaves_no_trace {σ : Type} (c : TestCase) (files : FileStore) (host : σ)
    (earlier : List (Turn σ)) (turn : Turn σ) :
    let before := turn.start (takeAll c earlier (.fresh files host))
    let afresh := (turn.grader.grade c).runOn (.fresh before.files before.host)
    let after := (turn.take c (takeAll c earlier (.fresh files host))).2
    turn.take c (takeAll c earlier (.fresh files host)) =
      (afresh.1, afresh.2.behind before.journal) ∧
    after.data = .none ∧ after.data.isLoaded = false ∧
    (∃ number, after.files = before.files.renumber number) ∧
    (∀ g, turn.grader = .interactive g → ∀ order ∈ (orders afresh.2.journal).tail,
      ∃ input answer, g.Briefed c order input answer ∧ before.files.Extends order.files ∧
        after.files.isPresent answer = false ∧
        (c.input.path? = none → after.files.isPresent input = false)) ∧
    ((∀ other ∈ turn :: earlier, other.KeepsFiles) →
      ∃ number, before.files = files.renumber number) := by
  intro before afresh after
  have found : (takeAll c earlier (.fresh files host)).data = .none :=
    unloaded_takeAll c earlier rfl
  have cleared : after.Cleared before.files := turn.cleared_take c found
  refine ⟨?_, cleared.data, ?_, cleared.files, ?_, ?_⟩
  · have behind : before = (Desk.fresh before.files before.host).behind before.journal := by
      have data : before.data = .none := found
      rw [Desk.fresh, Desk.behind, ← data, List.append_nil]
    have same := turn.grader.runOn_behind c before.journal (.fresh before.files before.host)
    rw [← behind] at same
    exact same
  · rw [cleared.data]
    rfl
  · rintro g interactive order listed
    have graded : afresh = (g.steps.gradeCase c).runOn (.fresh before.files before.host) := by
      dsimp only [afresh]
      rw [interactive]
      rfl
    obtain ⟨acts, grown, course⟩ := g.grade_took c (.fresh before.files before.host)
    rw [graded, grown] at listed
    obtain ⟨_, _, ordered⟩ := course.ordered_of_mem_tail listed
    obtain ⟨input, answer, briefed, extends', gone, gone'⟩ := ordered.briefed
    obtain ⟨number, left⟩ := cleared.files
    rw [left]
    have same : (before.files.renumber number).Extends before.files :=
      FileStore.renumber_extends before.files number
    exact ⟨input, answer, briefed, extends', same.not_isPresent gone,
      fun inline => same.not_isPresent (gone' inline)⟩
  · intro calm
    have first : (takeAll c earlier (.fresh files host)).Cleared files := by
      refine cleared_takeAll c earlier (fun other listed => ?_) ⟨rfl, files.nextName, rfl⟩
      exact calm other (List.mem_cons_of_mem turn listed)
    obtain ⟨number, files'⟩ := first.files
    exact ⟨number, (calm turn List.mem_cons_self _ _).trans files'⟩

namespace Sample

def quiet : Script := exiting 0 [] []

def rematch : Turn ScriptedHost := ⟨.interactive guessing, id⟩

def rematchHost : ScriptedHost :=
  .start [("submission", [crash, quiet]), ("interactor", [assertion, quiet])]

def rematchDesk : Desk ScriptedHost :=
  rematch.start (Turn.takeAll (testCase 64) [rematch] (.fresh .empty rematchHost))

theorem rematch_prepares_files :
    ∃ order input answer,
      (orders ((rematch.grader.grade (testCase 64)).runOn
        (.fresh rematchDesk.files rematchDesk.host)).2.journal).tail = [order] ∧
      guessing.Briefed (testCase 64) order input answer := by
  have launches : (orders ((rematch.grader.grade (testCase 64)).runOn
      (.fresh rematchDesk.files rematchDesk.host)).2.journal).tail.length = 1 := by decide +kernel
  obtain ⟨order, only⟩ := List.length_eq_one_iff.mp launches
  have listed := List.mem_singleton_self order
  rw [← only, rematchDesk] at listed
  have prepares :=
    (Turn.leaves_no_trace (testCase 64) .empty rematchHost [rematch] rematch).2.2.2.2.1
  obtain ⟨input, answer, briefed, -⟩ := prepares guessing rfl order listed
  exact ⟨order, input, answer, only, briefed⟩

end Sample
end ContestJudge
