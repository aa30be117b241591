import ContestJudge.Proofs.Histories
import ContestJudge.Proofs.Material
import Mathlib.Logic.Function.Basic

namespace ContestJudge

inductive CaseSide where
  | input
  | output
  deriving DecidableEq

def CaseData.side (data : CaseData) : CaseSide → Option Bytes
  | .input => data.input
  | .output => data.output

def CaseData.withSide (data : CaseData) (bytes : Bytes) : CaseSide → CaseData
  | .input => { data with input := some bytes }
  | .output => { data with output := some bytes }

theorem CaseData.side_withSide (data : CaseData) (bytes : Bytes) (side other : CaseSide) :
    (data.withSide bytes side).side other =
      if other = side then some bytes else data.side other := by
  cases side <;> cases other <;> simp [withSide, CaseData.side]

@[simp] theorem CaseData.side_none (side : CaseSide) : CaseData.none.side side = .none := by
  cases side <;> rfl

theorem CaseData.isLoaded_of_side {data : CaseData} {side : CaseSide} {bytes : Bytes}
    (held : data.side side = some bytes) : data.isLoaded = true := by
  cases side <;>
  · simp only [CaseData.side] at held
    simp [isLoaded, held]

namespace TestCase

variable {σ : Type} (c : TestCase)

def source : CaseSide → DataSource
  | .input => c.input
  | .output => c.output

def dataOf : CaseSide → Judge σ Bytes
  | .input => c.inputData
  | .output => c.outputData

variable {c} {side : CaseSide} {desk : Desk σ}

theorem dataOf_gives_kept {data : Bytes} (kept : desk.data.side side = some data) :
    (c.dataOf side).Gives desk data desk := by
  cases side <;>
  · have held : _ = some data := kept
    simp only [CaseData.side] at held
    simp [Work.Gives, dataOf, inputData, outputData, Work.runOn_bind, held]

theorem dataOf_gives_loaded {data : Bytes} (unkept : desk.data.side side = none)
    (loads : (c.source side).load desk.files = .ok data) :
    (c.dataOf side).Gives desk data { desk with data := desk.data.withSide data side } := by
  cases side <;>
  · simp only [CaseData.side] at unkept
    have asked : (Judge.onFiles (c.source _).load).Gives desk data desk := onFiles_gives loads
    simp only [source, Work.Gives] at asked
    simp only [Work.Gives, dataOf, inputData, outputData, Work.runOn_bind, Work.runOn_get, unkept,
      asked, Work.runOn_modify, Work.runOn_pure, CaseData.withSide]

theorem dataOf_stops_unloaded {cause : FileFault} (unkept : desk.data.side side = none)
    (refuses : (c.source side).load desk.files = .error cause) :
    (c.dataOf side).Stops desk (.ofFile cause) desk := by
  cases side <;>
  · simp only [CaseData.side] at unkept
    have asked : (Judge.onFiles (c.source _).load).Stops desk (.ofFile cause) desk :=
      onFiles_stops refuses
    simp only [source, Work.Stops] at asked
    simp [Work.Stops, dataOf, inputData, outputData, Work.runOn_bind, unkept, asked]

theorem side_of_gives {later : Desk σ} {data : Bytes}
    (gives : (c.dataOf side).Gives desk data later) : later.data.side side = some data := by
  cases kept : desk.data.side side with
  | some held =>
    have answers := gives.symm.trans (dataOf_gives_kept kept)
    simp only [Prod.mk.injEq, Except.ok.injEq] at answers
    rw [answers.2, kept, answers.1]
  | none =>
    cases loads : (c.source side).load desk.files with
    | ok loaded =>
      have answers := gives.symm.trans (dataOf_gives_loaded kept loads)
      simp only [Prod.mk.injEq, Except.ok.injEq] at answers
      rw [answers.2, CaseData.side_withSide, if_pos rfl, answers.1]
    | error cause =>
      have answers := gives.symm.trans (dataOf_stops_unloaded kept loads)
      simp at answers

theorem dataOf_stops {later : Desk σ} {fault : Fault}
    (stops : (c.dataOf side).Stops desk fault later) : later = desk := by
  cases kept : desk.data.side side with
  | some data =>
    have answers := stops.symm.trans (dataOf_gives_kept kept)
    simp at answers
  | none =>
    cases loads : (c.source side).load desk.files with
    | ok data =>
      have answers := stops.symm.trans (dataOf_gives_loaded kept loads)
      simp at answers
    | error cause =>
      have answers := stops.symm.trans (dataOf_stops_unloaded kept loads)
      simp only [Prod.mk.injEq] at answers
      exact answers.2

end TestCase

namespace LazyBytes

variable {σ : Type}

theorem runOn_get_of_held {lazy : LazyBytes} {data : Bytes}
    (held : lazy.value = some data) (load : Judge σ Bytes) (desk : Desk σ) :
    (lazy.get load).runOn desk = (.ok (lazy, data), desk) := by
  simp [get, held]

theorem runOn_get_of_unread {lazy : LazyBytes} (unread : lazy.value = none)
    (load : Judge σ Bytes) (desk : Desk σ) :
    (lazy.get load).runOn desk =
      ((load.runOn desk).1.map fun data => (⟨some data⟩, data), (load.runOn desk).2) := by
  have same : lazy = .unread := congrArg mk unread
  rw [same]
  exact runOn_get_unread load desk

end LazyBytes

inductive DataEvent where
  /-- One side was asked for, by a reader if one is named, while the files were these. -/
  | asked (reader : Option Nat) (side : CaseSide) (files : FileStore) (answer : Except Fault Bytes)
  | freed
  /-- A lazy reader was asked for the input. -/
  | shown (reader : Nat) (answer : Except Fault Bytes)

namespace DataEvent

def isFreed : DataEvent → Bool
  | .freed => true
  | _ => false

def sinceFreed (events : List DataEvent) : List DataEvent :=
  (events.reverse.takeWhile (!·.isFreed)).reverse

def Loaded (events : List DataEvent) (side : CaseSide) (data : Bytes) : Prop :=
  ∃ reader files, .asked reader side files (.ok data) ∈ events

/-- What may happen after some events: data that was loaded and not freed is given again, other
data is what its source holds now; a lazy reader shows what it showed before, and asks for the
input as long as it has shown none. -/
def Due (c : TestCase) (past : List DataEvent) : DataEvent → Prop
  | .asked reader side files answer =>
    (∀ data, Loaded (sinceFreed past) side data → answer = .ok data) ∧
    ((∀ data, ¬Loaded (sinceFreed past) side data) →
      answer = ((c.source side).load files).mapError .ofFile) ∧
    ∀ k, reader = some k → side = .input ∧ ∀ data, .shown k (.ok data) ∉ past
  | .freed => True
  | .shown k answer =>
    (∀ data, .shown k (.ok data) ∈ past → answer = .ok data) ∧
    ((∀ data, .shown k (.ok data) ∉ past) →
      ∃ earlier files, past = earlier ++ [.asked (some k) .input files answer])

section Events

variable {events : List DataEvent}

@[simp] theorem sinceFreed_nil : sinceFreed [] = [] := rfl

@[simp] theorem sinceFreed_concat (event : DataEvent) :
    sinceFreed (events ++ [event]) =
      if event.isFreed then [] else sinceFreed events ++ [event] := by
  cases event <;> simp [sinceFreed, isFreed]

theorem loaded_concat_asked {reader : Option Nat} {side other : CaseSide} {files : FileStore}
    {answer : Except Fault Bytes} {data : Bytes} :
    Loaded (events ++ [.asked reader side files answer]) other data ↔
      Loaded events other data ∨ other = side ∧ answer = .ok data := by
  simp only [Loaded, List.mem_append, List.mem_singleton, asked.injEq]
  constructor
  · intro ⟨reader', files', found⟩
    rcases found with earlier | ⟨-, same, -, answers⟩
    · exact .inl ⟨reader', files', earlier⟩
    · exact .inr ⟨same, answers.symm⟩
  · intro found
    rcases found with ⟨reader', files', earlier⟩ | ⟨same, answers⟩
    · exact ⟨reader', files', .inl earlier⟩
    · exact ⟨reader, files, .inr ⟨rfl, same, rfl, answers.symm⟩⟩

theorem loaded_concat_shown {k : Nat} {answer : Except Fault Bytes} {side : CaseSide}
    {data : Bytes} : Loaded (events ++ [.shown k answer]) side data ↔ Loaded events side data := by
  simp [Loaded]

end Events
end DataEvent

/-- Asks a case for one side of its data. The host of the desk is a log of what comes of it. -/
def TestCase.askFor (c : TestCase) (reader : Option Nat) (side : CaseSide) :
    Judge (List DataEvent) Bytes := do
  let asked ← get
  let answer ← (c.dataOf side).attempt
  modify fun desk => desk.withHost (desk.host ++ [.asked reader side asked.files answer])
  Work.ofExcept answer

structure ReadingRoom where
  desk : Desk (List DataEvent)
  readers : Nat → LazyBytes

inductive ReadingStep where
  | ask (side : CaseSide)
  | free
  | read (reader : Nat)
  | meanwhile (change : FileStore → FileStore)

namespace ReadingRoom

def opened (files : FileStore) : ReadingRoom := ⟨.fresh files [], fun _ => .unread⟩

def log (s : ReadingRoom) : List DataEvent := s.desk.host

def note (event : DataEvent) (s : ReadingRoom) : ReadingRoom :=
  { s with desk := s.desk.withHost (s.log ++ [event]) }

def read (c : TestCase) (k : Nat) (s : ReadingRoom) : ReadingRoom :=
  match ((s.readers k).get (c.askFor (some k) .input)).runOn s.desk with
  | (.ok (lazy, data), desk) =>
    note (.shown k (.ok data)) ⟨desk, Function.update s.readers k lazy⟩
  | (.error fault, desk) => note (.shown k (.error fault)) ⟨desk, s.readers⟩

def step (c : TestCase) (s : ReadingRoom) : ReadingStep → ReadingRoom
  | .ask side => { s with desk := ((c.askFor none side).runOn s.desk).2 }
  | .free => note .freed { s with desk := s.desk.freeData }
  | .read k => s.read c k
  | .meanwhile change => { s with desk := s.desk.withFiles (change s.desk.files) }

/-- What a step adds to the log: each answer that was given, and for a reader that holds nothing
yet also what the case answered it. -/
def told (c : TestCase) (s : ReadingRoom) : ReadingStep → List DataEvent
  | .ask side => [.asked none side s.desk.files ((c.dataOf side).runOn s.desk).1]
  | .free => [.freed]
  | .read k =>
    (if (s.readers k).isLoaded then []
      else [.asked (some k) .input s.desk.files (c.inputData.runOn s.desk).1]) ++
    [.shown k ((((s.readers k).get c.inputData).runOn s.desk).1.map Prod.snd)]
  | .meanwhile _ => []

def run (c : TestCase) (s : ReadingRoom) (steps : List ReadingStep) : ReadingRoom :=
  steps.foldl (step c) s

end ReadingRoom

structure Desk.Recorded (c : TestCase) (desk : Desk (List DataEvent)) : Prop where
  lawful : Lawful (DataEvent.Due c) desk.host
  kept : ∀ side data, desk.data.side side = some data ↔
    DataEvent.Loaded (DataEvent.sinceFreed desk.host) side data

structure ReadingRoom.Sound (c : TestCase) (s : ReadingRoom) : Prop where
  recorded : s.desk.Recorded c
  shown : ∀ k data, (s.readers k).value = some data ↔ .shown k (.ok data) ∈ s.log

section Asking

variable {c : TestCase} {desk : Desk (List DataEvent)} {reader : Option Nat} {side : CaseSide}

theorem TestCase.runOn_askFor :
    (c.askFor reader side).runOn desk =
      (((c.dataOf side).runOn desk).1,
        ((c.dataOf side).runOn desk).2.withHost (((c.dataOf side).runOn desk).2.host ++
          [.asked reader side desk.files ((c.dataOf side).runOn desk).1])) := by
  simp only [askFor, Work.runOn_bind, Work.runOn_get, Work.runOn_attempt, Work.runOn_modify,
    Work.runOn_ofExcept]

theorem TestCase.host_askFor :
    ((c.askFor reader side).runOn desk).2.host =
      desk.host ++ [.asked reader side desk.files ((c.dataOf side).runOn desk).1] := by
  have blind := (Desk.host_ignores_material (σ := List DataEvent)).loads
  have kept : ((c.dataOf side).runOn desk).2.host = desk.host := by
    cases side with
    | input => exact TestCase.keeps_inputData blind c desk
    | output => exact TestCase.keeps_outputData blind c desk
  simp [runOn_askFor, kept, Desk.withHost]

/-- A side that was asked for is kept if it was answered; nothing else that is kept changes. -/
theorem Desk.Recorded.log_asked {answer : Except Fault Bytes} {later : Desk (List DataEvent)}
    (recorded : desk.Recorded c)
    (grown : later.host = desk.host ++ [.asked reader side desk.files answer])
    (due : (DataEvent.asked reader side desk.files answer).Due c desk.host)
    (kept : ∀ other data, later.data.side other = some data ↔
      desk.data.side other = some data ∨ other = side ∧ answer = .ok data) :
    later.Recorded c where
  lawful := by
    rw [grown]
    exact recorded.lawful.concat due
  kept other data := by
    rw [kept, recorded.kept, grown]
    simp [DataEvent.isFreed, DataEvent.loaded_concat_asked]

theorem Desk.Recorded.askFor (recorded : desk.Recorded c)
    (unshown : ∀ k, reader = some k → side = .input ∧ ∀ data, .shown k (.ok data) ∉ desk.host) :
    ∃ later, (c.askFor reader side).runOn desk = (((c.dataOf side).runOn desk).1, later) ∧
      later.host = desk.host ++ [.asked reader side desk.files ((c.dataOf side).runOn desk).1] ∧
      later.Recorded c := by
  rw [TestCase.runOn_askFor]
  cases kept : desk.data.side side with
  | some data =>
    rw [TestCase.dataOf_gives_kept kept]
    refine ⟨_, rfl, rfl, recorded.log_asked rfl ⟨?_, ?_, unshown⟩ ?_⟩
    · intro other loaded
      have same := (recorded.kept side other).mpr loaded
      rw [kept] at same
      simpa using same
    · intro unloaded
      exact absurd ((recorded.kept side data).mp kept) (unloaded data)
    · intro other found
      have again : other = side ∧ data = found → desk.data.side other = some found := by
        intro ⟨same, found⟩
        rw [same, kept, found]
      simpa [withHost] using again
  | none =>
    have unloaded : ∀ data, ¬DataEvent.Loaded (DataEvent.sinceFreed desk.host) side data := by
      intro data loaded
      have held := (recorded.kept side data).mpr loaded
      simp [kept] at held
    have first : ∀ {answer : Except Fault Bytes},
        answer = ((c.source side).load desk.files).mapError .ofFile →
        (DataEvent.asked reader side desk.files answer).Due c desk.host :=
      fun same => ⟨fun data loaded => absurd loaded (unloaded data), fun _ => same, unshown⟩
    cases loads : (c.source side).load desk.files with
    | ok data =>
      rw [TestCase.dataOf_gives_loaded kept loads]
      refine ⟨_, rfl, rfl, recorded.log_asked rfl (first (by rw [loads]; rfl)) ?_⟩
      intro other found
      by_cases same : other = side
      · simp [withHost, CaseData.side_withSide, same, kept]
      · simp [withHost, CaseData.side_withSide, same]
    | error cause =>
      rw [TestCase.dataOf_stops_unloaded kept loads]
      refine ⟨_, rfl, rfl, recorded.log_asked rfl (first (by rw [loads]; rfl)) ?_⟩
      intro other found
      simp [withHost]

end Asking

namespace ReadingRoom

variable {c : TestCase} {s : ReadingRoom}

theorem log_ask (side : CaseSide) :
    (s.step c (.ask side)).log = s.log ++ s.told c (.ask side) := TestCase.host_askFor

theorem log_free : (s.step c .free).log = s.log ++ [.freed] := by
  have kept : s.desk.freeData.host = s.log := Desk.view_freeData Desk.host_ignores_material s.desk
  simp [step, note, log, Desk.withHost, kept]

theorem log_read (k : Nat) : (s.step c (.read k)).log = s.log ++ s.told c (.read k) := by
  cases held : (s.readers k).value with
  | some data =>
    simp [step, read, told, LazyBytes.isLoaded, held, LazyBytes.runOn_get_of_held held, note, log,
      Desk.withHost, Except.map]
  | none =>
    have asked : ((c.askFor (some k) .input).runOn s.desk).2.host =
        s.log ++ [.asked (some k) .input s.desk.files (c.inputData.runOn s.desk).1] :=
      TestCase.host_askFor
    have answer : ((c.askFor (some k) .input).runOn s.desk).1 = (c.inputData.runOn s.desk).1 := by
      rw [TestCase.runOn_askFor]
      rfl
    simp only [step, read, told, LazyBytes.isLoaded, held, LazyBytes.runOn_get_of_unread held,
      answer]
    cases given : (c.inputData.runOn s.desk).1 with
    | ok data => simp [Except.map, note, log, Desk.withHost, asked, given]
    | error fault => simp [Except.map, note, log, Desk.withHost, asked, given]

theorem log_step (next : ReadingStep) : (s.step c next).log = s.log ++ s.told c next := by
  cases next with
  | ask side => exact log_ask side
  | free => exact log_free
  | read k => exact log_read k
  | meanwhile change => exact (List.append_nil _).symm

theorem sound_opened (files : FileStore) : (opened files).Sound c where
  recorded := ⟨lawful_nil, by simp [opened, Desk.fresh, DataEvent.Loaded]⟩
  shown := by simp [opened, log, Desk.fresh, LazyBytes.unread]

theorem Sound.ask (sound : s.Sound c) (side : CaseSide) : (s.step c (.ask side)).Sound c := by
  have unread : ∀ k, none = some k → side = .input ∧ ∀ data, .shown k (.ok data) ∉ s.log := by simp
  obtain ⟨later, ran, grown, recorded⟩ := sound.recorded.askFor unread
  refine ⟨?_, ?_⟩
  · simpa [step, ran] using recorded
  · intro k data
    simp [step, log, ran, grown, sound.shown k data]

theorem Sound.free (sound : s.Sound c) : (s.step c .free).Sound c := by
  have grown : (s.step c .free).desk.host = s.log ++ [.freed] := log_free
  refine ⟨⟨?_, ?_⟩, ?_⟩
  · rw [grown]
    exact sound.recorded.lawful.concat trivial
  · intro side data
    change CaseData.none.side side = some data ↔ _
    simp [grown, DataEvent.isFreed, DataEvent.Loaded]
  · intro k data
    rw [log, grown]
    simp [step, note, sound.shown k data]

theorem Sound.meanwhile (sound : s.Sound c) (change : FileStore → FileStore) :
    (s.step c (.meanwhile change)).Sound c :=
  ⟨⟨sound.recorded.lawful, sound.recorded.kept⟩, sound.shown⟩

theorem sound_note_shown {desk : Desk (List DataEvent)} {readers : Nat → LazyBytes} {k : Nat}
    {answer : Except Fault Bytes} {lazy : LazyBytes} (recorded : desk.Recorded c)
    (shown : ∀ k data, (readers k).value = some data ↔ .shown k (.ok data) ∈ desk.host)
    (due : (DataEvent.shown k answer).Due c desk.host)
    (holds : ∀ data, lazy.value = some data ↔ (readers k).value = some data ∨ answer = .ok data) :
    (note (.shown k answer) ⟨desk, Function.update readers k lazy⟩).Sound c := by
  refine ⟨⟨recorded.lawful.concat due, ?_⟩, ?_⟩
  · intro side data
    simp [note, log, Desk.withHost, DataEvent.isFreed, DataEvent.loaded_concat_shown,
      recorded.kept side data]
  · intro other data
    simp only [note, log, Desk.withHost, List.mem_append, List.mem_singleton,
      DataEvent.shown.injEq, ← shown]
    by_cases same : other = k
    · subst same
      simp [holds, eq_comm]
    · simp [same]

theorem Sound.read_held (sound : s.Sound c) {k : Nat} {data : Bytes}
    (held : (s.readers k).value = some data) : (s.step c (.read k)).Sound c := by
  have got := LazyBytes.runOn_get_of_held held (c.askFor (some k) .input) s.desk
  have earlier : .shown k (.ok data) ∈ s.log := (sound.shown k data).mp held
  simp only [step, read, got]
  apply sound_note_shown sound.recorded sound.shown
  · constructor
    · intro other listed
      have same := (sound.shown k other).mpr listed
      rw [held] at same
      simpa using same
    · intro unshown
      exact absurd earlier (unshown data)
  · intro other
    simp [held]

theorem Sound.read_unread (sound : s.Sound c) {k : Nat} (unread : (s.readers k).value = none) :
    (s.step c (.read k)).Sound c := by
  have unshown : ∀ data, .shown k (.ok data) ∉ s.log := by
    intro data listed
    have held := (sound.shown k data).mpr listed
    simp [unread] at held
  have asks : ∀ other, some k = some other →
      CaseSide.input = .input ∧ ∀ data, .shown other (.ok data) ∉ s.log := by
    intro other same
    cases same
    exact ⟨rfl, unshown⟩
  obtain ⟨later, ran, grown, recorded⟩ := sound.recorded.askFor asks
  generalize ((c.dataOf .input).runOn s.desk).1 = answer at ran grown
  have shown : ∀ other data, (s.readers other).value = some data ↔
      .shown other (.ok data) ∈ later.host := by
    intro other data
    simp [grown, sound.shown other data, log]
  have due : (DataEvent.shown k answer).Due c later.host := by
    constructor
    · intro data listed
      simp [grown] at listed
      exact absurd listed (unshown data)
    · intro _
      exact ⟨s.log, s.desk.files, grown⟩
  have got := LazyBytes.runOn_get_of_unread unread (c.askFor (some k) .input) s.desk
  rw [ran] at got
  simp only [step, read, got]
  cases answer with
  | ok data =>
    apply sound_note_shown recorded shown due
    intro other
    simp [unread]
  | error fault =>
    rw [← Function.update_eq_self k s.readers]
    apply sound_note_shown recorded shown due
    intro other
    simp

theorem Sound.step (sound : s.Sound c) (next : ReadingStep) : (s.step c next).Sound c := by
  cases next with
  | ask side => exact sound.ask side
  | free => exact sound.free
  | read k =>
    cases held : (s.readers k).value with
    | none => exact sound.read_unread held
    | some data => exact sound.read_held held
  | meanwhile change => exact sound.meanwhile change

theorem Sound.run (sound : s.Sound c) (steps : List ReadingStep) : (s.run c steps).Sound c := by
  induction steps generalizing s with
  | nil => exact sound
  | cons next rest ih => exact ih (sound.step next)

end ReadingRoom

/-- However the data of a case is asked for, freed and read lazily while its files change, every
answer is due: between two times that it is freed, a side answers what its source held when it was
first loaded; a lazy reader asks for the input until it has shown it once, and shows the same ever
after; it is loaded from then on. Data that cannot be loaded changes nothing. -/
theorem ReadingRoom.answers_due (c : TestCase) (files : FileStore) (steps : List ReadingStep) :
    let s := (opened files).run c steps
    Lawful (DataEvent.Due c) s.log ∧
    (∀ next, (s.step c next).log = s.log ++ s.told c next) ∧
    (∀ k, (s.readers k).isLoaded = true ↔ ∃ data, .shown k (.ok data) ∈ s.log) ∧
    (∀ side fault later, (c.dataOf side).Stops s.desk fault later → later = s.desk) := by
  intro s
  have sound : s.Sound c := (sound_opened files).run steps
  refine ⟨sound.recorded.lawful, fun next => log_step next, ?_, ?_⟩
  · intro k
    rw [LazyBytes.isLoaded, Option.isSome_iff_exists]
    exact exists_congr (sound.shown k)
  · intro side fault later stops
    exact TestCase.dataOf_stops stops

end ContestJudge
