import ContestJudge.Proofs.Conversation
import ContestJudge.Proofs.Delivery
import ContestJudge.Proofs.Leases
/-!
The temporary files of a case: its input, which the case keeps until it is done, and the expected
output that an interactor is told of. However a case goes, both are gone when it is done, and
nothing stays loaded.
-/

namespace ContestJudge

/-- Data that was loaded is loaded again once an empty temporary file holds it, also where it was
loaded from there. -/
theorem DataSource.load_filled {source : DataSource} {store : FileStore} {location : Location}
    {path : String} {data : Bytes} {count : Nat}
    (loads : source.load (store.lease location path [] count) = .ok data) :
    source.load (store.lease location path data count) = .ok data := by
  cases source with
  | inline content => exact loads
  | file other => exact FileStore.read_lease_of_read_unfilled loads

namespace CaseData

def Genuine (content : Bytes) (data : CaseData) : Prop :=
  ∀ bytes, data.input = some bytes → bytes = content

theorem genuine_none (content : Bytes) : Genuine content .none := nofun

theorem genuine_some (content : Bytes) (data : CaseData) :
    Genuine content { data with input := some content } :=
  fun _ loaded => (Option.some.inj loaded).symm

theorem Genuine.of_eq {content : Bytes} {data later : CaseData} (genuine : data.Genuine content)
    (same : later = data) : later.Genuine content := same ▸ genuine

end CaseData

section Shelves

variable {σ : Type}

namespace Desk

def shelf (desk : Desk σ) : FileStore × Option String := (desk.files, desk.data.materialized)

theorem shelf_ignores_sandbox : IgnoresSandbox (shelf : Desk σ → FileStore × Option String) where
  host _ _ := rfl
  act _ _ _ := rfl

theorem shelf_ignores_loads : IgnoresLoads (shelf : Desk σ → FileStore × Option String) where
  input _ _ := rfl
  output _ _ := rfl

/-- A desk that has the files of another one. More temporary names may be used up. -/
structure Reshelved (desk later : Desk σ) : Prop where
  files : ∃ number, later.files = desk.files.renumber number
  kept : later.data.materialized = desk.data.materialized

theorem Reshelved.of_shelf {desk later : Desk σ} (same : later.shelf = desk.shelf) :
    desk.Reshelved later where
  files := ⟨desk.files.nextName, (congrArg Prod.fst same :)⟩
  kept := congrArg Prod.snd same

structure Cleared (first : FileStore) (desk : Desk σ) : Prop where
  data : desk.data = .none
  files : ∃ number, desk.files = first.renumber number

end Desk

/-- What a case keeps of its input at a desk that has some first files besides. -/
inductive Keeping (first : FileStore) (desk : Desk σ) : Prop where
  | nothing {number : Nat} (files : desk.files = first.renumber number)
      (kept : desk.data.materialized = none)
  | input {number : Nat} {location : Location} {path : String} {content : Bytes}
      (vacant : (first.renumber number).Vacant location path)
      (files : desk.files = (first.renumber number).lease location path content 1)
      (kept : desk.data.materialized = some path)

/-- A desk at which the input of a case is in place as a file. A temporary one is held once by the
case and once by whoever asked for it. -/
inductive Supplied (first : FileStore) (c : TestCase) : CaseInput → Desk σ → Prop where
  | inPlace {desk : Desk σ} {path : String} {number : Nat} (source : c.input = .file path)
      (files : desk.files = first.renumber number) (kept : desk.data.materialized = none) :
      Supplied first c ⟨path, false⟩ desk
  | temporary {desk : Desk σ} {number : Nat} {location : Location} {path : String} {content : Bytes}
      (source : c.input = .inline content)
      (vacant : (first.renumber number).Vacant location path)
      (files : desk.files = (first.renumber number).lease location path content 2)
      (kept : desk.data.materialized = some path) : Supplied first c ⟨path, true⟩ desk

variable {first : FileStore} {c : TestCase} {input : CaseInput} {desk later : Desk σ}

theorem Supplied.of_reshelved (supplied : Supplied first c input desk)
    (same : desk.Reshelved later) : Supplied first c input later := by
  obtain ⟨number, files'⟩ := same.files
  cases supplied with
  | inPlace source files kept =>
    rw [files] at files'
    exact .inPlace source files' (same.kept.trans kept)
  | temporary source vacant files kept =>
    rw [files] at files'
    exact .temporary source (vacant.renumber number) files' (same.kept.trans kept)

theorem Supplied.extends (supplied : Supplied first c input desk) : first.Extends desk.files := by
  cases supplied with
  | inPlace source files kept =>
    rw [files]
    exact FileStore.extends_renumber first _
  | temporary source vacant files kept =>
    rw [files]
    exact (FileStore.extends_renumber first _).trans (FileStore.extends_lease vacant)

theorem Supplied.read (supplied : Supplied first c input desk) {store : FileStore}
    (grown : desk.files.Extends store) : store.read input.path = c.input.load store := by
  cases supplied with
  | inPlace source files kept => rw [source, DataSource.load]
  | temporary source vacant files kept =>
    rw [source, DataSource.load]
    rw [files] at grown
    exact grown.read (FileStore.read_lease vacant)

theorem Supplied.absent (supplied : Supplied first c input desk) (inline : c.input.path? = none) :
    first.isPresent input.path = false := by
  cases supplied with
  | inPlace source files kept =>
    rw [source] at inline
    cases inline
  | temporary source vacant files kept =>
    have unfound := FileStore.not_isPresent_of_vacant vacant
    exact (FileStore.extends_renumber first _).not_isPresent unfound

theorem Supplied.letGo (supplied : Supplied first c input desk) :
    Keeping first (input.letGo desk) := by
  cases supplied with
  | inPlace source files kept => exact .nothing files kept
  | @temporary desk number location path content source vacant files kept =>
    have released : desk.files.release path =
        (first.renumber number).lease location path content 1 := by
      rw [files, FileStore.release_lease vacant]
    exact .input vacant released kept

theorem Keeping.of_shelf (keeping : Keeping first desk) (same : later.shelf = desk.shelf) :
    Keeping first later := by
  have files' : later.files = desk.files := congrArg Prod.fst same
  have kept' : later.data.materialized = desk.data.materialized := congrArg Prod.snd same
  cases keeping with
  | nothing files kept => exact .nothing (files'.trans files) (kept'.trans kept)
  | input vacant files kept => exact .input vacant (files'.trans files) (kept'.trans kept)

theorem Keeping.cleared (keeping : Keeping first desk) : desk.freeData.Cleared first := by
  refine ⟨rfl, ?_⟩
  cases keeping with
  | nothing files kept =>
    simp only [Desk.freeData, kept]
    exact ⟨_, files⟩
  | input vacant files kept =>
    simp only [Desk.freeData, kept, Desk.discard, Desk.withFiles, files,
      FileStore.release_lease_last vacant]
    exact ⟨_, rfl⟩

end Shelves

section Supply

variable {σ : Type}

namespace TestCase

theorem runOn_newTemporary (desk : Desk σ) :
    newTemporary.runOn desk = (desk.files.createTemporary.1.mapError Fault.ofFile,
      desk.withFiles desk.files.createTemporary.2) := rfl

theorem leads_newTemporary (desk : Desk σ) :
    newTemporary.Leads desk
      (fun path later => path = FileStore.temporaryPath desk.files.nextName ∧
        ∃ location, (desk.files.renumber (desk.files.nextName + 1)).Vacant location path ∧
          later = desk.withFiles
            ((desk.files.renumber (desk.files.nextName + 1)).lease location path [] 1))
      (fun later => later = desk.withFiles (desk.files.renumber (desk.files.nextName + 1)) ∧
        ∃ cause, desk.files.temporarySite desk.files.nextName = .error cause) := by
  rcases desk.files.createTemporary_cases with ⟨cause, site, refused⟩ | ⟨location, vacant, made⟩
  · have ran := runOn_newTemporary desk
    rw [refused] at ran
    exact .inr ⟨.ofFile cause, _, ran, rfl, cause, site⟩
  · have ran := runOn_newTemporary desk
    rw [made] at ran
    exact .inl ⟨_, _, ran, rfl, location, vacant, rfl⟩

variable {c : TestCase} {store : FileStore} {location : Location} {path : String}
  {content : Bytes} {desk : Desk σ}

theorem leads_fillLease (vacant : store.Vacant location path)
    (files : desk.files = store.lease location path content 1) (data : Bytes) :
    (fillTemporary path data).Leads desk
      (fun _ later => later = desk.withFiles (store.lease location path data 1))
      (fun later => later = desk ∧ store.rejection path data ≠ none) := by
  cases rejected : store.rejection path data with
  | none =>
    have fills : desk.files.fill path data = .ok (store.lease location path data 1) := by
      rw [files, FileStore.fill_lease vacant rejected]
    exact .inl ⟨(), _, fillTemporary_gives fills, rfl⟩
  | some cause =>
    have refuses : desk.files.fill path data = .error cause := by
      rw [files, FileStore.fill_lease_of_rejected rejected]
    exact .inr ⟨.ofFile cause, desk, Work.runOn_bind_of_stops (onFiles_stops refuses) _, rfl, nofun⟩

theorem inputData_gives (source : c.input = .inline content) (genuine : desk.data.Genuine content) :
    c.inputData.Gives desk content
      { desk with data := { desk.data with input := some content } } := by
  rw [Work.Gives, inputData, Work.runOn_bind, Work.runOn_get]
  cases kept : desk.data.input with
  | some data =>
    obtain rfl : data = content := genuine data kept
    have same : { desk with data := { desk.data with input := some data } } = desk := by
      rw [← kept]
    rw [same]
    simp only [kept, Work.runOn_pure]
  | none =>
    have loads : c.input.load desk.files = .ok content := by rw [source, DataSource.load]
    simp only [kept]
    rw [Work.runOn_bind_of_gives (onFiles_gives loads)]
    rfl

theorem outputData_of_gives {later : Desk σ} {expected : Bytes}
    (unread : desk.data.output = none) (loads : c.outputData.Gives desk expected later) :
    c.output.load desk.files = .ok expected ∧ later.files = desk.files := by
  have files : later.files = desk.files :=
    congrArg Prod.fst ((keeps_outputData Desk.shelf_ignores_loads c).of_gives loads)
  refine ⟨?_, files⟩
  rw [Work.Gives, outputData, Work.runOn_bind, Work.runOn_get] at loads
  simp only [unread] at loads
  cases answer : c.output.load desk.files with
  | error cause => cases (Work.runOn_bind_of_stops (onFiles_stops answer) _).symm.trans loads
  | ok data =>
    rw [Work.runOn_bind_of_gives (onFiles_gives answer)] at loads
    cases loads
    rfl

theorem leads_keepIn (source : c.input = .inline content) (genuine : desk.data.Genuine content)
    (vacant : store.Vacant location path) (files : desk.files = store.lease location path [] 1) :
    (c.keepIn path).Leads desk
      (fun _ later => later.files = store.lease location path content 1 ∧
        later.data = { desk.data with input := some content, materialized := some path })
      (fun later => later.files = store.lease location path [] 1 ∧
        later.data = { desk.data with input := some content } ∧
        store.rejection path content ≠ none) := by
  refine Work.leads_bind_of_gives (inputData_gives source genuine) ?_
  let loaded : Desk σ := { desk with data := { desk.data with input := some content } }
  have leased : loaded.files = store.lease location path [] 1 := files
  have fill := leads_fillLease vacant leased content
  refine (fill.mono (fun _ _ held => held) ?_).bind ?_
  · rintro _ ⟨rfl, rejected⟩
    exact ⟨files, rfl, rejected⟩
  · rintro _ _ - rfl
    exact .inl ⟨_, _, rfl, rfl, rfl⟩

theorem leads_materialize (source : c.input = .inline content)
    (unkept : desk.data.materialized = none) (genuine : desk.data.Genuine content) :
    c.materialize.Leads desk
      (fun path later => path = FileStore.temporaryPath desk.files.nextName ∧
        ∃ location, (desk.files.renumber (desk.files.nextName + 1)).Vacant location path ∧
          later.files =
            (desk.files.renumber (desk.files.nextName + 1)).lease location path content 1 ∧
          later.data = { desk.data with input := some content, materialized := some path })
      (fun later => later.files = desk.files.renumber (desk.files.nextName + 1) ∧
        later.data.materialized = none ∧ later.data.Genuine content ∧
        ¬desk.files.TakesTemporary content) := by
  have looked : (get : Judge σ (Desk σ)).Gives desk desk desk := rfl
  refine Work.leads_bind_of_gives looked ?_
  simp only [unkept]
  refine ((leads_newTemporary desk).mono (fun _ _ held => held) ?_).bind ?_
  · rintro _ ⟨rfl, cause, refused⟩
    refine ⟨rfl, unkept, genuine, fun takes => ?_⟩
    obtain ⟨location, site⟩ := takes.site
    cases refused.symm.trans site
  rintro path _ - ⟨named, location, vacant, rfl⟩
  let leased := desk.withFiles
    ((desk.files.renumber (desk.files.nextName + 1)).lease location path [] 1)
  have keep : (c.keepIn path).Leads leased _ _ := leads_keepIn source genuine vacant rfl
  refine (keep.unlessDone ?_).bind ?_
  · rintro later ⟨files, data, rejected⟩
    refine ⟨?_, ?_, ?_, fun takes => ?_⟩
    · change later.files.release path = _
      rw [files, FileStore.release_lease_last vacant]
    · exact (congrArg CaseData.materialized data).trans unkept
    · exact (CaseData.genuine_some content _).of_eq data
    · rw [named] at rejected
      exact rejected takes.unrejected
  · exact fun _ later _ held => .inl ⟨path, later, rfl, named, location, vacant, held⟩

theorem inputFile_gives_inPlace {path : String} (source : c.input = .file path) :
    c.inputFile.Gives desk ⟨path, false⟩ desk := by
  rw [Work.Gives, inputFile, source]
  rfl

theorem inputFile_gives_kept (source : c.input = .inline content)
    (kept : desk.data.materialized = some path) :
    c.inputFile.Gives desk ⟨path, true⟩ (desk.withFiles (desk.files.retain path)) := by
  have materializes : c.materialize.Gives desk path desk := by
    rw [Work.Gives, materialize, Work.runOn_bind, Work.runOn_get]
    simp only [kept, Work.runOn_pure]
  rw [Work.Gives, inputFile, source, Work.runOn_bind_of_gives materializes]
  rfl

theorem leads_inputFile_new (source : c.input = .inline content)
    (unkept : desk.data.materialized = none) (genuine : desk.data.Genuine content) :
    c.inputFile.Leads desk
      (fun input later => input = ⟨FileStore.temporaryPath desk.files.nextName, true⟩ ∧
        ∃ location, (desk.files.renumber (desk.files.nextName + 1)).Vacant location input.path ∧
          later.files = (desk.files.renumber (desk.files.nextName + 1)).lease location input.path
            content 2 ∧
          later.data = { desk.data with input := some content, materialized := some input.path })
      (fun later => later.files = desk.files.renumber (desk.files.nextName + 1) ∧
        later.data.materialized = none ∧ later.data.Genuine content ∧
        ¬desk.files.TakesTemporary content) := by
  rw [inputFile, source]
  refine (leads_materialize source unkept genuine).bind ?_
  rintro _ later - ⟨rfl, location, vacant, files, data⟩
  refine .inl ⟨_, _, rfl, rfl, location, vacant, ?_, data⟩
  change later.files.retain _ = _
  rw [files, FileStore.retain_lease vacant]

theorem leads_inputFile (c : TestCase) (unloaded : desk.data = .none) :
    c.inputFile.Leads desk
      (fun input later => Supplied desk.files c input later ∧ later.data.output = none)
      (Keeping desk.files) := by
  have unkept : desk.data.materialized = none := by rw [unloaded, CaseData.none]
  have unread : desk.data.output = none := by rw [unloaded, CaseData.none]
  cases source : c.input with
  | file path =>
    have files : desk.files = desk.files.renumber desk.files.nextName := rfl
    exact .inl ⟨_, desk, inputFile_gives_inPlace source, .inPlace source files unkept, unread⟩
  | inline content =>
    have genuine : desk.data.Genuine content := (CaseData.genuine_none content).of_eq unloaded
    refine (leads_inputFile_new source unkept genuine).mono ?_ ?_
    · rintro _ later ⟨rfl, location, vacant, files, data⟩
      have kept := congrArg CaseData.materialized data
      have unread' := (congrArg CaseData.output data).trans unread
      exact ⟨.temporary source vacant files kept, unread'⟩
    · rintro later ⟨files, kept, -⟩
      exact .nothing files kept

end TestCase

/-- A case is cleared up when what is launched leaves the input in place, and what is concluded and
finished from there leaves no more than what the case keeps. -/
theorem GradingSteps.cleared_gradeCase {Run : Type} {steps : GradingSteps σ Run} {c : TestCase}
    {first : FileStore} {desk : Desk σ} {ready : Run → Desk σ → Prop}
    (launch : (steps.launch c).Leads desk ready (Keeping first))
    (conclude : ∀ run launched, ready run launched →
      Keeping first (steps.finish ((steps.conclude c).runOn ⟨launched, run⟩).2.run
        ((steps.conclude c).runOn ⟨launched, run⟩).2.desk)) :
    ((steps.gradeCase c).runOn desk).2.Cleared first := by
  have ran : Keeping first ((steps.runCase c).runOn desk).2 := by
    rcases launch with ⟨run, launched, gives, held⟩ | ⟨fault, left, stops, held⟩
    · rw [GradingSteps.runOn_runCase gives]
      exact conclude run launched held
    · rw [GradingSteps.runCase, Work.runOn_bind_of_stops stops]
      exact held
  rw [GradingSteps.gradeCase, Work.runOn_always]
  exact ran.cleared

end Supply

namespace StandardGrader

variable {σ : Type} (g : StandardGrader σ) (c : TestCase)

theorem keeps_shelf_consult (consultation : Consultation) (lazy : LazyBytes) :
    (consult c lazy consultation : Judge σ (Except CheckerFault Judgement)).Keeps Desk.shelf := by
  induction consultation generalizing lazy with
  | answer said => exact Work.keeps_pure said
  | readInput next ih =>
    have reads : (lazy.get c.inputData : Judge σ (LazyBytes × Bytes)).Keeps Desk.shelf := by
      unfold LazyBytes.get
      split
      · exact Work.keeps_pure _
      · exact (TestCase.keeps_inputData Desk.shelf_ignores_loads c).bind fun _ => Work.keeps_pure _
    unfold consult
    refine reads.attempt.bind fun loaded => ?_
    rcases loaded with fault | ⟨read, data⟩
    · exact ih _ _
    · have shows : (Judge.note (.inputShown data) : Judge σ Unit).Keeps Desk.shelf := fun _ => rfl
      exact shows.bind fun _ => ih _ _

theorem keeps_shelf_runChecker (result : CaseResult) :
    (g.runChecker c result).Keeps Desk.shelf := by
  unfold runChecker
  split
  · exact Work.keeps_pure _
  · refine (TestCase.keeps_outputData Desk.shelf_ignores_loads c).bind fun expected => ?_
    refine Work.Keeps.bind (fun _ => rfl) fun _ => ?_
    exact (keeps_shelf_consult c _ _).bind fun _ => Work.keeps_ofExcept _

theorem keeps_shelf_conclude :
    (g.steps.conclude c).Keeps fun session => session.desk.shelf := by
  refine GradingSteps.keeps_conclude (fun result => ?_) (fun stderr result => ?_) fun result => ?_
  · refine Work.keeps_get.bind fun session => ?_
    refine Work.Keeps.bind (Session.keeps_atDesk ?_) fun _ => Work.keeps_pure _
    exact keeps_collect Desk.shelf_ignores_sandbox g c session.run
  · exact Work.keeps_get.bind fun session =>
      Session.keeps_atDesk (Sandbox.keeps_populate _ _ stderr result)
  · exact Session.keeps_atDesk (g.keeps_shelf_runChecker c result)

theorem keeps_run_conclude : (g.steps.conclude c).Keeps Session.run := by
  refine GradingSteps.keeps_conclude (fun result => ?_) (fun stderr result => ?_) fun result => ?_
  · exact Work.keeps_get.bind fun session =>
      (Session.keeps_run_atDesk _).bind fun _ => Work.keeps_pure _
  · exact Work.keeps_get.bind fun session => Session.keeps_run_atDesk _
  · exact Session.keeps_run_atDesk _

theorem leads_launch {desk : Desk σ} (unloaded : desk.data = .none) :
    (g.steps.launch c).Leads desk (fun run later => Supplied desk.files c run.input later)
      (Keeping desk.files) := by
  have supply := TestCase.leads_inputFile c unloaded
  refine (supply.mono (fun _ _ held => held) fun _ held => held).bind ?_
  rintro input supplied - ⟨inPlace, -⟩
  have settled : (g.launchOn c input).Leads supplied
      (fun run later => Supplied desk.files c run.input later) (Supplied desk.files c input) := by
    rcases (keeps_launchOn Desk.shelf_ignores_sandbox g c input).leads supplied with
      ⟨run, launched, gives, same⟩ | ⟨fault, left, stops, same⟩
    · have launched' : Supplied desk.files c input launched := inPlace.of_reshelved (.of_shelf same)
      rw [← (run_of_launchOn gives).1] at launched'
      exact .inl ⟨run, launched, gives, launched'⟩
    · exact .inr ⟨fault, left, stops, inPlace.of_reshelved (.of_shelf same)⟩
  exact settled.unlessDone fun later held => held.letGo

theorem cleared_gradeCase (desk : Desk σ) (unloaded : desk.data = .none) :
    ((g.steps.gradeCase c).runOn desk).2.Cleared desk.files := by
  refine GradingSteps.cleared_gradeCase (g.leads_launch c unloaded) fun run launched supplied => ?_
  have same : ((g.steps.conclude c).runOn ⟨launched, run⟩).2.desk.shelf = launched.shelf :=
    g.keeps_shelf_conclude c ⟨launched, run⟩
  rw [g.keeps_run_conclude c ⟨launched, run⟩]
  generalize ((g.steps.conclude c).runOn ⟨launched, run⟩).2.desk = ended at same ⊢
  have released : (g.bench.sandbox.letGo run.process ended).shelf = launched.shelf := same
  exact (supplied.of_reshelved (.of_shelf released)).letGo

end StandardGrader

namespace Desk

variable {σ : Type} {store : FileStore} {location : Location} {path : String}
  {kept : Option String} {desk later start : Desk σ}

def Leased (store : FileStore) (location : Location) (path : String) (kept : Option String)
    (desk : Desk σ) : Prop :=
  desk.data.materialized = kept ∧ ∃ content, desk.files = store.lease location path content 1

theorem Leased.of_shelf (leased : desk.Leased store location path kept)
    (same : later.shelf = desk.shelf) : later.Leased store location path kept := by
  obtain ⟨holds, content, files⟩ := leased
  exact ⟨(congrArg Prod.snd same).trans holds, content, (congrArg Prod.fst same).trans files⟩

theorem Leased.discard {number : Nat} (vacant : (start.files.renumber number).Vacant location path)
    (leased : desk.Leased (start.files.renumber number) location path start.data.materialized) :
    start.Reshelved (desk.discard path) := by
  obtain ⟨holds, content, files⟩ := leased
  have released : desk.files.release path = start.files.renumber number := by
    rw [files, FileStore.release_lease_last vacant]
  exact ⟨⟨number, released⟩, holds⟩

end Desk

namespace InteractiveGrader

variable {σ : Type} (g : InteractiveGrader σ) (c : TestCase)

section Answer

variable {store : FileStore} {location : Location} {answer : String} {kept : Option String}

theorem maintains_fillAnswer (vacant : store.Vacant location answer) :
    (do TestCase.fillTemporary answer (← c.outputData) : Judge σ Unit).Maintains
      (Desk.Leased store location answer kept) := by
  refine Work.Maintains.bind ?_ fun expected => ?_
  · exact (TestCase.keeps_outputData Desk.shelf_ignores_loads c).maintains
      fun _ _ same leased => leased.of_shelf same
  · rintro desk ⟨holds, content, files⟩
    refine Work.Leads.left ((TestCase.leads_fillLease vacant files expected).mono ?_ ?_)
    · rintro _ _ rfl
      exact ⟨holds, expected, rfl⟩
    · rintro _ ⟨rfl, -⟩
      exact ⟨holds, content, files⟩

theorem maintains_converse (vacant : store.Vacant location answer) (input : String) :
    (g.converse c input answer).Maintains
      fun session => session.desk.Leased store location answer kept := by
  refine Work.Maintains.bind (fun session leased => ?_) fun _ => ?_
  · exact maintains_fillAnswer c vacant session.desk leased
  · exact (keeps_meeting Desk.shelf_ignores_sandbox g input answer).maintains
      fun _ _ same leased => leased.of_shelf same

theorem reshelved_after_answer (input : String) (session : Session σ InteractiveRun) :
    session.desk.Reshelved ((do
      let answer ← Session.atDesk TestCase.newTemporary
      (g.converse c input answer).always (tidying (Desk.discard answer)) :
        Work (Session σ InteractiveRun) Bytes).runOn session).2.desk := by
  let reshelved : Session σ InteractiveRun → Prop := fun later => session.desk.Reshelved later.desk
  have provide : (Session.atDesk TestCase.newTemporary).Leads session _ _ :=
    Session.leads_atDesk (TestCase.leads_newTemporary session.desk)
  have ended : (do
      let answer ← Session.atDesk TestCase.newTemporary
      (g.converse c input answer).always (tidying (Desk.discard answer)) :
        Work (Session σ InteractiveRun) Bytes).Leads session (fun _ => reshelved) reshelved := by
    refine (provide.mono (fun _ _ held => held) ?_).bind ?_
    · rintro later ⟨⟨same, -⟩, -⟩
      change session.desk.Reshelved later.desk
      rw [same]
      exact ⟨⟨_, rfl⟩, rfl⟩
    · rintro answer provided - ⟨⟨-, location, vacant, same⟩, -⟩
      generalize session.desk.files.nextName + 1 = number at vacant same
      have leased : provided.desk.Leased (session.desk.files.renumber number) location answer
          session.desk.data.materialized := by
        rw [same]
        exact ⟨rfl, [], rfl⟩
      have talk := (g.maintains_converse c vacant input).leads leased
      exact talk.always (fun _ _ held => held.discard vacant) fun _ held => held.discard vacant
  exact ended.left

end Answer

theorem leads_interact_keeping {session : Session σ InteractiveRun}
    (unloaded : session.desk.data = .none) (result : CaseResult) :
    (g.interact c result).Leads session
      (fun _ later => Keeping session.desk.files later.desk)
      (fun later => Keeping session.desk.files later.desk) := by
  have supply : (Session.atDesk c.inputFile).Leads session _ _ :=
    Session.leads_atDesk (TestCase.leads_inputFile c unloaded)
  refine (supply.mono (fun _ _ held => held) fun _ held => held.1).bind ?_
  rintro input supplied - ⟨⟨inPlace, -⟩, -⟩
  refine (Work.leads_of_left ?_).bind fun stderr later _ held => .inl ⟨_, later, rfl, held⟩
  rw [Work.runOn_always]
  exact (inPlace.of_reshelved (g.reshelved_after_answer c input.path supplied)).letGo

theorem leads_conclude_keeping (session : Session σ InteractiveRun)
    (unloaded : session.desk.data = .none) :
    (g.steps.conclude c).Leads session
      (fun _ later => Keeping session.desk.files later.desk)
      (fun later => Keeping session.desk.files later.desk) := by
  refine (g.leads_interact_keeping c unloaded _).bind ?_
  rintro ⟨captured, stderr⟩ ended - keeping
  have judged : (do
      let observed ← g.steps.populate stderr captured
      let judgement ← g.steps.check c observed
      return observed.apply (judgement.normalize c.points) :
        Work (Session σ InteractiveRun) CaseResult).Keeps fun session => session.desk.shelf :=
    (keeps_populate g stderr captured).bind fun observed =>
      (keeps_check Desk.shelf_ignores_sandbox g c observed).bind fun _ => Work.keeps_pure _
  exact (judged.leads ended).mono (fun _ _ same => keeping.of_shelf same)
    fun _ same => keeping.of_shelf same

theorem cleared_gradeCase (desk : Desk σ) (unloaded : desk.data = .none) :
    ((g.steps.gradeCase c).runOn desk).2.Cleared desk.files := by
  have keeping {later : Desk σ} (same : later.material = desk.material) :
      Keeping desk.files later := by
    have files : later.files = desk.files.renumber desk.files.nextName := congrArg Prod.fst same
    have data : later.data = .none := (congrArg Prod.snd same).trans unloaded
    exact .nothing files (congrArg CaseData.materialized data)
  have launch := (keeps_launch Desk.material_ignores_sandbox g c).leads desk
  refine GradingSteps.cleared_gradeCase (launch.mono (fun _ _ held => held) fun _ => keeping) ?_
  intro run launched same
  have files : launched.files = desk.files := congrArg Prod.fst same
  have data : launched.data = .none := (congrArg Prod.snd same).trans unloaded
  have concluded := (g.leads_conclude_keeping c ⟨launched, run⟩ data).left
  rw [files] at concluded
  exact concluded.of_shelf (view_finish Desk.shelf_ignores_sandbox g _ _)

end InteractiveGrader

theorem Grader.cleared_grade {σ : Type} (g : Grader σ) (c : TestCase) (desk : Desk σ)
    (unloaded : desk.data = .none) : ((g.grade c).runOn desk).2.Cleared desk.files := by
  cases g with
  | standard grader => exact grader.cleared_gradeCase c desk unloaded
  | interactive grader => exact grader.cleared_gradeCase c desk unloaded

end ContestJudge
