import ContestJudge.Proofs.InputHandles
/-!
How long the input of a case is there as a file. One that was made for it is there until the case
and the last handle let go of it, and one case keeps the same file until its data is freed; an input
that is a file is lent in place, and nothing happens to it.
-/

namespace ContestJudge.Lending

section Inline

variable {σ : Type} {c : TestCase} {content : Bytes} {first : FileStore} {s : Lending σ}
  {path : String}

theorem kept_step (source : c.input = .inline content)
    (kept : s.desk.data.materialized = some path) {next : LendingStep} (unfreed : next ≠ .free) :
    (s.step c next).desk.data.materialized = some path := by
  cases next with
  | load side => exact (congrArg Prod.snd (c.shelf_dataOf side s.desk)).trans kept
  | lend =>
    rw [step, lend_of_kept source kept]
    exact kept
  | share place =>
    rcases s.share_cases c place with same | ⟨input, -, same⟩ <;> rw [same]
    · exact kept
    · exact (congrArg CaseData.materialized (input.data_share s.desk)).trans kept
  | drop place =>
    rcases s.drop_cases c place with same | ⟨input, -, same⟩ <;> rw [same]
    · exact kept
    · exact (congrArg CaseData.materialized (input.data_letGo s.desk)).trans kept
  | free => exact absurd rfl unfreed

theorem kept_run (source : c.input = .inline content)
    (kept : s.desk.data.materialized = some path) {steps : List LendingStep}
    (unfreed : .free ∉ steps) : (s.run c steps).desk.data.materialized = some path := by
  induction steps generalizing s with
  | nil => exact kept
  | cons next rest ih =>
    rw [List.mem_cons, not_or] at unfreed
    exact ih (kept_step source kept (Ne.symm unfreed.1)) unfreed.2

structure Renewed (number : Nat) (s : Lending σ) : Prop where
  grown : number ≤ s.desk.files.nextName
  kept : ∀ path, s.desk.data.materialized = some path →
    ∃ later ≥ number, path = FileStore.temporaryPath later

theorem Renewed.of_data {number : Nat} {later : Lending σ} (renewed : s.Renewed number)
    (names : later.desk.files.nextName = s.desk.files.nextName)
    (same : later.desk.data.materialized = s.desk.data.materialized) : later.Renewed number where
  grown := names ▸ renewed.grown
  kept path kept := renewed.kept path (same.symm.trans kept)

theorem renewed_free : (s.step c .free).Renewed s.desk.files.nextName where
  grown := Nat.le_of_eq s.desk.nextName_freeData.symm
  kept := nofun

theorem Renewed.lend {number : Nat} (renewed : s.Renewed number)
    (source : c.input = .inline content) (genuine : s.desk.data.Genuine content) :
    (s.step c .lend).Renewed number := by
  rw [step]
  cases kept : s.desk.data.materialized with
  | some path =>
    rw [lend_of_kept source kept]
    exact renewed.of_data (FileStore.nextName_retain _ _) rfl
  | none =>
    have grown : number ≤ s.desk.files.nextName + 1 := Nat.le_succ_of_le renewed.grown
    rcases lend_of_unkept source kept genuine with
      ⟨location, path, later, named, lends, vacant, files, data⟩ |
      ⟨later, lends, files, unkept, genuine⟩
    · rw [lends]
      refine ⟨?_, fun other same => ?_⟩
      · rw [files]
        exact grown
      · rw [data] at same
        obtain rfl : path = other := Option.some.inj same
        exact ⟨_, renewed.grown, named⟩
    · rw [lends]
      refine ⟨?_, fun other same => ?_⟩
      · rw [files]
        exact grown
      · rw [unkept] at same
        cases same

theorem Renewed.step {number : Nat} (renewed : s.Renewed number)
    (sound : s.Sound first content) (source : c.input = .inline content) (next : LendingStep) :
    (s.step c next).Renewed number := by
  cases next with
  | load side =>
    have same := c.shelf_dataOf side s.desk
    exact renewed.of_data (congrArg (·.1.nextName) same) (congrArg Prod.snd same)
  | lend => exact renewed.lend source sound.genuine
  | share place =>
    rcases s.share_cases c place with same | ⟨input, -, same⟩ <;> rw [same]
    · exact renewed
    · exact renewed.of_data (input.nextName_share s.desk)
        (congrArg CaseData.materialized (input.data_share s.desk))
  | drop place =>
    rcases s.drop_cases c place with same | ⟨input, -, same⟩ <;> rw [same]
    · exact renewed
    · exact renewed.of_data (input.nextName_letGo s.desk)
        (congrArg CaseData.materialized (input.data_letGo s.desk))
  | free => exact ⟨Nat.le_trans renewed.grown renewed_free.grown, nofun⟩

theorem Renewed.run {number : Nat} (renewed : s.Renewed number) (sound : s.Sound first content)
    (source : c.input = .inline content) (steps : List LendingStep) :
    (s.run c steps).Renewed number := by
  induction steps generalizing s with
  | nil => exact renewed
  | cons next rest ih => exact ih (renewed.step sound source next) (sound.step source next)

theorem kept_of_lent {input : CaseInput} {later : Desk σ} (source : c.input = .inline content)
    (genuine : s.desk.data.Genuine content) (gives : c.inputFile.Gives s.desk input later) :
    input = ⟨input.path, true⟩ ∧
      (s.step c .lend).desk.data.materialized = some input.path := by
  have lends : (s.step c .lend).desk = later := by
    rw [step, Lending.lend, gives]
  rw [lends]
  cases kept : s.desk.data.materialized with
  | some path =>
    cases gives.symm.trans (TestCase.inputFile_gives_kept source kept)
    exact ⟨rfl, kept⟩
  | none =>
    obtain ⟨rfl, _, -, -, data⟩ :=
      (TestCase.leads_inputFile_new source kept genuine).of_gives gives
    exact ⟨rfl, congrArg CaseData.materialized data⟩

theorem left_of_unlent {fault : Fault} {left : Desk σ} (source : c.input = .inline content)
    (genuine : s.desk.data.Genuine content) (stops : c.inputFile.Stops s.desk fault left) :
    ¬s.desk.files.TakesTemporary content ∧ left.data.materialized = none ∧
      left.files = s.desk.files.renumber (s.desk.files.nextName + 1) := by
  cases kept : s.desk.data.materialized with
  | some path => cases stops.symm.trans (TestCase.inputFile_gives_kept source kept)
  | none =>
    rcases TestCase.leads_inputFile_new source kept genuine with
      ⟨input, later, gives, -⟩ | ⟨_, later, stops', files, unkept, -, untaken⟩
    · cases stops.symm.trans gives
    · cases stops.symm.trans stops'
      exact ⟨untaken, unkept, files⟩

/-- What is referred to at one moment is at any moment a file with the input, or not there. -/
theorem Sound.fits {t : Lending σ} (sound : s.Sound first content) (sound' : t.Sound first content)
    (refers : t.Refers path) :
    (s.desk.files.isPresent path = true ↔ s.Refers path) ∧
      (s.Refers path → s.desk.files.read path = .ok content) := by
  obtain ⟨number, -, rfl, location, vacant⟩ := sound'.referred refers
  exact ⟨sound.isPresent_iff vacant, fun there =>
    sound.shares.read (references_ne_zero_iff.mpr there)⟩

theorem lends_same {input : CaseInput} {lent : Desk σ} {steps : List LendingStep}
    (source : c.input = .inline content) (genuine : s.desk.data.Genuine content)
    (gives : c.inputFile.Gives s.desk input lent) (unfreed : .free ∉ steps) :
    ∃ again, c.inputFile.Gives ((s.step c .lend).run c steps).desk input again := by
  obtain ⟨held, kept⟩ := kept_of_lent source genuine gives
  rw [held]
  exact ⟨_, TestCase.inputFile_gives_kept source (kept_run source kept unfreed)⟩

/-- What a case lends after it has freed its data was not referred to before. -/
theorem Sound.lends_other {input : CaseInput} {lent : Desk σ} {steps : List LendingStep}
    (sound : s.Sound first content) (source : c.input = .inline content)
    (gives : c.inputFile.Gives ((s.step c .free).run c steps).desk input lent) :
    ¬s.Refers input.path := by
  intro refers
  obtain ⟨number, used, named, -⟩ := sound.referred refers
  have freed : (s.step c .free).Sound first content := sound.free
  have later := freed.run source steps
  have renewed := renewed_free.run freed source steps
  obtain ⟨-, kept⟩ := kept_of_lent source later.genuine gives
  obtain ⟨number', unused, named'⟩ := (renewed.lend source later.genuine).kept _ kept
  obtain rfl : number = number' := FileStore.temporaryPath_inj (named.symm.trans named')
  exact Nat.not_le_of_lt used unused

end Inline

section Unaccessed

variable {σ : Type} {c : TestCase} {s : Lending σ}

theorem data_step_of_unaccessed (unloaded : s.desk.data = .none) {next : LendingStep}
    (unaccessed : next.isAccess = false) : (s.step c next).desk.data = .none := by
  cases next with
  | load side => cases unaccessed
  | lend => cases unaccessed
  | share place =>
    rcases s.share_cases c place with same | ⟨input, -, same⟩ <;> rw [same]
    · exact unloaded
    · exact (input.data_share s.desk).trans unloaded
  | drop place =>
    rcases s.drop_cases c place with same | ⟨input, -, same⟩ <;> rw [same]
    · exact unloaded
    · exact (input.data_letGo s.desk).trans unloaded
  | free => rfl

theorem data_run_of_unaccessed (unloaded : s.desk.data = .none) {steps : List LendingStep}
    (unaccessed : ∀ next ∈ steps, next.isAccess = false) : (s.run c steps).desk.data = .none := by
  induction steps generalizing s with
  | nil => exact unloaded
  | cons next rest ih =>
    rw [List.forall_mem_cons] at unaccessed
    exact ih (data_step_of_unaccessed unloaded unaccessed.1) unaccessed.2

end Unaccessed

section InPlace

variable {σ : Type} {c : TestCase} {s : Lending σ} {first : FileStore} {path : String}

structure Untouched (first : FileStore) (s : Lending σ) : Prop where
  files : s.desk.files = first
  unkept : s.desk.data.materialized = none
  unheld : ∀ input ∈ s.handles, input.isHeld = false

theorem Untouched.step (untouched : s.Untouched first) (source : c.input = .file path)
    (next : LendingStep) : (s.step c next).Untouched first := by
  cases next with
  | load side =>
    have same := c.shelf_dataOf side s.desk
    exact ⟨(congrArg Prod.fst same).trans untouched.files,
      (congrArg Prod.snd same).trans untouched.unkept, untouched.unheld⟩
  | lend =>
    rw [Lending.step, lend, TestCase.inputFile_gives_inPlace source]
    exact ⟨untouched.files, untouched.unkept,
      List.forall_mem_append.mpr ⟨untouched.unheld, List.forall_mem_singleton.mpr rfl⟩⟩
  | share place =>
    rcases s.share_cases c place with same | ⟨input, listed, same⟩ <;> rw [same]
    · exact untouched
    · have unheld := untouched.unheld input listed
      simp only [CaseInput.share, unheld, Bool.false_eq_true, if_false]
      exact ⟨untouched.files, untouched.unkept,
        List.forall_mem_append.mpr ⟨untouched.unheld, List.forall_mem_singleton.mpr unheld⟩⟩
  | drop place =>
    rcases s.drop_cases c place with same | ⟨input, there, same⟩ <;> rw [same]
    · exact untouched
    · have listed := List.mem_of_getElem? there
      simp only [CaseInput.letGo, untouched.unheld input listed, Bool.false_eq_true, if_false]
      exact ⟨untouched.files, untouched.unkept,
        fun other present => untouched.unheld other (List.mem_of_mem_eraseIdx present)⟩
  | free =>
    have same := Desk.files_freeData_of_unkept s.desk untouched.unkept
    exact ⟨same.trans untouched.files, rfl, untouched.unheld⟩

theorem Untouched.run (untouched : s.Untouched first) (source : c.input = .file path)
    (steps : List LendingStep) : (s.run c steps).Untouched first := by
  induction steps generalizing s with
  | nil => exact untouched
  | cons next rest ih => exact ih (untouched.step source next)

end InPlace

/-- However the data of a case is loaded, lent and freed and handles are shared and dropped: after
the data is freed nothing is loaded until it is used again, and what is used is loaded. Inline input
that is lent is in a file just as long as the case or a handle refers to it, and the file holds that
input. Between two times that the data is freed one file is lent, and later none that was referred
to then. Only a file that cannot be made is not lent, and it leaves no trace but a number that is
used up. Input that is a file is lent in place, and no file comes or goes. -/
theorem files_while_referred {σ : Type} (c : TestCase) (files : FileStore) (host : σ)
    (earlier later : List LendingStep) :
    let before := (opened files host).run c earlier
    let after := before.run c later
    let freed := before.step c .free
    ((∀ next ∈ later, next.isAccess = false) → (freed.run c later).desk.data.isLoaded = false) ∧
    (∀ side data left, (c.dataOf side).Gives before.desk data left → left.data.isLoaded = true) ∧
    match c.input with
    | .inline content =>
      (∀ path, before.Refers path ∨ after.Refers path → ∀ s ∈ [before, after],
        (s.desk.files.isPresent path = true ↔ s.Refers path) ∧
        (s.Refers path → s.desk.files.read path = .ok content)) ∧
      (∀ input lent, c.inputFile.Gives before.desk input lent → .free ∉ later →
        ∃ again, c.inputFile.Gives ((before.step c .lend).run c later).desk input again) ∧
      (∀ input lent, c.inputFile.Gives (freed.run c later).desk input lent →
        ¬before.Refers input.path) ∧
      (∀ fault left, c.inputFile.Stops before.desk fault left →
        ¬before.desk.files.TakesTemporary content ∧ left.data.materialized = none ∧
        ∃ number, left.files = before.desk.files.renumber number)
    | .file path =>
      c.inputFile.Gives before.desk ⟨path, false⟩ before.desk ∧ after.desk.files = files := by
  intro before after freed
  refine ⟨fun unaccessed => ?_, fun side data left gives => ?_, ?_⟩
  · have unloaded : (freed.run c later).desk.data = .none := data_run_of_unaccessed rfl unaccessed
    rw [unloaded]
    rfl
  · exact CaseData.isLoaded_of_side (TestCase.side_of_gives gives)
  cases source : c.input with
  | file path =>
    have untouched : after.Untouched files := by
      have start : (opened files host).Untouched files := ⟨rfl, rfl, nofun⟩
      exact (start.run source earlier).run source later
    exact ⟨TestCase.inputFile_gives_inPlace source, untouched.files⟩
  | inline content =>
    have sound : before.Sound files content := (sound_opened files content host).run source earlier
    have sound' : after.Sound files content := sound.run source later
    refine ⟨?_, ?_, ?_, ?_⟩
    · intro path refers s moment
      have fits {t : Lending σ} (ended : t.Sound files content) (there : t.Refers path) :
          (s.desk.files.isPresent path = true ↔ s.Refers path) ∧
            (s.Refers path → s.desk.files.read path = .ok content) := by
        rcases List.mem_pair.mp moment with rfl | rfl
        · exact sound.fits ended there
        · exact sound'.fits ended there
      exact refers.elim (fits sound) (fits sound')
    · intro input lent gives unfreed
      exact lends_same source sound.genuine gives unfreed
    · intro input lent gives
      exact sound.lends_other source gives
    · intro fault left stops
      obtain ⟨untaken, unkept, same⟩ := left_of_unlent source sound.genuine stops
      exact ⟨untaken, unkept, _, same⟩

/-- A handle that was shared outlives the case and the handle that it was made of. -/
example :
    let s := (opened .empty ()).run (Sample.testCase 64) [.lend, .share 0, .free, .drop 0]
    let gone := s.step (Sample.testCase 64) (.drop 0)
    s.handles = [⟨"/tmp/.tmp0", true⟩] ∧ s.desk.files.read "/tmp/.tmp0" = .ok [52] ∧
      gone.handles = [] ∧ gone.desk.files.isPresent "/tmp/.tmp0" = false := by
  decide

end ContestJudge.Lending
