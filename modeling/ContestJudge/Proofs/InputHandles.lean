import ContestJudge.Proofs.CaseFiles
import ContestJudge.Proofs.SharedFiles
import ContestJudge.Proofs.Snapshots
import Mathlib.Data.List.Perm.Basic

namespace ContestJudge

structure Lending (σ : Type) where
  desk : Desk σ
  handles : List CaseInput

/-- What is done with the data of a case. A handle is told by its place among those that are held. -/
inductive LendingStep where
  | load (side : CaseSide)
  | lend
  | share (place : Nat)
  | drop (place : Nat)
  | free
  deriving DecidableEq

def LendingStep.isAccess : LendingStep → Bool
  | .load _ => true
  | .lend => true
  | _ => false

namespace Lending

section Course

variable {σ : Type}

def opened (files : FileStore) (host : σ) : Lending σ := ⟨.fresh files host, []⟩

def lend (c : TestCase) (s : Lending σ) : Lending σ :=
  match c.inputFile.runOn s.desk with
  | (.ok input, desk) => ⟨desk, s.handles ++ [input]⟩
  | (.error _, desk) => { s with desk := desk }

def step (c : TestCase) (s : Lending σ) : LendingStep → Lending σ
  | .load side => { s with desk := ((c.dataOf side).runOn s.desk).2 }
  | .lend => s.lend c
  | .share place =>
    match s.handles[place]? with
    | some input => ⟨input.share s.desk, s.handles ++ [input]⟩
    | none => s
  | .drop place =>
    match s.handles[place]? with
    | some input => ⟨input.letGo s.desk, s.handles.eraseIdx place⟩
    | none => s
  | .free => { s with desk := s.desk.freeData }

def run (c : TestCase) (s : Lending σ) (steps : List LendingStep) : Lending σ :=
  steps.foldl (step c) s

def Refers (s : Lending σ) (path : String) : Prop :=
  s.desk.data.materialized = some path ∨ ∃ input ∈ s.handles, input.path = path

def references (s : Lending σ) (path : String) : Nat :=
  s.handles.countP (·.path = path) + if s.desk.data.materialized = some path then 1 else 0

theorem share_cases (c : TestCase) (s : Lending σ) (place : Nat) :
    s.step c (.share place) = s ∨ ∃ input ∈ s.handles,
      s.step c (.share place) = ⟨input.share s.desk, s.handles ++ [input]⟩ := by
  cases there : s.handles[place]? with
  | none => exact .inl (by simp only [step, there])
  | some input => exact .inr ⟨input, List.mem_of_getElem? there, by simp only [step, there]⟩

theorem drop_cases (c : TestCase) (s : Lending σ) (place : Nat) :
    s.step c (.drop place) = s ∨ ∃ input, s.handles[place]? = some input ∧
      s.step c (.drop place) = ⟨input.letGo s.desk, s.handles.eraseIdx place⟩ := by
  cases there : s.handles[place]? with
  | none => exact .inl (by simp only [step, there])
  | some input => exact .inr ⟨input, rfl, by simp only [step, there]⟩

end Course

section References

variable {σ : Type} {s : Lending σ} {desk : Desk σ} {path : String} {input : CaseInput}
  {place : Nat}

theorem references_ne_zero_iff : s.references path ≠ 0 ↔ s.Refers path := by
  have held : s.handles.countP (·.path = path) ≠ 0 ↔ ∃ input ∈ s.handles, input.path = path := by
    simp [List.countP_eq_zero]
  rw [references, Refers, ← held]
  split
  · rename_i kept
    simp [kept]
  · rename_i unkept
    simp [unkept]

theorem references_ne_zero_of_mem (listed : input ∈ s.handles) : s.references input.path ≠ 0 :=
  references_ne_zero_iff.mpr (.inr ⟨input, listed, rfl⟩)

theorem references_concat (same : desk.data.materialized = s.desk.data.materialized) :
    (mk desk (s.handles ++ [input])).references =
      Function.update s.references input.path (s.references input.path + 1) := by
  funext sought
  simp only [references, same, List.countP_append, List.countP_singleton]
  by_cases here : sought = input.path
  · subst here
    simp only [Function.update_self, decide_true, if_true]
    omega
  · rw [Function.update_of_ne here, references]
    simp [Ne.symm here]

theorem references_eraseIdx (there : s.handles[place]? = some input)
    (same : desk.data.materialized = s.desk.data.materialized) :
    (mk desk (s.handles.eraseIdx place)).references =
      Function.update s.references input.path (s.references input.path - 1) := by
  obtain ⟨bound, rfl⟩ := List.getElem?_eq_some_iff.mp there
  funext sought
  have count : s.handles.countP (·.path = sought) =
      (s.handles.eraseIdx place).countP (·.path = sought) +
        if s.handles[place].path = sought then 1 else 0 := by
    rw [← (List.getElem_cons_eraseIdx_perm bound).countP_eq, List.countP_cons]
    simp only [decide_eq_true_eq]
  simp only [references, same]
  by_cases here : sought = s.handles[place].path
  · subst here
    rw [if_pos rfl] at count
    rw [Function.update_self, count]
    omega
  · rw [if_neg (Ne.symm here)] at count
    rw [Function.update_of_ne here, references, count]
    rfl

theorem references_of_shelf (same : desk.data.materialized = s.desk.data.materialized) :
    (mk desk s.handles).references = s.references := by
  funext sought
  simp only [references, same]

theorem references_free (kept : s.desk.data.materialized = some path)
    (freed : desk.data.materialized = none) :
    (mk desk s.handles).references =
      Function.update s.references path (s.references path - 1) := by
  funext sought
  by_cases here : sought = path
  · simp [references, freed, kept, here]
  · simp [references, freed, kept, Function.update_of_ne here, Ne.symm here]

theorem references_lend {isHeld : Bool} (unkept : s.desk.data.materialized = none)
    (unreferred : s.references path = 0) (kept : desk.data.materialized = some path) :
    (mk desk (s.handles ++ [⟨path, isHeld⟩])).references =
      Function.update s.references path 2 := by
  funext sought
  simp only [references, unkept, reduceCtorEq, if_false, Nat.add_zero] at unreferred
  by_cases here : sought = path
  · simp [references, kept, here, unreferred]
  · simp [references, unkept, kept, Function.update_of_ne here, Ne.symm here]

end References

end Lending

section Handles

variable {σ : Type} (input : CaseInput) (desk : Desk σ)

theorem CaseInput.data_share : (input.share desk).data = desk.data := by
  unfold share
  split <;> rfl

theorem CaseInput.data_letGo : (input.letGo desk).data = desk.data := by
  unfold letGo
  split <;> rfl

theorem CaseInput.nextName_share :
    (input.share desk).files.nextName = desk.files.nextName := by
  unfold share
  split
  · exact FileStore.nextName_retain _ _
  · rfl

theorem CaseInput.nextName_letGo :
    (input.letGo desk).files.nextName = desk.files.nextName := by
  unfold letGo
  split
  · exact FileStore.nextName_release _ _
  · rfl

variable {input}

theorem CaseInput.files_share (held : input.isHeld = true) :
    (input.share desk).files = desk.files.retain input.path := by
  rw [share, if_pos held]
  rfl

theorem CaseInput.files_letGo (held : input.isHeld = true) :
    (input.letGo desk).files = desk.files.release input.path := by
  rw [letGo, if_pos held]
  rfl

theorem Desk.files_freeData_of_kept {path : String} (kept : desk.data.materialized = some path) :
    desk.freeData.files = desk.files.release path := by
  simp only [freeData, kept]
  rfl

theorem Desk.files_freeData_of_unkept (unkept : desk.data.materialized = none) :
    desk.freeData.files = desk.files := by
  simp only [freeData, unkept]

theorem Desk.nextName_freeData : desk.freeData.files.nextName = desk.files.nextName := by
  cases kept : desk.data.materialized with
  | some path => rw [files_freeData_of_kept desk kept, FileStore.nextName_release]
  | none => rw [files_freeData_of_unkept desk kept]

end Handles

section Loads

variable {σ : Type} {c : TestCase} {content : Bytes} {desk : Desk σ}

theorem TestCase.shelf_dataOf (c : TestCase) (side : CaseSide) (desk : Desk σ) :
    ((c.dataOf side).runOn desk).2.shelf = desk.shelf := by
  cases side with
  | input => exact keeps_inputData Desk.shelf_ignores_loads c desk
  | output => exact keeps_outputData Desk.shelf_ignores_loads c desk

theorem TestCase.genuine_dataOf (source : c.input = .inline content)
    (genuine : desk.data.Genuine content) (side : CaseSide) :
    ((c.dataOf side).runOn desk).2.data.Genuine content := by
  cases kept : desk.data.side side with
  | some data =>
    rw [dataOf_gives_kept kept]
    exact genuine
  | none =>
    cases loads : (c.source side).load desk.files with
    | error cause =>
      rw [dataOf_stops_unloaded kept loads]
      exact genuine
    | ok data =>
      rw [dataOf_gives_loaded kept loads]
      cases side with
      | output => exact genuine
      | input =>
        rw [TestCase.source, source] at loads
        cases loads
        exact CaseData.genuine_some content _

end Loads

namespace Lending

structure Sound {σ : Type} (first : FileStore) (content : Bytes) (s : Lending σ) : Prop where
  genuine : s.desk.data.Genuine content
  held : ∀ input ∈ s.handles, input.isHeld = true
  shares : first.Shares content s.references s.desk.files

section Inline

variable {σ : Type} {c : TestCase} {content : Bytes} {first : FileStore} {s : Lending σ}
  {path : String}

theorem sound_opened (first : FileStore) (content : Bytes) (host : σ) :
    (opened first host).Sound first content where
  genuine := CaseData.genuine_none content
  held := nofun
  shares := FileStore.shares_none first content

theorem lend_of_kept (source : c.input = .inline content)
    (kept : s.desk.data.materialized = some path) : s.lend c =
      ⟨s.desk.withFiles (s.desk.files.retain path), s.handles ++ [⟨path, true⟩]⟩ := by
  rw [lend, TestCase.inputFile_gives_kept source kept]

theorem lend_of_unkept (source : c.input = .inline content)
    (unkept : s.desk.data.materialized = none) (genuine : s.desk.data.Genuine content) :
    (∃ location path later, path = FileStore.temporaryPath s.desk.files.nextName ∧
      s.lend c = ⟨later, s.handles ++ [⟨path, true⟩]⟩ ∧
      (s.desk.files.renumber (s.desk.files.nextName + 1)).Vacant location path ∧
      later.files =
        (s.desk.files.renumber (s.desk.files.nextName + 1)).lease location path content 2 ∧
      later.data = { s.desk.data with input := some content, materialized := some path }) ∨
    ∃ later, s.lend c = ⟨later, s.handles⟩ ∧
      later.files = s.desk.files.renumber (s.desk.files.nextName + 1) ∧
      later.data.materialized = none ∧ later.data.Genuine content := by
  rcases TestCase.leads_inputFile_new source unkept genuine with
    ⟨_, later, gives, rfl, location, vacant, files, data⟩ |
    ⟨fault, later, stops, files, unkept, genuine, -⟩
  · refine .inl ⟨location, _, later, rfl, ?_, vacant, files, data⟩
    rw [lend, gives]
  · refine .inr ⟨later, ?_, files, unkept, genuine⟩
    rw [lend, stops]

theorem Sound.load (sound : s.Sound first content) (source : c.input = .inline content)
    (side : CaseSide) : (s.step c (.load side)).Sound first content := by
  have same := c.shelf_dataOf side s.desk
  refine ⟨TestCase.genuine_dataOf source sound.genuine side, sound.held, ?_⟩
  rw [step, references_of_shelf (congrArg Prod.snd same)]
  have files : ((c.dataOf side).runOn s.desk).2.files = s.desk.files := congrArg Prod.fst same
  rw [files]
  exact sound.shares

theorem Sound.lend (sound : s.Sound first content) (source : c.input = .inline content) :
    (s.step c .lend).Sound first content := by
  have held (path : String) : ∀ input ∈ s.handles ++ [⟨path, true⟩], input.isHeld = true :=
    List.forall_mem_append.mpr ⟨sound.held, List.forall_mem_singleton.mpr rfl⟩
  rw [step]
  cases kept : s.desk.data.materialized with
  | some path =>
    have referred : s.references path ≠ 0 := references_ne_zero_iff.mpr (.inl kept)
    rw [lend_of_kept source kept]
    refine ⟨sound.genuine, held path, ?_⟩
    have same : (s.desk.withFiles (s.desk.files.retain path)).data.materialized =
        s.desk.data.materialized := rfl
    rw [references_concat same]
    exact sound.shares.retain referred
  | none =>
    have grown := sound.shares.renumber (Nat.le_succ s.desk.files.nextName)
    rcases lend_of_unkept source kept sound.genuine with
      ⟨location, path, later, named, lends, vacant, files, data⟩ |
      ⟨later, lends, files, unkept, genuine⟩
    · rw [lends]
      have genuine : later.data.Genuine content :=
        (CaseData.genuine_some content { s.desk.data with materialized := some path }).of_eq data
      refine ⟨genuine, held path, ?_⟩
      rw [references_lend kept (grown.unreferred vacant) (congrArg CaseData.materialized data),
        files]
      exact grown.lease vacant ⟨_, Nat.lt_succ_self _, named⟩ (Nat.succ_ne_zero 1)
    · rw [lends]
      refine ⟨genuine, sound.held, ?_⟩
      rw [references_of_shelf (unkept.trans kept.symm), files]
      exact grown

theorem Sound.share (sound : s.Sound first content) (place : Nat) :
    (s.step c (.share place)).Sound first content := by
  rcases s.share_cases c place with same | ⟨input, listed, same⟩ <;> rw [same]
  · exact sound
  · have held := sound.held input listed
    have data := input.data_share s.desk
    refine ⟨sound.genuine.of_eq data, ?_, ?_⟩
    · exact List.forall_mem_append.mpr ⟨sound.held, List.forall_mem_singleton.mpr held⟩
    · rw [references_concat (congrArg CaseData.materialized data), CaseInput.files_share _ held]
      exact sound.shares.retain (references_ne_zero_of_mem listed)

theorem Sound.drop (sound : s.Sound first content) (place : Nat) :
    (s.step c (.drop place)).Sound first content := by
  rcases s.drop_cases c place with same | ⟨input, there, same⟩ <;> rw [same]
  · exact sound
  · have listed := List.mem_of_getElem? there
    have data := input.data_letGo s.desk
    refine ⟨sound.genuine.of_eq data, ?_, ?_⟩
    · intro other present
      exact sound.held other (List.mem_of_mem_eraseIdx present)
    · rw [references_eraseIdx there (congrArg CaseData.materialized data),
        CaseInput.files_letGo _ (sound.held input listed)]
      exact sound.shares.release (references_ne_zero_of_mem listed)

theorem Sound.free (sound : s.Sound first content) : (s.step c .free).Sound first content := by
  refine ⟨CaseData.genuine_none content, sound.held, ?_⟩
  rw [step]
  cases kept : s.desk.data.materialized with
  | some path =>
    rw [references_free kept rfl, Desk.files_freeData_of_kept _ kept]
    exact sound.shares.release (references_ne_zero_iff.mpr (.inl kept))
  | none =>
    rw [references_of_shelf kept.symm, Desk.files_freeData_of_unkept _ kept]
    exact sound.shares

theorem Sound.step (sound : s.Sound first content) (source : c.input = .inline content)
    (next : LendingStep) : (s.step c next).Sound first content := by
  cases next with
  | load side => exact sound.load source side
  | lend => exact sound.lend source
  | share place => exact sound.share place
  | drop place => exact sound.drop place
  | free => exact sound.free

theorem Sound.run (sound : s.Sound first content) (source : c.input = .inline content)
    (steps : List LendingStep) : (s.run c steps).Sound first content := by
  induction steps generalizing s with
  | nil => exact sound
  | cons next rest ih => exact ih (sound.step source next)

theorem Sound.referred (sound : s.Sound first content) (refers : s.Refers path) :
    ∃ number < s.desk.files.nextName, path = FileStore.temporaryPath number ∧
      ∃ location, first.Vacant location path := by
  have referred := references_ne_zero_iff.mpr refers
  obtain ⟨number, used, named⟩ := sound.shares.named path referred
  obtain ⟨location, vacant, -⟩ := sound.shares.lent path referred
  exact ⟨number, used, named, location, vacant⟩

theorem Sound.isPresent_iff (sound : s.Sound first content) {number : Nat} {location : Location}
    (vacant : first.Vacant location (FileStore.temporaryPath number)) :
    s.desk.files.isPresent (FileStore.temporaryPath number) = true ↔
      s.Refers (FileStore.temporaryPath number) := by
  rw [← references_ne_zero_iff]
  constructor
  · intro present gone
    rw [FileStore.not_isPresent_of_vacant (sound.shares.vacant_of_unreferred gone vacant)] at present
    cases present
  · exact sound.shares.isPresent

end Inline

end Lending
end ContestJudge
