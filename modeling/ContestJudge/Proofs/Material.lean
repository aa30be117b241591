import ContestJudge.Judge.Standard
import ContestJudge.Proofs.Desk

namespace ContestJudge

/-- Views that look alike only if the material is the same, and go on to do so when the material of
both changes in the same way, or the same act is noted at both. -/
structure Desk.SeesMaterial {σ τ υ : Type} (view : Desk σ → υ) (other : Desk τ → υ) : Prop where
  material : ∀ {desk desk'}, view desk = other desk' → desk.material = desk'.material
  files : ∀ {desk desk'}, view desk = other desk' → ∀ files,
    view (desk.withFiles files) = other (desk'.withFiles files)
  data : ∀ {desk desk'}, view desk = other desk' → ∀ data,
    view { desk with data := data } = other { desk' with data := data }
  act : ∀ {desk desk'}, view desk = other desk' → ∀ act,
    view (desk.note act) = other (desk'.note act)

theorem Desk.sees_material {σ τ : Type} :
    SeesMaterial (material : Desk σ → FileStore × CaseData)
      (material : Desk τ → FileStore × CaseData) where
  material same := same
  files same _ := Prod.ext rfl (congrArg Prod.snd same :)
  data same _ := Prod.ext (congrArg Prod.fst same :) rfl
  act same _ := same

section Loading

variable {σ τ υ : Type} {view : Desk σ → υ} {other : Desk τ → υ}
  (sees : Desk.SeesMaterial view other)

namespace Desk.SeesMaterial

include sees

variable {desk : Desk σ} {desk' : Desk τ} (same : view desk = other desk')
include same

theorem files_eq : desk.files = desk'.files := congrArg Prod.fst (sees.material same)

theorem data_eq : desk.data = desk'.data := congrArg Prod.snd (sees.material same)

theorem withFiles (change : FileStore → FileStore) :
    view (desk.withFiles (change desk.files)) = other (desk'.withFiles (change desk'.files)) := by
  rw [sees.files_eq same]
  exact sees.files same _

theorem withData (change : CaseData → CaseData) :
    view { desk with data := change desk.data } =
      other { desk' with data := change desk'.data } := by
  rw [sees.data_eq same]
  exact sees.data same _

end Desk.SeesMaterial

include sees

theorem alike_onFiles {α : Type} (ask : FileStore → Except FileFault α) :
    Work.Alike view other (Judge.onFiles ask : Judge σ α) (Judge.onFiles ask : Judge τ α) :=
  Work.alike_get_bind fun desk desk' same => by
    rw [sees.files_eq same]
    exact Work.alike_ofExcept _

theorem alike_note (act : Act) :
    Work.Alike view other (Judge.note act : Judge σ Unit) (Judge.note act : Judge τ Unit) :=
  Work.alike_modify fun _ _ same => sees.act same act

namespace TestCase

variable (c : TestCase)

theorem alike_inputData : Work.Alike view other (c.inputData : Judge σ Bytes)
    (c.inputData : Judge τ Bytes) := by
  refine Work.alike_get_bind fun desk desk' same => ?_
  rw [sees.data_eq same]
  split
  · exact Work.alike_pure _
  · refine (alike_onFiles sees _).bind fun data => ?_
    refine Work.Alike.bind ?_ fun _ => Work.alike_pure data
    exact Work.alike_modify fun _ _ same =>
      sees.withData same fun loaded => { loaded with input := some data }

theorem alike_outputData : Work.Alike view other (c.outputData : Judge σ Bytes)
    (c.outputData : Judge τ Bytes) := by
  refine Work.alike_get_bind fun desk desk' same => ?_
  rw [sees.data_eq same]
  split
  · exact Work.alike_pure _
  · refine (alike_onFiles sees _).bind fun data => ?_
    refine Work.Alike.bind ?_ fun _ => Work.alike_pure data
    exact Work.alike_modify fun _ _ same =>
      sees.withData same fun loaded => { loaded with output := some data }

theorem alike_newTemporary : Work.Alike view other (newTemporary : Judge σ String)
    (newTemporary : Judge τ String) := by
  intro desk desk' same
  refine ⟨?_, sees.withFiles same fun files => files.createTemporary.2⟩
  change desk.files.createTemporary.1.mapError _ = desk'.files.createTemporary.1.mapError _
  rw [sees.files_eq same]

theorem alike_fillTemporary (path : String) (data : Bytes) :
    Work.Alike view other (fillTemporary path data : Judge σ Unit)
      (fillTemporary path data : Judge τ Unit) :=
  (alike_onFiles sees _).bind fun files =>
    Work.alike_modify fun _ _ same => sees.files same files

theorem alike_materialize : Work.Alike view other (c.materialize : Judge σ String)
    (c.materialize : Judge τ String) := by
  refine Work.alike_get_bind fun desk desk' same => ?_
  rw [sees.data_eq same]
  split
  · exact Work.alike_pure _
  · refine (alike_newTemporary sees).bind fun path => ?_
    refine Work.Alike.bind ?_ fun _ => Work.alike_pure path
    refine Work.Alike.unlessDone ?_ fun _ _ same => sees.withFiles same (·.release path)
    refine (alike_inputData sees c).bind fun data => ?_
    refine (alike_fillTemporary sees path data).bind fun _ => ?_
    exact Work.alike_modify fun _ _ same =>
      sees.withData same fun loaded => { loaded with materialized := some path }

theorem alike_inputFile : Work.Alike view other (c.inputFile : Judge σ CaseInput)
    (c.inputFile : Judge τ CaseInput) := by
  unfold inputFile
  split
  · exact Work.alike_pure _
  · refine (alike_materialize sees c).bind fun path => ?_
    refine Work.Alike.bind ?_ fun _ => Work.alike_pure _
    exact Work.alike_modify fun _ _ same => sees.withFiles same (·.retain path)

omit sees in
theorem inputData_stops {desk later : Desk σ} {fault : Fault}
    (stops : c.inputData.Stops desk fault later) : later = desk := by
  rw [Work.Stops, inputData, Work.runOn_bind, Work.runOn_get] at stops
  cases loaded : desk.data.input with
  | some data =>
    simp only [loaded, Work.runOn_pure, Prod.mk.injEq, reduceCtorEq, false_and] at stops
  | none =>
    simp only [loaded, Judge.onFiles, Work.runOn_bind, Work.runOn_get, Work.runOn_ofExcept] at stops
    cases answer : (c.input.load desk.files).mapError Fault.ofFile with
    | error cause =>
      simp only [answer, Prod.mk.injEq] at stops
      exact stops.2.symm
    | ok data =>
      simp only [answer, Work.runOn_modify, Work.runOn_pure, Prod.mk.injEq, reduceCtorEq,
        false_and] at stops

end TestCase
end Loading

def Consultation.settle (input : Except Fault Bytes) :
    Consultation → Except CheckerFault Judgement
  | .answer said => said
  | .readInput next => (next input).settle input

section Consulting

variable {σ : Type} {c : TestCase}

theorem LazyBytes.runOn_get_unread (load : Judge σ Bytes) (desk : Desk σ) :
    (unread.get load).runOn desk =
      ((load.runOn desk).1.map fun data => (⟨some data⟩, data), (load.runOn desk).2) := by
  rw [LazyBytes.get]
  simp only [unread, Work.runOn_bind]
  rcases load.runOn desk with ⟨fault | data, later⟩ <;> rfl

theorem runOn_consult_of_read (consultation : Consultation) (data : Bytes) (desk : Desk σ) :
    ∃ later, (consult c ⟨some data⟩ consultation).Gives desk (consultation.settle (.ok data)) later ∧
      later.consultations = desk.consultations := by
  induction consultation generalizing desk with
  | answer said => exact ⟨desk, rfl, rfl⟩
  | readInput next ih =>
    obtain ⟨later, gives, kept⟩ := ih (.ok data) (desk.note (.inputShown data))
    refine ⟨later, ?_, ?_⟩
    · rw [Work.Gives, consult]
      exact gives
    · rw [kept, Desk.consultations_note]
      exact List.append_nil _

/-- A checker is shown one input, however often it asks. -/
theorem runOn_consult (consultation : Consultation) (desk : Desk σ) :
    ∃ later, (consult c .unread consultation).Gives desk
        (consultation.settle (c.inputData.runOn desk).1) later ∧
      later.consultations = desk.consultations := by
  induction consultation with
  | answer said => exact ⟨desk, rfl, rfl⟩
  | readInput next ih =>
    -- Input that was read is kept for the rest; a load that failed left the desk as it was, so the
    -- next one fails alike.
    rcases Work.gives_or_stops c.inputData desk with ⟨data, loaded, gives⟩ | ⟨fault, left, stops⟩
    · obtain ⟨later, settles, kept⟩ :=
        runOn_consult_of_read (c := c) (next (.ok data)) data (loaded.note (.inputShown data))
      refine ⟨later, ?_, ?_⟩
      · rw [Work.Gives, consult, Work.runOn_bind, Work.runOn_attempt, LazyBytes.runOn_get_unread,
          gives]
        exact settles
      · rw [kept, Desk.consultations_note, ← TestCase.keeps_inputData
          Desk.consultations_ignore_material.loads c desk, gives]
        exact List.append_nil _
    · obtain rfl := TestCase.inputData_stops c stops
      obtain ⟨later, settles, kept⟩ := ih (.error fault)
      refine ⟨later, ?_, kept⟩
      rw [Work.Gives, consult, Work.runOn_bind, Work.runOn_attempt, LazyBytes.runOn_get_unread,
        stops]
      rw [stops] at settles
      exact settles

theorem alike_consult {τ υ : Type} {view : Desk σ → υ} {other : Desk τ → υ}
    (sees : Desk.SeesMaterial view other) (consultation : Consultation) (lazy : LazyBytes) :
    Work.Alike view other (consult c lazy consultation : Judge σ (Except CheckerFault Judgement))
      (consult c lazy consultation : Judge τ (Except CheckerFault Judgement)) := by
  induction consultation generalizing lazy with
  | answer said => exact Work.alike_pure said
  | readInput next ih =>
    have reads : Work.Alike view other (lazy.get c.inputData : Judge σ (LazyBytes × Bytes))
        (lazy.get c.inputData : Judge τ (LazyBytes × Bytes)) := by
      unfold LazyBytes.get
      split
      · exact Work.alike_pure _
      · exact (TestCase.alike_inputData sees c).bind fun data => Work.alike_pure _
    unfold consult
    refine reads.attempt.bind fun loaded => ?_
    rcases loaded with fault | ⟨read, data⟩
    · exact ih _ _
    · exact (alike_note sees _).bind fun _ => ih _ _

end Consulting
end ContestJudge
