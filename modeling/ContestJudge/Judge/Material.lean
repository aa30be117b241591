import ContestJudge.Judge.Desk
/-!
The data of a case, loaded when it is first needed and kept until the case is done. Inline input
that is needed as a file is put into a temporary one, which lives as long as the case keeps it or
somebody holds it.
-/

namespace ContestJudge

def DataSource.load (source : DataSource) (files : FileStore) : Except FileFault Bytes :=
  match source with
  | .inline data => .ok data
  | .file path => files.read path

structure CaseInput where
  path : String
  /-- Whether the file is a temporary one with a holder in this handle. -/
  isHeld : Bool
  deriving DecidableEq

namespace CaseInput

def share {σ : Type} (input : CaseInput) (desk : Desk σ) : Desk σ :=
  if input.isHeld then desk.withFiles (desk.files.retain input.path) else desk

def letGo {σ : Type} (input : CaseInput) (desk : Desk σ) : Desk σ :=
  if input.isHeld then desk.discard input.path else desk

def openToRead {σ : Type} (input : CaseInput) : Judge σ OpenedFile :=
  Judge.onFiles (·.openToRead input.path)

end CaseInput

namespace TestCase

variable {σ : Type}

def inputData (c : TestCase) : Judge σ Bytes := do
  let desk ← get
  match desk.data.input with
  | some data => return data
  | none =>
    let data ← Judge.onFiles c.input.load
    modify fun desk => { desk with data := { desk.data with input := some data } }
    return data

def outputData (c : TestCase) : Judge σ Bytes := do
  let desk ← get
  match desk.data.output with
  | some data => return data
  | none =>
    let data ← Judge.onFiles c.output.load
    modify fun desk => { desk with data := { desk.data with output := some data } }
    return data

def newTemporary : Judge σ String := fun desk =>
  let (answer, files) := desk.files.createTemporary
  (answer.mapError .ofFile, desk.withFiles files)

def fillTemporary (path : String) (data : Bytes) : Judge σ Unit := do
  let files ← Judge.onFiles (·.fill path data)
  modify (·.withFiles files)

def keepIn (c : TestCase) (path : String) : Judge σ Unit := do
  fillTemporary path (← c.inputData)
  modify fun desk => { desk with data := { desk.data with materialized := some path } }

def materialize (c : TestCase) : Judge σ String := do
  let desk ← get
  match desk.data.materialized with
  | some path => return path
  | none =>
    let path ← newTemporary
    (c.keepIn path).unlessDone (Desk.discard path)
    return path

/-- The input as a file. An input that is a file is used in place. -/
def inputFile (c : TestCase) : Judge σ CaseInput := do
  match c.input with
  | .file path => return ⟨path, false⟩
  | .inline _ =>
    let path ← c.materialize
    modify fun desk => desk.withFiles (desk.files.retain path)
    return ⟨path, true⟩

end TestCase

namespace Desk

def freeData {σ : Type} (desk : Desk σ) : Desk σ :=
  let kept := match desk.data.materialized with
    | some path => desk.discard path
    | none => desk
  { kept with data := .none }

end Desk

/-- The judge input as a checker gets it: read when it is first asked for, and then kept. -/
structure LazyBytes where
  value : Option Bytes
  deriving DecidableEq

namespace LazyBytes

def unread : LazyBytes := ⟨none⟩

def isLoaded (lazy : LazyBytes) : Bool := lazy.value.isSome

def get {σ : Type} (lazy : LazyBytes) (load : Judge σ Bytes) : Judge σ (LazyBytes × Bytes) := do
  match lazy.value with
  | some data => return (lazy, data)
  | none =>
    let data ← load
    return (⟨some data⟩, data)

end LazyBytes
end ContestJudge
