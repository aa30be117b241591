import ContestJudge.Judge.Journal
import ContestJudge.Problem.Case
import ContestJudge.Telemetry
/-!
The desk of a judge: the files, the loaded data of the case at hand, the journal, and the state of
the sandbox. Every use of the sandbox is noted in the journal.
-/

namespace ContestJudge

structure Desk (σ : Type) where
  files : FileStore
  /-- What is loaded of the case at hand. -/
  data : CaseData
  journal : List Act
  /-- The state of the sandbox. -/
  host : σ

abbrev Judge (σ α : Type) := Work (Desk σ) α

namespace Desk

variable {σ : Type}

def fresh (files : FileStore) (host : σ) : Desk σ := ⟨files, .none, [], host⟩

def note (act : Act) (desk : Desk σ) : Desk σ := { desk with journal := desk.journal ++ [act] }

def withHost (desk : Desk σ) (host : σ) : Desk σ := { desk with host := host }

def withFiles (desk : Desk σ) (files : FileStore) : Desk σ := { desk with files := files }

def discard (path : String) (desk : Desk σ) : Desk σ := desk.withFiles (desk.files.release path)

end Desk

namespace Judge

variable {σ α : Type}

def note (act : Act) : Judge σ Unit := modify (Desk.note act)

def onHost (work : Work σ α) : Judge σ α := work.within Desk.host Desk.withHost

def onFiles (ask : FileStore → Except FileFault α) : Judge σ α := do
  let desk ← get
  Work.ofExcept ((ask desk.files).mapError .ofFile)

end Judge

namespace Sandbox

variable {σ : Type} (sandbox : Sandbox σ)

def start (binary : Binary) (spec : LaunchSpec) : Judge σ Handle := do
  let desk ← get
  let order : LaunchOrder := ⟨binary, spec, desk.files⟩
  match ← (Judge.onHost (sandbox.launch order.files binary spec)).attempt with
  | .ok process =>
    Judge.note (.launched process order)
    return process
  | .error fault =>
    Judge.note (.notLaunched order)
    throw fault

def awaitEnd (process : Handle) : Judge σ ProcessReport := do
  Judge.note (.waited process)
  Judge.onHost (sandbox.wait process)

def capture (process : Handle) (outLimit errLimit : Nat) : Judge σ CapturedOutput := do
  Judge.note (.communicated process)
  Judge.onHost (sandbox.communicate process outLimit errLimit)

def stderrOf (process : Handle) : Judge σ Bytes := do
  Judge.note (.stderrRead process)
  Judge.onHost (sandbox.readStderr process)

def stop (process : Handle) : Judge σ Unit := do
  Judge.note (.killed process)
  modify fun desk => desk.withHost (sandbox.kill process desk.host)

def markExcess (process : Handle) : Judge σ Unit := do
  Judge.note (.outputMarked process)
  modify fun desk => desk.withHost (sandbox.markOutput process desk.host)

def letGo (process : Handle) (desk : Desk σ) : Desk σ :=
  (desk.withHost (sandbox.release process desk.host)).note (.released process)

def openPipeAtDesk : Judge σ Nat := do
  let pipe ← Judge.onHost sandbox.openPipe
  Judge.note (.pipeOpened pipe)
  return pipe

def closeAtDesk (e : PipeEnd) (desk : Desk σ) : Desk σ :=
  (desk.withHost (sandbox.closeEnd e desk.host)).note (.endClosed e)

def populate (process : Handle) (stderr : Bytes) (result : CaseResult) : Judge σ CaseResult := do
  let desk ← get
  match sandbox.report? desk.host process with
  | some report => return result.populate stderr report
  | none => throw (.internal (.unreported (sandbox.pid desk.host process)))

end Sandbox
end ContestJudge
