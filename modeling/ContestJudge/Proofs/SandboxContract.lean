import ContestJudge.Proofs.Work
import Mathlib.Logic.Relation

namespace ContestJudge

/-- Whether the fault says that a judge lost track of what it had launched and opened: of a process
that was never waited for, of an interactor that was never launched, or of a pipe end that it had
handed out. -/
def Fault.isDefensive : Fault → Bool
  | .internal (.unreported _) => true
  | .internal .interactorNeverLaunched => true
  | .internal (.endHandedOut _) => true
  | _ => false

namespace Sandbox

variable {σ : Type} (sandbox : Sandbox σ)

/-- A use of the sandbox that lets go of no process, whether or not a fault stops it. -/
inductive Moves : σ → σ → Prop where
  | launch (files : FileStore) (binary : Binary) (spec : LaunchSpec) (state : σ) :
      Moves state ((sandbox.launch files binary spec).runOn state).2
  | wait (process : Handle) (state : σ) : Moves state ((sandbox.wait process).runOn state).2
  | communicate (process : Handle) (outLimit errLimit : Nat) (state : σ) :
      Moves state ((sandbox.communicate process outLimit errLimit).runOn state).2
  | readStderr (process : Handle) (state : σ) :
      Moves state ((sandbox.readStderr process).runOn state).2
  | kill (process : Handle) (state : σ) : Moves state (sandbox.kill process state)
  | markOutput (process : Handle) (state : σ) : Moves state (sandbox.markOutput process state)
  | openMemory (state : σ) : Moves state (sandbox.openMemory.runOn state).2
  | memorySize (index : Nat) (state : σ) :
      Moves state ((sandbox.memorySize index).runOn state).2
  | memoryBytes (index : Nat) (state : σ) :
      Moves state ((sandbox.memoryBytes index).runOn state).2
  | openPipe (state : σ) : Moves state (sandbox.openPipe.runOn state).2
  | closeEnd (e : PipeEnd) (state : σ) : Moves state (sandbox.closeEnd e state)

def Reaches : σ → σ → Prop := Relation.ReflTransGen sandbox.Moves

inductive Handed (process : Handle) (state : σ) : Prop where
  | intro {files : FileStore} {binary : Binary} {spec : LaunchSpec} {before launched : σ}
      (launches : (sandbox.launch files binary spec).Gives before process launched)
      (reaches : sandbox.Reaches launched state)

/-- A use of the sandbox that sees a process to its end: a wait, or a capture that was not cut. -/
inductive WaitsFor (process : Handle) (before after : σ) : Prop where
  | wait {report : ProcessReport} (waits : (sandbox.wait process).Gives before report after)
  | communicate {outLimit errLimit : Nat} {output : CapturedOutput}
      (captures : (sandbox.communicate process outLimit errLimit).Gives before output after)
      (whole : output.isTruncated = false)

def KeepsReports : Prop :=
  ∀ ⦃process : Handle⦄ ⦃before after last : σ⦄, sandbox.Handed process before →
    sandbox.WaitsFor process before after → sandbox.Reaches after last →
    (sandbox.report? last process).isSome

/-- What is captured through a pipe keeps to the limit, a mark of the judge shows in every later
report, and a memory file holds as many bytes as it measures. -/
structure HonoursLimits : Prop where
  captures : ∀ {process : Handle} {outLimit errLimit : Nat} {output : CapturedOutput}
    {before after : σ}, (sandbox.communicate process outLimit errLimit).Gives before output after →
    output.stdout.length ≤ outLimit
  marks : ∀ {process : Handle} {before last : σ} {report : ProcessReport},
    sandbox.Handed process before → sandbox.Reaches (sandbox.markOutput process before) last →
    sandbox.report? last process = some report → report.isOle
  measures : ∀ {index size : Nat} {data : Bytes} {before sized after : σ},
    (sandbox.memorySize index).Gives before size sized →
    (sandbox.memoryBytes index).Gives sized data after → data.length = size

/-- A fault that is the sandbox's own: at a launch, over a memory file or a pipe, or over a process
that it had handed out. -/
inductive Raises (fault : Fault) : Prop where
  | launch {files : FileStore} {binary : Binary} {spec : LaunchSpec} {state later : σ}
      (stops : (sandbox.launch files binary spec).Stops state fault later)
  | wait {process : Handle} {state later : σ} (handed : sandbox.Handed process state)
      (stops : (sandbox.wait process).Stops state fault later)
  | communicate {process : Handle} {outLimit errLimit : Nat} {state later : σ}
      (handed : sandbox.Handed process state)
      (stops : (sandbox.communicate process outLimit errLimit).Stops state fault later)
  | readStderr {process : Handle} {state later : σ} (handed : sandbox.Handed process state)
      (stops : (sandbox.readStderr process).Stops state fault later)
  | openMemory {state later : σ} (stops : sandbox.openMemory.Stops state fault later)
  | memorySize {index : Nat} {state later : σ}
      (stops : (sandbox.memorySize index).Stops state fault later)
  | memoryBytes {index : Nat} {state later : σ}
      (stops : (sandbox.memoryBytes index).Stops state fault later)
  | openPipe {state later : σ} (stops : sandbox.openPipe.Stops state fault later)

variable {sandbox}

theorem Reaches.refl (state : σ) : sandbox.Reaches state state := Relation.ReflTransGen.refl

theorem Reaches.trans {first second third : σ} (before : sandbox.Reaches first second)
    (after : sandbox.Reaches second third) : sandbox.Reaches first third :=
  Relation.ReflTransGen.trans before after

theorem Moves.reaches {before after : σ} (moves : sandbox.Moves before after) :
    sandbox.Reaches before after := Relation.ReflTransGen.single moves

theorem Reaches.of_preserved {holds : σ → Prop}
    (preserved : ∀ {before after}, sandbox.Moves before after → holds before → holds after)
    {before after : σ} (reaches : sandbox.Reaches before after) (held : holds before) :
    holds after := by
  induction reaches with
  | refl => exact held
  | tail _ moves ih => exact preserved moves ih

theorem reaches_of_gives {α : Type} {work : Work σ α} {a : α} {before after : σ}
    (moves : sandbox.Moves before (work.runOn before).2) (gives : work.Gives before a after) :
    sandbox.Reaches before after := by
  rw [gives] at moves
  exact moves.reaches

theorem handed_of_launch {files : FileStore} {binary : Binary} {spec : LaunchSpec}
    {process : Handle} {before after : σ}
    (launches : (sandbox.launch files binary spec).Gives before process after) :
    sandbox.Handed process after := ⟨launches, .refl after⟩

theorem Handed.of_reaches {process : Handle} {before after : σ}
    (handed : sandbox.Handed process before) (reaches : sandbox.Reaches before after) :
    sandbox.Handed process after := by
  obtain ⟨launches, came⟩ := handed
  exact ⟨launches, came.trans reaches⟩

theorem WaitsFor.reaches {process : Handle} {before after : σ}
    (waits : sandbox.WaitsFor process before after) : sandbox.Reaches before after := by
  cases waits with
  | wait waits => exact reaches_of_gives (.wait process before) waits
  | communicate captures => exact reaches_of_gives (.communicate process _ _ before) captures

end Sandbox
end ContestJudge
