import ContestJudge.Files.Store
import ContestJudge.Report
import ContestJudge.Sandbox.Capture
import ContestJudge.Sandbox.Launch

namespace ContestJudge

/-- Work on a state that a fault can stop. What was changed before the fault stays changed. -/
abbrev Work (σ α : Type) := ExceptT Fault (StateM σ) α

namespace Work

variable {σ τ α : Type}

def runOn (work : Work σ α) (state : σ) : Except Fault α × σ := work.run.run state

def ofExcept (answer : Except Fault α) : Work σ α := fun state => (answer, state)

def attempt (work : Work σ α) : Work σ (Except Fault α) := fun state =>
  let (answer, state) := work.runOn state
  (.ok answer, state)

/-- Work that is tidied up after on every way out. -/
def always (tidy : σ → σ) (work : Work σ α) : Work σ α := fun state =>
  let (answer, state) := work.runOn state
  (answer, tidy state)

def unlessDone (tidy : σ → σ) (work : Work σ α) : Work σ α := fun state =>
  match work.runOn state with
  | (.ok a, state) => (.ok a, state)
  | (.error fault, state) => (.error fault, tidy state)

def relabel (rename : Fault → Fault) (work : Work σ α) : Work σ α := fun state =>
  let (answer, state) := work.runOn state
  (answer.mapError rename, state)

def within (part : σ → τ) (replace : σ → τ → σ) (work : Work τ α) : Work σ α := fun state =>
  let (answer, changed) := work.runOn (part state)
  (answer, replace state changed)

end Work

abbrev Handle := Nat

/-- The largest stderr that is kept. It serves diagnosis only. -/
def stderrLimit : Nat := 1024 * 1024

structure Sandbox (σ : Type) where
  /-- Starts a binary. The descriptors of the launch are handed over also if it fails. -/
  launch : FileStore → Binary → LaunchSpec → Work σ Handle
  /-- Waits for the end of a process. Later calls give the same report. -/
  wait : Handle → Work σ ProcessReport
  /-- Reads piped stdout up to a first limit and stderr up to a second one. When stdout is longer,
  reading stops and the process goes on; otherwise the process is waited for. -/
  communicate : Handle → Nat → Nat → Work σ CapturedOutput
  /-- All of stderr that is kept. -/
  readStderr : Handle → Work σ Bytes
  kill : Handle → σ → σ
  /-- Notes that the judge found too much output. -/
  markOutput : Handle → σ → σ
  /-- The report of a process that was waited for. -/
  report? : σ → Handle → Option ProcessReport
  pid : σ → Handle → Nat
  /-- Lets go of a process. One that was never waited for is killed and waited for. -/
  release : Handle → σ → σ
  openMemory : Work σ Nat
  memorySize : Nat → Work σ Nat
  memoryBytes : Nat → Work σ Bytes
  /-- Opens a pipe; the judge holds both ends. -/
  openPipe : Work σ Nat
  closeEnd : PipeEnd → σ → σ

end ContestJudge
