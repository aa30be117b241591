import ContestJudge.Sandbox.Basic
/-!
What a sandbox of plain processes needs of an operating system. A job is a program with everything
that it starts; its owner waits for its end, and an alarm may end it.
-/

namespace ContestJudge

inductive Ending where
  | exited (code : Nat)
  | signaled (number : Nat)
  deriving DecidableEq, Repr

/-- Limits that a process gets before its program starts; none is no limit. -/
structure ResourceLimits where
  /-- Seconds of processor time after which the process gets a signal. -/
  processor : Option Nat
  /-- Bytes of addresses. -/
  addressSpace : Option Nat
  /-- Bytes of a written file. -/
  fileSize : Option Nat
  /-- Bytes of a core dump. -/
  core : Option Nat
  deriving DecidableEq

structure Usage where
  processor : Duration
  /-- Peak memory in KiB. -/
  resident : Nat
  deriving DecidableEq

structure Startup where
  program : String
  args : List String
  /-- Variables; a later one takes the place of an earlier one. -/
  env : List (String × String)
  directory : Option String
  stdin : Stdio
  stdout : Stdio
  stderr : Stdio
  limits : ResourceLimits
  /-- How far the program may raise its own limits. -/
  bounds : ResourceLimits
  /-- Wall clock time after which an alarm ends the job. -/
  alarm : Option Duration
  /-- Whether an executable text that names no interpreter is left to the shell. -/
  usesShell : Bool

structure Watch where
  /-- The owner has seen the end of the job, which must not be signalled any more. -/
  exitSeen : Bool
  /-- The alarm has ended the job. -/
  alarmRang : Bool
  deriving DecidableEq, Repr

namespace Watch

def armed : Watch := ⟨false, false⟩

def ring (watch : Watch) : Bool × Watch :=
  if watch.exitSeen then (false, watch) else (true, { watch with alarmRang := true })

def seeExit (watch : Watch) : Bool × Watch := (watch.alarmRang, { watch with exitSeen := true })

def allowsKill (watch : Watch) : Bool := !watch.exitSeen

end Watch

abbrev JobId := Nat

/-- What the owner of a job can do to it. The watch on a job is under a lock: whoever has locked it,
the owner or the alarm, is alone with it until it is put back. -/
structure JobControl (σ : Type) where
  /-- Waits until the program has ended, and gives the time since its start. What has ended is
  still there. -/
  awaitExit : JobId → Work σ Duration
  lockWatch : JobId → σ → Watch × σ
  unlockWatch : JobId → Watch → σ → σ
  /-- Turns the alarm off and waits until it is done. -/
  joinAlarm : JobId → σ → σ
  /-- Ends a job. -/
  kill : JobId → σ → σ
  /-- Ends what is left of a job. -/
  sweep : JobId → σ → σ
  /-- Removes an ended program. -/
  reap : JobId → Work σ (Ending × Usage)
  /-- Reads piped output to its end, or until it is longer than a limit, and closes it. -/
  readOutput : JobId → Nat → σ → List ReadOutcome × σ
  /-- All diagnostics of a job, once nobody can write more. -/
  readDiagnostics : JobId → σ → List ReadOutcome × σ

structure Kernel (σ : Type) extends JobControl σ where
  start : FileStore → Startup → σ → Except FileFault JobId × σ
  pid : σ → JobId → Nat
  openMemory : Work σ Nat
  memorySize : Nat → Work σ Nat
  memoryBytes : Nat → Work σ Bytes
  openPipe : Work σ Nat
  closeEnd : PipeEnd → σ → σ

end ContestJudge
