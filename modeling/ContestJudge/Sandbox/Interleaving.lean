import ContestJudge.Sandbox.Local
/-!
A process, its owner and its alarm at the same time. The owner does one act after another, and what
the process and the alarm do may happen between any two of them. The watch has a lock: while the
owner holds it, the alarm has to wait for its turn, and its turn is one step.
-/

namespace ContestJudge

/-- How far a process has got. Its number is its own until it is reaped. -/
inductive Stage where
  | running
  | ended
  | reaped
  deriving DecidableEq, Repr

inductive AlarmStage where
  | waiting
  /-- Its time has come, and its turn with the watch has not. -/
  | due
  | finished
  deriving DecidableEq, Repr

/-- Who ends a job: its alarm, its owner while it runs, or its owner after its program has ended. -/
inductive Signaller where
  | alarm
  | kill
  | sweep
  deriving DecidableEq, Repr

inductive Deed where
  | signalled (sender : Signaller)
  /-- The owner put down in the watch that the process has ended. -/
  | exitSeen
  /-- The owner waited for the alarm to be done, and held the lock meanwhile or not. -/
  | joined (locked : Bool)
  | reaped
  deriving DecidableEq, Repr

inductive Happening where
  | exits
  | timesOut
  /-- The alarm has its turn with the watch. -/
  | rings
  deriving DecidableEq, Repr

structure Readings where
  wall : Duration
  ending : Ending
  usage : Usage
  output : List ReadOutcome
  diagnostics : List ReadOutcome

structure Scene where
  stage : Stage
  alarm : AlarmStage
  watch : Watch
  /-- The owner holds the lock on the watch. -/
  isLocked : Bool
  trace : List Deed
  /-- What happens before each act of the owner. -/
  meanwhile : List (List Happening)
  readings : Readings

namespace Scene

def launched (spec : LaunchSpec) (meanwhile : List (List Happening)) (readings : Readings) :
    Scene where
  stage := .running
  alarm := if spec.wallTime.isSome then .waiting else .finished
  watch := .armed
  isLocked := false
  trace := []
  meanwhile := meanwhile
  readings := readings

def note (deed : Deed) (s : Scene) : Scene := { s with trace := s.trace ++ [deed] }

def ring (s : Scene) : Scene :=
  let (deadly, watch) := s.watch.ring
  let signalled := if deadly then s.note (.signalled .alarm) else s
  { signalled with alarm := .finished, watch := watch }

/-- The turn of the alarm, if it is due and nobody is in its way. -/
def ringIfDue (s : Scene) : Scene :=
  if s.alarm = .due ∧ s.isLocked = false then s.ring else s

def happen (s : Scene) : Happening → Scene
  | .exits => if s.stage = .running then { s with stage := .ended } else s
  | .timesOut => if s.alarm = .waiting then { s with alarm := .due } else s
  | .rings => s.ringIfDue

def elapse (s : Scene) : Scene :=
  match s.meanwhile with
  | [] => s
  | now :: later => now.foldl happen { s with meanwhile := later }

def noChild : Fault := .process (.reported "No child processes (os error 10)")

def awaitExit : Work Scene Duration := fun s =>
  let s := s.elapse
  if s.stage = .reaped then (.error noChild, s)
  else (.ok s.readings.wall, { s with stage := .ended })

def lockWatch (s : Scene) : Watch × Scene :=
  let s := s.elapse
  (s.watch, { s with isLocked := true })

def unlockWatch (watch : Watch) (s : Scene) : Scene :=
  let s := s.elapse
  let noted := if watch.exitSeen && !s.watch.exitSeen then s.note .exitSeen else s
  { noted with watch := watch, isLocked := false }

/-- Waits for the alarm: one that waits is called off, one that is due has its turn first. -/
def joinAlarm (s : Scene) : Scene :=
  let s := s.elapse
  { (s.note (.joined s.isLocked)).ringIfDue with alarm := .finished }

def signal (sender : Signaller) (s : Scene) : Scene := s.elapse.note (.signalled sender)

def reap : Work Scene (Ending × Usage) := fun s =>
  let s := s.elapse
  if s.stage = .reaped then (.error noChild, s)
  else (.ok (s.readings.ending, s.readings.usage), { s.note .reaped with stage := .reaped })

def control : JobControl Scene where
  awaitExit _ := awaitExit
  lockWatch _ := lockWatch
  unlockWatch _ := unlockWatch
  joinAlarm _ := joinAlarm
  kill _ := signal .kill
  sweep _ := signal .sweep
  reap _ := reap
  readOutput _ _ s := (s.readings.output, s.elapse)
  readDiagnostics _ s := (s.readings.diagnostics, s.elapse)

end Scene

inductive OwnerCall where
  | wait
  | communicate (outLimit errLimit : Nat)
  | readStderr
  | kill
  | markOutput
  | drop
  deriving DecidableEq, Repr

def OwnerCall.run (call : OwnerCall) (s : Supervised Scene) : Supervised Scene :=
  match call with
  | .wait => ((LocalProcess.wait Scene.control).runOn s).2
  | .communicate outLimit errLimit =>
    ((LocalProcess.communicate Scene.control outLimit errLimit).runOn s).2
  | .readStderr => ((LocalProcess.readStderr Scene.control).runOn s).2
  | .kill => LocalProcess.kill Scene.control s
  | .markOutput => LocalProcess.markOutput s
  | .drop => LocalProcess.release Scene.control s

inductive InterleavingStep where
  | happens (what : Happening)
  | calls (call : OwnerCall)
  deriving DecidableEq, Repr

def InterleavingStep.run (s : Supervised Scene) : InterleavingStep → Supervised Scene
  | .happens what => { s with kernel := s.kernel.happen what }
  | .calls call => call.run s

def runInterleaving (steps : List InterleavingStep) (s : Supervised Scene) : Supervised Scene :=
  steps.foldl InterleavingStep.run s

end ContestJudge
