import ContestJudge.Host.Machine

namespace ContestJudge.Host.Machine

def turn (programs : Programs) (process : Nat) : Nat → Bool → Machine → Bool × Machine
  | 0, moved, m => (moved, m)
  | fuel + 1, moved, m =>
    match m.step? programs process with
    | none => (moved, m)
    | some next => turn programs process fuel true next

def turnLength : Nat := 64

def round (programs : Programs) (m : Machine) : Bool × Machine :=
  (List.range m.processes.length).foldl (fun (moved, m) process =>
    turn programs process turnLength moved m) (false, m)

def ringIfDue (m : Machine) (job : Nat) : Machine :=
  match m.jobs[job]? with
  | none => m
  | some found =>
    if found.alarm.any (· ≤ m.clock) then
      let (deadly, watch) := found.watch.ring
      let rung := { m with
        jobs := m.jobs.modify job fun job => { job with alarm := none, watch := watch } }
      if deadly then rung.killJob job else rung
    else m

def ringAlarms (m : Machine) : Machine := (List.range m.jobs.length).foldl ringIfDue m

def nextEvent? (m : Machine) : Option Nat :=
  let sleepers := m.processes.filterMap fun p => if p.ending.isSome || p.isStopped then none else p.wake
  (sleepers ++ m.jobs.filterMap (·.alarm)).min?

/-- Runs the machine until it is ready, or until nothing can happen any more. -/
def runUntil (programs : Programs) (ready : Machine → Bool) : Nat → Machine → Machine
  | 0, m => m
  | fuel + 1, m =>
    if ready m then m
    else
      let (moved, next) := m.round programs
      let next := next.ringAlarms
      if moved then runUntil programs ready fuel next
      else match next.nextEvent? with
        | none => next
        | some time => runUntil programs ready fuel { next with clock := max next.clock time }.ringAlarms

def patience : Nat := 10000000

def hasEnded (m : Machine) (process : Nat) : Bool :=
  (m.processes[process]?).all (·.ending.isSome)

/-- Runs the machine until the program of a job has ended. One that never would is ended. -/
def runToEnd (programs : Programs) (job : Nat) (m : Machine) : Machine :=
  match m.jobs[job]? with
  | none => m
  | some found =>
    let run := m.runUntil programs (·.hasEnded found.leader) patience
    if run.hasEnded found.leader then run else run.killJob job

/-- Whether a read of a channel need not wait: there is something to read, or never will be. -/
def isReadable (m : Machine) (index : Nat) : Bool :=
  match m.channel? index with
  | some (.pipe e) => (m.pipes.get? e.pipe).all fun pipe => !pipe.isEmpty || pipe.writers == 0
  | _ => true

def takeFrom (m : Machine) (index limit : Nat) : Bytes × Machine :=
  match m.channel? index with
  | some (.pipe e) =>
    match m.pipes.get? e.pipe with
    | some pipe =>
      let (data, rest) := pipe.take limit
      (data, { m with pipes := m.pipes.update e.pipe fun _ => rest })
    | none => ([], m)
  | _ => ([], m)

/-- A read by the owner of a job. It fails at once where it would have to wait and must not; once it
waits, it waits for what comes. -/
def readOn (programs : Programs) (index limit : Nat) (m : Machine) : ReadOutcome × Machine :=
  if !m.isReadable index && !m.waits index then (.failed, m)
  else
    let (data, m) := (m.runUntil programs (·.isReadable index) patience).takeFrom index limit
    (.chunk data, m)

def readSize : Nat := 8192

def drain (programs : Programs) (index limit : Nat) : Nat → Nat → List ReadOutcome → Machine →
    List ReadOutcome × Machine
  | 0, _, found, m => (found.reverse, m)
  | fuel + 1, total, found, m =>
    match m.readOn programs index readSize with
    | (.chunk data, rest) =>
      if data.isEmpty then (found.reverse, rest)
      else if total + data.length > limit then ((.chunk data :: found).reverse, rest)
      else drain programs index limit fuel (total + data.length) (.chunk data :: found) rest
    | (read, rest) => ((read :: found).reverse, rest)

def isQuiet (m : Machine) (job : Nat) : Bool :=
  m.channels.all fun c => c.holders == 0 || c.channel != .collector job

end ContestJudge.Host.Machine
