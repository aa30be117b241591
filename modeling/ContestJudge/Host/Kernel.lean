import ContestJudge.Host.Schedule
/-!
The machine as the kernel of a sandbox. It stands in for an operating system with a shell, an
interpreter and some tools, so that the judge can be run as a whole. No theorem is about it: what is
true of grading is true on every sandbox, and what is true of plain processes on every kernel.
-/

namespace ContestJudge.Host

namespace Machine

/-- The file that a program name leads to: a path, or a name in one of some directories. -/
def candidates (program path : String) : List String :=
  if program.toList.contains '/' then [program]
  else if program.isEmpty then []
  else (path.splitOn ":").map fun directory =>
    Path.join (if directory.isEmpty then "." else directory) program

/-- The first candidate that can be run. The search goes on behind a candidate that is not there or
is refused; when it fails, a refusal counts before what was wrong with the last candidate. -/
def loadFirst (m : Machine) (programs : Programs) (directory : String) (usesShell : Bool)
    (argv : List Octets) :
    List String → FileFault → Except FileFault ((Image → Task) × List Octets)
  | [], cause => .error cause
  | path :: rest, earlier =>
    let goOn (cause : FileFault) := loadFirst m programs directory usesShell argv rest
      (if earlier = .denied then .denied else cause)
    match m.load programs directory path argv with
    | .ok loaded => .ok loaded
    | .error .badFormat =>
      match (programs "sh").filter fun _ => usesShell with
      | some shell => .ok (shell, Octets.ofString "/bin/sh" :: Octets.ofString path :: argv.drop 1)
      | none => .error .badFormat
    | .error .denied => goOn .denied
    | .error .notFound => goOn .notFound
    | .error .notDirectory => goOn .notDirectory
    | .error cause => .error cause

/-- The variables of a program, sorted, each with the value that was given last. -/
def environment (env : List (String × String)) : Variables :=
  let kept := env.foldl (fun kept (name, value) =>
    kept.filter (·.1 ≠ name) ++ [(name, value)]) []
  (kept.mergeSort fun a b => decide (a.1 ≤ b.1)).map fun (name, value) =>
    (Octets.ofString name, Octets.ofString value)

def inputChannel : Stdio → Channel
  | .given (.file opened) => readChannel opened
  | .given (.pipe e) => .pipe e
  | .given (.memory index) => .memory index
  | _ => .device .null

def outputChannel (captured : Channel) : Stdio → Channel
  | .null => .device .null
  | .piped => captured
  | .given (.memory index) => .memory index
  | .given (.pipe e) => .pipe e
  | .given (.file _) => .device .null

def releaseEnds (m : Machine) (ends : List PipeEnd) : Machine :=
  { m with pipes := ends.foldl PipeTable.release m.pipes }

def endsOf (s : Startup) : List PipeEnd :=
  [s.stdin, s.stdout, s.stderr].filterMap Stdio.pipeEnd?

def attach (number : Nat) (channel : Channel) (descriptors : List (Nat × Nat)) (m : Machine) :
    List (Nat × Nat) × Machine :=
  let (index, m) := m.openChannel channel
  ((number, index) :: descriptors, m.hold index)

def smallResident : Nat := 1700

def launch (m : Machine) (s : Startup) (program : Image → Task) (argv : List Octets)
    (directory : String) : JobId × Machine :=
  let job := m.jobs.length
  let leader := m.processes.length
  let (output, captured, m) :=
    if s.stdout = .piped then
      let (pipe, pipes) := m.pipes.create
      let (output, m) := { m with pipes := pipes }.openChannel (.pipe ⟨pipe, .read⟩)
      (some output, Channel.pipe ⟨pipe, .write⟩, m.hold output)
    else (none, .device .null, m)
  let (descriptors, m) := attach 0 (inputChannel s.stdin) [] m
  let (descriptors, m) := attach 1 (outputChannel captured s.stdout) descriptors m
  let (descriptors, m) := attach 2 (outputChannel (.collector job) s.stderr) descriptors m
  let process : Process := {
    job := job
    parent := none
    task := program ⟨argv, environment s.env, .standard, firstPid + leader⟩
    descriptors := descriptors
    directory := directory
    limits := s.limits
    bounds := s.bounds
    dispositions := []
    noted := []
    isStopped := false
    wake := none
    ending := none
    isReaped := false
    processor := 0
    childProcessor := 0
    resident := smallResident }
  let alarm := s.alarm.map fun limit => m.clock + limit.nanoseconds
  (job, { m with
    processes := m.processes ++ [process]
    jobs := m.jobs ++ [⟨leader, m.clock, alarm, .armed, output, s.stderr == .piped, []⟩] })

def hasNul (text : String) : Bool := text.toList.contains '\x00'

def resolveStart (m : Machine) (programs : Programs) (s : Startup) :
    Except FileFault ((Image → Task) × List Octets × String) := do
  if hasNul s.program ∨ s.args.any hasNul ∨ s.env.any (fun (name, value) => hasNul name || hasNul value)
  then throw .nulInArgument
  let directory ← match s.directory with
    | none => pure "/"
    | some path =>
      match ← m.files.resolve path with
      | (location, .directory) => pure (FileStore.pathOf location)
      | _ => throw .notDirectory
  let path := ((s.env.reverse.find? (·.1 = "PATH")).map (·.2)).getD "/bin:/usr/bin"
  let argv := (s.program :: s.args).map Octets.ofString
  let (program, argv) ←
    loadFirst m programs directory s.usesShell argv (candidates s.program path) .notFound
  return (program, argv, directory)

def startJob (programs : Programs) (files : FileStore) (s : Startup) (m : Machine) :
    Except FileFault JobId × Machine :=
  let m := m.adopt files
  match m.resolveStart programs s with
  | .error cause => (.error cause, m.releaseEnds (endsOf s))
  | .ok (program, argv, directory) =>
    let (job, m) := m.launch s program argv directory
    (.ok job, m)

def leader (m : Machine) (job : JobId) : Nat := ((m.jobs[job]?).map (·.leader)).getD 0

def updateJob (m : Machine) (job : JobId) (change : Job → Job) : Machine :=
  { m with jobs := m.jobs.modify job change }

def durationOf (nanoseconds : Nat) : Duration := (Duration.ofNanoseconds? nanoseconds).getD .zero

def awaitExit (programs : Programs) (job : JobId) : Work Machine Duration := do
  let m := (← get).runToEnd programs job
  set m
  return durationOf (m.clock - ((m.jobs[job]?).map (·.started)).getD 0)

/-- The watch on a job. Nothing else runs before it is put back. -/
def lockWatch (job : JobId) (m : Machine) : Watch × Machine :=
  (((m.jobs[job]?).map (·.watch)).getD .armed, m)

def unlockWatch (job : JobId) (watch : Watch) (m : Machine) : Machine :=
  m.updateJob job ({ · with watch := watch })

def joinAlarm (job : JobId) (m : Machine) : Machine :=
  m.updateJob job ({ · with alarm := none })

def reap (job : JobId) : Work Machine (Ending × Usage) := do
  let m ← get
  match m.processes[m.leader job]? with
  | none => return (.exited 127, ⟨.zero, 0⟩)
  | some p =>
    set (m.update (m.leader job) ({ · with isReaped := true }))
    return (p.ending.getD (.exited 127),
      ⟨durationOf (p.processor + p.childProcessor), p.resident⟩)

def readOutput (programs : Programs) (job : JobId) (limit : Nat) (m : Machine) :
    List ReadOutcome × Machine :=
  match (m.jobs[job]?).bind (·.output) with
  | none => ([], m)
  | some output =>
    let (reads, m) := m.drain programs output limit (limit + 2) 0 []
    (reads, (m.letGo output).updateJob job ({ · with output := none }))

def readDiagnostics (programs : Programs) (job : JobId) (m : Machine) :
    List ReadOutcome × Machine :=
  let m := m.runUntil programs (·.isQuiet job) patience
  ((((m.jobs[job]?).map (·.collected)).getD []).reverse.map .chunk, m)

def openMemory : Work Machine Nat := do
  let m ← get
  set { m with memories := m.memories ++ [MemoryFile.empty] }
  return m.memories.length

def memory (index : Nat) : Work Machine MemoryFile := do
  return ((← get).memories[index]?).getD .empty

def openPipe : Work Machine Nat := do
  let m ← get
  let (pipe, pipes) := m.pipes.create
  set { m with pipes := pipes }
  return pipe

end Machine

def kernel (programs : Programs) : Kernel Machine where
  start := Machine.startJob programs
  pid m job := firstPid + m.leader job
  awaitExit := Machine.awaitExit programs
  lockWatch := Machine.lockWatch
  unlockWatch := Machine.unlockWatch
  joinAlarm := Machine.joinAlarm
  kill job m := m.killJob job
  sweep job m := m.killJob job
  reap := Machine.reap
  readOutput := Machine.readOutput programs
  readDiagnostics := Machine.readDiagnostics programs
  openMemory := Machine.openMemory
  memorySize index := do return (← Machine.memory index).size
  memoryBytes index := do return (← Machine.memory index).content
  openPipe := Machine.openPipe
  closeEnd e m := m.releaseEnds [e]

end ContestJudge.Host
