import ContestJudge.Sandbox.Kernel
/-!
A sandbox of plain processes under resource limits. It cannot restrict the view of the files, so
links and access rules have no effect.
-/

namespace ContestJudge

def limitBound : Nat := 18446744073709551615

/-- A limit; the largest number stands for none. -/
def limitOf (n : Nat) : Option Nat := if n < limitBound then some n else none

namespace ResourceLimits

/-- The limits of a launch. Processor time is limited a second past the ceiling, so that use past
the ceiling is measured and not cut off. -/
def plan (binary : Binary) (spec : LaunchSpec) : ResourceLimits where
  processor := limitOf (min (min spec.time.ceilSeconds limitBound + 1) limitBound)
  addressSpace :=
    if spec.memory > 0 ∧ binary.limitsAddressSpace then
      limitOf (min (spec.memory * 1024) limitBound)
    else none
  fileSize := spec.fileSize.bind limitOf
  core := some 0

/-- How far a launched program may raise its limits: a second of processor time past the plan, after
which it is ended for good. -/
def bounds (limits : ResourceLimits) : ResourceLimits :=
  { limits with processor := limits.processor.bind fun seconds => limitOf (seconds + 1) }

end ResourceLimits

def defaultPath : String := "/usr/local/bin:/usr/bin:/bin"

structure LocalProcess where
  job : JobId
  /-- Piped output can still be read. -/
  outputOpen : Bool
  /-- Diagnostics are collected and were not taken yet. -/
  diagnosticsOpen : Bool
  /-- The diagnostics that were taken. -/
  diagnostics : Option CapturedStream
  /-- The judge found too much output. -/
  marked : Bool
  report : Option ProcessReport
  timeLimit : Duration
  /-- KiB; zero is no limit. -/
  memoryLimit : Nat

structure Supervised (σ : Type) where
  kernel : σ
  process : LocalProcess

namespace LocalProcess

variable {σ : Type}

def start (job : JobId) (spec : LaunchSpec) : LocalProcess :=
  ⟨job, spec.stdout == .piped, spec.stderr == .piped, none, false, none, spec.time, spec.memory⟩

def buildReport (p : LocalProcess) (ending : Ending) (usage : Usage) (wall : Duration)
    (alarmRang : Bool) : ProcessReport where
  exitCode := match ending with
    | .exited code => some code
    | .signaled _ => none
  signal := match ending with
    | .exited _ => none
    | .signaled number => some number
  cpuTime := usage.processor
  wallTime := wall
  maxMemory := usage.resident
  cpuLimitExceeded := decide (p.timeLimit < usage.processor)
  wallLimitExceeded := alarmRang
  memoryLimitExceeded := p.memoryLimit > 0 && usage.resident > p.memoryLimit
  outputLimitExceeded := p.marked
  timeLimit := p.timeLimit
  memoryLimit := p.memoryLimit

def onKernel {α : Type} (work : Work σ α) : Work (Supervised σ) α :=
  work.within Supervised.kernel fun s kernel => { s with kernel := kernel }

def act {α : Type} (act : σ → α × σ) : Work (Supervised σ) α := fun s =>
  let (a, kernel) := act s.kernel
  (.ok a, { s with kernel := kernel })

def perform (act : σ → σ) : Work (Supervised σ) Unit :=
  modify fun s => { s with kernel := act s.kernel }

def update (change : LocalProcess → LocalProcess) : Work (Supervised σ) Unit :=
  modify fun s => { s with process := change s.process }

variable (control : JobControl σ)

/-- Waits for the end of the process and reaps it. The alarm is off before anything is swept up,
and everything is swept up before the process is reaped. -/
def awaitReport : Work (Supervised σ) ProcessReport := do
  let job := (← get).process.job
  let wall ← onKernel (control.awaitExit job)
  let (alarmRang, seen) := (← act (control.lockWatch job)).seeExit
  perform (control.unlockWatch job seen)
  perform (control.joinAlarm job)
  perform (control.sweep job)
  let (ending, usage) ← onKernel (control.reap job)
  let report := (← get).process.buildReport ending usage wall alarmRang
  update fun p => { p with report := some report }
  return report

/-- The report, for which the process is waited for once. -/
def wait : Work (Supervised σ) ProcessReport := do
  match (← get).process.report with
  | some report => return report
  | none => awaitReport control

def takeDiagnostics : Work (Supervised σ) CapturedStream := do
  let p := (← get).process
  if p.diagnosticsOpen then
    let reads ← act (control.readDiagnostics p.job)
    let captured := (readBounded reads stderrLimit .discard).1
    update fun p => { p with diagnosticsOpen := false, diagnostics := some captured }
    return captured
  else return p.diagnostics.getD .empty

def takeOutput (limit : Nat) : Work (Supervised σ) CapturedStream := do
  let p := (← get).process
  if p.outputOpen then
    let reads ← act (control.readOutput p.job limit)
    update fun p => { p with outputOpen := false }
    return (readBounded reads limit .stop).1
  else return .empty

def shorten (captured : CapturedStream) (limit : Nat) : CapturedStream :=
  if captured.data.length > limit then ⟨captured.data.take limit, .truncatedByJudgeLimit⟩
  else captured

def communicate (outLimit errLimit : Nat) : Work (Supervised σ) CapturedOutput := do
  let output ← takeOutput control outLimit
  if output.integrity = .truncatedByJudgeLimit then
    return ⟨output.data, [], output.integrity, .complete⟩
  else
    let _ ← wait control
    let diagnostics := shorten (← takeDiagnostics control) errLimit
    return ⟨output.data, diagnostics.data, output.integrity, diagnostics.integrity⟩

def readStderr : Work (Supervised σ) Bytes := do return (← takeDiagnostics control).data

/-- Ends the process, unless its end has been seen. The watch stays locked meanwhile. -/
def kill (s : Supervised σ) : Supervised σ :=
  let job := s.process.job
  let (watch, locked) := control.lockWatch job s.kernel
  let ended := if watch.allowsKill then control.kill job locked else locked
  { s with kernel := control.unlockWatch job watch ended }

/-- Notes the breach also in a report that is already there. -/
def markOutput (s : Supervised σ) : Supervised σ :=
  { s with process := { s.process with
    marked := true
    report := s.process.report.map fun report => { report with outputLimitExceeded := true } } }

/-- Ends and reaps a process that nobody waited for, and takes its diagnostics. -/
def release (s : Supervised σ) : Supervised σ :=
  let ended := match s.process.report with
    | some _ => s
    | none =>
      let killed := kill control s
      let job := killed.process.job
      let closed := if killed.process.outputOpen then
        { killed with
          kernel := (control.readOutput job 0 killed.kernel).2
          process := { killed.process with outputOpen := false } }
        else killed
      ((wait control).runOn closed).2
  ((takeDiagnostics control).runOn ended).2

end LocalProcess

structure LocalHost (σ : Type) where
  kernel : σ
  processes : List LocalProcess

namespace LocalHost

variable {σ α : Type}

def start (kernel : σ) : LocalHost σ := ⟨kernel, []⟩

def startup (binary : Binary) (spec : LaunchSpec) (program : String) (baseArgs : List String) :
    Startup where
  program := program
  args := baseArgs ++ spec.args
  env := ("PATH", defaultPath) :: (binary.env ++ spec.env)
  directory := spec.workdir.orElse fun _ => binary.workspace
  stdin := spec.stdin
  stdout := spec.stdout
  stderr := spec.stderr
  limits := .plan binary spec
  bounds := (ResourceLimits.plan binary spec).bounds
  alarm := spec.wallTime
  usesShell := true

def closeEnds (kernel : Kernel σ) (spec : LaunchSpec) (host : LocalHost σ) : LocalHost σ :=
  { host with kernel := spec.pipeEnds.foldl (fun state e => kernel.closeEnd e state) host.kernel }

def launch (kernel : Kernel σ) (files : FileStore) (binary : Binary) (spec : LaunchSpec) :
    Work (LocalHost σ) Handle := do
  match binary.argv with
  | [] =>
    modify (closeEnds kernel spec)
    throw (.config (.emptyCommand binary.language))
  | program :: baseArgs =>
    let host ← get
    match kernel.start files (startup binary spec program baseArgs) host.kernel with
    | (.error cause, state) =>
      set { host with kernel := state }
      throw (.process (.notStarted program cause))
    | (.ok job, state) =>
      set (⟨state, host.processes ++ [.start job spec]⟩ : LocalHost σ)
      return host.processes.length

/-- Work on the process of a handle; the handles of a sandbox always have one. -/
def onProcess (handle : Handle) (work : Work (Supervised σ) α) : Work (LocalHost σ) α := do
  let host ← get
  match host.processes[handle]? with
  | none => throw (.internal (.unreported handle))
  | some process =>
    let (answer, s) := work.runOn ⟨host.kernel, process⟩
    set (⟨s.kernel, host.processes.set handle s.process⟩ : LocalHost σ)
    Work.ofExcept answer

def change (handle : Handle) (change : Supervised σ → Supervised σ) (host : LocalHost σ) :
    LocalHost σ :=
  match host.processes[handle]? with
  | none => host
  | some process =>
    let s := change ⟨host.kernel, process⟩
    ⟨s.kernel, host.processes.set handle s.process⟩

def onKernel (work : Work σ α) : Work (LocalHost σ) α :=
  work.within LocalHost.kernel fun host kernel => { host with kernel := kernel }

end LocalHost

def Sandbox.plain {σ : Type} (kernel : Kernel σ) : Sandbox (LocalHost σ) where
  launch := LocalHost.launch kernel
  wait handle := LocalHost.onProcess handle (LocalProcess.wait kernel.toJobControl)
  communicate handle outLimit errLimit :=
    LocalHost.onProcess handle (LocalProcess.communicate kernel.toJobControl outLimit errLimit)
  readStderr handle := LocalHost.onProcess handle (LocalProcess.readStderr kernel.toJobControl)
  kill handle := LocalHost.change handle (LocalProcess.kill kernel.toJobControl)
  markOutput handle := LocalHost.change handle LocalProcess.markOutput
  report? host handle := (host.processes[handle]?).bind (·.report)
  pid host handle := ((host.processes[handle]?).map fun p => kernel.pid host.kernel p.job).getD 0
  release handle := LocalHost.change handle (LocalProcess.release kernel.toJobControl)
  openMemory := LocalHost.onKernel kernel.openMemory
  memorySize index := LocalHost.onKernel (kernel.memorySize index)
  memoryBytes index := LocalHost.onKernel (kernel.memoryBytes index)
  openPipe := LocalHost.onKernel kernel.openPipe
  closeEnd e host := { host with kernel := kernel.closeEnd e host.kernel }

end ContestJudge
