import ContestJudge.Sandbox.Basic
/-!
A sandbox that starts nothing: scripts tell what the launches of each language do. It remembers
what it was asked for.
-/

namespace ContestJudge

/-- What one launch does. A fault of the script comes instead of the answer that it stands for. -/
structure Script where
  report : ProcessReport
  stdout : Bytes
  stderr : Bytes
  launchFault : Option Fault
  waitFault : Option Fault
  communicateFault : Option Fault
  stderrFault : Option Fault
  /-- Never has a report, even when it was waited for. -/
  hidesReport : Bool

namespace Script

def silent : Script :=
  ⟨{ (default : ProcessReport) with exitCode := some 0 }, [], [], none, none, none, none, false⟩

instance : Inhabited Script := ⟨silent⟩

end Script

inductive ProcessCall where
  | launch
  | wait
  | communicate
  | stderr
  | kill
  | mark
  deriving DecidableEq, Repr

def ProcessCall.name : ProcessCall → String
  | .launch => "launch"
  | .wait => "wait"
  | .communicate => "communicate"
  | .stderr => "stderr"
  | .kill => "kill"
  | .mark => "ole"

structure ScriptedEvent where
  call : ProcessCall
  language : String
  deriving DecidableEq

def ScriptedEvent.text (e : ScriptedEvent) : String := e.call.name ++ ":" ++ e.language

structure ScriptedProcess where
  script : Script
  binary : Binary
  spec : LaunchSpec
  /-- The files at the launch. -/
  files : FileStore
  /-- Piped output that nobody has read. -/
  kept : Bytes
  /-- What was read from a descriptor for the input. -/
  received : Option Bytes
  marked : Bool
  waited : Bool

namespace ScriptedProcess

def report (process : ScriptedProcess) : ProcessReport :=
  { process.script.report with
    outputLimitExceeded := process.script.report.outputLimitExceeded || process.marked }

def report? (process : ScriptedProcess) : Option ProcessReport :=
  if process.waited && !process.script.hidesReport then some process.report else none

end ScriptedProcess

structure ScriptedHost where
  /-- The scripts of a language for its launches in order; the last one stays. -/
  scripts : List (String × List Script)
  /-- The languages of all launches that were asked for. -/
  attempts : List String
  processes : List ScriptedProcess
  memories : List MemoryFile
  pipes : PipeTable
  events : List ScriptedEvent

namespace ScriptedHost

def start (scripts : List (String × List Script)) : ScriptedHost :=
  ⟨scripts, [], [], [], .empty, []⟩

def forget (host : ScriptedHost) : ScriptedHost := { host with events := [] }

def script (host : ScriptedHost) (language : String) : Script :=
  match host.scripts.find? (·.1 = language) with
  | none => .silent
  | some (_, scripts) =>
    let launches := host.attempts.count language
    (scripts[min launches (scripts.length - 1)]?).getD .silent

/-- Remembers a call, unless it was made before since the last launch of the language. -/
def remember (call : ProcessCall) (language : String) (host : ScriptedHost) : ScriptedHost :=
  let event : ScriptedEvent := ⟨call, language⟩
  let sinceLaunch := host.events.reverse.takeWhile (· ≠ ⟨.launch, language⟩)
  if call ≠ .launch ∧ event ∈ sinceLaunch then host
  else { host with events := host.events ++ [event] }

def process? (host : ScriptedHost) (handle : Handle) : Option ScriptedProcess :=
  host.processes[handle]?

def update (handle : Handle) (change : ScriptedProcess → ScriptedProcess) (host : ScriptedHost) :
    ScriptedHost := { host with processes := host.processes.modify handle change }

def releaseEnds (ends : List PipeEnd) (host : ScriptedHost) : ScriptedHost :=
  { host with pipes := ends.foldl PipeTable.release host.pipes }

def emit (stdout : Stdio) (data : Bytes) (host : ScriptedHost) : ScriptedHost :=
  match stdout with
  | .given (.memory index) =>
    { host with memories := host.memories.modify index (·.write data) }
  | .given (.pipe e) => { host with pipes := host.pipes.fill e.pipe data }
  | _ => host

def passingEnds (spec : LaunchSpec) : List PipeEnd :=
  [spec.stdout, spec.stderr].filterMap Stdio.pipeEnd?

def launch (files : FileStore) (binary : Binary) (spec : LaunchSpec) :
    Work ScriptedHost Handle := do
  let host ← get
  let script := host.script binary.language
  let host := { host with attempts := binary.language :: host.attempts }
  match script.launchFault with
  | some fault =>
    set (host.releaseEnds spec.pipeEnds)
    throw fault
  | none =>
    let kept := if spec.stdout = .piped then script.stdout else []
    let process : ScriptedProcess := ⟨script, binary, spec, files, kept, none, false, false⟩
    let launched := { host.remember .launch binary.language with
      processes := host.processes ++ [process] }
    set ((launched.emit spec.stdout script.stdout).releaseEnds (passingEnds spec))
    return host.processes.length

def receive (handle : Handle) (host : ScriptedHost) : ScriptedHost :=
  match host.process? handle with
  | none => host
  | some process =>
    if process.received.isSome then host
    else match process.spec.stdin with
      | .given (.file opened) =>
        host.update handle fun process => { process with received := some opened.data }
      | .given (.pipe e) =>
        let (data, _, pipes) := host.pipes.drain e.pipe
        { host with pipes := pipes.release e }.update handle
          fun process => { process with received := some data }
      | _ => host

def find (handle : Handle) : Work ScriptedHost ScriptedProcess := do
  match (← get).process? handle with
  | some process => return process
  | none => throw (.internal (.unreported handle))

def failWith (fault : Option Fault) : Work ScriptedHost Unit :=
  match fault with
  | some fault => throw fault
  | none => return

def wait (handle : Handle) : Work ScriptedHost ProcessReport := do
  let process ← find handle
  modify (remember .wait process.binary.language)
  failWith process.script.waitFault
  modify fun host => (host.receive handle).update handle fun process =>
    { process with waited := true }
  return process.report

def communicate (handle : Handle) (outLimit errLimit : Nat) :
    Work ScriptedHost CapturedOutput := do
  let process ← find handle
  modify (remember .communicate process.binary.language)
  failWith process.script.communicateFault
  modify (update handle fun process => { process with kept := [] })
  let stderr := process.script.stderr.take errLimit
  let stderrIntegrity : OutputIntegrity :=
    if process.script.stderr.length > errLimit then .truncatedByJudgeLimit else .complete
  if process.kept.length > outLimit then
    return ⟨process.kept.take outLimit, stderr, .truncatedByJudgeLimit, stderrIntegrity⟩
  else
    let _ ← wait handle
    return ⟨process.kept, stderr, .complete, stderrIntegrity⟩

def readStderr (handle : Handle) : Work ScriptedHost Bytes := do
  let process ← find handle
  modify (remember .stderr process.binary.language)
  failWith process.script.stderrFault
  return process.script.stderr

def kill (handle : Handle) (host : ScriptedHost) : ScriptedHost :=
  match host.process? handle with
  | some process => host.remember .kill process.binary.language
  | none => host

def markOutput (handle : Handle) (host : ScriptedHost) : ScriptedHost :=
  match host.process? handle with
  | some process =>
    (host.remember .mark process.binary.language).update handle
      fun process => { process with marked := true }
  | none => host

def openMemory : Work ScriptedHost Nat := do
  let host ← get
  set { host with memories := host.memories ++ [MemoryFile.empty] }
  return host.memories.length

def memory (index : Nat) : Work ScriptedHost MemoryFile := do
  return ((← get).memories[index]?).getD .empty

def openPipe : Work ScriptedHost Nat := do
  let host ← get
  let (pipe, pipes) := host.pipes.create
  set { host with pipes := pipes }
  return pipe

end ScriptedHost

def Sandbox.scripted : Sandbox ScriptedHost where
  launch := ScriptedHost.launch
  wait := ScriptedHost.wait
  communicate := ScriptedHost.communicate
  readStderr := ScriptedHost.readStderr
  kill := ScriptedHost.kill
  markOutput := ScriptedHost.markOutput
  report? host handle := (host.process? handle).bind ScriptedProcess.report?
  pid _ _ := 4242
  release _ host := host
  openMemory := ScriptedHost.openMemory
  memorySize index := do return (← ScriptedHost.memory index).size
  memoryBytes index := do return (← ScriptedHost.memory index).content
  openPipe := ScriptedHost.openPipe
  closeEnd e host := host.releaseEnds [e]

end ContestJudge
