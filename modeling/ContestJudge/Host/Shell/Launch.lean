import ContestJudge.Host.Shell.Builtin
import ContestJudge.Text.Words

namespace ContestJudge.Host.Shell

def signalText (number : Nat) : String :=
  (["Hangup", "Interrupt", "Quit", "Illegal instruction", "Trace/breakpoint trap", "Aborted",
    "Bus error", "Floating point exception", "Killed", "User defined signal 1",
    "Segmentation fault", "User defined signal 2", "Broken pipe", "Alarm clock", "Terminated",
    "Stack fault", "Child exited", "Continued", "Stopped (signal)", "Stopped",
    "Stopped (tty input)", "Stopped (tty output)", "Urgent I/O condition",
    "CPU time limit exceeded", "File size limit exceeded", "Virtual timer expired",
    "Profiling timer expired", "Window changed", "I/O possible", "Power failure",
    "Bad system call"][number - 1]?).getD s!"Unknown signal {number}"

def childTask (shell : Shell) (body : Run Flow) : Task :=
  let traps := shell.traps.filter fun (_, action) => action.isEmpty
  body { shell with background := [], traps := traps } fun (_, shell) => .exit (shell.status % 256)

def spawnWith (streams : Streams) (body : Run Flow) : Run Nat := do
  let task := childTask { ← get with streams := streams } body
  let others := (← get).others.map (·.2)
  lift (.spawn task ([streams.input, streams.output, streams.diagnostics] ++ others))

def awaitChild (process : Nat) : Run Nat := do
  let ending ← lift (.wait process)
  match ending with
  | .signaled number =>
    if number ≠ 2 ∧ number ≠ 13 then warn (Octets.ofString (signalText number ++ "\n"))
  | .exited _ => pure ()
  return codeOf ending

/-! Programs -/

def usualPath : Octets := "/usr/local/sbin:/usr/local/bin:/usr/sbin:/usr/bin:/sbin:/bin".toList

def firstProgram : List Octets → Nat → Run (Except Nat Octets)
  | [], code => return .error code
  | path :: rest, code => do
    match ← lift (.ask (.status path)) with
    | .node node =>
      if node.isProgram then return .ok path else firstProgram rest 126
    | _ => firstProgram rest code

/-- The program that a name stands for; the exit code if it cannot be run. -/
def findProgram (name : Octets) : Run (Except Nat Octets) := do
  if name.isEmpty then return .error 127
  else if name.contains '/' then firstProgram [name] 127
  else
    let path := ((← get).value? "PATH".toList).getD usualPath
    let directories := splitAt (· == ':') path
    firstProgram (directories.map fun directory =>
      if directory.isEmpty then name else directory ++ '/' :: name) 127

/-- Becomes a program. A file that is none is taken for a script. -/
def become (path : Octets) (argv : List Octets) (env : Variables) : Run Flow := do
  let streams := (← get).streams
  match ← lift (.ask (.execute path argv env streams)) with
  | .refused (.file .badFormat) =>
    let shell := Octets.ofString "/bin/sh"
    let _ ← lift (.ask (.execute shell (shell :: path :: argv.drop 1) env streams))
    quit 126
  | .refused cause =>
    complain (path ++ Octets.ofString (": " ++ cause.message))
    quit 126
  | _ => quit 126

def runProgram (inPlace isExec : Bool) (argv : List Octets) (env : Variables) : Run Unit := do
  let name := argv.headD []
  match ← findProgram name with
  | .error code =>
    let message := name ++ Octets.ofString (if code = 127 then ": not found" else ": Permission denied")
    complain ((if isExec then Octets.ofString "exec: " else []) ++ message)
    if inPlace then quit code
    setStatus code
  | .ok path =>
    if inPlace then let _ ← become path argv env
    else setStatus (← awaitChild (← spawnWith (← get).streams (become path argv env)))

/-! Streams -/

def setStream (number target : Nat) (shell : Shell) : Shell :=
  match number with
  | 0 => { shell with streams := { shell.streams with input := target } }
  | 1 => { shell with streams := { shell.streams with output := target } }
  | 2 => { shell with streams := { shell.streams with diagnostics := target } }
  | _ => { shell with others := (number, target) :: shell.others.filter (·.1 ≠ number) }

def stream? (shell : Shell) : Nat → Option Nat
  | 0 => some shell.streams.input
  | 1 => some shell.streams.output
  | 2 => some shell.streams.diagnostics
  | number => shell.others.lookup number

def closedDescriptor : Nat := 1000000

/-- A descriptor to read a text from. A long one is written by a child. -/
def openText (text : Octets) : Run (Except String (Nat × Bool)) := do
  match ← lift (.ask .pipe) with
  | .ends reader writer =>
    if text.length ≤ 4096 then lift (.put writer text)
    else let _ ← spawnWith { (← get).streams with output := writer } do
      let _ ← print text
      setStatus 0
      return .onward
    lift (.close writer)
    return .ok (reader, true)
  | _ => return .error "Pipe call failed"

def openTarget (kind : RedirectKind) (target : Octets) : Run (Except String (Nat × Bool)) := do
  let failure (cause : Refusal) (missing : String) : String :=
    match cause with
    | .file .notFound => missing
    | cause => cause.message
  match kind with
  | .document => openText target
  | .duplicate =>
    if target = ['-'] then return .ok (closedDescriptor, false)
    match (Octets.natural? target).bind (stream? (← get)) with
    | some descriptor => return .ok (descriptor, false)
    | none => return .error (Octets.toString target ++ ": Bad file descriptor")
  | .input =>
    match ← lift (.openFile target .read) with
    | .ok descriptor => return .ok (descriptor, true)
    | .error cause =>
      return .error ("cannot open " ++ Octets.toString target ++ ": " ++ failure cause "No such file")
  | kind =>
    match ← lift (.openFile target (if kind = .append then .append else .write)) with
    | .ok descriptor => return .ok (descriptor, true)
    | .error cause =>
      return .error ("cannot create " ++ Octets.toString target ++ ": "
        ++ failure cause "Directory nonexistent")

def restoreStreams (before : Shell) (opened : List Nat) : Run Unit := do
  for descriptor in opened do
    lift (.close descriptor)
  modify ({ · with streams := before.streams, others := before.others })

end ContestJudge.Host.Shell
