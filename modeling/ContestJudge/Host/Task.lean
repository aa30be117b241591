import ContestJudge.Host.Octets
import ContestJudge.Sandbox.Kernel
/-!
What a process still has to do, as a tree: a task asks the machine for something and goes on with
the answer. Programs are written as routines, which say what is done with their result later.
-/

namespace ContestJudge.Host

inductive Refusal where
  | file (cause : FileFault)
  | brokenPipe
  | fileTooLarge
  | badDescriptor
  | noProcess
  | invalid
  | notPermitted
  /-- The call would have to wait. -/
  | again
  deriving DecidableEq

def Refusal.message : Refusal → String
  | .file .notFound => "No such file or directory"
  | .file .denied => "Permission denied"
  | .file .notDirectory => "Not a directory"
  | .file .isDirectory => "Is a directory"
  | .file .nameTooLong => "File name too long"
  | .file .noSpace => "No space left on device"
  | .file .badFormat => "Exec format error"
  | .file .argumentsTooLong => "Argument list too long"
  | .file .tooManyLinks => "Too many levels of symbolic links"
  | .file cause => cause.message
  | .brokenPipe => "Broken pipe"
  | .fileTooLarge => "File too large"
  | .badDescriptor => "Bad file descriptor"
  | .noProcess => "No such process"
  | .invalid => "Invalid argument"
  | .notPermitted => "Operation not permitted"
  | .again => "Resource temporarily unavailable"

inductive OpenMode where
  | read
  | write
  | append
  deriving DecidableEq, Repr

structure Streams where
  input : Nat
  output : Nat
  diagnostics : Nat
  deriving DecidableEq, Repr

def Streams.standard : Streams := ⟨0, 1, 2⟩

abbrev Variables := List (Octets × Octets)

/-- The number of the process that starts the jobs. -/
def ownerPid : Nat := 4242

def firstPid : Nat := ownerPid + 1

structure Image where
  argv : List Octets
  env : Variables
  streams : Streams
  /-- The number of the process. -/
  self : Nat

inductive Disposition where
  | ignored
  /-- It is noted, and the process goes on. -/
  | noted
  deriving DecidableEq, Repr

inductive Call where
  /-- Spends some processor time. -/
  | tick
  /-- Reads at most so many bytes. No bytes are the end of the file. -/
  | read (descriptor limit : Nat)
  | write (descriptor : Nat) (data : Bytes)
  | openFile (path : Octets) (mode : OpenMode)
  | close (descriptor : Nat)
  /-- The size of what is open, if it is a plain file. -/
  | size (descriptor : Nat)
  /-- Says whether calls on what is open wait from now on, through every descriptor of it. -/
  | setWaiting (descriptor : Nat) (waits : Bool)
  /-- Whether two descriptors lead to the same file. -/
  | isSame (descriptor other : Nat)
  /-- The number of the parent. -/
  | parent
  /-- A descriptor for another process. -/
  | openProcess (process : Nat)
  /-- Shares a descriptor of the process that a descriptor is for. -/
  | share (process descriptor : Nat)
  /-- A new pipe: the descriptors to read from it and to write to it. -/
  | pipe
  /-- Waits for the end of a child. -/
  | wait (process : Nat)
  /-- Sends a signal to a process, or to its own job if that is number zero. -/
  | signal (process number : Nat)
  /-- Says what becomes of a signal from now on. -/
  | handle (number : Nat) (disposition : Option Disposition)
  /-- The signals that were noted since they were last asked for. -/
  | noted
  /-- Waits some nanoseconds. -/
  | sleep (time : Nat)
  /-- The names in a directory. -/
  | listing (path : Octets)
  /-- What a path leads to. -/
  | status (path : Octets)
  | enter (directory : Octets)
  | whereami
  | limits
  /-- Changes the limits that hold, and how far they may be raised from now on. -/
  | limit (limits bounds : ResourceLimits)
  /-- Becomes another program, unless that is refused. -/
  | execute (path : Octets) (argv : List Octets) (env : Variables) (streams : Streams)

inductive Reply where
  | done
  | refused (cause : Refusal)
  | data (data : Bytes)
  | number (n : Nat)
  | ends (reader writer : Nat)
  | ended (ending : Ending)
  | names (names : List String)
  | node (node : FileNode)
  | text (text : Octets)
  | signals (numbers : List Nat)
  | current (limits bounds : ResourceLimits)

inductive Task where
  | exit (code : Nat)
  | call (call : Call) (next : Reply → Task)
  /-- Starts a child that shares some descriptors, and goes on with its number. -/
  | spawn (child : Task) (shared : List Nat) (next : Nat → Task)

/-- A piece of a program: what comes after it is given later. -/
def Routine (α : Type) : Type := (α → Task) → Task

namespace Routine

variable {α β : Type}

instance : Monad Routine where
  pure a := fun next => next a
  bind routine f := fun next => routine fun a => f a next

def ask (call : Call) : Routine Reply := fun next => .call call next

def spawn (child : Task) (shared : List Nat) : Routine Nat := fun next => .spawn child shared next

def exit (code : Nat) : Routine α := fun _ => .exit (code % 256)

def toTask (routine : Routine Nat) : Task := routine fun code => .exit (code % 256)

def tick : Routine Unit := do let _ ← ask .tick

/-- Reads some bytes; none at the end of the file and where reading is refused. -/
def read (descriptor limit : Nat) : Routine Bytes := do
  match ← ask (.read descriptor limit) with
  | .data data => return data
  | _ => return []

def write (descriptor : Nat) (data : Bytes) : Routine (Option Refusal) := do
  if data.isEmpty then return none
  match ← ask (.write descriptor data) with
  | .refused cause => return some cause
  | _ => return none

def say (descriptor : Nat) (text : String) : Routine Unit := do
  let _ ← write descriptor (Utf8.encode text)

def put (descriptor : Nat) (text : Octets) : Routine Unit := do
  let _ ← write descriptor (Octets.toBytes text)

def openFile (path : Octets) (mode : OpenMode) : Routine (Except Refusal Nat) := do
  match ← ask (.openFile path mode) with
  | .number descriptor => return .ok descriptor
  | .refused cause => return .error cause
  | _ => return .error .badDescriptor

def close (descriptor : Nat) : Routine Unit := do let _ ← ask (.close descriptor)

def wait (process : Nat) : Routine Ending := do
  match ← ask (.wait process) with
  | .ended ending => return ending
  | _ => return .exited 127

def readAll (descriptor : Nat) : Nat → Bytes → Routine Bytes
  | 0, found => return found
  | fuel + 1, found => do
    let data ← read descriptor 65536
    if data.isEmpty then return found else readAll descriptor fuel (found ++ data)

end Routine
end ContestJudge.Host
