import ContestJudge.Duration
import ContestJudge.Files.Node
import ContestJudge.Sandbox.Pipe

namespace ContestJudge

/-- A command that can be launched. Its workspace lives as long as the binary does. -/
structure Binary where
  language : String
  argv : List String
  env : List (String × String)
  /-- Bytes of output that the binary was built for. -/
  footprint : Nat
  /-- Runtimes that reserve large ranges of addresses are judged by resident memory alone. -/
  limitsAddressSpace : Bool
  workspace : Option String
  deriving DecidableEq

inductive Descriptor where
  /-- A file that was opened for reading. -/
  | file (opened : OpenedFile)
  | memory (index : Nat)
  | pipe (e : PipeEnd)
  deriving DecidableEq

/-- How one standard stream is wired. A descriptor is handed over for good. -/
inductive Stdio where
  | null
  /-- Captured by the sandbox. -/
  | piped
  | given (descriptor : Descriptor)
  deriving DecidableEq

/-- The wiring in a word. What is given and holds no data of its own counts as a pipe. -/
def Stdio.kind : Stdio → String
  | .null => "null"
  | .piped => "piped"
  | .given (.file (.content _)) => "file"
  | .given (.memory _) => "file"
  | .given _ => "pipe"

def Stdio.pipeEnd? : Stdio → Option PipeEnd
  | .given (.pipe e) => some e
  | _ => none

structure LaunchSpec where
  /-- Arguments behind those of the binary. -/
  args : List String
  /-- Processor time. -/
  time : Duration
  /-- Wall clock time; without it nobody watches the clock. -/
  wallTime : Option Duration
  /-- KiB; zero is no limit. -/
  memory : Nat
  stdin : Stdio
  stdout : Stdio
  stderr : Stdio
  /-- Link names and targets. -/
  symlinks : List (String × String)
  /-- Files that may be read beyond those of the binary. -/
  readable : List String
  /-- The largest file that may be written, in bytes. -/
  fileSize : Option Nat
  workdir : Option String
  env : List (String × String)
  deriving DecidableEq

namespace LaunchSpec

def limited (time : Duration) (memory : Nat) : LaunchSpec :=
  ⟨[], time, none, memory, .null, .null, .piped, [], [], none, none, []⟩

def pipeEnds (spec : LaunchSpec) : List PipeEnd :=
  [spec.stdin, spec.stdout, spec.stderr].filterMap Stdio.pipeEnd?

end LaunchSpec
end ContestJudge
