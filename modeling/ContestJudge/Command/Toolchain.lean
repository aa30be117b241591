import ContestJudge.Command.Transcript
import ContestJudge.Sandbox.Kernel
import ContestJudge.Text.Words

namespace ContestJudge

structure Tool where
  name : String
  /-- The argument that asks for the version. -/
  question : String
  deriving DecidableEq

structure Toolchain where
  language : String
  tools : List Tool
  deriving DecidableEq

inductive ToolAnswer where
  | version (line : String)
  /-- It was there and failed. -/
  | failed
  | notFound
  deriving DecidableEq

def Toolchain.all : List Toolchain :=
  [⟨"Python", [⟨"python3", "--version"⟩]⟩,
    ⟨"C++", [⟨"g++", "--version"⟩]⟩,
    ⟨"Java", [⟨"java", "-version"⟩, ⟨"javac", "-version"⟩]⟩]

namespace ToolAnswer

def text : ToolAnswer → String
  | .version line => line
  | .failed => "FAILED"
  | .notFound => "NOT FOUND"

def isVersion : ToolAnswer → Bool
  | .version _ => true
  | _ => false

/-- The answer of a tool that ran: the first line of its output, or of its diagnostics if there is
no output. -/
def ofRun (ending : Ending) (output diagnostics : Bytes) : ToolAnswer :=
  match ending with
  | .exited 0 =>
    let text := Utf8.decodeLossy (if output.isEmpty then diagnostics else output)
    .version (String.ofList (Text.trimChars ((Text.lines text.toList).headD [])))
  | _ => .failed

end ToolAnswer

namespace Tool

def startup (tool : Tool) (bindings : List (String × String)) : Startup where
  program := tool.name
  args := [tool.question]
  env := bindings
  directory := none
  stdin := .null
  stdout := .piped
  stderr := .piped
  limits := ⟨none, none, none, none⟩
  bounds := ⟨none, none, none, none⟩
  alarm := none
  usesShell := false

def outputLimit : Nat := 1000000000000

def ask {σ : Type} (kernel : Kernel σ) (files : FileStore) (bindings : List (String × String))
    (tool : Tool) (host : σ) : ToolAnswer × σ :=
  match kernel.start files (tool.startup bindings) host with
  | (.error _, host) => (.notFound, host)
  | (.ok job, host) =>
    let (output, host) := kernel.readOutput job outputLimit host
    let (diagnostics, host) := kernel.readDiagnostics job host
    let ended : Work σ (Ending × Usage) := do
      let _ ← kernel.awaitExit job
      kernel.reap job
    match ended.runOn host with
    | (.error _, host) => (.notFound, host)
    | (.ok (ending, _), host) =>
      (.ofRun ending (ReadOutcome.bytes output) (ReadOutcome.bytes diagnostics), host)

def askAll {σ : Type} (kernel : Kernel σ) (files : FileStore)
    (bindings : List (String × String)) : List Tool → σ → List (Tool × ToolAnswer) × σ
  | [], host => ([], host)
  | tool :: rest, host =>
    let (answer, host) := tool.ask kernel files bindings host
    let (answers, host) := askAll kernel files bindings rest host
    ((tool, answer) :: answers, host)

end Tool

structure ToolchainCheck where
  language : String
  answers : List (Tool × ToolAnswer)
  deriving DecidableEq

namespace ToolchainCheck

def isComplete (check : ToolchainCheck) : Bool := check.answers.all (·.2.isVersion)

def lines (check : ToolchainCheck) (isVerbose : Bool) : List String :=
  let state := if check.isComplete then "OK" else "MISSING"
  s!"{check.language} - {state}" ::
    if isVerbose then check.answers.map fun (tool, answer) => s!"  {tool.name} -> {answer.text}"
    else []

end ToolchainCheck

def Transcript.ofChecks (checks : List ToolchainCheck) (isVerbose : Bool) : Transcript :=
  let output := checks.flatMap (·.lines isVerbose)
  match (checks.filter fun check => !check.isComplete).map (·.language) with
  | [] => ⟨output, [], Transcript.successCode⟩
  | missing =>
    ⟨output, ["Missing toolchains: " ++ ", ".intercalate missing], Transcript.shortcomingCode⟩

def Toolchain.checkAll {σ : Type} (kernel : Kernel σ) (files : FileStore)
    (bindings : List (String × String)) : List Toolchain → σ → List ToolchainCheck × σ
  | [], host => ([], host)
  | chain :: rest, host =>
    let (answers, host) := Tool.askAll kernel files bindings chain.tools host
    let (checks, host) := checkAll kernel files bindings rest host
    (⟨chain.language, answers⟩ :: checks, host)

end ContestJudge
