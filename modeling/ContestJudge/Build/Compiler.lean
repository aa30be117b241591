import ContestJudge.Build.Language
import ContestJudge.Judge.Desk
/-!
Building sources: they are written into a workspace of their own, and the compiler of the language
runs there in the sandbox. Only what is wrong with the sources is a compile fault; a compiler that
cannot be run is a fault of the judge.
-/

namespace ContestJudge

abbrev Compiler (σ : Type) := CompileRequest → Judge σ Binary

namespace Compiler

variable {σ : Type}

def ofFunction (answer : CompileRequest → Except Fault Binary) : Compiler σ := fun request =>
  Work.ofExcept (answer request)

def request (compiler : Compiler σ) (request : CompileRequest) : Judge σ Binary := do
  Judge.note (.requested request)
  compiler request

end Compiler

def Binary.letGo {σ : Type} (binary : Binary) (desk : Desk σ) : Desk σ :=
  match binary.workspace with
  | some path => desk.withFiles (desk.files.removeWorkspace path)
  | none => desk

namespace Build

variable {σ : Type}

/-- Bytes that are kept of each stream of a compiler. -/
def outputLimit : Nat := 64 * 1024

def silentEnd (report : ProcessReport) : String :=
  match report.signalName, report.exitCode with
  | some signal, _ => s!"compiler killed by {signal}"
  | none, some code => s!"compiler exited with code {code}"
  | none, none => "compiler failed"

/-- What the author of the sources gets to read: stderr, then stdout, and never nothing. -/
def diagnostics (output : CapturedOutput) (report : ProcessReport) : String :=
  let text := Utf8.decodeLossy output.stderr ++ Utf8.decodeLossy output.stdout
  if Text.isBlank text then silentEnd report else text

def conclude (timeLimit : Duration) (output : CapturedOutput) (report : ProcessReport) :
    Except Fault Unit :=
  if report.isTle then
    .error (.compile s!"compiler timed out (> {timeLimit.toSeconds.inMessage} seconds)")
  else if !report.succeeded then .error (.compile (diagnostics output report))
  else .ok ()

def tool (language : Language) (command : List String) : Binary :=
  ⟨language.name, command, [], 0, language.limitsAddressSpace, none⟩

def toolSpec (timeLimit : Duration) (memoryLimit : Nat) (workspace : String) : LaunchSpec :=
  { LaunchSpec.limited timeLimit memoryLimit with
    wallTime := some timeLimit
    stdout := .piped
    workdir := some workspace }

def follow (sandbox : Sandbox σ) (process : Handle) :
    Judge σ (CapturedOutput × ProcessReport) := do
  let output ← (sandbox.capture process outputLimit outputLimit).relabel
    fun fault => .internal (.compilerUnreadable fault.message)
  if output.isTruncated then sandbox.stop process
  let report ← (sandbox.awaitEnd process).relabel
    fun fault => .internal (.compilerNotReaped fault.message)
  return (output, report)

def runTool (sandbox : Sandbox σ) (tool : Binary) (spec : LaunchSpec) : Judge σ Unit := do
  let process ← (sandbox.start tool spec).relabel
    fun fault => .internal (.compilerNotStarted fault.message)
  let (output, report) ← (follow sandbox process).always (sandbox.letGo process)
  Work.ofExcept (conclude spec.time output report)

def writeSource (language : Language) (workspace : String) (source : SourceFile) :
    Judge σ String := do
  let name := source.name.getD (language.sourceName source.content)
  unless Path.isPlainName name do throw (.compile s!"invalid source file name: {name}")
  let desk ← get
  match desk.files.write (Path.join workspace name) source.content with
  | .ok files =>
    set (desk.withFiles files)
    return name
  | .error cause => throw (.internal (.sourceUnwritable name cause))

def writeSources (language : Language) (workspace : String) :
    List SourceFile → Judge σ (List String)
  | [] => return []
  | source :: rest => do
    let name ← writeSource language workspace source
    let names ← writeSources language workspace rest
    return name :: names

def product (language : Language) (workspace : String) (names : List String)
    (unbuffered : Bool) : Binary :=
  ⟨language.name, language.runCommand workspace names, language.env unbuffered, 0,
    language.limitsAddressSpace, some workspace⟩

def inWorkspace (sandbox : Sandbox σ) (memoryLimit : Nat) (language : Language)
    (request : CompileRequest) (workspace : String) : Judge σ Binary := do
  let names ← writeSources language workspace request.sources
  match language.compileCommand workspace names request.flags with
  | some command =>
    runTool sandbox (tool language command) (toolSpec request.timeLimit memoryLimit workspace)
  | none => pure ()
  return product language workspace names request.unbuffered

def newWorkspace : Judge σ String := fun desk =>
  let (answer, files) := desk.files.createWorkspace
  (answer.mapError fun cause => .internal (.noWorkspace cause), desk.withFiles files)

def compiler (sandbox : Sandbox σ) (memoryLimit : Nat) : Compiler σ := fun request => do
  match Language.find? request.language with
  | none => throw (.compile s!"unsupported language: {request.language}")
  | some language =>
    let workspace ← newWorkspace
    (inWorkspace sandbox memoryLimit language request workspace).unlessDone fun desk =>
      desk.withFiles (desk.files.removeWorkspace workspace)

end Build
end ContestJudge
