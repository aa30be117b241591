import ContestJudge.Host.Script.Eval
import ContestJudge.Host.Script.Reader

namespace ContestJudge.Host.Script

def fuel : Nat := 1000000000

def complaint (memory : Memory) (kind : String) (args : List Value) : String :=
  let message := String.ofList ((Value.exception kind args).textOf memory)
  kind ++ (if message.isEmpty then "" else ": " ++ message) ++ "\n"

def sourceLine (program : List Char) (line : Nat) : String :=
  String.ofList (Text.trimChars (((splitAt (· == '\n') program)[line - 1]?).getD []))

def place (path : Octets) (line : Nat) : String :=
  "  File \x22" ++ Octets.toString path ++ s!"\x22, line {line}"

/-- Writes what was kept back and ends with an exit code. Output that cannot be written any more
spoils the exit code. -/
def leave (code : Nat) (state : Interpreter) : Task :=
  flush.run state fun
    | (.ok _, _) => .exit code
    | (.error _, state) =>
      Routine.say state.streams.diagnostics
        "Exception ignored in: <_io.TextIOWrapper name=\x27<stdout>\x27>\nBrokenPipeError\n"
        fun _ => .exit 120

def runBlock (path : Octets) (program : List Char) (block : Block) (state : Interpreter) : Task :=
  (exec fuel block).run state fun
    | (.ok _, state) => leave 0 state
    | (.error (.quit code), state) => leave code state
    | (.error (.raised kind args), state) =>
      let text := "Traceback (most recent call last):\n" ++ place path state.line
        ++ ", in <module>\n    " ++ sourceLine program state.line ++ "\n"
        ++ complaint state.memory kind args
      Routine.say state.streams.diagnostics text fun _ => leave 1 state

def runText (path : Octets) (program : List Char) (state : Interpreter) : Task :=
  match Reader.program program with
  | .ok block => runBlock path program block state
  | .error ⟨kind, message, line⟩ =>
    Routine.say state.streams.diagnostics
      (place path line ++ "\n    " ++ sourceLine program line ++ "\n    ^\n" ++ kind ++ ": "
        ++ message ++ "\n") fun _ => .exit 1

def start (image : Image) (args : List Octets) : Interpreter where
  memory := #[args.map fun arg => .text (Octets.toString arg).toList]
  functions := #[]
  globals := []
  frames := []
  streams := image.streams
  number := image.self
  args := .list 0
  isDirect := image.env.any fun (name, value) =>
    name = "PYTHONUNBUFFERED".toList && !value.isEmpty
  pending := []
  unread := []
  line := 1

def ignoreWriteSignals : Routine Unit := do
  let _ ← Routine.ask (.handle Signal.brokenPipe.toNat (some .ignored))
  let _ ← Routine.ask (.handle Signal.fileSizeLimit.toNat (some .ignored))

def program (image : Image) : Task :=
  let words := (image.argv.drop 1).dropWhile (·.head? == some '-')
  let options := (image.argv.drop 1).takeWhile (·.head? == some '-')
  ignoreWriteSignals fun _ =>
    if options.any fun option => option = "--version".toList ∨ option = "-V".toList then
      Routine.say image.streams.output "Python 3.11.2\n" fun _ => .exit 0
    else match words with
      | [] =>
        Routine.readAll image.streams.input 1000000 [] fun data =>
          runText "<stdin>".toList (decode data) (start image [[]])
      | path :: _ =>
        Routine.openFile path .read fun
          | .ok descriptor =>
            Routine.readAll descriptor 1000000 [] fun data =>
              Routine.close descriptor fun _ => runText path (decode data) (start image words)
          | .error cause =>
            Routine.say image.streams.diagnostics
              ("python3: can\x27t open file \x27" ++ Octets.toString path ++ "\x27: "
                ++ cause.message ++ "\n") fun _ => .exit 2

end ContestJudge.Host.Script
