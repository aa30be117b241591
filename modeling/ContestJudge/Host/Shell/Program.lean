import ContestJudge.Host.Shell.Eval

namespace ContestJudge.Host.Shell

def start (image : Image) (name : Octets) (arguments : List Octets) : Shell where
  name := name
  arguments := arguments
  bindings := (image.env.filter (·.1 ≠ "IFS".toList)).map (fun (name, value) => (name, value, true))
    ++ [("IFS".toList, [' ', '\t', '\n'], false), ("OPTIND".toList, ['1'], false)]
  functions := []
  status := 0
  streams := image.streams
  number := image.self
  background := []
  line := 1
  substituted := none
  others := []
  options := []
  traps := []
  isTested := false
  loops := 0
  frame := none
  fixed := []

def run (shell : Shell) (script : Octets) : Task :=
  (asProcess depth (runTokens depth false (Lexer.tokenize script))) shell fun (_, shell) =>
    .exit (shell.status % 256)

def runFile (shell : Shell) (descriptor : Nat) : Task :=
  Routine.readAll descriptor 100000 [] fun data => run shell (Octets.ofBytes data)

def isOption (text : Octets) : Bool := text.head? == some '-' && text.length > 1 && text != ['-', '-']

def program (image : Image) : Task :=
  let options := (image.argv.drop 1).takeWhile isOption
  let rest := (image.argv.drop 1).drop options.length
  let rest := if rest.head? = some ['-', '-'] then rest.drop 1 else rest
  let own := image.argv.headD []
  let letters := options.flatten.filter fun c => c ≠ '-' ∧ c ≠ 'c'
  Routine.ask .whereami fun reply =>
  let begin (name : Octets) (arguments : List Octets) : Shell :=
    let shell := switchOptions true letters (start image name arguments)
    match reply with
    | .text directory => give "PWD".toList directory shell
    | _ => shell
  if options.any (·.contains 'c') then
    match rest with
    | [] =>
      Routine.say image.streams.diagnostics "sh: 0: -c requires an argument\n" fun _ => .exit 2
    | script :: rest => run (begin (rest.headD own) (rest.drop 1)) script
  else match rest with
    | [] => runFile (begin own []) image.streams.input
    | path :: args =>
      Routine.openFile path .read fun
        | .ok descriptor => runFile (begin path args) descriptor
        | .error _ =>
          Routine.say image.streams.diagnostics
            ("sh: 0: cannot open " ++ Octets.toString path ++ ": No such file\n") fun _ => .exit 2

end ContestJudge.Host.Shell
