namespace ContestJudge

structure GradeOptions where
  /-- The directory of the problem. -/
  problem : String
  language : String
  /-- The file of the submission. -/
  source : String
  /-- The file of the judge environment. -/
  environment : Option String
  /-- Whether output is captured through pipes. -/
  pipeOutput : Bool
  deriving DecidableEq

inductive Request where
  | grade (options : GradeOptions)
  | checkTools (isVerbose : Bool)
  | version
  | help
  /-- It cannot be understood. -/
  | unclear
  deriving DecidableEq

inductive OptionKind where
  | nothing
  | text
  /-- A path, which is not empty. -/
  | path
  deriving DecidableEq

inductive ArgumentForm where
  /-- The end of the options. -/
  | terminator
  /-- Two dashes, a name, and perhaps an equals sign and a value. -/
  | long (name : List Char) (value : Option String)
  /-- One dash and letters. -/
  | short (letter : Char)
  | plain
  deriving DecidableEq

def ArgumentForm.of (argument : String) : ArgumentForm :=
  match argument.toList with
  | ['-', '-'] => .terminator
  | '-' :: '-' :: rest =>
    let name := rest.takeWhile (· ≠ '=')
    match rest.drop name.length with
    | [] => .long name none
    | _ :: value => .long name (some (String.ofList value))
  | '-' :: letter :: _ => .short letter
  | _ => .plain

def OptionKind.admits : OptionKind → String → Bool
  | .nothing, _ => false
  | .text, _ => true
  | .path, value => !value.isEmpty

abbrev GivenOptions := List (String × String)

inductive OptionReading where
  | options (given : GivenOptions)
  | help
  | unclear

namespace OptionReading

/-- Reads the arguments of a command from left to right. Every option is given at most once, what
looks like an option is no value, and a call for help counts if all is well up to it. -/
def read (kinds : List (String × OptionKind)) : List String → GivenOptions → OptionReading
  | [], given => .options given
  | argument :: rest, given =>
    match ArgumentForm.of argument with
    | .plain => .unclear
    | .terminator => if rest.isEmpty then .options given else .unclear
    | .short letter => if letter = 'h' then .help else .unclear
    | .long letters value =>
      let name := String.ofList letters
      if name = "help" then if value.isNone then .help else .unclear
      else if (given.lookup name).isSome then .unclear
      else match kinds.lookup name, value with
        | none, _ => .unclear
        | some .nothing, none => read kinds rest ((name, "") :: given)
        | some kind, some value =>
          if kind.admits value then read kinds rest ((name, value) :: given) else .unclear
        | some kind, none =>
          match rest with
          | [] => .unclear
          | value :: rest =>
            if ArgumentForm.of value = .plain ∧ kind.admits value then
              read kinds rest ((name, value) :: given)
            else .unclear

def toRequest (reading : OptionReading) (build : GivenOptions → Option Request) : Request :=
  match reading with
  | .options given => (build given).getD .unclear
  | .help => .help
  | .unclear => .unclear

end OptionReading

namespace GradeOptions

def kinds : List (String × OptionKind) :=
  [("problem", .path), ("language", .text), ("source", .path), ("env", .path),
    ("pipe-output", .nothing)]

def ofGiven? (given : GivenOptions) : Option GradeOptions := do
  return {
    problem := ← given.lookup "problem"
    language := ← given.lookup "language"
    source := ← given.lookup "source"
    environment := given.lookup "env"
    pipeOutput := (given.lookup "pipe-output").isSome }

end GradeOptions

namespace Request

def ofCommand (command : String) (arguments : List String) : Request :=
  match command with
  | "grade" =>
    (OptionReading.read GradeOptions.kinds arguments []).toRequest fun given =>
      (GradeOptions.ofGiven? given).map .grade
  | "check-deps" =>
    (OptionReading.read [("verbose", .nothing)] arguments []).toRequest fun given =>
      some (.checkTools (given.lookup "verbose").isSome)
  | "help" =>
    if arguments = [] ∨ arguments.length = 1 ∧ ∀ topic ∈ arguments,
      topic ∈ ["grade", "check-deps", "help"] then .help else .unclear
  | _ => .unclear

def ofArguments : List String → Request
  | [] => .unclear
  | first :: rest =>
    match ArgumentForm.of first with
    | .plain => ofCommand first rest
    | .short 'h' => .help
    | .short 'V' => .version
    | .long ['h', 'e', 'l', 'p'] none => .help
    | .long ['v', 'e', 'r', 's', 'i', 'o', 'n'] none => .version
    | _ => .unclear

end Request
end ContestJudge
