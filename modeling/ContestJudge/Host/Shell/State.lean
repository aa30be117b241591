import ContestJudge.Host.Task
import ContestJudge.Host.Shell.Fields
import ContestJudge.Host.Shell.Reader

namespace ContestJudge.Host

structure Shell where
  /-- The name in front of messages. -/
  name : Octets
  arguments : List Octets
  /-- Names and values, and whether programs are given them. -/
  bindings : List (Octets × Octets × Bool)
  functions : List (Octets × Shell.Command)
  status : Nat
  streams : Streams
  /-- Further descriptors by the numbers that scripts use. -/
  others : List (Nat × Nat)
  /-- The number of the process of the whole script. -/
  number : Nat
  /-- Children that nobody waited for. -/
  background : List Nat
  line : Nat
  /-- The exit code of the last command whose output was put into the command in progress. -/
  substituted : Option Nat
  /-- The letters of the options that are on. -/
  options : Octets
  /-- Scripts that answer signals; an empty one ignores its signal, and zero is the end. -/
  traps : List (Nat × Octets)
  /-- The command in progress is only asked for its exit code. -/
  isTested : Bool
  /-- The number of loops around the command in progress. -/
  loops : Nat
  /-- In a function, the bindings that come back at its end. -/
  frame : Option (List (Octets × Option (Octets × Bool)))
  /-- The names of variables that keep their values. -/
  fixed : List Octets

namespace Shell

abbrev Run := StateT Shell Routine

inductive Flow where
  | onward
  /-- So many loops end. -/
  | leave (loops : Nat)
  /-- The next round of the loop that is so many loops out. -/
  | again (loops : Nat)
  /-- The function ends. -/
  | back
  /-- The shell ends. -/
  | finish
  deriving DecidableEq

def lift {α : Type} (routine : Routine α) : Run α := fun shell next => routine fun a => next (a, shell)

def quit {α : Type} (code : Nat) : Run α := lift (.exit code)

def setStatus (status : Nat) : Run Unit := modify ({ · with status := status })

def print (text : Octets) : Run (Option Refusal) := do
  lift (.write (← get).streams.output (Octets.toBytes text))

def warn (text : Octets) : Run Unit := do
  lift (.put (← get).streams.diagnostics text)

def complain (message : Octets) : Run Unit := do
  let shell ← get
  warn (shell.name ++ Octets.ofString s!": {shell.line}: " ++ message ++ ['\n'])

def abandon {α : Type} (message : Octets) : Run α := do
  complain message
  quit 2

def value? (shell : Shell) (name : Octets) : Option Octets :=
  (shell.bindings.find? (·.1 = name)).map (·.2.1)

def valueOf (shell : Shell) (name : Octets) : Octets := (shell.value? name).getD []

def assign (name value : Octets) (shell : Shell) : Shell :=
  let isGiven := (shell.bindings.find? (·.1 = name)).any (·.2.2)
  { shell with
    bindings := shell.bindings.filter (·.1 ≠ name) ++ [(name, value, isGiven)] }

def giveAway (name : Octets) (shell : Shell) : Shell :=
  if shell.bindings.any (·.1 = name) then
    { shell with bindings := shell.bindings.map fun (other, value, isGiven) =>
        (other, value, isGiven || other = name) }
  else shell

def change (name value : Octets) : Run Unit := do
  if (← get).fixed.contains name then abandon (name ++ Octets.ofString ": is read only")
  else modify (assign name value)

def give (name value : Octets) (shell : Shell) : Shell := giveAway name (assign name value shell)

def unset (name : Octets) (shell : Shell) : Shell :=
  { shell with bindings := shell.bindings.filter (·.1 ≠ name) }

def placeOf (name : Octets) : Nat :=
  name.foldl (fun sum c => sum + c.toNat) (((name.head?).elim 0 Char.toNat) * 16) % 39

def environment (shell : Shell) : Variables :=
  (shell.bindings.filterMap fun (name, value, isGiven) =>
    if isGiven then some (name, value) else none).mergeSort
      fun a b => decide (placeOf a.1 ≤ placeOf b.1)

def hasOption (shell : Shell) (letter : Char) : Bool := shell.options.contains letter

def separators (shell : Shell) : Octets := (shell.value? "IFS".toList).getD [' ', '\t', '\n']

def parameter? (shell : Shell) (name : Octets) : Option Octets :=
  match name with
  | ['?'] => some (Nat.toDigits 10 shell.status)
  | ['$'] => some (Nat.toDigits 10 shell.number)
  | ['#'] => some (Nat.toDigits 10 shell.arguments.length)
  | ['!'] => (shell.background.getLast?).map (Nat.toDigits 10)
  | ['-'] => some ("ubaCEVvxsnmiIfe".toList.filter shell.options.contains)
  | ['*'] => some (List.intercalate [' '] shell.arguments)
  | ['@'] => some (List.intercalate [' '] shell.arguments)
  | name =>
    match Octets.natural? name with
    | some 0 => some shell.name
    | some n => shell.arguments[n - 1]?
    | none => shell.value? name

def isName (text : Octets) : Bool :=
  text.head?.any Lexer.isNameStart && text.all Lexer.isNameChar

def assignmentIn? (text : Octets) : Option (Octets × Octets) :=
  let name := text.takeWhile (· ≠ '=')
  if isName name && name.length < text.length then some (name, text.drop (name.length + 1)) else none

end Shell
end ContestJudge.Host
