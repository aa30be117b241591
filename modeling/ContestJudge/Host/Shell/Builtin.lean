import ContestJudge.Host.Shell.Condition
import ContestJudge.Host.Shell.Arithmetic
import ContestJudge.Host.Shell.State
import ContestJudge.Host.Tools.Printing
import ContestJudge.Signal

namespace ContestJudge.Host.Shell

def complainOf (command : String) (message : Octets) : Run Unit :=
  complain (Octets.ofString (command ++ ": ") ++ message)

def rejectNumber {α : Type} (command : String) (text : Octets) : Run α :=
  abandon (Octets.ofString (command ++ ": Illegal number: ") ++ text)

def numberBound : Nat := 2147483648

/-- The number that an argument is: decimal digits, perhaps with a sign and between blanks. -/
def numberIn? (text : Octets) : Option Nat :=
  let isBlank (c : Char) := c = ' ' || (9 ≤ c.toNat && c.toNat ≤ 13)
  let text := ((text.dropWhile isBlank).reverse.dropWhile isBlank).reverse
  match Octets.integer? text with
  | some (.ofNat n) => if n < numberBound then some n else none
  | _ => none

def numberArgument (command : String) (args : List Octets) (usual : Nat) : Run Nat :=
  match args with
  | [] => return usual
  | text :: _ => (numberIn? text).elim (rejectNumber command text) pure

def printAs (command : String) (text : Octets) : Run Nat := do
  match ← print text with
  | none => return 0
  | some _ =>
    complainOf command (Octets.ofString (command ++ ": I/O error"))
    return 1

def printFormat (args : List Octets) : Run Nat := do
  match args with
  | [] => abandon (Octets.ofString "printf: usage: printf format [arg ...]")
  | format :: args =>
    let printed := Printing.format format args
    let code ← printAs "printf" printed.text.reverse
    for arg in printed.faulty do
      complainOf "printf" (arg ++ Octets.ofString ": expected numeric value")
    match printed.unknown with
    | some directive =>
      complainOf "printf" (directive ++ Octets.ofString ": invalid directive")
      return 1
    | none => return if printed.faulty.isEmpty then code else 1

/-! Reading a line -/

def readLine (input : Nat) (raw : Bool) : Nat → List Glyph → Routine (List Glyph × Bool)
  | 0, found => return (found, false)
  | fuel + 1, found => do
    let next := do return Octets.ofBytes (← Routine.read input 1)
    match ← next with
    | ['\n'] => return (found, true)
    | ['\x5c'] =>
      if raw then readLine input raw fuel (⟨'\x5c', false, true⟩ :: found)
      else match ← next with
        | ['\n'] => readLine input raw fuel found
        | [c] => readLine input raw fuel (⟨c, true, true⟩ :: found)
        | _ => return (found, false)
    | ['\x00'] => readLine input raw fuel found
    | [c] => readLine input raw fuel (⟨c, false, true⟩ :: found)
    | _ => return (found, false)

def longestLine : Nat := 100000000

def isSeparator (separators : Octets) (g : Glyph) : Bool := !g.isQuoted && separators.contains g.char

def isBlankSeparator (separators : Octets) (g : Glyph) : Bool :=
  isSeparator separators g && Splitter.isBlank g.char

/-- The fields of a line for some names. The last name gets all that is left. -/
def distribute (separators : Octets) : List Octets → List Glyph → List (Octets × Octets)
  | [], _ => []
  | [name], line =>
    let trimmed := line.reverse.dropWhile (isBlankSeparator separators)
    [(name, trimmed.reverse.map (·.char))]
  | name :: names, line =>
    let field := line.takeWhile fun g => !isSeparator separators g
    let behind := (line.drop field.length).dropWhile (isBlankSeparator separators)
    let rest := match behind with
      | g :: rest =>
        if isSeparator separators g then rest.dropWhile (isBlankSeparator separators) else behind
      | [] => []
    (name, field.map (·.char)) :: distribute separators names rest

def readNames (args : List Octets) : Run Nat := do
  let raw := args.head? = some ['-', 'r']
  let names := if raw then args.drop 1 else args
  let shell ← get
  let (found, isWhole) ← lift (readLine shell.streams.input raw longestLine [])
  let line := found.reverse.dropWhile (isBlankSeparator shell.separators)
  for (name, value) in distribute shell.separators names line do
    change name value
  return if isWhole then 0 else 1

/-! Conditions -/

def fileTest (test : Char) (path : Octets) : Run Bool := do
  match ← lift (.ask (.status path)) with
  | .node node =>
    match test with
    | 'f' => return node.isFile
    | 'd' => return node == .directory
    | 'c' => return node.isDevice
    | 'x' => return node.isExecutable
    | 's' => return node.hasContent
    | _ => return true
  | _ => return false

def Condition.holds : Condition → Run Bool
  | .known b => return b
  | .file test path => fileTest test path
  | .negation c => do return !(← c.holds)
  | .both a b => do if ← a.holds then b.holds else return false
  | .either a b => do if ← a.holds then return true else b.holds

def test (command : String) (words : List Octets) : Run Nat := do
  match Condition.ofWords words with
  | .ok condition => return if ← condition.holds then 0 else 1
  | .error what =>
    complainOf command (Octets.ofString what)
    return 2

def bracket (args : List Octets) : Run Nat := do
  if args.getLast? = some [']'] then test "[" args.dropLast
  else
    complainOf "[" (Octets.ofString "missing ]")
    return 2

/-! Processes -/

def signalBound : Nat := 65

def signalName (number : Nat) : String :=
  if number = 0 then "EXIT"
  else if number = 16 then "16"
  else if number < 34 then (Signal.names[number - 1]?).getD (toString number)
  else if number = 34 then "RTMIN"
  else if number < 50 then s!"RTMIN+{number - 34}"
  else if number < 64 then s!"RTMAX-{64 - number}"
  else "RTMAX"

def signalOf? (text : Octets) : Option Nat :=
  match Octets.natural? text with
  | some n => if n < signalBound then some n else none
  | none =>
    let name := String.ofList (text.map Char.toUpper)
    (List.range signalBound).find? fun number => signalName number == name

def killTargets (args : List Octets) : Except String (Nat × List Octets) :=
  let fault (text : Octets) := "invalid signal number or name: " ++ Octets.toString text
  match args with
  | ['-', 's'] :: name :: rest =>
    match signalOf? name with
    | some number => .ok (number, rest)
    | none => .error (fault name)
  | ['-', '-'] :: rest => .ok (15, rest)
  | ('-' :: name) :: rest =>
    match signalOf? name with
    | some number => .ok (number, rest)
    | none => .error ("Illegal option -" ++ Octets.toString (name.take 1))
  | rest => .ok (15, rest)

def killUsage : String :=
  "Usage: kill [-s sigspec | -signum | -sigspec] [pid | job]... or\nkill -l [exitstatus]"

def sendAll (number : Nat) : List Octets → Run Nat
  | [] => return 0
  | target :: rest => do
    match Octets.natural? target with
    | none =>
      complainOf "kill" (Octets.ofString "Illegal number: " ++ target)
      return 2
    | some process =>
      let reply ← lift (.ask (.signal process number))
      let code ← sendAll number rest
      match reply with
      | .refused cause =>
        complainOf "kill" (Octets.ofString (cause.message ++ "\n"))
        return 1
      | _ => return code

def listSignals (args : List Octets) : Run Nat := do
  match args with
  | [] =>
    let names := (List.range signalBound).map fun number => if number = 0 then "0" else signalName number
    printAs "kill" (Octets.ofString (String.join (names.map (· ++ "\n"))))
  | arg :: _ =>
    match Octets.natural? arg with
    | some n =>
      let number := if n > 128 then n - 128 else n
      if number = 0 ∨ number ≥ signalBound then
        abandon (Octets.ofString "kill: invalid signal number or exit status: " ++ arg)
      else printAs "kill" (Octets.ofString (signalName number ++ "\n"))
    | none => abandon (Octets.ofString "kill: Illegal number: " ++ arg)

def kill (args : List Octets) : Run Nat := do
  match args with
  | ['-', 'l'] :: rest => listSignals rest
  | args =>
    match killTargets args with
    | .error what => abandon (Octets.ofString ("kill: " ++ what))
    | .ok (_, []) => abandon (Octets.ofString ("kill: " ++ killUsage))
    | .ok (number, targets) => sendAll number targets

/-! Answers to signals -/

def dispositionOf : Option Octets → Option Disposition
  | none => none
  | some [] => some .ignored
  | some _ => some .noted

def setTraps (action : Option Octets) : List Octets → Run Nat
  | [] => return 0
  | name :: rest => do
    match signalOf? name with
    | none =>
      warn (Octets.ofString "trap: " ++ name ++ Octets.ofString ": bad trap\n")
      return 1
    | some number =>
      if number ≠ 0 then let _ ← lift (.ask (.handle number (dispositionOf action)))
      modify fun shell => { shell with
        traps := action.toList.map (number, ·) ++ shell.traps.filter (·.1 ≠ number) }
      setTraps action rest

def shownQuoted (text : Octets) : Octets :=
  '\x27' :: text.flatMap (fun c => if c = '\x27' then "\x27\x22\x27\x22\x27".toList else [c]) ++ ['\x27']

def trap (args : List Octets) : Run Nat := do
  match args with
  | [] =>
    let traps := (← get).traps.mergeSort fun a b => decide (a.1 ≤ b.1)
    printAs "trap" (traps.flatMap fun (number, action) =>
      "trap -- ".toList ++ shownQuoted action ++ Octets.ofString (" " ++ signalName number ++ "\n"))
  | ['-', '-'] :: rest => setAll rest
  | args => setAll args
where
  /-- An action with its signals, or signals alone. -/
  setAll (args : List Octets) : Run Nat := do
    match args with
    | [] => return 0
    | [name] => setTraps none [name]
    | first :: rest =>
      if (Octets.natural? first).isSome then setTraps none (first :: rest)
      else setTraps (if first = ['-'] then none else some first) rest

def codeOf : Ending → Nat
  | .exited code => code
  | .signaled number => 128 + number

def waitFor (process : Nat) : Run Ending := do
  let ending ← lift (.wait process)
  modify fun shell => { shell with background := shell.background.filter (· ≠ process) }
  return ending

def waitAll (args : List Octets) : Run Nat := do
  if args.isEmpty then
    for process in (← get).background do
      let _ ← waitFor process
    return 0
  else
    let mut code := 0
    for arg in args do
      match Octets.natural? arg with
      | some process =>
        if (← get).background.contains process then code := codeOf (← waitFor process)
        else code := 127
      | none => code := 2
    return code

/-! Limits -/

def limitNames : List (Char × String) :=
  [('t', "time(seconds)"), ('f', "file(blocks)"), ('d', "data(kbytes)"), ('s', "stack(kbytes)"),
    ('c', "coredump(blocks)"), ('m', "memory(kbytes)"), ('l', "locked memory(kbytes)"),
    ('p', "process"), ('n', "nofiles"), ('v', "vmemory(kbytes)"), ('w', "locks"), ('r', "rtprio")]

structure LimitChoice where
  /-- The letter of one kind, or of all. -/
  kind : Char
  /-- The limit that holds. -/
  onHolding : Bool
  /-- How far it may be raised. -/
  onBound : Bool

namespace LimitChoice

def usual : LimitChoice := ⟨'f', true, true⟩

def withLetter (choice : LimitChoice) (letter : Char) : Except Char LimitChoice :=
  if letter = 'H' then .ok ⟨choice.kind, false, true⟩
  else if letter = 'S' then .ok ⟨choice.kind, true, false⟩
  else if letter = 'a' || (limitNames.lookup letter).isSome then .ok { choice with kind := letter }
  else .error letter

/-- A choice after the options in front of some words, and the other words; or a letter that is no
option. -/
def ofWords : LimitChoice → List Octets → Except Char (LimitChoice × List Octets)
  | choice, ['-', '-'] :: rest => .ok (choice, rest)
  | choice, ('-' :: letter :: letters) :: rest => do
    ofWords (← (letter :: letters).foldlM withLetter choice) rest
  | choice, words => .ok (choice, words)

end LimitChoice

def limitUnit (kind : Char) : Nat :=
  if kind = 't' then 1 else if kind = 'v' then 1024 else 512

def heldLimit (limits : ResourceLimits) : Char → Option Nat
  | 'c' => limits.core
  | 't' => limits.processor
  | 'v' => limits.addressSpace
  | 'f' => limits.fileSize
  | _ => none

def setLimit (limits : ResourceLimits) (kind : Char) (n : Option Nat) : ResourceLimits :=
  match kind with
  | 'c' => { limits with core := n }
  | 't' => { limits with processor := n }
  | 'v' => { limits with addressSpace := n }
  | 'f' => { limits with fileSize := n }
  | _ => limits

def limitText (limits : ResourceLimits) (kind : Char) : Octets :=
  match heldLimit limits kind with
  | none => "unlimited".toList
  | some n => Nat.toDigits 10 (n / limitUnit kind)

def limitIn? (kind : Char) (text : Octets) : Option (Option Nat) :=
  if text = "unlimited".toList then some none
  else (Octets.natural? ('0' :: text)).map fun n => some (n * limitUnit kind)

def resourceLimit (args : List Octets) : Run Nat := do
  match LimitChoice.ofWords .usual args, ← lift (.ask .limits) with
  | .error letter, _ => refuse (Octets.ofString "Illegal option -" ++ [letter])
  | .ok (choice, []), .current limits bounds =>
    let limits := if choice.onHolding then limits else bounds
    if choice.kind = 'a' then
      printAs "ulimit" (limitNames.flatMap fun (kind, name) =>
        Octets.ofString (name.pushn ' ' (21 - name.length)) ++ limitText limits kind ++ ['\n'])
    else printAs "ulimit" (limitText limits choice.kind ++ ['\n'])
  | .ok (choice, [text]), .current limits bounds =>
    match limitIn? choice.kind text with
    | none => refuse (Octets.ofString "bad number")
    | some n =>
      let change (limits : ResourceLimits) (isMeant : Bool) :=
        if isMeant then setLimit limits choice.kind n else limits
      match ← lift (.ask (.limit (change limits choice.onHolding) (change bounds choice.onBound))) with
      | .refused cause => refuse (Octets.ofString s!"error setting limit ({cause.message})")
      | _ => return 0
  | _, _ => refuse (Octets.ofString "too many arguments")
where
  refuse (message : Octets) : Run Nat := do
    complainOf "ulimit" message
    return 2

/-! Directories and variables -/

def changeDirectory (args : List Octets) : Run Nat := do
  let shell ← get
  let target := args.headD (shell.valueOf "HOME".toList)
  if target.isEmpty then return 0
  let isBack := target = ['-']
  let target := if isBack then shell.valueOf "OLDPWD".toList else target
  match ← lift (.ask (.enter target)) with
  | .refused _ =>
    complainOf "cd" (Octets.ofString "can\x27t cd to " ++ target)
    return 2
  | _ =>
    let before := shell.valueOf "PWD".toList
    if let .text now ← lift (.ask .whereami) then
      modify fun shell => give "OLDPWD".toList before (give "PWD".toList now shell)
      if isBack then return ← printAs "cd" (now ++ ['\n'])
    return 0

def showDirectory : Run Nat := do
  match ← lift (.ask .whereami) with
  | .text path => printAs "pwd" (path ++ ['\n'])
  | _ => return 1

def showVariables (command : String) (values : List (Octets × Octets)) : Run Nat :=
  let sorted := values.mergeSort fun a b => !(b.1 < a.1)
  printAs command (sorted.flatMap fun (name, value) =>
    Octets.ofString (command ++ " ") ++ name ++ '=' :: shownQuoted value ++ ['\n'])

def isListing (args : List Octets) : Bool := args.all (· = ['-', 'p'])

def giveAll : List Octets → Run Nat
  | [] => return 0
  | arg :: rest => do
    match assignmentIn? arg with
    | some (name, value) =>
      change name value
      modify (giveAway name)
    | none =>
      if isName arg then
        modify fun shell =>
          giveAway arg (if (shell.value? arg).isSome then shell else assign arg [] shell)
    giveAll rest

def exportAll (args : List Octets) : Run Nat := do
  if isListing args then
    showVariables "export" ((← get).bindings.filterMap fun (name, value, isGiven) =>
      if isGiven then some (name, value) else none)
  else giveAll args

def fixAll : List Octets → Run Nat
  | [] => return 0
  | arg :: rest => do
    match assignmentIn? arg with
    | some (name, value) =>
      change name value
      modify fun shell => { shell with fixed := name :: shell.fixed }
    | none => modify fun shell => { shell with fixed := arg :: shell.fixed }
    fixAll rest

def readonlyAll (args : List Octets) : Run Nat := do
  if isListing args then
    let shell ← get
    showVariables "readonly" (shell.fixed.eraseDups.map fun name => (name, shell.valueOf name))
  else fixAll args

def keepBinding (name : Octets) (shell : Shell) : Shell :=
  let before := (shell.bindings.find? (·.1 = name)).map (·.2)
  { shell with frame := shell.frame.map fun kept =>
      if kept.any (·.1 = name) then kept else (name, before) :: kept }

def localAll : List Octets → Run Nat
  | [] => return 0
  | arg :: rest => do
    if (← get).frame.isNone then abandon (Octets.ofString "local: not in a function")
    match assignmentIn? arg with
    | some (name, value) =>
      modify (keepBinding name)
      change name value
    | none => modify (keepBinding arg)
    localAll rest

def unsetAll (names : List Octets) : Run Nat := do
  modify fun shell => (names.filter fun name => name.head? ≠ some '-').foldl (fun shell name =>
    { unset name shell with functions := shell.functions.filter (·.1 ≠ name) }) shell
  return 0

def optionNames : List (String × Char) :=
  [("errexit", 'e'), ("noglob", 'f'), ("noexec", 'n'), ("nounset", 'u'), ("verbose", 'v'),
    ("xtrace", 'x')]

def switchOptions (isOn : Bool) (letters : Octets) (shell : Shell) : Shell :=
  let others := shell.options.filter fun c => !letters.contains c
  { shell with options := if isOn then others ++ letters.filter (· ≠ 'o') else others }

def setAll : List Octets → Run Nat
  | [] => return 0
  | ['-', '-'] :: rest => do
    modify ({ · with arguments := rest })
    return 0
  | [sign, 'o'] :: name :: rest => do
    match optionNames.lookup (Octets.toString name) with
    | some letter =>
      modify (switchOptions (sign == '-') [letter])
      setAll rest
    | none => abandon (Octets.ofString "set: Illegal option -o " ++ name)
  | (sign :: letters) :: rest => do
    if sign = '-' ∨ sign = '+' then
      modify (switchOptions (sign == '-') letters)
      setAll rest
    else
      modify ({ · with arguments := (sign :: letters) :: rest })
      return 0
  | [] :: rest => do
    modify ({ · with arguments := [] :: rest })
    return 0

def shift (args : List Octets) : Run Nat := do
  let n ← numberArgument "shift" args 1
  if (← get).arguments.length < n then abandon (Octets.ofString "shift: can\x27t shift that many")
  else
    modify fun shell => { shell with arguments := shell.arguments.drop n }
    return 0

def builtin? : String → Option (List Octets → Run Nat)
  | ":" => some fun _ => return 0
  | "true" => some fun _ => return 0
  | "false" => some fun _ => return 1
  | "trap" => some trap
  | "echo" => some fun args => printAs "echo" (Printing.echoLine args)
  | "printf" => some printFormat
  | "read" => some readNames
  | "test" => some (test "test")
  | "[" => some bracket
  | "kill" => some kill
  | "wait" => some waitAll
  | "ulimit" => some resourceLimit
  | "hash" => some fun _ => return 0
  | "jobs" => some fun _ => return 0
  | "cd" => some changeDirectory
  | "pwd" => some fun _ => showDirectory
  | "export" => some exportAll
  | "readonly" => some readonlyAll
  | "local" => some localAll
  | "unset" => some unsetAll
  | "set" => some setAll
  | "shift" => some shift
  | _ => none

def isSpecialBuiltin (name : String) : Bool :=
  [":", "export", "readonly", "set", "shift", "unset", "trap", "eval", "exec", "exit", "return",
    "break", "continue", "."].contains name

end ContestJudge.Host.Shell
