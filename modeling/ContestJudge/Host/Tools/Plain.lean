import ContestJudge.Host.Tools.Files
import ContestJudge.Host.Tools.Printing

namespace ContestJudge.Host.Tools

def echoOptions : List Octets → List Octets × List Octets
  | ('-' :: letters) :: rest =>
    if !letters.isEmpty && letters.all (['n', 'e', 'E'].contains ·) then
      let (options, words) := echoOptions rest
      (letters :: options, words)
    else ([], ('-' :: letters) :: rest)
  | words => ([], words)

def echo (image : Image) : Task :=
  let (options, words) := echoOptions (argsOf image)
  let letters := options.flatten
  let text := List.intercalate [' '] words
  let escapes := letters.foldl (fun on c => if c = 'e' then true else if c = 'E' then false else on)
    false
  let (shown, stops) := if escapes then Printing.unescape (text.length + 1) [] text else (text, false)
  Routine.toTask do
    Routine.put image.streams.output (if stops || letters.contains 'n' then shown else shown ++ ['\n'])
    return 0

def printf (image : Image) : Task :=
  Routine.toTask do
    match argsOf image with
    | [] =>
      complain image (Octets.ofString "printf: missing operand")
      return 1
    | format :: args =>
      let printed := Printing.format format args
      Routine.put image.streams.output printed.text.reverse
      for arg in printed.faulty do
        complain image (Octets.ofString "printf: " ++ quoted arg
          ++ Octets.ofString ": expected a numeric value")
      return if printed.faulty.isEmpty && printed.unknown.isNone then 0 else 1

def adviseHelp (image : Image) (name : String) : Routine Unit :=
  complain image (Octets.ofString s!"Try \x27{name} --help\x27 for more information.")

def duration? (text : Octets) : Option Nat :=
  let unit := match text.getLast? with
    | some 'm' => 60
    | some 'h' => 3600
    | some 'd' => 86400
    | _ => 1
  let number := if text.getLast?.any fun c => ['s', 'm', 'h', 'd'].contains c then text.dropLast
    else text
  let whole := number.takeWhile Char.isDigit
  let fraction := (number.drop (whole.length + 1)).take 9
  let isNumber := (!whole.isEmpty || !fraction.isEmpty) && fraction.all Char.isDigit &&
    (number.length = whole.length || number[whole.length]? = some '.')
  if isNumber then
    let digits := fraction ++ List.replicate (9 - fraction.length) '0'
    some ((((Octets.natural? whole).getD 0) * Duration.nanosPerSecond + (Octets.natural? digits).getD 0) * unit)
  else none

def sleep (image : Image) : Task :=
  Routine.toTask do
    let words := argsOf image
    let invalid := words.filter fun word => (duration? word).isNone
    if words.isEmpty then complain image (Octets.ofString "sleep: missing operand")
    for word in invalid do
      complain image (Octets.ofString "sleep: invalid time interval " ++ quoted word)
    if words.isEmpty || !invalid.isEmpty then
      adviseHelp image "sleep"
      return 1
    let _ ← Routine.ask (.sleep ((words.filterMap duration?).foldl (· + ·) 0))
    return 0

def numberLines (first step last : Int) : Octets :=
  let distance := if step < 0 then first - last else last - first
  if step = 0 ∨ distance < 0 then []
  else (List.range (distance.toNat / step.natAbs + 1)).flatMap fun (index : Nat) =>
    Octets.ofString (toString (first + step * (index : Nat))) ++ ['\n']

def seq (image : Image) : Task :=
  Routine.toTask do
    match (argsOf image).mapM Octets.integer? with
    | some [last] => Routine.put image.streams.output (numberLines 1 1 last)
    | some [first, last] =>
      Routine.put image.streams.output (numberLines first 1 last)
    | some [first, step, last] =>
      Routine.put image.streams.output (numberLines first step last)
    | _ => complain image (Octets.ofString "seq: invalid operand")
    return 0

def yesBlock (line : Octets) : Octets := (List.replicate 512 line).flatten

def repeatOutput (descriptor : Nat) (text : Octets) : Nat → Routine Unit
  | 0 => return ()
  | fuel + 1 => do
    match ← Routine.write descriptor (Octets.toBytes text) with
    | some _ => return ()
    | none => repeatOutput descriptor text fuel

def yes (image : Image) : Task :=
  let words := argsOf image
  let line := (if words.isEmpty then ['y'] else List.intercalate [' '] words) ++ ['\n']
  Routine.toTask do
    repeatOutput image.streams.output (yesBlock line) patience
    return 1

def leadingAssignments : List Octets → Variables × List Octets
  | word :: rest =>
    if word.contains '=' then
      let name := word.takeWhile (· ≠ '=')
      let (more, command) := leadingAssignments rest
      ((name, word.drop (name.length + 1)) :: more, command)
    else ([], word :: rest)
  | [] => ([], [])

def env (image : Image) : Task :=
  let (given, command) := leadingAssignments (argsOf image)
  let all := image.env.filter (fun (name, _) => given.all (·.1 ≠ name)) ++ given
  Routine.toTask do
    match command with
    | [] =>
      Routine.put image.streams.output
        (all.flatMap fun (name, value) => name ++ '=' :: value ++ ['\n'])
      return 0
    | program :: _ =>
      let path := ((all.find? (·.1 = "PATH".toList)).map (·.2)).getD "/bin:/usr/bin".toList
      let candidates := if program.contains '/' then [program]
        else (splitAt (· == ':') path).map fun directory => directory ++ '/' :: program
      for candidate in candidates do
        let _ ← Routine.ask (.execute candidate command all image.streams)
      complain image (Octets.ofString "env: " ++ quoted program
        ++ Octets.ofString ": No such file or directory")
      return 127

def pwd (image : Image) : Task :=
  Routine.toTask do
    match ← Routine.ask .whereami with
    | .text path =>
      Routine.put image.streams.output (path ++ ['\n'])
      return 0
    | _ => return 1

end ContestJudge.Host.Tools
