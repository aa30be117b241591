import ContestJudge.Host.Tools.Files

namespace ContestJudge.Host.Tools.Calculation

inductive Fault where
  | syntaxError (what : Octets)
  | nonInteger
  | divisionByZero

def Fault.message : Fault → Octets
  | .syntaxError what => "syntax error: ".toList ++ what
  | .nonInteger => "non-integer argument".toList
  | .divisionByZero => "division by zero".toList

abbrev Reading := Except Fault (Octets × List Octets)

def isNothing (value : Octets) : Bool := value.isEmpty || Octets.integer? value == some 0

def integer (value : Octets) : Except Fault Int :=
  match value with
  | '+' :: _ => .error .nonInteger
  | value =>
    match Octets.integer? value with
    | some n => .ok n
    | none => .error .nonInteger

def shown (n : Int) : Octets := (toString n).toList

def compare (operator : Octets) (a b : Octets) : Octets :=
  let order := match Octets.integer? a, Octets.integer? b with
    | some m, some n => if m < n then Ordering.lt else if m = n then .eq else .gt
    | _, _ => if a < b then .lt else if a = b then .eq else .gt
  let holds : Bool := match String.ofList operator with
    | "<" => order == .lt
    | "<=" => order != .gt
    | ">" => order == .gt
    | ">=" => order != .lt
    | "!=" => order != .eq
    | _ => order == .eq
  if holds then ['1'] else ['0']

def combine (operator : Octets) (a b : Octets) : Except Fault Octets :=
  match String.ofList operator with
  | "|" => .ok (if isNothing a then (if isNothing b then ['0'] else b) else a)
  | "&" => .ok (if isNothing a || isNothing b then ['0'] else a)
  | "+" => do return shown ((← integer a) + (← integer b))
  | "-" => do return shown ((← integer a) - (← integer b))
  | "*" => do return shown ((← integer a) * (← integer b))
  | "/" => do
    let m ← integer a
    let n ← integer b
    if n = 0 then throw .divisionByZero else return shown (m.tdiv n)
  | "%" => do
    let m ← integer a
    let n ← integer b
    if n = 0 then throw .divisionByZero else return shown (m.tmod n)
  | _ => .ok (compare operator a b)

def levels : List (List String) :=
  [["|"], ["&"], ["<", "<=", "=", "==", "!=", ">=", ">"], ["+", "-"], ["*", "/", "%"]]

mutual

def level : Nat → List (List String) → List Octets → Reading
  | 0, _, _ => .error (.syntaxError [])
  | fuel + 1, [], words => operand fuel words
  | fuel + 1, operators :: tighter, words => do
    let (first, rest) ← level fuel tighter words
    levelOn fuel operators tighter first rest

def levelOn : Nat → List String → List (List String) → Octets → List Octets → Reading
  | 0, _, _, _, _ => .error (.syntaxError [])
  | fuel + 1, operators, tighter, first, words =>
    match words with
    | operator :: rest =>
      if operators.contains (String.ofList operator) then do
        let (second, rest) ← level fuel tighter rest
        levelOn fuel operators tighter (← combine operator first second) rest
      else .ok (first, words)
    | [] => .ok (first, [])

def operand : Nat → List Octets → Reading
  | 0, _ => .error (.syntaxError [])
  | fuel + 1, words =>
    match words with
    | ['('] :: rest => do
      match ← level fuel levels rest with
      | (value, [')'] :: rest) => return (value, rest)
      | (_, word :: _) => throw (.syntaxError ("expecting \x27)\x27 instead of ".toList ++ quoted word))
      | (_, []) => throw (.syntaxError ("expecting \x27)\x27 after ".toList
          ++ quoted ((words.getLast?).getD [])))
    | [')'] :: _ => .error (.syntaxError "unexpected \x27)\x27".toList)
    | value :: rest => .ok (value, rest)
    | [] => .error (.syntaxError [])

end

def value (words : List Octets) : Except Fault Octets := do
  match ← level (16 * (words.length + 2)) levels words with
  | (value, []) => return value
  | (_, word :: _) => throw (.syntaxError ("unexpected argument ".toList ++ quoted word))

def program (image : Image) : Task :=
  Routine.toTask do
    match argsOf image with
    | [] =>
      complain image (Octets.ofString "expr: missing operand")
      return 2
    | words =>
      match value words with
      | .ok result =>
        Routine.put image.streams.output (result ++ ['\n'])
        return if isNothing result then 1 else 0
      | .error (.syntaxError []) =>
        complain image (Octets.ofString "expr: syntax error: missing argument after " ++
          quoted ((words.getLast?).getD []))
        return 2
      | .error fault =>
        complain image (Octets.ofString "expr: " ++ fault.message)
        return 2

end ContestJudge.Host.Tools.Calculation
