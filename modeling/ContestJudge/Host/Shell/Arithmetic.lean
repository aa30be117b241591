import ContestJudge.Host.Octets

namespace ContestJudge.Host.Shell.Arithmetic

inductive Expr where
  | number (n : Int)
  | variable (name : Octets)
  | unary (operator : Char) (e : Expr)
  | binary (operator : String) (left right : Expr)
  | choice (condition yes no : Expr)
  /-- Sets a variable; with an operator, to its value combined with the other one. -/
  | assign (name : Octets) (operator : Option String) (e : Expr)

inductive Token where
  | number (n : Int)
  | name (text : Octets)
  | operator (text : String)
  deriving DecidableEq

def operators : List String :=
  ["<<=", ">>=", "<<", ">>", "<=", ">=", "==", "!=", "&&", "||", "+=", "-=", "*=", "/=", "%=",
    "&=", "|=", "^=", "+", "-", "*", "/", "%", "<", ">", "!", "~", "&", "|", "^", "?", ":", "=",
    "(", ")"]

def digitOf? (base : Nat) (c : Char) : Option Nat :=
  let digit := if c.isDigit then c.toNat - '0'.toNat
    else if c.isAlpha then c.toLower.toNat - 'a'.toNat + 10
    else base
  if digit < base then some digit else none

def digits? (base : Nat) (text : Octets) : Option Nat :=
  if text.isEmpty then none
  else text.foldl (fun n c => n.bind fun n => (digitOf? base c).map fun d => n * base + d) (some 0)

/-- The number that a constant writes: decimal, octal or hexadecimal. -/
def constant? (text : Octets) : Option Nat :=
  match text with
  | '0' :: 'x' :: rest => digits? 16 rest
  | '0' :: 'X' :: rest => digits? 16 rest
  | '0' :: rest => if rest.isEmpty then some 0 else digits? 8 rest
  | text => digits? 10 text

def constantIn (text : Octets) : Octets :=
  let run (base : Nat) (text : Octets) := text.takeWhile fun c => (digitOf? base c).isSome
  match text with
  | '0' :: x :: rest =>
    if (x = 'x' ∨ x = 'X') ∧ !(run 16 rest).isEmpty then '0' :: x :: run 16 rest
    else '0' :: run 8 (x :: rest)
  | text => run 10 text

def greatest : Nat := 9223372036854775807

/-- The least number that is equal to a number modulo 2^64, counted from -2^63. -/
def wrap (n : Int) : Int := n.bmod 18446744073709551616

def valueOf? (text : Octets) : Option Int :=
  let trimmed := text.dropWhile fun c => c == ' ' || c == '\t' || c == '\n'
  match trimmed with
  | [] => some 0
  | '-' :: rest => (constant? rest).map fun n => wrap (-(n : Int))
  | '+' :: rest => (constant? rest).map fun n => wrap n
  | text => (constant? text).map fun n => wrap n

def isNameChar (c : Char) : Bool := c.isAlphanum || c == '_'

/-- The tokens of an expression. A character that begins no token is an operator of its own. -/
def tokens : Nat → List Token → Octets → List Token
  | 0, found, _ => found.reverse
  | _, found, [] => found.reverse
  | fuel + 1, found, c :: rest =>
    if c == ' ' || c == '\t' || c == '\n' then tokens fuel found rest
    else
      let text := (c :: rest).takeWhile isNameChar
      if c.isDigit then
        let digits := constantIn (c :: rest)
        let n := min ((constant? digits).getD 0) greatest
        tokens fuel (.number n :: found) ((c :: rest).drop digits.length)
      else if !text.isEmpty then tokens fuel (.name text :: found) ((c :: rest).drop text.length)
      else
        match operators.find? fun operator => operator.toList.isPrefixOf (c :: rest) with
        | some operator =>
          tokens fuel (.operator operator :: found) ((c :: rest).drop operator.length)
        | none => tokens fuel (.operator "" :: found) rest

def levels : List (List String) :=
  [["||"], ["&&"], ["|"], ["^"], ["&"], ["==", "!="], ["<", "<=", ">", ">="], ["<<", ">>"],
    ["+", "-"], ["*", "/", "%"]]

def assignments : List String :=
  ["=", "+=", "-=", "*=", "/=", "%=", "&=", "|=", "^=", "<<=", ">>="]

/-- An expression with the tokens behind it, or what was expected instead. -/
abbrev Reading := Except String (Expr × List Token)

def noExpression : Reading := .error "primary"

mutual

def whole : Nat → List Token → Reading
  | 0, _ => noExpression
  | fuel + 1, tokens =>
    match tokens with
    | .name name :: .operator operator :: rest =>
      if assignments.contains operator then
        (whole fuel rest).map fun (e, rest) =>
          (.assign name (if operator = "=" then none else some (operator.dropEnd 1).toString) e, rest)
      else conditional fuel tokens
    | _ => conditional fuel tokens

def conditional : Nat → List Token → Reading
  | 0, _ => noExpression
  | fuel + 1, tokens => do
    let (condition, rest) ← level fuel levels tokens
    match rest with
    | .operator "?" :: rest =>
      let (yes, rest) ← whole fuel rest
      match rest with
      | .operator ":" :: rest =>
        let (no, rest) ← conditional fuel rest
        return (.choice condition yes no, rest)
      | _ => .error "\x27:\x27"
    | rest => return (condition, rest)

def level : Nat → List (List String) → List Token → Reading
  | 0, _, _ => noExpression
  | fuel + 1, [], tokens => unary fuel tokens
  | fuel + 1, operators :: tighter, tokens => do
    let (first, rest) ← level fuel tighter tokens
    levelOn fuel operators tighter first rest

def levelOn : Nat → List String → List (List String) → Expr → List Token → Reading
  | 0, _, _, _, _ => noExpression
  | fuel + 1, operators, tighter, first, tokens =>
    match tokens with
    | .operator operator :: rest =>
      if operators.contains operator then do
        let (second, rest) ← level fuel tighter rest
        levelOn fuel operators tighter (.binary operator first second) rest
      else .ok (first, tokens)
    | _ => .ok (first, tokens)

def unary : Nat → List Token → Reading
  | 0, _ => noExpression
  | fuel + 1, tokens =>
    match tokens with
    | .number n :: rest => .ok (.number n, rest)
    | .name name :: rest => .ok (.variable name, rest)
    | .operator "(" :: rest =>
      match whole fuel rest with
      | .ok (e, .operator ")" :: rest) => .ok (e, rest)
      | .ok _ => .error "\x27)\x27"
      | .error expected => .error expected
    | .operator "-" :: rest => (unary fuel rest).map fun (e, rest) => (.unary '-' e, rest)
    | .operator "+" :: rest => unary fuel rest
    | .operator "!" :: rest => (unary fuel rest).map fun (e, rest) => (.unary '!' e, rest)
    | .operator "~" :: rest => (unary fuel rest).map fun (e, rest) => (.unary '~' e, rest)
    | _ => noExpression

end

def parse (text : Octets) : Except String Expr := do
  let tokens := tokens (text.length + 1) [] text
  match ← whole (32 * (tokens.length + 1)) tokens with
  | (e, []) => return e
  | _ => throw "EOF"

inductive Fault where
  | divisionByZero
  | illegalNumber (text : Octets)

def truth (b : Bool) : Int := if b then 1 else 0

def amount (n : Int) : Nat := (n % 64).toNat

def bitwise (f : Nat → Nat → Nat) (a b : Int) : Int :=
  wrap (f (a % 18446744073709551616).toNat (b % 18446744073709551616).toNat)

def combine (operator : String) (a b : Int) : Except Fault Int :=
  match operator with
  | "+" => .ok (wrap (a + b))
  | "-" => .ok (wrap (a - b))
  | "*" => .ok (wrap (a * b))
  | "/" => if b = 0 then .error .divisionByZero else .ok (wrap (a.tdiv b))
  | "%" => if b = 0 then .error .divisionByZero else .ok (wrap (a.tmod b))
  | "<" => .ok (truth (a < b))
  | "<=" => .ok (truth (a ≤ b))
  | ">" => .ok (truth (a > b))
  | ">=" => .ok (truth (a ≥ b))
  | "==" => .ok (truth (a = b))
  | "!=" => .ok (truth (a ≠ b))
  | "<<" => .ok (wrap (a * Nat.pow 2 (amount b)))
  | ">>" => .ok (a >>> amount b)
  | "&" => .ok (bitwise Nat.land a b)
  | "|" => .ok (bitwise Nat.lor a b)
  | _ => .ok (bitwise Nat.xor a b)

def lookup (values : Octets → Octets) (changes : List (Octets × Int)) (name : Octets) :
    Except Fault Int :=
  match changes.find? (·.1 = name) with
  | some (_, n) => .ok n
  | none =>
    match valueOf? (values name) with
    | some n => .ok n
    | none => .error (.illegalNumber (values name))

/-- The value of an expression, and the variables that it set, the last one first. -/
def eval (values : Octets → Octets) : Expr → List (Octets × Int) →
    Except Fault (Int × List (Octets × Int))
  | .number n, changes => .ok (n, changes)
  | .variable name, changes => do return (← lookup values changes name, changes)
  | .unary operator e, changes => do
    let (a, changes) ← eval values e changes
    let value := if operator = '-' then wrap (-a) else if operator = '!' then truth (a = 0) else -a - 1
    return (value, changes)
  | .binary "&&" left right, changes => do
    let (a, changes) ← eval values left changes
    if a = 0 then return (0, changes)
    let (b, changes) ← eval values right changes
    return (truth (b ≠ 0), changes)
  | .binary "||" left right, changes => do
    let (a, changes) ← eval values left changes
    if a ≠ 0 then return (1, changes)
    let (b, changes) ← eval values right changes
    return (truth (b ≠ 0), changes)
  | .binary operator left right, changes => do
    let (a, changes) ← eval values left changes
    let (b, changes) ← eval values right changes
    return (← combine operator a b, changes)
  | .choice condition yes no, changes => do
    let (a, changes) ← eval values condition changes
    if a ≠ 0 then eval values yes changes else eval values no changes
  | .assign name operator e, changes => do
    let (b, changes) ← eval values e changes
    let value ← match operator with
      | none => pure b
      | some operator => combine operator (← lookup values changes name) b
    return (value, (name, value) :: changes)

end ContestJudge.Host.Shell.Arithmetic
