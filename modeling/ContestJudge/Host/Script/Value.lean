import ContestJudge.Host.Script.Syntax
import ContestJudge.Host.Task
import ContestJudge.Number.Layout
import ContestJudge.Text.Hex
import ContestJudge.Text.Words

namespace ContestJudge.Host.Script

inductive Value where
  | none
  | bool (b : Bool)
  | int (n : Int)
  | real (x : Binary64)
  | text (text : List Char)
  | tuple (items : List Value)
  | list (place : Nat)
  | range (first last step : Int)
  | builtin (name : String)
  | method (receiver : Value) (name : String)
  | function (place : Nat)
  | module (name : String)
  | stream (descriptor : Nat)
  /-- A kind of exception. -/
  | kind (name : String)
  | exception (kind : String) (args : List Value)

abbrev Memory := Array (List Value)

namespace Value

def typeName : Value → String
  | .none => "NoneType"
  | .bool _ => "bool"
  | .int _ => "int"
  | .real _ => "float"
  | .text _ => "str"
  | .tuple _ => "tuple"
  | .list _ => "list"
  | .range .. => "range"
  | .builtin _ => "builtin_function_or_method"
  | .method .. => "builtin_function_or_method"
  | .function _ => "function"
  | .module _ => "module"
  | .stream _ => "_io.TextIOWrapper"
  | .kind _ => "type"
  | .exception own _ => own

def depth : Nat := 1000

/-- Positional from 1e-4 to below 1e16, exponents with two digits and a sign. -/
def realLayout : NumberLayout := ⟨some (-4, 16), true, .plus, .even⟩

def padExponent (text : List Char) : List Char :=
  let mantissa := text.takeWhile (· ≠ 'e')
  match text.drop mantissa.length with
  | ['e', sign, digit] => mantissa ++ ['e', sign, '0', digit]
  | _ => text

def realText : Binary64 → List Char
  | .nan => "nan".toList
  | x => padExponent (realLayout.text x).toList

def quoteChar (quote c : Char) : List Char :=
  if c = quote ∨ c = '\x5c' then ['\x5c', c]
  else if c = '\n' then ['\x5c', 'n']
  else if c = '\t' then ['\x5c', 't']
  else if c = '\r' then ['\x5c', 'r']
  else if c.toNat < 0x20 ∨ c.toNat = 0x7f then '\x5c' :: 'x' :: Text.Hex.ofByte (UInt8.ofNat c.toNat)
  else [c]

def quoted (text : List Char) : List Char :=
  let quote := if text.contains '\x27' ∧ !text.contains '\x22' then '\x22' else '\x27'
  quote :: text.flatMap (quoteChar quote) ++ [quote]

def joined (texts : List (List Char)) : List Char := List.intercalate [',', ' '] texts

def show_ (memory : Memory) : Nat → Bool → Value → List Char
  | 0, _, _ => ['.', '.', '.']
  | fuel + 1, isQuoted, v =>
    let within := show_ memory fuel true
    match v with
    | .none => "None".toList
    | .bool b => (if b then "True" else "False").toList
    | .int n => (toString n).toList
    | .real x => realText x
    | .text content => if isQuoted then quoted content else content
    | .tuple [item] => '(' :: within item ++ [',', ')']
    | .tuple items => '(' :: joined (items.map within) ++ [')']
    | .list place => '[' :: joined (((memory[place]?).getD []).map within) ++ [']']
    | .range first last step =>
      "range(".toList ++ joined ([first, last].map fun n => (toString n).toList)
        ++ (if step = 1 then [] else ", ".toList ++ (toString step).toList) ++ [')']
    | .kind name => ("<class \x27" ++ name ++ "\x27>").toList
    | .exception own args =>
      if isQuoted then own.toList ++ '(' :: joined (args.map within) ++ [')']
      else match args with
        | [] => []
        | [arg] => show_ memory fuel false arg
        | args => '(' :: joined (args.map within) ++ [')']
    | v => ("<" ++ v.typeName ++ ">").toList

def textOf (memory : Memory) (v : Value) : List Char := show_ memory depth false v

def isTrue (memory : Memory) : Value → Bool
  | .none => false
  | .bool b => b
  | .int n => n ≠ 0
  | .real x => !x.isZero
  | .text content => !content.isEmpty
  | .tuple items => !items.isEmpty
  | .list place => !((memory[place]?).getD []).isEmpty
  | .range first last step => if step > 0 then first < last else first > last
  | _ => true

/-! Numbers -/

def int? : Value → Option Int
  | .bool b => some (if b then 1 else 0)
  | .int n => some n
  | _ => Option.none

def realOfInt (n : Int) : Binary64 := .ofRatio (n < 0) n.natAbs 1

def real? : Value → Option Binary64
  | .real x => some x
  | v => v.int?.map realOfInt

def addReal : Binary64 → Binary64 → Binary64
  | .finite m x _, .finite n y _ =>
    let sum := Binary64.signedSteps m x + Binary64.signedSteps n y
    .ofSteps (sum < 0) sum.natAbs 1
  | .nan, _ => .nan
  | _, .nan => .nan
  | .infinite m, .infinite n => if m = n then .infinite m else .nan
  | .infinite m, _ => .infinite m
  | _, .infinite n => .infinite n

def truncate : Binary64 → Option Int
  | .finite negative steps _ =>
    let n : Int := (steps / Binary64.stepsPerUnit : Nat)
    some (if negative then -n else n)
  | _ => Option.none

/-! Comparison -/

def equal (memory : Memory) : Nat → Value → Value → Bool
  | 0, _, _ => false
  | fuel + 1, a, b =>
    let all (xs ys : List Value) : Bool :=
      xs.length == ys.length && (xs.zip ys).all fun (x, y) => equal memory fuel x y
    match a, b with
    | .none, .none => true
    | .text a, .text b => a == b
    | .tuple a, .tuple b => all a b
    | .list a, .list b => a == b || all ((memory[a]?).getD []) ((memory[b]?).getD [])
    | .range a b c, .range x y z => a == x && b == y && c == z
    | .builtin a, .builtin b => a == b
    | .function a, .function b => a == b
    | .kind a, .kind b => a == b
    | a, b =>
      match a.int?, b.int? with
      | some m, some n => m == n
      | _, _ =>
        match a.real?, b.real? with
        | some x, some y => x.le y && y.le x
        | _, _ => false

/-- Whether a value comes before another one; none if they cannot be compared. -/
def before (memory : Memory) : Nat → Value → Value → Option Bool
  | 0, _, _ => some false
  | fuel + 1, a, b =>
    let listed (xs ys : List Value) : Option Bool :=
      match (xs.zip ys).find? fun (x, y) => !equal memory depth x y with
      | some (x, y) => before memory fuel x y
      | Option.none => some (decide (xs.length < ys.length))
    match a, b with
    | .text a, .text b => some (decide (a < b))
    | .tuple a, .tuple b => listed a b
    | .list a, .list b => listed ((memory[a]?).getD []) ((memory[b]?).getD [])
    | a, b =>
      match a.int?, b.int? with
      | some m, some n => some (decide (m < n))
      | _, _ =>
        match a.real?, b.real? with
        | some x, some y => some (x.lt y)
        | _, _ => Option.none

end Value

/-! Operators -/

structure Trouble where
  kind : String
  message : String

def typeTrouble (operator : String) (a b : Value) : Trouble :=
  ⟨"TypeError", "unsupported operand type(s) for " ++ operator ++ ": \x27" ++ a.typeName
    ++ "\x27 and \x27" ++ b.typeName ++ "\x27"⟩

def largest : Nat := 20000000

/-- The whole bits of two numbers combined, negative numbers having endless leading ones. -/
def bitwise (f : Bool → Bool → Bool) (a b : Int) : Int :=
  let width := max (Nat.log2 a.natAbs) (Nat.log2 b.natAbs) + 2
  let low (n : Int) : Nat := (n % Nat.pow 2 width).toNat
  let bits := (List.range width).foldl (fun (sum : Nat) i =>
    if f ((low a).testBit i) ((low b).testBit i) then sum + Nat.pow 2 i else sum) 0
  (bits : Int).bmod (Nat.pow 2 width)

def intOperator (operator : String) (m n : Int) : Except Trouble Value :=
  let zero (message : String) : Except Trouble Value := .error ⟨"ZeroDivisionError", message⟩
  match operator with
  | "+" => .ok (.int (m + n))
  | "-" => .ok (.int (m - n))
  | "*" => .ok (.int (m * n))
  | "/" =>
    if n = 0 then zero "division by zero"
    else .ok (.real (.ofRatio ((m < 0) != (n < 0)) m.natAbs n.natAbs))
  | "//" => if n = 0 then zero "integer division or modulo by zero" else .ok (.int (m.fdiv n))
  | "%" => if n = 0 then zero "integer modulo by zero" else .ok (.int (m.fmod n))
  | "**" =>
    if n < 0 then
      if m = 0 then zero "0.0 cannot be raised to a negative power"
      else .ok (.real (.ofRatio (m < 0 && n % 2 ≠ 0) 1 (Nat.pow m.natAbs n.natAbs)))
    else if m.natAbs > 1 ∧ n.toNat * (Nat.log2 m.natAbs + 1) > largest then .error ⟨"MemoryError", ""⟩
    else .ok (.int (Int.pow m n.toNat))
  | "<<" =>
    if n < 0 then .error ⟨"ValueError", "negative shift count"⟩
    else if n > largest then .error ⟨"MemoryError", ""⟩
    else .ok (.int (m * Nat.pow 2 n.toNat))
  | ">>" =>
    if n < 0 then .error ⟨"ValueError", "negative shift count"⟩ else .ok (.int (m >>> n.toNat))
  | "&" => .ok (.int (bitwise and m n))
  | "|" => .ok (.int (bitwise or m n))
  | _ => .ok (.int (bitwise xor m n))

def realOperator? (operator : String) (x y : Binary64) : Option (Except Trouble Value) :=
  match operator with
  | "+" => some (.ok (.real (Value.addReal x y)))
  | "-" => some (.ok (.real (Value.addReal x y.negate)))
  | "*" => some (.ok (.real (x.mul y)))
  | "/" =>
    if y.isZero then some (.error ⟨"ZeroDivisionError", "float division by zero"⟩)
    else some (.ok (.real (x.div y)))
  | _ => none

def repeated {α : Type} (items : List α) (n : Int) : Except Trouble (List α) :=
  if n.toNat * items.length > largest then .error ⟨"MemoryError", ""⟩
  else .ok (List.replicate n.toNat items).flatten

def plainOperator (operator : String) (a b : Value) : Except Trouble Value :=
  match operator, a, b with
  | "+", .text x, .text y => .ok (.text (x ++ y))
  | "+", .tuple x, .tuple y => .ok (.tuple (x ++ y))
  | "+", .text _, b =>
    .error ⟨"TypeError", "can only concatenate str (not \x22" ++ b.typeName ++ "\x22) to str"⟩
  | _, _, _ =>
    match a.int?, b.int? with
    | some m, some n => intOperator operator m n
    | _, _ =>
      match operator, a, b, a.int?, b.int? with
      | "*", .text x, _, _, some n => (repeated x n).map .text
      | "*", _, .text y, some n, _ => (repeated y n).map .text
      | "*", .tuple x, _, _, some n => (repeated x n).map .tuple
      | _, _, _, _, _ =>
        match a.real?, b.real? with
        | some x, some y => (realOperator? operator x y).getD (.error (typeTrouble operator a b))
        | _, _ => .error (typeTrouble operator a b)

def intOfText? (text : List Char) : Option Int :=
  let trimmed := Text.trimChars text
  let (negative, digits) : Bool × List Char := match trimmed with
    | '-' :: rest => (true, rest)
    | '+' :: rest => (false, rest)
    | rest => (false, rest)
  let plain := digits.filter (· ≠ '_')
  if plain.isEmpty ∨ !plain.all Char.isDigit ∨ digits.head? = some '_' ∨ digits.getLast? = some '_'
  then none
  else
    let n : Int := digitsValue (plain.map fun c => c.toNat - 48)
    some (if negative then -n else n)

def realOfText? (text : List Char) : Option Binary64 :=
  let trimmed := Text.trimChars text
  let (negative, body) : Bool × List Char := match trimmed with
    | '-' :: rest => (true, rest)
    | '+' :: rest => (false, rest)
    | rest => (false, rest)
  let whole := body.takeWhile Char.isDigit
  let rest := body.drop whole.length
  let fraction := match rest with
    | '.' :: rest => rest.takeWhile Char.isDigit
    | _ => []
  let rest := if rest.head? = some '.' then rest.drop (fraction.length + 1) else rest
  let exponent : Option Int := match rest with
    | [] => some 0
    | e :: rest => if e = 'e' ∨ e = 'E' then intOfText? rest else none
  if whole.isEmpty ∧ fraction.isEmpty then none
  else exponent.map fun exponent =>
    Decimal.toBinary64 negative
      ⟨(whole ++ fraction).map fun c => c.toNat - 48, whole.length + exponent⟩

def parents : List (String × List String) :=
  [("ZeroDivisionError", ["ArithmeticError"]), ("OverflowError", ["ArithmeticError"]),
    ("IndexError", ["LookupError"]), ("KeyError", ["LookupError"]),
    ("FileNotFoundError", ["OSError", "IOError"]), ("BrokenPipeError", ["OSError", "IOError"]),
    ("PermissionError", ["OSError", "IOError"]), ("IsADirectoryError", ["OSError", "IOError"]),
    ("ProcessLookupError", ["OSError", "IOError"]), ("BlockingIOError", ["OSError", "IOError"]),
    ("RecursionError", ["RuntimeError"]), ("UnboundLocalError", ["NameError"]),
    ("ModuleNotFoundError", ["ImportError"]), ("UnicodeDecodeError", ["ValueError"]),
    ("NotImplementedError", ["RuntimeError"])]

def exceptionKinds : List String :=
  parents.map (·.1) ++ ["Exception", "BaseException", "ArithmeticError", "LookupError", "OSError",
    "IOError", "ValueError", "TypeError", "NameError", "ImportError", "AttributeError", "EOFError",
    "RuntimeError", "AssertionError", "MemoryError", "StopIteration", "KeyboardInterrupt",
    "SystemExit"]

def isOfKind (own other : String) : Bool :=
  own == other || other == "BaseException" ||
    (other == "Exception" && own ∉ ["KeyboardInterrupt", "SystemExit"]) ||
    parents.any fun (name, above) => name == own && above.contains other

end ContestJudge.Host.Script
