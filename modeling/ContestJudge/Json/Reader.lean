import ContestJudge.Json.Value
import ContestJudge.Text.Hex
/-!
Reading JSON text. The grammar is strict: no trailing commas, no comments, no raw controls in
texts, nothing after the document but blanks.
-/

namespace ContestJudge.Json

def isBlank (c : Char) : Bool := c == ' ' || c == '\n' || c == '\t' || c == '\r'

def skipBlanks (text : List Char) : List Char := text.dropWhile isBlank

def isDigit (c : Char) : Bool := '0' ≤ c && c ≤ '9'

def digitValue (c : Char) : Nat := c.toNat - 48

def hexUnit? (a b c d : Char) : Option Nat := Text.Hex.number? [a, b, c, d]

def escaped? : Char → Option Char
  | '\"' => some '\"'
  | '\\' => some '\\'
  | '/' => some '/'
  | 'b' => some '\x08'
  | 'f' => some '\x0c'
  | 'n' => some '\n'
  | 'r' => some '\r'
  | 't' => some '\t'
  | _ => none

/-- What has been read of a text: its characters in reverse, the first half of a surrogate pair
that waits for the second, and whether every half found its other half. -/
structure TextSoFar where
  before : List Char
  waiting : Option Nat
  sound : Bool

namespace TextSoFar

def start : TextSoFar := ⟨[], none, true⟩

def push (t : TextSoFar) (c : Char) : TextSoFar :=
  ⟨c :: t.before, none, t.sound && t.waiting.isNone⟩

def pushUnit (t : TextSoFar) (unit : Nat) : TextSoFar :=
  if 0xd800 ≤ unit ∧ unit < 0xdc00 then ⟨t.before, some unit, t.sound && t.waiting.isNone⟩
  else if 0xdc00 ≤ unit ∧ unit < 0xe000 then
    match t.waiting with
    | some high =>
      ⟨Char.ofNat (0x10000 + (high - 0xd800) * 0x400 + (unit - 0xdc00)) :: t.before, none, t.sound⟩
    | none => ⟨t.before, none, false⟩
  else t.push (Char.ofNat unit)

def finish (t : TextSoFar) : WrittenText :=
  if t.sound && t.waiting.isNone then some (String.ofList t.before.reverse) else none

end TextSoFar

def readText : List Char → TextSoFar → Option (WrittenText × List Char)
  | [], _ => none
  | '\"' :: rest, t => some (t.finish, rest)
  | '\\' :: 'u' :: a :: b :: c :: d :: rest, t =>
    match hexUnit? a b c d with
    | some unit => readText rest (t.pushUnit unit)
    | none => none
  | '\\' :: c :: rest, t =>
    match escaped? c with
    | some char => readText rest (t.push char)
    | none => none
  | c :: rest, t => if c.toNat < 0x20 ∨ c = '\\' then none else readText rest (t.push c)

def readDigits (text : List Char) : List Nat × List Char :=
  ((text.takeWhile isDigit).map digitValue, text.dropWhile isDigit)

def readSomeDigits? (text : List Char) : Option (List Nat × List Char) :=
  match readDigits text with
  | ([], _) => none
  | found => some found

/-- Reads a whole part: a zero alone, or digits that start with no zero. -/
def readWhole? (text : List Char) : Option (List Nat × List Char) :=
  match readDigits text with
  | ([], _) => none
  | (0 :: _ :: _, _) => none
  | found => some found

def readFraction? : List Char → Option (Option (List Nat) × List Char)
  | '.' :: rest => (readSomeDigits? rest).map fun (digits, rest) => (some digits, rest)
  | text => some (none, text)

def readExponentDigits? (sign : ExponentSign) (text : List Char) :
    Option (Option (ExponentSign × List Nat) × List Char) :=
  (readSomeDigits? text).map fun (digits, rest) => (some (sign, digits), rest)

def readExponent? : List Char → Option (Option (ExponentSign × List Nat) × List Char)
  | [] => some (none, [])
  | c :: rest =>
    if c = 'e' ∨ c = 'E' then
      match rest with
      | '-' :: rest => readExponentDigits? .minus rest
      | '+' :: rest => readExponentDigits? .plus rest
      | rest => readExponentDigits? .bare rest
    else some (none, c :: rest)

def readNumber? (text : List Char) : Option (NumberLiteral × List Char) := do
  let (negative, text) := match text with
    | '-' :: rest => (true, rest)
    | text => (false, text)
  let (whole, text) ← readWhole? text
  let (fraction, text) ← readFraction? text
  let (exponent, text) ← readExponent? text
  return (⟨negative, whole, fraction, exponent⟩, text)

mutual

/-- Reads one value. Each step takes at least one character, so as much fuel as characters
suffices. -/
def readValue : Nat → List Char → Option (Json × List Char)
  | 0, _ => none
  | fuel + 1, text =>
    match skipBlanks text with
    | 'n' :: 'u' :: 'l' :: 'l' :: rest => some (.null, rest)
    | 't' :: 'r' :: 'u' :: 'e' :: rest => some (.bool true, rest)
    | 'f' :: 'a' :: 'l' :: 's' :: 'e' :: rest => some (.bool false, rest)
    | '\"' :: rest => (readText rest .start).map fun (t, rest) => (.string t, rest)
    | '[' :: rest =>
      match skipBlanks rest with
      | ']' :: rest => some (.array [], rest)
      | rest => (readItems fuel rest).map fun (items, rest) => (.array items, rest)
    | '\x7b' :: rest =>
      match skipBlanks rest with
      | '\x7d' :: rest => some (.object [], rest)
      | rest => (readMembers fuel rest).map fun (members, rest) => (.object members, rest)
    | rest => (readNumber? rest).map fun (literal, rest) => (.number literal, rest)

def readItems : Nat → List Char → Option (List Json × List Char)
  | 0, _ => none
  | fuel + 1, text => do
    let (item, rest) ← readValue fuel text
    match skipBlanks rest with
    | ']' :: rest => return ([item], rest)
    | ',' :: rest =>
      let (items, rest) ← readItems fuel rest
      return (item :: items, rest)
    | _ => none

def readMembers : Nat → List Char → Option (List (WrittenText × Json) × List Char)
  | 0, _ => none
  | fuel + 1, text => do
    match skipBlanks text with
    | '\"' :: rest =>
      let (name, rest) ← readText rest .start
      match skipBlanks rest with
      | ':' :: rest =>
        let (value, rest) ← readValue fuel rest
        match skipBlanks rest with
        | '\x7d' :: rest => return ([(name, value)], rest)
        | ',' :: rest =>
          let (members, rest) ← readMembers fuel rest
          return ((name, value) :: members, rest)
        | _ => none
      | _ => none
    | _ => none

end

def parse? (text : String) : Option Json := do
  let chars := text.toList
  let (document, rest) ← readValue (chars.length + 1) chars
  if (skipBlanks rest).isEmpty then some document else none

end ContestJudge.Json
