import ContestJudge.Host.Octets

namespace ContestJudge.Host.Shell

inductive Condition where
  | known (holds : Bool)
  /-- A test of a file, named by a letter. -/
  | file (test : Char) (path : Octets)
  | negation (c : Condition)
  | both (left right : Condition)
  | either (left right : Condition)

namespace Condition

abbrev Words := List Octets

def fileTests : List Octets :=
  ["-e", "-f", "-d", "-r", "-w", "-x", "-s"].map String.toList

def comparisons : List Octets :=
  ["=", "!=", "-eq", "-ne", "-lt", "-le", "-gt", "-ge", "<", ">"].map String.toList

def number (text : Octets) : Except String Int :=
  let isBlank (c : Char) := c == ' ' || c == '\t' || c == '\n'
  let trimmed := ((text.dropWhile isBlank).reverse.dropWhile isBlank).reverse
  match Octets.integer? trimmed with
  | some n => .ok n
  | none => .error ("Illegal number: " ++ Octets.toString text)

def compare (operator : String) (left right : Octets) : Except String Bool := do
  match operator with
  | "=" => return left == right
  | "!=" => return left != right
  | "<" => return left < right
  | ">" => return left > right
  | _ =>
    let a ← number left
    let b ← number right
    match operator with
    | "-eq" => return a == b
    | "-ne" => return a != b
    | "-lt" => return a < b
    | "-le" => return a ≤ b
    | "-gt" => return a > b
    | _ => return a ≥ b

mutual

def alternatives : Nat → Words → Except String (Condition × Words)
  | 0, _ => .error "argument expected"
  | fuel + 1, words => do
    let (first, rest) ← parts fuel words
    match rest with
    | ['-', 'o'] :: rest =>
      let (second, rest) ← alternatives fuel rest
      return (.either first second, rest)
    | rest => return (first, rest)

def parts : Nat → Words → Except String (Condition × Words)
  | 0, _ => .error "argument expected"
  | fuel + 1, words => do
    let (first, rest) ← part fuel words
    match rest with
    | ['-', 'a'] :: rest =>
      let (second, rest) ← parts fuel rest
      return (.both first second, rest)
    | rest => return (first, rest)

def part : Nat → Words → Except String (Condition × Words)
  | 0, _ => .error "argument expected"
  | fuel + 1, words => do
    match words with
    | [] => .error "argument expected"
    | first :: operator :: third :: rest =>
      if comparisons.contains operator then
        return (.known (← compare (String.ofList operator) first third), rest)
      else special fuel first (operator :: third :: rest)
    | first :: rest => special fuel first rest

def special : Nat → Octets → Words → Except String (Condition × Words)
  | 0, _, _ => .error "argument expected"
  | fuel + 1, first, rest => do
    match first, rest with
    | ['!'], _ :: _ =>
      let (inner, rest) ← part fuel rest
      return (.negation inner, rest)
    | ['('], _ :: _ =>
      let (inner, rest) ← alternatives fuel rest
      match rest with
      | [')'] :: rest => return (inner, rest)
      | _ => .error "closing paren expected"
    | ['-', 'n'], operand :: rest => return (.known (!operand.isEmpty), rest)
    | ['-', 'z'], operand :: rest => return (.known operand.isEmpty, rest)
    | ['-', 't'], _ :: rest => return (.known false, rest)
    | first, operand :: rest =>
      if fileTests.contains first then return (.file (first.getLastD 'e') operand, rest)
      else return (.known (!first.isEmpty), operand :: rest)
    | first, [] => return (.known (!first.isEmpty), [])

end

def ofWords (words : Words) : Except String Condition := do
  if words.isEmpty then return .known false
  match ← alternatives (4 * words.length + 4) words with
  | (c, []) => return c
  | (_, rest) =>
    let last := (words.take (words.length - rest.length)).getLastD []
    .error (Octets.toString last ++ ": unexpected operator")

end Condition
end ContestJudge.Host.Shell
