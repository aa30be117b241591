import ContestJudge.Host.Script.Syntax
import ContestJudge.Number.Decimal
import ContestJudge.Text.Hex

namespace ContestJudge.Host.Script.Lexer

def isNameStart (c : Char) : Bool := c.isAlpha || c == '_' || c.toNat ≥ 0x80
def isNameChar (c : Char) : Bool := isNameStart c || c.isDigit
def isBlank (c : Char) : Bool := c == ' ' || c == '\t' || c == '\x0c'

def misprint (message : String) (line : Nat) : Misprint := ⟨"SyntaxError", message, line⟩

/-- The operators, a longer one before those that it begins with. -/
def operators : List String :=
  ["**=", "//=", ">>=", "<<=", "**", "//", ">>", "<<", "<=", ">=", "==", "!=", "->", "+=", "-=",
    "*=", "/=", "%=", "&=", "|=", "^=", ":=", "+", "-", "*", "/", "%", "<", ">", "=", "(", ")",
    "[", "]", "\x7b", "\x7d", ",", ":", ".", ";", "@", "&", "|", "^", "~"]

def escapeOf? : Char → Option Char
  | 'n' => some '\n'
  | 't' => some '\t'
  | 'r' => some '\r'
  | 'a' => some '\x07'
  | 'b' => some '\x08'
  | 'f' => some '\x0c'
  | 'v' => some '\x0b'
  | '\x5c' => some '\x5c'
  | '\x27' => some '\x27'
  | '\x22' => some '\x22'
  | _ => none

def textBody (quotes : List Char) (raw : Bool) : Nat → List Char → List Char →
    Option (List Char × List Char)
  | 0, _, _ => none
  | _, _, [] => none
  | fuel + 1, found, c :: rest =>
    if quotes.isPrefixOf (c :: rest) then some (found, (c :: rest).drop quotes.length)
    else if c = '\n' ∧ quotes.length = 1 then none
    else if c = '\x5c' then
      match rest with
      | [] => none
      | e :: rest =>
        if raw then textBody quotes raw fuel (e :: c :: found) rest
        else if e = '\n' then textBody quotes raw fuel found rest
        else if e = 'x' then
          match Text.Hex.number? (rest.take 2) with
          | some n => textBody quotes raw fuel (Char.ofNat n :: found) (rest.drop 2)
          | none => none
        else if '0' ≤ e ∧ e ≤ '7' then
          let digits := ((e :: rest).take 3).takeWhile fun c => '0' ≤ c && c ≤ '7'
          let n := digits.foldl (fun n c => n * 8 + (c.toNat - 48)) 0
          textBody quotes raw fuel (Char.ofNat n :: found) ((e :: rest).drop digits.length)
        else match escapeOf? e with
          | some character => textBody quotes raw fuel (character :: found) rest
          | none => textBody quotes raw fuel (e :: c :: found) rest
    else textBody quotes raw fuel (c :: found) rest

def textToken? (text : List Char) : Option (Except Unit (Token × List Char)) :=
  let letters := text.takeWhile fun c => ['r', 'R', 'b', 'B', 'f', 'F', 'u', 'U'].contains c
  let behind := text.drop letters.length
  let quotes : List Char := match behind with
    | a :: b :: c :: _ =>
      if (a = '\x27' ∨ a = '\x22') ∧ a = b ∧ b = c then [a, a, a] else [a]
    | a :: _ => [a]
    | [] => []
  if letters.length > 2 ∨ !(quotes.head? == some '\x27' || quotes.head? == some '\x22') then none
  else
    let raw := letters.any fun c => c == 'r' || c == 'R'
    let isTemplate := letters.any fun c => c == 'f' || c == 'F'
    match textBody quotes raw (text.length + 1) [] (behind.drop quotes.length) with
    | none => some (.error ())
    | some (found, rest) =>
      some (.ok (if isTemplate then .template found.reverse else .text found.reverse, rest))

def numberToken (text : List Char) : Option (Token × List Char) :=
  let isDigit (c : Char) := c.isDigit || c == '_'
  let digitsOf (part : List Char) := (part.filter Char.isDigit).map fun c => c.toNat - 48
  let based (base : Nat) (rest : List Char) : Option (Token × List Char) :=
    let digits := rest.takeWhile fun c => (Text.Hex.value? c).any (· < base) || c == '_'
    if digits.isEmpty then none
    else
      let n := digits.foldl (fun n c => match Text.Hex.value? c with
        | some digit => n * base + digit
        | none => n) 0
      some (.whole n, rest.drop digits.length)
  match text with
  | '0' :: 'x' :: rest => based 16 rest
  | '0' :: 'X' :: rest => based 16 rest
  | '0' :: 'o' :: rest => based 8 rest
  | '0' :: 'b' :: rest => based 2 rest
  | text =>
    let whole := text.takeWhile isDigit
    let behind := text.drop whole.length
    let fraction := match behind with
      | '.' :: rest => '.' :: rest.takeWhile isDigit
      | _ => []
    let behind := behind.drop fraction.length
    let exponent : Option (Int × List Char) := match behind with
      | e :: rest =>
        if e = 'e' ∨ e = 'E' then
          let sign := rest.takeWhile fun c => c == '-' || c == '+'
          let digits := (rest.drop sign.length).takeWhile Char.isDigit
          if digits.isEmpty ∨ sign.length > 1 then none
          else
            let n : Int := digitsValue (digitsOf digits)
            some (if sign = ['-'] then -n else n, (rest.drop sign.length).drop digits.length)
        else none
      | [] => none
    if fraction.isEmpty ∧ exponent.isNone then
      if whole.length > 1 ∧ whole.head? = some '0' ∧ digitsValue (digitsOf whole) ≠ 0 then none
      else some (.whole (digitsValue (digitsOf whole)), behind)
    else
      let digits := digitsOf (whole ++ fraction)
      let point : Int := (digitsOf whole).length + (exponent.elim 0 (·.1))
      some (.real (Decimal.toBinary64 false ⟨digits, point⟩), exponent.elim behind (·.2))

/-- The columns that some blanks take. A tab goes on to the next multiple of eight. -/
def columns (blanks : List Char) : Nat :=
  blanks.foldl (fun n c => if c == '\t' then (n / 8 + 1) * 8 else if c == ' ' then n + 1 else 0) 0

structure Position where
  line : Nat
  /-- The indentations of the open blocks, the innermost one first. -/
  indents : List Nat
  /-- The brackets that are open. -/
  brackets : List String
  found : Tokens

def Position.add (p : Position) (token : Token) : Position :=
  { p with found := (token, p.line) :: p.found }

def closeBlocks (column : Nat) : List Nat → Position → Position
  | [], p => { p with indents := [] }
  | indent :: rest, p =>
    if indent > column then closeBlocks column rest (p.add .dedent)
    else { p with indents := indent :: rest }

def indentTo (column : Nat) (p : Position) : Except Misprint Position :=
  let current := p.indents.headD 0
  if column > current then .ok { p.add .indent with indents := column :: p.indents }
  else
    let closed := closeBlocks column p.indents p
    if closed.indents.headD 0 = column then .ok closed
    else .error ⟨"IndentationError", "unindent does not match any outer indentation level", p.line⟩

def opening : String → Option String
  | ")" => some "("
  | "]" => some "["
  | "\x7d" => some "\x7b"
  | _ => none

def addOperator (p : Position) (operator : String) : Except Misprint Position :=
  match opening operator with
  | some expected =>
    match p.brackets with
    | bracket :: rest =>
      if bracket = expected then .ok { p.add (.operator operator) with brackets := rest }
      else .error (misprint "closing parenthesis does not match" p.line)
    | [] => .error (misprint "unmatched bracket" p.line)
  | none =>
    if ["(", "[", "\x7b"].contains operator then
      .ok { p.add (.operator operator) with brackets := operator :: p.brackets }
    else .ok (p.add (.operator operator))

def run : Nat → Bool → Position → List Char → Except Misprint Tokens
  | 0, _, p, _ => .ok p.found.reverse
  | _, atStart, p, [] =>
    if p.brackets.isEmpty then
      let ended := if atStart then p else p.add .newline
      .ok (closeBlocks 0 ended.indents ended).found.reverse
    else .error (misprint "bracket was never closed" p.line)
  | fuel + 1, true, p, text =>
    let blanks := text.takeWhile isBlank
    let rest := text.drop blanks.length
    match rest with
    | [] => run fuel true p []
    | '\n' :: rest => run fuel true { p with line := p.line + 1 } rest
    | '#' :: rest => run fuel true p (rest.dropWhile (· ≠ '\n'))
    | rest =>
      match indentTo (columns blanks) p with
      | .ok p => run fuel false p rest
      | .error e => .error e
  | fuel + 1, false, p, c :: rest =>
    if isBlank c then run fuel false p rest
    else if c = '#' then run fuel false p (rest.dropWhile (· ≠ '\n'))
    else if c = '\n' then
      if p.brackets.isEmpty then
        let ended := p.add .newline
        run fuel true { ended with line := p.line + 1 } rest
      else run fuel false { p with line := p.line + 1 } rest
    else match c, rest with
      | '\x5c', '\n' :: rest => run fuel false { p with line := p.line + 1 } rest
      | _, _ =>
        match textToken? (c :: rest) with
        | some (.error _) => .error (misprint "unterminated string literal" p.line)
        | some (.ok (token, after)) =>
          let lines := ((c :: rest).take (rest.length + 1 - after.length)).count '\n'
          let added := p.add token
          run fuel false { added with line := p.line + lines } after
        | none =>
          if c.isDigit || (c == '.' && rest.head?.any Char.isDigit) then
            match numberToken (c :: rest) with
            | none => .error (misprint "invalid number" p.line)
            | some (token, after) =>
              if after.head?.any isNameStart then
                .error (misprint "invalid decimal literal" p.line)
              else run fuel false (p.add token) after
          else if isNameStart c then
            let name := (c :: rest).takeWhile isNameChar
            run fuel false (p.add (.name (String.ofList name))) ((c :: rest).drop name.length)
          else
            match operators.find? fun operator => operator.toList.isPrefixOf (c :: rest) with
            | some operator =>
              match addOperator p operator with
              | .ok p => run fuel false p ((c :: rest).drop operator.length)
              | .error e => .error e
            | none => .error (misprint "invalid syntax" p.line)

def tokenize (program : List Char) : Except Misprint Tokens :=
  run (2 * program.length + 2) true ⟨1, [], [], []⟩ program

end ContestJudge.Host.Script.Lexer
