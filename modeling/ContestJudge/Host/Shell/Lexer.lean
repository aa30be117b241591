import ContestJudge.Host.Shell.Syntax
/-!
Scripts as tokens. Every function gives what it read and the rest; the counter bounds the number
of characters that are read.
-/

namespace ContestJudge.Host.Shell.Lexer

def isNameStart (c : Char) : Bool := c.isAlpha || c == '_'
def isNameChar (c : Char) : Bool := c.isAlphanum || c == '_'
def isSpace (c : Char) : Bool := c == ' ' || c == '\t'
def endsWord (c : Char) : Bool :=
  isSpace c || ['\n', ';', '&', '|', '<', '>', '(', ')'].contains c

def isSpecial (c : Char) : Bool := c.isDigit || ['$', '?', '#', '@', '*', '!', '-'].contains c

def singleQuoted (text : List Char) : Option (Octets × List Char) :=
  match text.dropWhile (· ≠ '\x27') with
  | [] => none
  | _ :: rest => some (text.takeWhile (· ≠ '\x27'), rest)

/-- The text up to the closing character at depth zero. Quotes and escapes hide what is in them. -/
def enclosed (opening closing : Char) : Nat → Nat → Octets → List Char → Option (Octets × List Char)
  | 0, _, _, _ => none
  | _, _, _, [] => none
  | fuel + 1, depth, found, c :: rest =>
    if c = '\x5c' then
      match rest with
      | escaped :: rest => enclosed opening closing fuel depth (escaped :: c :: found) rest
      | [] => none
    else if c = '\x27' then
      match singleQuoted rest with
      | some (quoted, rest) =>
        enclosed opening closing fuel depth ('\x27' :: quoted.reverse ++ '\x27' :: found) rest
      | none => none
    else if c = closing then
      if depth = 0 then some (found.reverse, rest)
      else enclosed opening closing fuel (depth - 1) (c :: found) rest
    else if c = opening then enclosed opening closing fuel (depth + 1) (c :: found) rest
    else enclosed opening closing fuel depth (c :: found) rest

def backQuoted : List Char → Octets → Option (Octets × List Char)
  | [], _ => none
  | '\x60' :: rest, found => some (found.reverse, rest)
  | '\x5c' :: c :: rest, found =>
    if c = '\x60' ∨ c = '\x5c' ∨ c = '$' then backQuoted rest (c :: found)
    else backQuoted rest (c :: '\x5c' :: found)
  | c :: rest, found => backQuoted rest (c :: found)

def modifier? (text : Octets) : Option (Option Modifier) :=
  match text with
  | [] => some none
  | ':' :: '-' :: word => some (some (.otherwise true word))
  | ':' :: '=' :: word => some (some (.assign true word))
  | ':' :: '?' :: word => some (some (.demand true word))
  | ':' :: '+' :: word => some (some (.instead true word))
  | '-' :: word => some (some (.otherwise false word))
  | '=' :: word => some (some (.assign false word))
  | '?' :: word => some (some (.demand false word))
  | '+' :: word => some (some (.instead false word))
  | '%' :: '%' :: word => some (some (.cutEnd true word))
  | '%' :: word => some (some (.cutEnd false word))
  | '#' :: '#' :: word => some (some (.cutStart true word))
  | '#' :: word => some (some (.cutStart false word))
  | _ => none

def nameOf (text : Octets) : Octets :=
  match text with
  | [] => []
  | c :: _ =>
    if isNameStart c then text.takeWhile isNameChar
    else if c.isDigit then text.takeWhile Char.isDigit
    else if isSpecial c then [c]
    else []

def braced (text : Octets) (quoted : Bool) : Option Piece :=
  match text with
  | '#' :: c :: rest =>
    let name := nameOf (c :: rest)
    if !name.isEmpty && name.length = rest.length + 1 then
      some (.variable name (some .length) quoted)
    else none
  | text =>
    let name := nameOf text
    if name.isEmpty then none
    else (modifier? (text.drop name.length)).map fun found => .variable name found quoted

def expansion (text : List Char) (quoted : Bool) : Except String (Piece × List Char) :=
  match text with
  | '(' :: '(' :: rest =>
    match enclosed '(' ')' (rest.length + 1) 0 [] rest with
    | some (inner, ')' :: rest) => .ok (.arithmetic inner quoted, rest)
    | _ => .error "Missing '))'"
  | '(' :: rest =>
    match enclosed '(' ')' (rest.length + 1) 0 [] rest with
    | some (inner, rest) => .ok (.command inner quoted, rest)
    | none => .error "end of file unexpected (expecting \")\")"
  | '\x7b' :: rest =>
    match enclosed '\x7b' '\x7d' (rest.length + 1) 0 [] rest with
    | some (inner, rest) =>
      match braced inner quoted with
      | some piece => .ok (piece, rest)
      | none => .error "Bad substitution"
    | none => .error "Missing '\x7d'"
  | c :: rest =>
    if isNameStart c then
      let name := (c :: rest).takeWhile isNameChar
      .ok (.variable name none quoted, (c :: rest).drop name.length)
    else if isSpecial c then .ok (.variable [c] none quoted, rest)
    else .ok (.text ['$'] quoted, c :: rest)
  | [] => .ok (.text ['$'] quoted, [])

/-- The pieces up to a double quote, or of a whole document, in which double quotes are plain. -/
def doubleQuoted (isDocument : Bool) : Nat → Word → List Char → Except String (Word × List Char)
  | 0, _, _ => .error "Unterminated quoted string"
  | _, found, [] =>
    if isDocument then .ok (found.reverse, []) else .error "Unterminated quoted string"
  | fuel + 1, found, c :: rest =>
    if c = '\x22' ∧ ¬ isDocument then .ok (found.reverse, rest)
    else if c = '\x5c' then
      match rest with
      | [] => doubleQuoted isDocument fuel (.text ['\x5c'] true :: found) []
      | '\n' :: rest => doubleQuoted isDocument fuel found rest
      | escaped :: rest =>
        if ['$', '\x60', '\x5c'].contains escaped ∨ escaped = '\x22' ∧ ¬ isDocument then
          doubleQuoted isDocument fuel (.text [escaped] true :: found) rest
        else doubleQuoted isDocument fuel (.text ['\x5c', escaped] true :: found) rest
    else if c = '$' then
      match expansion rest true with
      | .ok (piece, rest) => doubleQuoted isDocument fuel (piece :: found) rest
      | .error what => .error what
    else if c = '\x60' then
      match backQuoted rest [] with
      | some (script, rest) => doubleQuoted isDocument fuel (.command script true :: found) rest
      | none => .error "EOF in backquote substitution"
    else doubleQuoted isDocument fuel (.text [c] true :: found) rest

def word : Nat → Word → List Char → Except String (Word × List Char)
  | 0, found, rest => .ok (found.reverse, rest)
  | _, found, [] => .ok (found.reverse, [])
  | fuel + 1, found, c :: rest =>
    if endsWord c then .ok (found.reverse, c :: rest)
    else if c = '\x5c' then
      match rest with
      | [] => .ok ((.text ['\x5c'] false :: found).reverse, [])
      | '\n' :: rest => word fuel found rest
      | escaped :: rest => word fuel (.text [escaped] true :: found) rest
    else if c = '\x27' then
      match singleQuoted rest with
      | some (quoted, rest) => word fuel (.text quoted true :: found) rest
      | none => .error "Unterminated quoted string"
    else if c = '\x22' then
      match doubleQuoted false (rest.length + 1) [] rest with
      | .ok (pieces, rest) =>
        word fuel (pieces.reverse ++ .text [] true :: found) rest
      | .error what => .error what
    else if c = '$' then
      match expansion rest false with
      | .ok (piece, rest) => word fuel (piece :: found) rest
      | .error what => .error what
    else if c = '\x60' then
      match backQuoted rest [] with
      | some (script, rest) => word fuel (.command script false :: found) rest
      | none => .error "EOF in backquote substitution"
    else word fuel (.text [c] false :: found) rest

def plainText? (pieces : Word) : Option Octets :=
  pieces.foldr (fun piece text =>
    match piece, text with
    | .text found false, some text => some (found ++ text)
    | _, _ => none) (some [])

def operators : List String :=
  ["&&", "||", ";;", "<<-", "<<", ">>", ">&", "<&", ">|", "<>", ";", "&", "|", "<", ">", "(", ")"]

def operator? (text : List Char) : Option String :=
  operators.find? fun operator => operator.toList.isPrefixOf text

def linesIn (text rest : List Char) : Nat := (text.take (text.length - rest.length)).count '\n'

structure Awaited where
  delimiter : Octets
  /-- Whether tabs at the start of lines are dropped. -/
  dropsTabs : Bool
  /-- Whether nothing in it is expanded. -/
  isLiteral : Bool

def unquoted (pieces : Word) : Octets :=
  pieces.flatMap fun
    | .text text _ => text
    | .variable name _ _ => '$' :: name
    | _ => []

def documentLines (awaited : Awaited) : Nat → Octets → List Char → Octets × List Char
  | 0, found, rest => (found, rest)
  | _, found, [] => (found, [])
  | fuel + 1, found, text =>
    let line := text.takeWhile (· ≠ '\n')
    let shown := if awaited.dropsTabs then line.dropWhile (· == '\t') else line
    if shown = awaited.delimiter then (found, text.drop (line.length + 1))
    else
      let ended := if line.length < text.length then shown ++ ['\n'] else shown
      documentLines awaited fuel (found ++ ended) (text.drop (line.length + 1))

def documentWord (awaited : Awaited) (text : Octets) : Word :=
  if awaited.isLiteral then [.text text true]
  else match doubleQuoted true (text.length + 1) [] text with
    | .ok (pieces, _) => pieces
    | .error _ => [.text text true]

def documents (text : List Char) : List Awaited → List Word → List Word × List Char
  | [], found => (found, text)
  | awaited :: others, found =>
    let (lines, rest) := documentLines awaited (text.length + 1) [] text
    documents rest others (documentWord awaited lines :: found)

/-- Puts documents, the last one first, where tokens, the last one first, wait for them. -/
def fill : List Word → Tokens → Tokens
  | [], tokens => tokens
  | _, [] => []
  | document :: others, (.document _, line) :: rest => (.document document, line) :: fill others rest
  | found, token :: rest => token :: fill found rest

/-- The tokens of a script. The script stops where a token is not finished. -/
def tokens : Nat → Nat → Tokens → List Awaited → List Char → Tokens
  | 0, _, found, _, _ => found.reverse
  | _, _, found, _, [] => found.reverse
  | fuel + 1, line, found, awaited, c :: rest =>
    if isSpace c then tokens fuel line found awaited rest
    else if c = '\n' then
      let (texts, after) := documents rest awaited []
      tokens fuel (line + 1 + linesIn rest after) ((.newline, line) :: fill texts found) [] after
    else if c = '#' then tokens fuel line found awaited (rest.dropWhile (· ≠ '\n'))
    else match c, rest with
      | '\x5c', '\n' :: rest => tokens fuel (line + 1) found awaited rest
      | _, _ =>
        match operator? (c :: rest) with
        | some operator =>
          let behind := (c :: rest).drop operator.length
          let found := (.operator operator, line) :: found
          if operator = "<<" ∨ operator = "<<-" then
            match word (behind.length + 1) [] (behind.dropWhile isSpace) with
            | .error what => ((.unfinished what, line) :: found).reverse
            | .ok ([], after) => tokens fuel line found awaited after
            | .ok (pieces, after) =>
              let next : Awaited :=
                ⟨unquoted pieces, operator = "<<-", (plainText? pieces).isNone⟩
              tokens fuel line ((.document [], line) :: found) (awaited ++ [next]) after
          else tokens fuel line found awaited behind
        | none =>
          match word (rest.length + 2) [] (c :: rest) with
          | .error what => ((.unfinished what, line) :: found).reverse
          | .ok (pieces, after) =>
            let later := line + linesIn (c :: rest) after
            let plain := plainText? pieces
            let isNumber := match after with
              | '<' :: _ => true
              | '>' :: _ => true
              | _ => false
            match isNumber, plain.bind Octets.natural? with
            | true, some number =>
              tokens fuel later ((.descriptor number, line) :: found) awaited after
            | _, _ => tokens fuel later ((.word pieces plain, line) :: found) awaited after

def tokenize (script : Octets) : Tokens := tokens (script.length + 1) 1 [] [] script

end ContestJudge.Host.Shell.Lexer
