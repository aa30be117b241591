import ContestJudge.Host.Shell.Lexer

namespace ContestJudge.Host.Shell.Reader

abbrev Reading := Except (Nat × String)

def shownToken : Token → String
  | .word _ (some text) => "\"" ++ Octets.toString text ++ "\" unexpected"
  | .word _ none => "word unexpected"
  | .descriptor _ => "redirection unexpected"
  | .document _ => "redirection unexpected"
  | .operator text => "\"" ++ text ++ "\" unexpected"
  | .newline => "newline unexpected"
  | .unfinished what => what

def unexpected {α : Type} (tokens : Tokens) (expected : String) : Reading (α × Tokens) :=
  let hint := if expected.isEmpty then "" else " (expecting \"" ++ expected ++ "\")"
  match tokens with
  | (.unfinished what, line) :: _ => .error (line, what)
  | (token, line) :: _ => .error (line, shownToken token ++ hint)
  | [] => .error (1, "end of file unexpected" ++ hint)

def plain? (tokens : Tokens) : Option String :=
  match tokens with
  | (.word _ (some text), _) :: _ => some (Octets.toString text)
  | _ => none

def isOperator (tokens : Tokens) (operator : String) : Bool :=
  match tokens with
  | (.operator text, _) :: _ => text == operator
  | _ => false

def skipNewlines (tokens : Tokens) : Tokens :=
  tokens.dropWhile fun
    | (.newline, _) => true
    | _ => false

def expect (word : String) (tokens : Tokens) : Except (Nat × String) Tokens :=
  if plain? tokens = some word then .ok (tokens.drop 1)
  else match unexpected (α := Unit) tokens word with
    | .error cause => .error cause
    | .ok _ => .ok tokens

def redirectKind? : String → Option (RedirectKind × Nat)
  | "<" => some (.input, 0)
  | ">" => some (.output, 1)
  | ">|" => some (.output, 1)
  | ">>" => some (.append, 1)
  | ">&" => some (.duplicate, 1)
  | "<&" => some (.duplicate, 0)
  | "<<" => some (.document, 0)
  | "<<-" => some (.document, 0)
  | _ => none

def redirect? (tokens : Tokens) : Option (Reading (Redirect × Tokens)) :=
  let (number, behind) : Option Nat × Tokens := match tokens with
    | (.descriptor n, _) :: rest => (some n, rest)
    | _ => (none, tokens)
  match behind with
  | (.operator _, _) :: (.document text, _) :: rest =>
    some (.ok (⟨number.getD 0, .document, text⟩, rest))
  | (.operator operator, _) :: rest =>
    (redirectKind? operator).map fun (kind, usual) =>
      match rest with
      | (.word target _, _) :: rest => .ok (⟨number.getD usual, kind, target⟩, rest)
      | _ => unexpected rest ""
  | _ => none

def redirects : Nat → List Redirect → Tokens → Reading (List Redirect × Tokens)
  | 0, found, tokens => .ok (found.reverse, tokens)
  | fuel + 1, found, tokens =>
    match redirect? tokens with
    | none => .ok (found.reverse, tokens)
    | some (.error cause) => .error cause
    | some (.ok (redirect, rest)) => redirects fuel (redirect :: found) rest

def assignment? : Word → Option (Octets × Word)
  | pieces =>
    let leading := pieces.takeWhile fun
      | .text _ false => true
      | _ => false
    let text := leading.flatMap fun
      | .text text _ => text
      | _ => []
    let name := text.takeWhile Lexer.isNameChar
    match text.drop name.length with
    | '=' :: value =>
      if name.head?.any Lexer.isNameStart then
        some (name, .text value false :: pieces.drop leading.length)
      else none
    | _ => none

structure SimpleParts where
  assignments : List (Octets × Word)
  words : List Word
  redirects : List Redirect

def simpleParts : Nat → SimpleParts → Tokens → Reading (SimpleParts × Tokens)
  | 0, parts, tokens => .ok (parts, tokens)
  | fuel + 1, parts, tokens =>
    match redirect? tokens with
    | some (.error cause) => .error cause
    | some (.ok (redirect, rest)) =>
      simpleParts fuel { parts with redirects := parts.redirects ++ [redirect] } rest
    | none =>
      match tokens with
      | (.word word _, _) :: rest =>
        match parts.words, assignment? word with
        | [], some assignment =>
          simpleParts fuel { parts with assignments := parts.assignments ++ [assignment] } rest
        | _, _ => simpleParts fuel { parts with words := parts.words ++ [word] } rest
      | _ => .ok (parts, tokens)

def lineOf (tokens : Tokens) : Nat := (tokens.head?.map (·.2)).getD 1

def simple (tokens : Tokens) : Reading (Command × Tokens) := do
  let (parts, rest) ← simpleParts (tokens.length + 1) ⟨[], [], []⟩ tokens
  if parts.assignments.isEmpty && parts.words.isEmpty && parts.redirects.isEmpty then
    unexpected tokens ""
  else return (.simple (lineOf tokens) parts.assignments parts.words parts.redirects, rest)

/-- The words up to the end of a line or a separator. -/
def plainWords : Tokens → List Word × Tokens
  | (.word word _, _) :: rest =>
    let (words, rest) := plainWords rest
    (word :: words, rest)
  | tokens => ([], tokens)

def closers : List String := ["then", "else", "elif", "fi", "do", "done", "esac", "\x7d"]

def atCloser (tokens : Tokens) : Bool :=
  tokens.isEmpty || isOperator tokens ")" || isOperator tokens ";;" ||
    (plain? tokens).any closers.contains

def skipSeparator (tokens : Tokens) : Tokens :=
  skipNewlines (if isOperator tokens ";" then tokens.drop 1 else tokens)

def patterns : Nat → Tokens → Reading (List Word × Tokens)
  | 0, tokens => unexpected tokens ""
  | _, [] => unexpected [] ")"
  | fuel + 1, tokens =>
    match tokens with
    | (.word pattern _, _) :: rest =>
      if isOperator rest "|" then do
        let (others, rest) ← patterns fuel (rest.drop 1)
        return (pattern :: others, rest)
      else if isOperator rest ")" then .ok ([pattern], rest.drop 1)
      else unexpected rest ")"
    | _ => unexpected tokens ""

mutual

def commands : Nat → Tokens → Reading (Command × Tokens)
  | 0, tokens => unexpected tokens ""
  | fuel + 1, tokens => do
    let tokens := skipNewlines tokens
    if atCloser tokens then return (.nothing, tokens)
    let (first, rest) ← separated fuel tokens
    let (later, rest) ← commands fuel rest
    return (match later with
      | .nothing => first
      | later => .sequence first later, rest)

def separated : Nat → Tokens → Reading (Command × Tokens)
  | 0, tokens => unexpected tokens ""
  | fuel + 1, tokens => do
    let (first, rest) ← chain fuel tokens
    match rest with
    | (.operator ";", _) :: rest => return (first, rest)
    | (.operator "&", _) :: rest => return (.background first, rest)
    | (.newline, _) :: rest => return (first, rest)
    | rest => if atCloser rest then return (first, rest) else unexpected rest ""

def chain : Nat → Tokens → Reading (Command × Tokens)
  | 0, tokens => unexpected tokens ""
  | fuel + 1, tokens => do
    let (first, rest) ← pipeline fuel tokens
    chainOn fuel first rest

def chainOn : Nat → Command → Tokens → Reading (Command × Tokens)
  | 0, _, tokens => unexpected tokens ""
  | fuel + 1, first, tokens => do
    if isOperator tokens "&&" then
      let (second, rest) ← pipeline fuel (skipNewlines (tokens.drop 1))
      chainOn fuel (.both first second) rest
    else if isOperator tokens "||" then
      let (second, rest) ← pipeline fuel (skipNewlines (tokens.drop 1))
      chainOn fuel (.either first second) rest
    else return (first, tokens)

def pipeline : Nat → Tokens → Reading (Command × Tokens)
  | 0, tokens => unexpected tokens ""
  | fuel + 1, tokens => do
    if plain? tokens = some "!" then
      let (inner, rest) ← pipeline fuel (tokens.drop 1)
      return (.negation inner, rest)
    else
      let (parts, rest) ← pipeParts fuel tokens
      return (match parts with
        | [part] => part
        | parts => .pipeline parts, rest)

def pipeParts : Nat → Tokens → Reading (List Command × Tokens)
  | 0, tokens => unexpected tokens ""
  | fuel + 1, tokens => do
    let (first, rest) ← command fuel tokens
    if isOperator rest "|" then
      let (others, rest) ← pipeParts fuel (skipNewlines (rest.drop 1))
      return (first :: others, rest)
    else return ([first], rest)

def command : Nat → Tokens → Reading (Command × Tokens)
  | 0, tokens => unexpected tokens ""
  | fuel + 1, tokens => do
    let (inner, rest) ← bare fuel tokens
    match inner with
    | .simple .. => return (inner, rest)
    | .define .. => return (inner, rest)
    | inner =>
      let (found, rest) ← redirects (rest.length + 1) [] rest
      return (if found.isEmpty then inner else .redirected inner found, rest)

def bare : Nat → Tokens → Reading (Command × Tokens)
  | 0, tokens => unexpected tokens ""
  | fuel + 1, tokens => do
    if isOperator tokens "(" then
      let (body, rest) ← commands fuel (tokens.drop 1)
      if isOperator rest ")" then return (.subshell body, rest.drop 1) else unexpected rest ")"
    else match plain? tokens with
      | some "\x7b" =>
        let (body, rest) ← commands fuel (tokens.drop 1)
        return (.redirected body [], ← expect "\x7d" rest)
      | some "if" => choiceOf fuel (tokens.drop 1)
      | some "while" => loopOf fuel true (tokens.drop 1)
      | some "until" => loopOf fuel false (tokens.drop 1)
      | some "for" => eachOf fuel (tokens.drop 1)
      | some "case" => selectOf fuel (tokens.drop 1)
      | some name =>
        if closers.contains name then unexpected tokens ""
        else match tokens.drop 1 with
          | (.operator "(", _) :: (.operator ")", _) :: rest =>
            let (body, rest) ← command fuel (skipNewlines rest)
            return (.define (Octets.ofString name) body, rest)
          | _ => simple tokens
      | none => simple tokens

def choiceOf : Nat → Tokens → Reading (Command × Tokens)
  | 0, tokens => unexpected tokens ""
  | fuel + 1, tokens => do
    let (condition, rest) ← commands fuel tokens
    let rest ← expect "then" rest
    let (yes, rest) ← commands fuel rest
    match plain? rest with
    | some "elif" =>
      let (no, rest) ← choiceOf fuel (rest.drop 1)
      return (.choice condition yes no, rest)
    | some "else" =>
      let (no, rest) ← commands fuel (rest.drop 1)
      return (.choice condition yes no, ← expect "fi" rest)
    | _ => return (.choice condition yes .nothing, ← expect "fi" rest)

def loopOf : Nat → Bool → Tokens → Reading (Command × Tokens)
  | 0, _, tokens => unexpected tokens ""
  | fuel + 1, whileTrue, tokens => do
    let (condition, rest) ← commands fuel tokens
    let rest ← expect "do" rest
    let (body, rest) ← commands fuel rest
    return (.loop whileTrue condition body, ← expect "done" rest)

def eachOf : Nat → Tokens → Reading (Command × Tokens)
  | 0, tokens => unexpected tokens ""
  | fuel + 1, tokens => do
    match tokens with
    | (.word _ (some name), _) :: rest =>
      let rest := skipNewlines rest
      let (words, rest) := if plain? rest = some "in" then
          let (words, rest) := plainWords (rest.drop 1)
          (some words, rest)
        else (none, rest)
      let rest ← expect "do" (skipSeparator rest)
      let (body, rest) ← commands fuel rest
      return (.each name words body, ← expect "done" rest)
    | _ => unexpected tokens ""

def selectOf : Nat → Tokens → Reading (Command × Tokens)
  | 0, tokens => unexpected tokens ""
  | fuel + 1, tokens => do
    match tokens with
    | (.word word _, _) :: rest =>
      let rest ← expect "in" (skipNewlines rest)
      let (cases, rest) ← casesOf fuel (skipNewlines rest)
      return (.select word cases, rest)
    | _ => unexpected tokens ""

def casesOf : Nat → Tokens → Reading (List (List Word × Command) × Tokens)
  | 0, tokens => unexpected tokens ""
  | fuel + 1, tokens => do
    if plain? tokens = some "esac" then return ([], tokens.drop 1)
    else
      let start := if isOperator tokens "(" then tokens.drop 1 else tokens
      let (words, rest) ← patterns fuel start
      let (body, rest) ← commands fuel rest
      let rest := skipNewlines (if isOperator rest ";;" then rest.drop 1 else rest)
      let (others, rest) ← casesOf fuel rest
      return ((words, body) :: others, rest)

end

def line : Nat → Tokens → Reading (Command × Tokens)
  | 0, tokens => unexpected tokens ""
  | fuel + 1, tokens => do
    let depth := 16 * (tokens.length + 4)
    let (first, rest) ← chain depth tokens
    let lineOn (first : Command) (rest : Tokens) : Reading (Command × Tokens) :=
      match rest with
      | [] => .ok (first, [])
      | (.newline, _) :: rest => .ok (first, rest)
      | rest => do
        let (later, rest) ← line fuel rest
        return (.sequence first later, rest)
    match rest with
    | (.operator ";", _) :: rest => lineOn first rest
    | (.operator "&", _) :: rest => lineOn (.background first) rest
    | (.newline, _) :: rest => return (first, rest)
    | [] => return (first, [])
    | rest => unexpected rest ""

def nextLine? (tokens : Tokens) : Option (Reading (Command × Tokens)) :=
  match skipNewlines tokens with
  | [] => none
  | tokens => some (line (tokens.length + 1) tokens)

def quotedWord (text : Octets) : Word :=
  match Lexer.doubleQuoted false (text.length + 2) [] (text ++ ['\x22']) with
  | .ok (pieces, []) => pieces
  | _ => [.text text true]

def innerWord (text : Octets) : Word :=
  let (found, _) := (text.foldl (fun (found, current) c =>
    if Lexer.endsWord c then (.text [c] false :: wordOf current.reverse ++ found, [])
    else (found, c :: current)) (([], []) : Word × Octets))
  let tail := text.reverse.takeWhile fun c => !Lexer.endsWord c
  (wordOf tail.reverse ++ found).reverse
where
  /-- The pieces of a text without blanks, the last one first. -/
  wordOf (text : Octets) : Word :=
    match Lexer.word (text.length + 1) [] text with
    | .ok (pieces, _) => pieces.reverse
    | .error _ => [.text text false]

end ContestJudge.Host.Shell.Reader
