import ContestJudge.Host.Script.Lexer

namespace ContestJudge.Host.Script.Reader

abbrev Reading := Except Misprint

def keywords : List String :=
  ["False", "None", "True", "and", "as", "assert", "break", "class", "continue", "def", "del",
    "elif", "else", "except", "finally", "for", "from", "global", "if", "import", "in", "is",
    "lambda", "nonlocal", "not", "or", "pass", "raise", "return", "try", "while", "with", "yield"]

def lineOf (tokens : Tokens) : Nat := (tokens.head?.map (·.2)).getD 1

def invalid {α : Type} (tokens : Tokens) : Reading α :=
  match tokens with
  | (.indent, line) :: _ => .error ⟨"IndentationError", "unexpected indent", line⟩
  | tokens => .error (Lexer.misprint "invalid syntax" (lineOf tokens))

def isOperator (tokens : Tokens) (operator : String) : Bool :=
  match tokens with
  | (.operator text, _) :: _ => text == operator
  | _ => false

def isWord (tokens : Tokens) (word : String) : Bool :=
  match tokens with
  | (.name text, _) :: _ => text == word
  | _ => false

def isNewline (tokens : Tokens) : Bool :=
  match tokens with
  | (.newline, _) :: _ => true
  | _ => false

def expect (operator : String) (tokens : Tokens) : Reading Tokens :=
  if isOperator tokens operator then .ok (tokens.drop 1) else invalid tokens

def name (tokens : Tokens) : Reading (String × Tokens) :=
  match tokens with
  | (.name text, _) :: rest => if keywords.contains text then invalid tokens else .ok (text, rest)
  | tokens => invalid tokens

def dotted : Nat → Tokens → Reading (String × Tokens)
  | 0, tokens => invalid tokens
  | fuel + 1, tokens => do
    let (first, rest) ← name tokens
    if isOperator rest "." then
      let (second, rest) ← dotted fuel (rest.drop 1)
      return (first ++ "." ++ second, rest)
    else return (first, rest)

def renamed (first : String) (tokens : Tokens) : Reading ((String × String) × Tokens) := do
  if isWord tokens "as" then
    let (second, rest) ← name (tokens.drop 1)
    return ((first, second), rest)
  else return ((first, first), tokens)

def levels : List (List String) :=
  [["|"], ["^"], ["&"], ["<<", ">>"], ["+", "-"], ["*", "/", "//", "%"]]

def comparison? (tokens : Tokens) : Option (String × Tokens) :=
  match tokens with
  | (.name "not", _) :: (.name "in", _) :: rest => some ("not in", rest)
  | (.name "in", _) :: rest => some ("in", rest)
  | (.name "is", _) :: (.name "not", _) :: rest => some ("is not", rest)
  | (.name "is", _) :: rest => some ("is", rest)
  | (.operator text, _) :: rest =>
    if ["<", ">", "<=", ">=", "==", "!="].contains text then some (text, rest) else none
  | _ => none

def beginsExpr (tokens : Tokens) : Bool :=
  match tokens with
  | (.name text, _) :: _ =>
    !keywords.contains text || ["None", "True", "False", "not", "lambda"].contains text
  | (.operator text, _) :: _ => ["(", "[", "-", "+", "~"].contains text
  | (.whole _, _) :: _ => true
  | (.real _, _) :: _ => true
  | (.text _, _) :: _ => true
  | (.template _, _) :: _ => true
  | _ => false

def pieces : Nat → List Char → List Char → Option (List (Bool × List Char))
  | 0, _, _ => none
  | _, found, [] => some [(false, found.reverse)]
  | fuel + 1, found, '\x7b' :: '\x7b' :: rest => pieces fuel ('\x7b' :: found) rest
  | fuel + 1, found, '\x7d' :: '\x7d' :: rest => pieces fuel ('\x7d' :: found) rest
  | fuel + 1, found, '\x7b' :: rest =>
    let inner := rest.takeWhile (· ≠ '\x7d')
    if inner.length = rest.length then none
    else (pieces fuel [] (rest.drop (inner.length + 1))).map fun later =>
      (false, found.reverse) :: (true, inner) :: later
  | fuel + 1, found, c :: rest => pieces fuel (c :: found) rest

mutual

def exprs : Nat → Tokens → Reading (Expr × Tokens)
  | 0, tokens => invalid tokens
  | fuel + 1, tokens => do
    let (first, rest) ← expr fuel tokens
    if isOperator rest "," then
      let (items, rest) ← itemsOn fuel [first] rest
      return (.tuple items, rest)
    else return (first, rest)

def itemsOn : Nat → List Expr → Tokens → Reading (List Expr × Tokens)
  | 0, _, tokens => invalid tokens
  | fuel + 1, found, tokens => do
    if isOperator tokens "," then
      if beginsExpr (tokens.drop 1) then
        let (item, rest) ← expr fuel (tokens.drop 1)
        itemsOn fuel (found ++ [item]) rest
      else return (found, tokens.drop 1)
    else return (found, tokens)

def expr : Nat → Tokens → Reading (Expr × Tokens)
  | 0, tokens => invalid tokens
  | fuel + 1, tokens => do
    let (yes, rest) ← disjunction fuel tokens
    if isWord rest "if" then
      let (condition, rest) ← disjunction fuel (rest.drop 1)
      if isWord rest "else" then
        let (no, rest) ← expr fuel (rest.drop 1)
        return (.choice condition yes no, rest)
      else invalid rest
    else return (yes, rest)

def disjunction : Nat → Tokens → Reading (Expr × Tokens)
  | 0, tokens => invalid tokens
  | fuel + 1, tokens => do
    let (first, rest) ← conjunction fuel tokens
    if isWord rest "or" then
      let (second, rest) ← disjunction fuel (rest.drop 1)
      return (.either first second, rest)
    else return (first, rest)

def conjunction : Nat → Tokens → Reading (Expr × Tokens)
  | 0, tokens => invalid tokens
  | fuel + 1, tokens => do
    let (first, rest) ← negation fuel tokens
    if isWord rest "and" then
      let (second, rest) ← conjunction fuel (rest.drop 1)
      return (.both first second, rest)
    else return (first, rest)

def negation : Nat → Tokens → Reading (Expr × Tokens)
  | 0, tokens => invalid tokens
  | fuel + 1, tokens => do
    if isWord tokens "not" then
      let (inner, rest) ← negation fuel (tokens.drop 1)
      return (.unary "not" inner, rest)
    else
      let (first, rest) ← level fuel levels tokens
      let (others, rest) ← comparisons fuel rest
      return (if others.isEmpty then first else .compare first others, rest)

def comparisons : Nat → Tokens → Reading (List (String × Expr) × Tokens)
  | 0, tokens => invalid tokens
  | fuel + 1, tokens => do
    match comparison? tokens with
    | none => return ([], tokens)
    | some (operator, rest) =>
      let (e, rest) ← level fuel levels rest
      let (others, rest) ← comparisons fuel rest
      return ((operator, e) :: others, rest)

def level : Nat → List (List String) → Tokens → Reading (Expr × Tokens)
  | 0, _, tokens => invalid tokens
  | fuel + 1, [], tokens => signed fuel tokens
  | fuel + 1, operators :: tighter, tokens => do
    let (first, rest) ← level fuel tighter tokens
    levelOn fuel operators tighter first rest

def levelOn : Nat → List String → List (List String) → Expr → Tokens → Reading (Expr × Tokens)
  | 0, _, _, _, tokens => invalid tokens
  | fuel + 1, operators, tighter, first, tokens => do
    match tokens with
    | (.operator operator, _) :: rest =>
      if operators.contains operator then
        let (second, rest) ← level fuel tighter rest
        levelOn fuel operators tighter (.binary operator first second) rest
      else return (first, tokens)
    | tokens => return (first, tokens)

def signed : Nat → Tokens → Reading (Expr × Tokens)
  | 0, tokens => invalid tokens
  | fuel + 1, tokens => do
    match tokens with
    | (.operator operator, _) :: rest =>
      if ["-", "+", "~"].contains operator then
        let (inner, rest) ← signed fuel rest
        return (.unary operator inner, rest)
      else power fuel tokens
    | tokens => power fuel tokens

def power : Nat → Tokens → Reading (Expr × Tokens)
  | 0, tokens => invalid tokens
  | fuel + 1, tokens => do
    let (first, rest) ← atom fuel tokens
    let (base, rest) ← trailers fuel first rest
    if isOperator rest "**" then
      let (exponent, rest) ← signed fuel (rest.drop 1)
      return (.binary "**" base exponent, rest)
    else return (base, rest)

def trailers : Nat → Expr → Tokens → Reading (Expr × Tokens)
  | 0, _, tokens => invalid tokens
  | fuel + 1, e, tokens => do
    if isOperator tokens "(" then
      let (args, named, rest) ← arguments fuel (tokens.drop 1)
      trailers fuel (.call e args named) rest
    else if isOperator tokens "." then
      let (member, rest) ← name (tokens.drop 1)
      trailers fuel (.attribute e member) rest
    else if isOperator tokens "[" then
      let (first, rest) ← bound fuel (tokens.drop 1)
      if isOperator rest ":" then
        let (last, rest) ← bound fuel (rest.drop 1)
        let (step, rest) ← if isOperator rest ":" then bound fuel (rest.drop 1)
          else pure (Expr.none, rest)
        trailers fuel (.slice e first last step) (← expect "]" rest)
      else if isOperator (tokens.drop 1) "]" then invalid (tokens.drop 1)
      else trailers fuel (.index e first) (← expect "]" rest)
    else return (e, tokens)

def bound : Nat → Tokens → Reading (Expr × Tokens)
  | 0, tokens => invalid tokens
  | fuel + 1, tokens => do
    if isOperator tokens ":" ∨ isOperator tokens "]" then return (.none, tokens)
    else exprs fuel tokens

def arguments : Nat → Tokens → Reading (List Expr × List (String × Expr) × Tokens)
  | 0, tokens => invalid tokens
  | fuel + 1, tokens => do
    if isOperator tokens ")" then return ([], [], tokens.drop 1)
    match tokens with
    | (.name text, _) :: (.operator "=", _) :: rest =>
      let (value, rest) ← expr fuel rest
      let rest ← if isOperator rest "," then pure (rest.drop 1)
        else if isOperator rest ")" then pure rest else invalid rest
      let (args, named, rest) ← arguments fuel rest
      return (args, (text, value) :: named, rest)
    | (.operator "*", _) :: rest =>
      let (value, rest) ← expr fuel rest
      let rest ← if isOperator rest "," then pure (rest.drop 1)
        else if isOperator rest ")" then pure rest else invalid rest
      let (args, named, rest) ← arguments fuel rest
      return (.unary "*" value :: args, named, rest)
    | tokens =>
      let (first, rest) ← expr fuel tokens
      if isWord rest "for" then
        let (item, rest) ← comprehensionOf fuel first rest
        return ([item], [], ← expect ")" rest)
      let rest ← if isOperator rest "," then pure (rest.drop 1)
        else if isOperator rest ")" then pure rest else invalid rest
      let (args, named, rest) ← arguments fuel rest
      return (first :: args, named, rest)

def comprehensionOf : Nat → Expr → Tokens → Reading (Expr × Tokens)
  | 0, _, tokens => invalid tokens
  | fuel + 1, item, tokens => do
    let (target, rest) ← targets fuel (tokens.drop 1)
    if isWord rest "in" then
      let (source, rest) ← disjunction fuel (rest.drop 1)
      let (conditions, rest) ← conditions fuel rest
      return (.comprehension item target source conditions, rest)
    else invalid rest

def conditions : Nat → Tokens → Reading (List Expr × Tokens)
  | 0, tokens => invalid tokens
  | fuel + 1, tokens => do
    if isWord tokens "if" then
      let (first, rest) ← disjunction fuel (tokens.drop 1)
      let (others, rest) ← conditions fuel rest
      return (first :: others, rest)
    else return ([], tokens)

def targets : Nat → Tokens → Reading (Expr × Tokens)
  | 0, tokens => invalid tokens
  | fuel + 1, tokens => do
    let (first, rest) ← level fuel levels tokens
    if isOperator rest "," then
      let (items, rest) ← targetsOn fuel [first] rest
      return (.tuple items, rest)
    else return (first, rest)

def targetsOn : Nat → List Expr → Tokens → Reading (List Expr × Tokens)
  | 0, _, tokens => invalid tokens
  | fuel + 1, found, tokens => do
    if isOperator tokens "," then
      if isWord (tokens.drop 1) "in" then return (found, tokens.drop 1)
      let (item, rest) ← level fuel levels (tokens.drop 1)
      targetsOn fuel (found ++ [item]) rest
    else return (found, tokens)

def atom : Nat → Tokens → Reading (Expr × Tokens)
  | 0, tokens => invalid tokens
  | fuel + 1, tokens => do
    match tokens with
    | (.whole n, _) :: rest => return (.whole n, rest)
    | (.real x, _) :: rest => return (.real x, rest)
    | (.name "None", _) :: rest => return (.none, rest)
    | (.name "True", _) :: rest => return (.bool true, rest)
    | (.name "False", _) :: rest => return (.bool false, rest)
    | (.name _, _) :: _ =>
      let (text, rest) ← name tokens
      return (.name text, rest)
    | (.operator "(", _) :: rest =>
      if isOperator rest ")" then return (.tuple [], rest.drop 1)
      let (first, rest) ← exprs fuel rest
      if isWord rest "for" then
        let (item, rest) ← comprehensionOf fuel first rest
        return (item, ← expect ")" rest)
      return (first, ← expect ")" rest)
    | (.operator "[", _) :: rest =>
      if isOperator rest "]" then return (.list [], rest.drop 1)
      let (first, rest) ← expr fuel rest
      if isWord rest "for" then
        let (item, rest) ← comprehensionOf fuel first rest
        return (item, ← expect "]" rest)
      let (items, rest) ← itemsOn fuel [first] rest
      return (.list items, ← expect "]" rest)
    | (.text _, _) :: _ => texts fuel [] tokens
    | (.template _, _) :: _ => texts fuel [] tokens
    | tokens => invalid tokens

def texts : Nat → List Expr → Tokens → Reading (Expr × Tokens)
  | 0, _, tokens => invalid tokens
  | fuel + 1, found, tokens => do
    match tokens with
    | (.text text, _) :: rest => texts fuel (found ++ [.text text]) rest
    | (.template text, line) :: rest =>
      match pieces (text.length + 1) [] text with
      | none => .error (Lexer.misprint "f-string: expecting a closing bracket" line)
      | some found' =>
        let parts ← templateParts fuel line found'
        texts fuel (found ++ parts) rest
    | rest =>
      match found with
      | [.text text] => return (.text text, rest)
      | found => return (.template found, rest)

def templateParts : Nat → Nat → List (Bool × List Char) → Reading (List Expr)
  | 0, line, _ => .error (Lexer.misprint "invalid syntax" line)
  | _, _, [] => return []
  | fuel + 1, line, (false, text) :: rest => do
    return .text text :: (← templateParts fuel line rest)
  | fuel + 1, line, (true, text) :: rest => do
    let tokens ← Lexer.tokenize text
    let (e, left) ← exprs fuel tokens
    if isNewline left ∨ left.isEmpty then return e :: (← templateParts fuel line rest)
    else .error (Lexer.misprint "f-string: invalid syntax" line)

end

def updates : List String :=
  ["+=", "-=", "*=", "/=", "//=", "%=", "**=", ">>=", "<<=", "&=", "|=", "^="]

def isTarget : Expr → Bool
  | .name _ => true
  | .index _ _ => true
  | .attribute _ _ => true
  | .tuple items => items.all fun
    | .name _ => true
    | .index _ _ => true
    | .tuple _ => true
    | _ => false
  | .list items => items.all fun
    | .name _ => true
    | .index _ _ => true
    | _ => false
  | _ => false

def assignmentOn : Nat → Nat → List Expr → Expr → Tokens → Reading (Statement × Tokens)
  | 0, _, _, _, tokens => invalid tokens
  | fuel + 1, depth, targets, e, tokens => do
    if isOperator tokens "=" then
      if isTarget e then
        let (next, rest) ← exprs depth (tokens.drop 1)
        assignmentOn fuel depth (targets ++ [e]) next rest
      else .error (Lexer.misprint "cannot assign to expression here" (lineOf tokens))
    else return (if targets.isEmpty then .expression e else .assign targets e, tokens)

def modules : Nat → Tokens → Reading (List (String × String) × Tokens)
  | 0, tokens => invalid tokens
  | fuel + 1, tokens => do
    let (first, rest) ← dotted (tokens.length + 1) tokens
    let (entry, rest) ← renamed first rest
    if isOperator rest "," then
      let (others, rest) ← modules fuel (rest.drop 1)
      return (entry :: others, rest)
    else return ([entry], rest)

def namesWithin : Nat → Tokens → Reading (List String × Tokens)
  | 0, tokens => invalid tokens
  | fuel + 1, tokens => do
    let (first, rest) ← name tokens
    if isOperator rest "," then
      let (others, rest) ← namesWithin fuel (rest.drop 1)
      return (first :: others, rest)
    else return ([first], rest)

def small (depth : Nat) (tokens : Tokens) : Reading (Statement × Tokens) := do
  match tokens with
  | (.name "pass", _) :: rest => return (.nothing, rest)
  | (.name "break", _) :: rest => return (.leave, rest)
  | (.name "continue", _) :: rest => return (.again, rest)
  | (.name "return", _) :: rest =>
    if beginsExpr rest then
      let (e, rest) ← exprs depth rest
      return (.giveBack e, rest)
    else return (.giveBack .none, rest)
  | (.name "raise", _) :: rest =>
    if beginsExpr rest then
      let (e, rest) ← expr depth rest
      return (.raise e, rest)
    else return (.raise .none, rest)
  | (.name "global", _) :: rest =>
    let (names, rest) ← namesWithin (rest.length + 1) rest
    return (.shared names, rest)
  | (.name "import", _) :: rest =>
    let (found, rest) ← modules (rest.length + 1) rest
    return (.bring found, rest)
  | (.name "from", _) :: rest =>
    let (module, rest) ← dotted (rest.length + 1) rest
    if isWord rest "import" then
      let (found, rest) ← modules (rest.length + 1) (rest.drop 1)
      return (.bringFrom module found, rest)
    else invalid rest
  | tokens =>
    let (e, rest) ← exprs depth tokens
    match rest with
    | (.operator operator, _) :: after =>
      if updates.contains operator then
        let (value, rest) ← exprs depth after
        return (.update e (operator.dropEnd 1).toString value, rest)
      else assignmentOn (tokens.length + 1) depth [] e rest
    | rest => return (.expression e, rest)

def lineOn (depth : Nat) : Nat → Tokens → Reading (Block × Tokens)
  | 0, tokens => invalid tokens
  | fuel + 1, tokens => do
    let (first, rest) ← small depth tokens
    let entry := (lineOf tokens, first)
    if isOperator rest ";" then
      if isNewline (rest.drop 1) then return ([entry], rest.drop 2)
      let (others, rest) ← lineOn depth fuel (rest.drop 1)
      return (entry :: others, rest)
    else if isNewline rest then return ([entry], rest.drop 1)
    else invalid rest

def params (depth : Nat) : Nat → Tokens → Reading (List (String × Option Expr) × Tokens)
  | 0, tokens => invalid tokens
  | fuel + 1, tokens => do
    if isOperator tokens ")" then return ([], tokens.drop 1)
    let (first, rest) ← name tokens
    let (default, rest) ← if isOperator rest "=" then do
        let (e, rest) ← expr depth (rest.drop 1)
        pure (some e, rest)
      else pure (none, rest)
    let rest ← if isOperator rest "," then pure (rest.drop 1)
      else if isOperator rest ")" then pure rest else invalid rest
    let (others, rest) ← params depth fuel rest
    return ((first, default) :: others, rest)

mutual

def statements : Nat → Tokens → Reading (Block × Tokens)
  | 0, tokens => invalid tokens
  | fuel + 1, tokens => do
    match tokens with
    | [] => return ([], [])
    | (.dedent, _) :: rest => return ([], rest)
    | tokens =>
      let (first, rest) ← statement fuel tokens
      let (others, rest) ← statements fuel rest
      return (first ++ others, rest)

def block : Nat → Tokens → Reading (Block × Tokens)
  | 0, tokens => invalid tokens
  | fuel + 1, tokens => do
    let rest ← expect ":" tokens
    if isNewline rest then
      match rest.drop 1 with
      | (.indent, _) :: rest => statements fuel rest
      | rest => .error ⟨"IndentationError", "expected an indented block", lineOf rest⟩
    else lineOn fuel (rest.length + 1) rest

def statement : Nat → Tokens → Reading (Block × Tokens)
  | 0, tokens => invalid tokens
  | fuel + 1, tokens => do
    let line := lineOf tokens
    match tokens with
    | (.name "if", _) :: rest => branchOf fuel line rest
    | (.name "while", _) :: rest =>
      let (condition, rest) ← expr fuel rest
      let (body, rest) ← block fuel rest
      let (otherwise, rest) ← elseOf fuel rest
      return ([(line, .repeatWhile condition body otherwise)], rest)
    | (.name "for", _) :: rest =>
      let (target, rest) ← targets fuel rest
      if isWord rest "in" then
        let (source, rest) ← exprs fuel (rest.drop 1)
        let (body, rest) ← block fuel rest
        let (otherwise, rest) ← elseOf fuel rest
        return ([(line, .repeatFor target source body otherwise)], rest)
      else invalid rest
    | (.name "def", _) :: rest =>
      let (own, rest) ← name rest
      let (found, rest) ← params fuel (rest.length + 1) (← expect "(" rest)
      let (body, rest) ← block fuel rest
      return ([(line, .define own found body)], rest)
    | (.name "with", _) :: rest =>
      let (e, rest) ← expr fuel rest
      let (target, rest) ← if isWord rest "as" then do
          let (target, rest) ← atom fuel (rest.drop 1)
          pure (some target, rest)
        else pure (none, rest)
      let (body, rest) ← block fuel rest
      return ([(line, .within e target body)], rest)
    | (.name "try", _) :: rest =>
      let (body, rest) ← block fuel rest
      let (handlers, rest) ← handlersOf fuel rest
      if isWord rest "finally" then
        let (always, rest) ← block fuel (rest.drop 1)
        return ([(line, .attempt body handlers always)], rest)
      else if handlers.isEmpty then invalid rest
      else return ([(line, .attempt body handlers [])], rest)
    | tokens => lineOn fuel (tokens.length + 1) tokens

def branchOf : Nat → Nat → Tokens → Reading (Block × Tokens)
  | 0, _, tokens => invalid tokens
  | fuel + 1, line, tokens => do
    let (condition, rest) ← expr fuel tokens
    let (yes, rest) ← block fuel rest
    if isWord rest "elif" then
      let (no, rest) ← branchOf fuel (lineOf rest) (rest.drop 1)
      return ([(line, .branch condition yes no)], rest)
    else
      let (no, rest) ← elseOf fuel rest
      return ([(line, .branch condition yes no)], rest)

def elseOf : Nat → Tokens → Reading (Block × Tokens)
  | 0, tokens => invalid tokens
  | fuel + 1, tokens => do
    if isWord tokens "else" then block fuel (tokens.drop 1) else return ([], tokens)

def handlersOf : Nat → Tokens → Reading (List (Expr × Option String × Block) × Tokens)
  | 0, tokens => invalid tokens
  | fuel + 1, tokens => do
    if isWord tokens "except" then
      let (kind, rest) ← if isOperator (tokens.drop 1) ":" then pure (Expr.none, tokens.drop 1)
        else expr fuel (tokens.drop 1)
      let (own, rest) ← if isWord rest "as" then do
          let (own, rest) ← name (rest.drop 1)
          pure (some own, rest)
        else pure (none, rest)
      let (body, rest) ← block fuel rest
      let (others, rest) ← handlersOf fuel rest
      return ((kind, own, body) :: others, rest)
    else return ([], tokens)

end

def program (text : List Char) : Reading Block := do
  let tokens ← Lexer.tokenize text
  let (block, rest) ← statements (24 * (tokens.length + 4)) tokens
  if rest.isEmpty then return block else invalid rest

end ContestJudge.Host.Script.Reader
