import ContestJudge.Host.Shell.Launch

namespace ContestJudge.Host.Shell

def expandedParts (isQuoted : Bool) (text : Octets) : List Part :=
  text.map fun c => .glyph ⟨c, isQuoted, true⟩

def argumentParts (args : List Octets) (isQuoted : Bool) : List Part :=
  if isQuoted && args.isEmpty then [.vanish]
  else List.intercalate (if isQuoted then [.cut, .anchor] else [.cut])
    (args.map (expandedParts isQuoted))

def variableParts (shell : Shell) (name : Octets) (isQuoted : Bool) : List Part :=
  match name, isQuoted with
  | ['@'], _ => argumentParts shell.arguments isQuoted
  | ['*'], false => argumentParts shell.arguments false
  | ['*'], true =>
    expandedParts true (List.intercalate (shell.separators.take 1) shell.arguments)
  | name, _ => expandedParts isQuoted ((shell.parameter? name).getD [])

def isMissing (value : Option Octets) (orEmpty : Bool) : Bool :=
  value.all fun text => orEmpty && text.isEmpty

def likeExpanded : Part → Part
  | .glyph g => .glyph { g with isExpanded := true }
  | part => part

/-- The names of files that a pattern matches, sorted. A name with a leading point has to be
matched by one. -/
def matchingFiles (pattern : List Glyph) : Run (List Octets) := do
  let isSlash (g : Glyph) := g.char == '/'
  let last := (pattern.reverse.takeWhile fun g => !isSlash g).reverse
  let directory := (pattern.take (pattern.length - last.length)).map (·.char)
  match ← lift (.ask (.listing (if directory.isEmpty then ['.'] else directory))) with
  | .names names =>
    let names := (names.map Octets.ofString).filter fun name =>
      Pattern.covers last name &&
        (name.head? ≠ some '.' || last.head?.any fun g => g.char == '.')
    return (names.mergeSort fun a b => !(b < a)).map (directory ++ ·)
  | _ => return []

def fieldTexts (field : List Glyph) : Run (List Octets) := do
  let itself := field.map (·.char)
  if Pattern.hasWildcard field && !(← get).hasOption 'f' then
    let found ← matchingFiles field
    return if found.isEmpty then [itself] else found
  else return [itself]

def calculate (text : Octets) : Run Octets := do
  let shell ← get
  let message (what : String) := Octets.ofString ("arithmetic expression: " ++ what ++ ": \x22")
    ++ text ++ ['\x22']
  match Arithmetic.parse text with
  | .error expected => abandon (message ("expecting " ++ expected))
  | .ok e =>
    match Arithmetic.eval shell.valueOf e [] with
    | .ok (n, changes) =>
      for (name, value) in changes.reverse do
        change name (Octets.ofString (toString value))
      return Octets.ofString (toString n)
    | .error .divisionByZero => abandon (message "division by zero")
    | .error (.illegalNumber text) => abandon (Octets.ofString "Illegal number: " ++ text)

def collect (body : Run Flow) : Run Octets := do
  match ← lift (.ask .pipe) with
  | .ends reader writer =>
    let child ← spawnWith { (← get).streams with output := writer } body
    lift (.close writer)
    let data ← lift (.readAll reader 100000 [])
    lift (.close reader)
    let code ← awaitChild child
    modify fun shell => { shell with status := code, substituted := some code }
    let text := (Octets.ofBytes data).filter (· ≠ '\x00')
    return (text.reverse.dropWhile (· == '\n')).reverse
  | _ => return []

/-- How the commands behind a loop go on if a round ended in some way; none if the next round is
to be made. -/
def afterRound : Flow → Option Flow
  | .onward => none
  | .leave loops => some (if loops ≤ 1 then .onward else .leave (loops - 1))
  | .again loops => if loops ≤ 1 then none else some (.again (loops - 1))
  | .back => some .back
  | .finish => some .finish

def restoreBinding (shell : Shell) (name : Octets) (before : Option (Octets × Bool)) : Shell :=
  match before with
  | some (value, isGiven) =>
    { unset name shell with bindings := (unset name shell).bindings ++ [(name, value, isGiven)] }
  | none => unset name shell

def restoreBindings (before : Shell) (assignments : List (Octets × Octets)) (shell : Shell) : Shell :=
  assignments.foldl (fun shell (name, _) =>
    restoreBinding shell name ((before.bindings.find? (·.1 = name)).map (·.2))) shell

def withAssignments {α : Type} (assignments : List (Octets × Octets)) (body : Run α) : Run α := do
  let before ← get
  for (name, value) in assignments do
    change name value
  let result ← body
  modify (restoreBindings before assignments)
  return result

def traceCommand (assignments : List (Octets × Octets)) (words : List Octets) : Run Unit := do
  if (← get).hasOption 'x' then
    let shown := assignments.map (fun (name, value) => name ++ '=' :: value) ++ words
    warn ("+ ".toList ++ List.intercalate [' '] shown ++ ['\n'])

def callFunction (args : List Octets) (body : Run Flow) : Run Flow := do
  let before ← get
  set { before with arguments := args, loops := 0, frame := some [] }
  let flow ← body
  modify fun shell =>
    let kept := shell.frame.getD []
    let restored := kept.foldl (fun shell (name, binding) => restoreBinding shell name binding) shell
    { restored with arguments := before.arguments, loops := before.loops, frame := before.frame }
  return if flow = .back then .onward else flow

def asCondition (body : Run Flow) : Run Flow := do
  let before := (← get).isTested
  modify ({ · with isTested := true })
  let flow ← body
  modify ({ · with isTested := before })
  return flow

def asLoop (rounds : Run Flow) : Run Flow := do
  modify fun shell => { shell with loops := shell.loops + 1 }
  let flow ← rounds
  modify fun shell => { shell with loops := shell.loops - 1 }
  return flow

def isChecked : Command → Bool
  | .simple .. => true
  | .pipeline _ => true
  | .subshell _ => true
  | _ => false

def demandValue (name : Octets) : Run Unit := do
  let shell ← get
  if shell.hasOption 'u' && (shell.parameter? name).isNone && name ≠ ['@'] && name ≠ ['*'] then
    abandon (name ++ Octets.ofString ": parameter not set")

def exitCode (command : String) (args : List Octets) : Run Nat := do
  numberArgument command args (← get).status

def loopCount (command : String) (args : List Octets) : Run Nat := do
  let n ← numberArgument command args 1
  if n = 0 then rejectNumber command (args.headD [])
  setStatus 0
  return min n (← get).loops

def describe (name : Octets) : Run Nat := do
  let known := (← get).functions.any (·.1 = name) || (builtin? (Octets.toString name)).isSome
  if known then printAs "command" (name ++ ['\n'])
  else match ← findProgram name with
    | .ok path => printAs "command" (path ++ ['\n'])
    | .error _ => return 127

mutual

def expand : Nat → Word → Run (List Part)
  | 0, _ => quit 2
  | _, [] => return []
  | fuel + 1, piece :: rest => do
    let parts ← expandPiece fuel piece
    return parts ++ (← expand fuel rest)

def expandPiece : Nat → Piece → Run (List Part)
  | 0, _ => quit 2
  | fuel + 1, piece => do
    match piece with
    | .text text quoted =>
      if text.isEmpty then return [.anchor]
      return (if quoted then [.anchor] else []) ++ text.map fun c => .glyph ⟨c, quoted, false⟩
    | .variable name none quoted =>
      demandValue name
      return variableParts (← get) name quoted
    | .variable name (some modifier) quoted => modified fuel name modifier quoted
    | .arithmetic expression quoted =>
      let text := textOf (← expand fuel (Reader.quotedWord expression))
      return expandedParts quoted (← calculate text)
    | .command script quoted =>
      return expandedParts quoted (← collect (asProcess fuel (runTokens fuel true (Lexer.tokenize script))))

def modified : Nat → Octets → Modifier → Bool → Run (List Part)
  | 0, _, _, _ => quit 2
  | fuel + 1, name, modifier, quoted => do
    let shell ← get
    let value := shell.parameter? name
    let other (text : Octets) : Run (List Part) := do
      if quoted then expand fuel (Reader.quotedWord text)
      else return (← expand fuel (Reader.innerWord text)).map likeExpanded
    let itself := variableParts shell name quoted
    match modifier with
    | .otherwise orEmpty text => if isMissing value orEmpty then other text else return itself
    | .assign orEmpty text =>
      if isMissing value orEmpty then
        let parts ← other text
        change name (textOf parts)
        return parts
      else return itself
    | .demand orEmpty text =>
      if isMissing value orEmpty then
        let said := textOf (← other text)
        let usual := if orEmpty then "parameter not set or null" else "parameter not set"
        let message := if said.isEmpty then usual.toList else said
        abandon (name ++ [':', ' '] ++ message)
      else return itself
    | .instead orEmpty text => if isMissing value orEmpty then return [] else other text
    | .cutEnd longest pattern =>
      let glyphs := glyphsOf (← expand fuel (Reader.innerWord pattern))
      return expandedParts quoted (Pattern.cutEnd longest glyphs (value.getD []))
    | .cutStart longest pattern =>
      let glyphs := glyphsOf (← expand fuel (Reader.innerWord pattern))
      return expandedParts quoted (Pattern.cutStart longest glyphs (value.getD []))
    | .length => return expandedParts quoted (Nat.toDigits 10 (value.getD []).length)

def fields : Nat → List Word → Run (List Octets)
  | 0, _ => quit 2
  | _, [] => return []
  | fuel + 1, word :: rest => do
    let parts ← expand fuel word
    let texts ← (fieldsOf (← get).separators parts).mapM fieldTexts
    return texts.flatten ++ (← fields fuel rest)

/-- Sets the streams that some redirections ask for. Gives what was opened; none if one failed. -/
def redirect : Nat → List Redirect → List Nat → Run (Option (List Nat))
  | 0, _, _ => quit 2
  | _, [], opened => return some opened
  | fuel + 1, r :: rest, opened => do
    let target := textOf (← expand fuel r.target)
    match ← openTarget r.kind target with
    | .error message =>
      complain (Octets.ofString message)
      return none
    | .ok (descriptor, isNew) =>
      modify (setStream r.descriptor descriptor)
      redirect fuel rest (if isNew then descriptor :: opened else opened)

def redirected : Nat → List Redirect → Run Flow → Run Flow
  | 0, _, _ => quit 2
  | fuel + 1, redirects, body => do
    let before ← get
    match ← redirect fuel redirects [] with
    | none =>
      restoreStreams before []
      setStatus 2
      return .onward
    | some opened =>
      let flow ← body
      restoreStreams before opened
      return flow

def values : Nat → List (Octets × Word) → Run (List (Octets × Octets))
  | 0, _ => quit 2
  | _, [] => return []
  | fuel + 1, (name, word) :: rest => do
    let value := textOf (← expand fuel word)
    change name value
    return (name, value) :: (← values fuel rest)

def simpleCommand : Nat → Bool → List (Octets × Word) → List Word → List Redirect → Run Flow
  | 0, _, _, _, _ => quit 2
  | fuel + 1, inPlace, assignments, words, redirects => do
    modify ({ · with substituted := none })
    match ← fields fuel words with
    | [] =>
      let given ← values fuel assignments
      traceCommand given []
      let code := ((← get).substituted).getD 0
      redirected fuel redirects do
        setStatus code
        return .onward
    | name :: args =>
      let before ← get
      let given ← values fuel assignments
      modify (restoreBindings before given)
      traceCommand given (name :: args)
      if name = "exec".toList then
        if args.isEmpty then
          match ← redirect fuel redirects [] with
          | some _ => setStatus 0
          | none => quit 2
          return .onward
        else redirected fuel redirects do
          runProgram true true args (← get).environment
          return .onward
      else redirected fuel redirects (named fuel inPlace given name args)

def named : Nat → Bool → List (Octets × Octets) → Octets → List Octets → Run Flow
  | 0, _, _, _, _ => quit 2
  | fuel + 1, inPlace, given, name, args => do
    let command := Octets.toString name
    match (← get).functions.find? (·.1 = name) with
    | some (_, body) =>
      withAssignments given (callFunction args (eval fuel false body))
    | none =>
      if isSpecialBuiltin command then
        for (name, value) in given do
          change name value
      match command with
      | "exit" =>
        setStatus (← exitCode "exit" args)
        return .finish
      | "return" =>
        setStatus (← exitCode "return" args)
        return .back
      | "break" =>
        let loops ← loopCount "break" args
        return if loops = 0 then .onward else .leave loops
      | "continue" =>
        let loops ← loopCount "continue" args
        return if loops = 0 then .onward else .again loops
      | "eval" =>
        runTokens fuel false (Lexer.tokenize (List.intercalate [' '] args))
      | "." =>
        match ← lift (.openFile (args.headD []) .read) with
        | .error _ => abandon (Octets.ofString ".: cannot open " ++ args.headD [])
        | .ok descriptor =>
          let data ← lift (.readAll descriptor 100000 [])
          lift (.close descriptor)
          runTokens fuel false (Lexer.tokenize (Octets.ofBytes data))
      | "command" =>
        match args with
        | [] => return .onward
        | ['-', 'v'] :: rest =>
          setStatus (← describe (rest.headD []))
          return .onward
        | name :: args => named fuel inPlace given name args
      | command =>
        match builtin? command with
        | some run =>
          let code ← if isSpecialBuiltin command then run args else withAssignments given (run args)
          setStatus code
          return .onward
        | none =>
          let shell ← get
          let others := shell.environment.filter fun (name, _) => given.all (·.1 ≠ name)
          runProgram inPlace false (name :: args) (others ++ given)
          return .onward

/-- Starts the parts of a pipeline. Each reads what the one before it writes. -/
def startParts : Nat → Nat → List Command → Run (List Nat)
  | 0, _, _ => quit 2
  | _, _, [] => return []
  | fuel + 1, input, part :: rest => do
    let streams := { (← get).streams with input := input }
    let inherited := (← get).streams.input
    if rest.isEmpty then
      let child ← spawnWith streams (asProcess fuel (eval fuel true part))
      if input ≠ inherited then lift (.close input)
      return [child]
    else
      match ← lift (.ask .pipe) with
      | .ends reader writer =>
        let child ← spawnWith { streams with output := writer } (asProcess fuel (eval fuel true part))
        lift (.close writer)
        if input ≠ inherited then lift (.close input)
        return child :: (← startParts fuel reader rest)
      | _ => return []

def repeatWhile : Nat → Bool → Command → Command → Nat → Run Flow
  | 0, _, _, _, _ => quit 2
  | fuel + 1, whileTrue, condition, body, last => do
    let flow ← asCondition (eval fuel false condition)
    match if flow = .onward then none else afterRound flow with
    | some flow => return flow
    | none =>
      if flow ≠ .onward then repeatWhile fuel whileTrue condition body last
      else if ((← get).status == 0) == whileTrue then
        let flow ← eval fuel false body
        match afterRound flow with
        | some flow => return flow
        | none => repeatWhile fuel whileTrue condition body (← get).status
      else
        setStatus last
        return .onward

def forEach : Nat → Octets → List Octets → Command → Run Flow
  | 0, _, _, _ => quit 2
  | _, _, [], _ => return .onward
  | fuel + 1, name, text :: rest, body => do
    change name text
    let flow ← eval fuel false body
    match afterRound flow with
    | some flow => return flow
    | none => forEach fuel name rest body

def anyCovers : Nat → List Word → Octets → Run Bool
  | 0, _, _ => quit 2
  | _, [], _ => return false
  | fuel + 1, pattern :: rest, text => do
    let glyphs := glyphsOf (← expand fuel pattern)
    if Pattern.covers glyphs text then return true else anyCovers fuel rest text

def selectCase : Nat → Bool → Octets → List (List Word × Command) → Run Flow
  | 0, _, _, _ => quit 2
  | _, _, _, [] => do
    setStatus 0
    return .onward
  | fuel + 1, inPlace, text, (patterns, body) :: rest => do
    if ← anyCovers fuel patterns text then
      setStatus 0
      eval fuel inPlace body
    else selectCase fuel inPlace text rest

/-- Runs a command, in place of the shell if nothing comes behind it. -/
def eval : Nat → Bool → Command → Run Flow
  | 0, _, _ => quit 2
  | fuel + 1, inPlace, command => do
    lift .tick
    let flow ← evalBare fuel (inPlace && (← get).traps.all (·.2.isEmpty)) command
    let flow ← if flow = .onward then answerSignals fuel else pure flow
    let shell ← get
    if flow = .onward ∧ shell.hasOption 'e' ∧ !shell.isTested ∧ shell.status ≠ 0 ∧ isChecked command then
      return .finish
    else return flow

def answerSignals : Nat → Run Flow
  | 0 => quit 2
  | fuel + 1 => do
    if (← get).traps.all fun (number, action) => number = 0 || action.isEmpty then return .onward
    match ← lift (.ask .noted) with
    | .signals numbers => answerAll fuel numbers
    | _ => return .onward

def answerAll : Nat → List Nat → Run Flow
  | 0, _ => quit 2
  | _, [] => return .onward
  | fuel + 1, number :: rest => do
    let shell ← get
    let action := (shell.traps.lookup number).getD []
    let flow ← runTokens fuel false (Lexer.tokenize action)
    if flow = .onward then
      setStatus shell.status
      answerAll fuel rest
    else return flow

def asProcess : Nat → Run Flow → Run Flow
  | 0, _ => quit 2
  | fuel + 1, body => do
    let _ ← body
    let shell ← get
    match shell.traps.lookup 0 with
    | none => return .finish
    | some action =>
      set { shell with traps := shell.traps.filter (·.1 ≠ 0) }
      let flow ← runTokens fuel false (Lexer.tokenize action)
      if flow = .onward then setStatus shell.status
      return .finish

def evalBare : Nat → Bool → Command → Run Flow
  | 0, _, _ => quit 2
  | fuel + 1, inPlace, command => do
    match command with
    | .nothing => return .onward
    | .simple line assignments words redirects =>
      modify ({ · with line := line })
      simpleCommand fuel inPlace assignments words redirects
    | .sequence first second =>
      let flow ← eval fuel false first
      if flow = .onward then eval fuel inPlace second else return flow
    | .both first second =>
      let flow ← asCondition (eval fuel false first)
      if flow = .onward ∧ (← get).status = 0 then eval fuel inPlace second else return flow
    | .either first second =>
      let flow ← asCondition (eval fuel false first)
      if flow = .onward ∧ (← get).status ≠ 0 then eval fuel inPlace second else return flow
    | .negation inner =>
      let flow ← asCondition (eval fuel false inner)
      modify fun shell => { shell with status := if shell.status = 0 then 1 else 0 }
      return flow
    | .pipeline parts =>
      let children ← startParts fuel (← get).streams.input parts
      for child in children do
        setStatus (← awaitChild child)
      return .onward
    | .background inner =>
      let child ← spawnWith (← get).streams do
        match ← lift (.openFile "/dev/null".toList .read) with
        | .ok descriptor =>
          modify fun shell => { shell with streams := { shell.streams with input := descriptor } }
        | .error _ => pure ()
        asProcess fuel (eval fuel true inner)
      modify fun shell => { shell with background := shell.background ++ [child], status := 0 }
      return .onward
    | .loop whileTrue condition body => asLoop (repeatWhile fuel whileTrue condition body 0)
    | .each name words body =>
      let texts ← match words with
        | some words => fields fuel words
        | none => pure (← get).arguments
      setStatus 0
      asLoop (forEach fuel name texts body)
    | .choice condition yes no =>
      let flow ← asCondition (eval fuel false condition)
      if flow ≠ .onward then return flow
      let holds := (← get).status == 0
      setStatus 0
      eval fuel inPlace (if holds then yes else no)
    | .select word cases =>
      let text := textOf (← expand fuel word)
      selectCase fuel inPlace text cases
    | .subshell body =>
      if inPlace then
        let flow ← eval fuel true body
        return flow
      else
        let child ← spawnWith (← get).streams (asProcess fuel (eval fuel true body))
        setStatus (← awaitChild child)
        return .onward
    | .redirected inner redirects => redirected fuel redirects (eval fuel inPlace inner)
    | .define name body =>
      modify fun shell => { shell with
        functions := (name, body) :: shell.functions.filter (·.1 ≠ name)
        status := 0 }
      return .onward

def runTokens : Nat → Bool → Tokens → Run Flow
  | 0, _, _ => quit 2
  | fuel + 1, inPlace, tokens => do
    match Reader.nextLine? tokens with
    | none => return .onward
    | some (.error (line, what)) =>
      modify ({ · with line := line })
      abandon (Octets.ofString ("Syntax error: " ++ what))
    | some (.ok (command, rest)) =>
      let isLast := (Reader.skipNewlines rest).isEmpty
      let flow ← eval fuel (inPlace && isLast) command
      if flow = .onward then runTokens fuel inPlace rest else return flow

end

def depth : Nat := 1000000000

end ContestJudge.Host.Shell
