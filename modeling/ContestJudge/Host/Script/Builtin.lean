import ContestJudge.Host.Script.State

namespace ContestJudge.Host.Script

abbrev Named := List (String × Value)

def named? (named : Named) (name : String) : Option Value := (named.find? (·.1 = name)).map (·.2)

def wantInt (v : Value) : Run Int := do
  match v.int? with
  | some n => return n
  | none => typeError ("\x27" ++ v.typeName ++ "\x27 object cannot be interpreted as an integer")

def wantText (v : Value) : Run (List Char) := do
  match v with
  | .text text => return text
  | v => typeError ("expected str instance, " ++ v.typeName ++ " found")

def print (args : List Value) (named : Named) : Run Value := do
  let part (name : String) (usual : List Char) : Run (List Char) := do
    match named? named name with
    | some (.text text) => return text
    | _ => return usual
  let separator ← part "sep" [' ']
  let ending ← part "end" ['\n']
  let texts ← args.mapM textOf
  let usual := (← get).streams.output
  let target := match named? named "file" with
    | some (.stream descriptor) => descriptor
    | _ => usual
  emit target (List.intercalate separator texts ++ ending)
  if ← isTrue ((named? named "flush").getD .none) then flush
  return .none

def input (args : List Value) : Run Value := do
  if let prompt :: _ := args then
    emit (← get).streams.output (← textOf prompt)
  flush
  let line ← readLine (← get).streams.input 100000000
  if line.isEmpty then raise "EOFError" "EOF when reading a line"
  else return .text (if line.getLast? = some '\n' then line.dropLast else line)

def toInt (args : List Value) : Run Value := do
  match args with
  | [] => return .int 0
  | [.text text] =>
    match intOfText? text with
    | some n => return .int n
    | none =>
      raise "ValueError" ("invalid literal for int() with base 10: "
        ++ String.ofList (Value.quoted text))
  | [.real x] =>
    match Value.truncate x with
    | some n => return .int n
    | none => raise "ValueError" "cannot convert float NaN to integer"
  | [.text text, base] =>
    let base ← wantInt base
    let digit (c : Char) : Option Nat := if c.isDigit then some (c.toNat - 48)
      else if c.isAlpha then some (c.toLower.toNat - 87) else none
    let trimmed := Text.trimChars text
    let digits := if trimmed.head? = some '-' then trimmed.drop 1 else trimmed
    let read := digits.foldl (fun (n : Option Int) c => do
      let d ← digit c
      if (d : Int) < base then some (((← n) * base) + (d : Int)) else none) (some 0)
    match if digits.isEmpty then none else read with
    | some n => return .int (if trimmed.head? = some '-' then -n else n)
    | none =>
      raise "ValueError" (s!"invalid literal for int() with base {base}: "
        ++ String.ofList (Value.quoted text))
  | v :: _ =>
    match v.int? with
    | some n => return .int n
    | none =>
      typeError ("int() argument must be a string, a bytes-like object or a real number, not \x27"
        ++ v.typeName ++ "\x27")

def toReal (args : List Value) : Run Value := do
  match args with
  | [.text text] =>
    match realOfText? text with
    | some x => return .real x
    | none =>
      raise "ValueError" ("could not convert string to float: " ++ String.ofList (Value.quoted text))
  | [v] =>
    match v.real? with
    | some x => return .real x
    | none => typeError "float() argument must be a string or a real number"
  | _ => return .real 0

def lengthOf (v : Value) : Run Value := do
  match v with
  | .text text => return .int text.length
  | .range first last step => return .int (rangeLength first last step)
  | .list place => return .int (← itemsAt place).length
  | .tuple items => return .int items.length
  | v => typeError ("object of type \x27" ++ v.typeName ++ "\x27 has no len()")

def rangeOf (args : List Value) : Run Value := do
  match ← args.mapM wantInt with
  | [last] => return .range 0 last 1
  | [first, last] => return .range first last 1
  | [first, last, step] =>
    if step = 0 then raise "ValueError" "range() arg 3 must not be zero"
    else return .range first last step
  | _ => typeError "range expected 1 to 3 arguments"

def operate (operator : String) (a b : Value) : Run Value := do
  match operator, a, b with
  | "+", .list x, .list y => newList ((← itemsAt x) ++ (← itemsAt y))
  | "*", .list x, b =>
    match b.int? with
    | some n => newList (← ofOperator (repeated (← itemsAt x) n))
    | none => ofOperator (.error (typeTrouble operator a b))
  | "*", a, .list y =>
    match a.int? with
    | some n => newList (← ofOperator (repeated (← itemsAt y) n))
    | none => ofOperator (.error (typeTrouble operator a b))
  | "%", .text format, b =>
    let args ← match b with
      | .tuple items => pure items
      | b => pure [b]
    let texts ← args.mapM textOf
    let parts := splitAt (· == '%') format
    let rest := ((parts.drop 1).zip (texts ++ List.replicate parts.length [])).map
      fun (part, text) => text ++ part.drop 1
    return .text (parts.headD [] ++ rest.flatten)
  | operator, a, b => ofOperator (plainOperator operator a b)

def sumOf (items : List Value) (start : Value) : Run Value :=
  items.foldlM (fun sum v => operate "+" sum v) start

def comesBefore (a b : Value) : Run Bool := do
  match a.before (← get).memory Value.depth b with
  | some holds => return holds
  | none =>
    typeError ("\x27<\x27 not supported between instances of \x27" ++ a.typeName
      ++ "\x27 and \x27" ++ b.typeName ++ "\x27")

def insertSorted (entry : Value × Value) : List (Value × Value) → Run (List (Value × Value))
  | [] => return [entry]
  | other :: rest => do
    if ← comesBefore entry.1 other.1 then return entry :: other :: rest
    else return other :: (← insertSorted entry rest)

def sortByKeys (entries : List (Value × Value)) : Run (List Value) := do
  let memory := (← get).memory
  let all := entries.map (·.1)
  let comparable := (all.zip (all.drop 1)).all fun (a, b) =>
    (a.before memory Value.depth b).isSome
  if comparable then
    return (entries.mergeSort fun a b =>
      !((b.1.before memory Value.depth a.1).getD false)).map (·.2)
  else
    let sorted ← entries.foldlM (fun sorted entry => insertSorted entry sorted) []
    return sorted.map (·.2)

/-- The least value by key, the first one of equals; with the order turned, the greatest one. -/
def extreme (turned : Bool) : List (Value × Value) → Run Value
  | [] => raise "ValueError" "arg is an empty sequence"
  | first :: rest => do
    let found ← rest.foldlM (fun (best : Value × Value) entry => do
      let better ← if turned then comesBefore best.1 entry.1 else comesBefore entry.1 best.1
      return if better then entry else best) first
    return found.2

def openStream (args : List Value) : Run Value := do
  match args with
  | .text path :: rest =>
    let mode := match rest with
      | .text mode :: _ => mode
      | _ => ['r']
    let how : OpenMode := if mode.contains 'w' then .write else if mode.contains 'a' then .append
      else .read
    match ← lift (.openFile (Octets.ofString (String.ofList path)) how) with
    | .ok descriptor => return .stream descriptor
    | .error cause => raiseRefusal cause (some path)
  | _ => typeError "expected str, bytes or os.PathLike object"

def exitWith (args : List Value) : Run Value := do
  match args with
  | [] => throw (.quit 0)
  | .none :: _ => throw (.quit 0)
  | v :: _ =>
    match v.int? with
    | some n => throw (.quit (n % 256).toNat)
    | none =>
      emit (← get).streams.diagnostics ((← textOf v) ++ ['\n'])
      throw (.quit 1)

def sendSignal (process number : Int) : Run Value := do
  match ← lift (.ask (.signal process.toNat number.toNat)) with
  | .refused cause => raiseRefusal cause none
  | _ => return .none

/-- A call of the system by its number. What fails answers with minus one. -/
def callSystem (number : Int) (args : List Int) : Run Value := do
  let call? : Option Call := match number, args with
    | 434, [process, _] => some (.openProcess process.toNat)
    | 438, [process, descriptor, _] => some (.share process.toNat descriptor.toNat)
    | _, _ => none
  match call? with
  | none => return .int (-1)
  | some call =>
    match ← lift (.ask call) with
    | .number n => return .int n
    | _ => return .int (-1)

def callPlain (name : String) (args : List Value) (named : Named) : Run Value := do
  match name, args with
  | "print", args => print args named
  | "input", args => input args
  | "int", args => toInt args
  | "float", args => toReal args
  | "str", [] => return .text []
  | "str", v :: _ => return .text (← textOf v)
  | "repr", v :: _ => return .text (v.show_ (← get).memory Value.depth true)
  | "bool", args => return .bool (← isTrue (args.headD .none))
  | "len", [v] => lengthOf v
  | "range", args => rangeOf args
  | "list", [] => newList []
  | "list", v :: _ => newList (← itemsOf v)
  | "iter", v :: _ => newList (← itemsOf v)
  | "tuple", [] => return .tuple []
  | "tuple", v :: _ => return .tuple (← itemsOf v)
  | "sum", [v] => sumOf (← itemsOf v) (.int 0)
  | "sum", [v, start] => sumOf (← itemsOf v) start
  | "abs", [v] =>
    match v.int?, v with
    | some n, _ => return .int n.natAbs
    | none, .real x => return .real (if x.isNegative then x.negate else x)
    | none, v => typeError ("bad operand type for abs(): \x27" ++ v.typeName ++ "\x27")
  | "reversed", [v] => newList (← itemsOf v).reverse
  | "enumerate", v :: rest =>
    let first ← wantInt (rest.headD ((named? named "start").getD (.int 0)))
    newList ((← itemsOf v).mapIdx fun (i : Nat) item => .tuple [.int (first + (i : Int)), item])
  | "zip", args =>
    let columns ← args.mapM itemsOf
    let count := ((columns.map List.length).min?).getD 0
    newList ((List.range count).map fun i => .tuple (columns.filterMap (·[i]?)))
  | "open", args => openStream args
  | "chr", [v] => return .text [Char.ofNat (← wantInt v).toNat]
  | "ord", [.text [c]] => return .int c.toNat
  | "any", [v] => return .bool (← (← itemsOf v).anyM isTrue)
  | "all", [v] => return .bool (← (← itemsOf v).allM isTrue)
  | "divmod", [a, b] => return .tuple [← operate "//" a b, ← operate "%" a b]
  | "pow", [a, b] => operate "**" a b
  | "pow", [a, b, m] => operate "%" (← operate "**" a b) m
  | "round", [v] =>
    match v.int?, v with
    | some n, _ => return .int n
    | none, .real (.finite negative steps _) =>
      let n : Int := roundHalfEven steps Binary64.stepsPerUnit
      return .int (if negative then -n else n)
    | none, _ => typeError "cannot round"
  | "isinstance", [v, .builtin name] => return .bool (v.typeName = name)
  | "sys.exit", args => exitWith args
  | "sys.setrecursionlimit", _ => return .none
  | "os.getpid", _ => return .int (← get).number
  | "os.getppid", _ =>
    match ← lift (.ask .parent) with
    | .number n => return .int n
    | _ => return .int 1
  | "os.set_blocking", [descriptor, waits] =>
    match ← lift (.ask (.setWaiting (← wantInt descriptor).toNat (← isTrue waits))) with
    | .refused cause => raiseRefusal cause none
    | _ => return .none
  | "os.path.sameopenfile", [descriptor, other] =>
    match ← lift (.ask (.isSame (← wantInt descriptor).toNat (← wantInt other).toNat)) with
    | .refused cause => raiseRefusal cause none
    | .number n => return .bool (n ≠ 0)
    | _ => return .bool false
  | "ctypes.CDLL", [.none] => return .module "libc"
  | "libc.syscall", number :: args => callSystem (← wantInt number) (← args.mapM wantInt)
  | "os.kill", [process, number] => sendSignal (← wantInt process) (← wantInt number)
  | "os._exit", [v] => do lift (.exit (← wantInt v).toNat)
  | "os.abort", _ => sendSignal (← get).number 6
  | "signal.raise_signal", [v] => sendSignal (← get).number (← wantInt v)
  | "time.sleep", [v] =>
    let seconds := (v.real?).getD 0
    let time := match seconds with
      | .finite _ steps _ => steps * Duration.nanosPerSecond / Binary64.stepsPerUnit
      | _ => 0
    let _ ← lift (.ask (.sleep time))
    return .none
  | "time.time", _ => return .real 0
  | "math.gcd", [a, b] => return .int (Int.gcd (← wantInt a) (← wantInt b))
  | name, _ => typeError (name ++ "() got wrong arguments")

/-! Methods -/

def stripWith (left right : Bool) (isStripped : Char → Bool) (text : List Char) : List Char :=
  let begun := if left then text.dropWhile isStripped else text
  if right then (begun.reverse.dropWhile isStripped).reverse else begun

def splitText (separator text : List Char) : List (List Char) :=
  ((String.ofList text).splitOn (String.ofList separator)).map String.toList

def findText (part text : List Char) : Option Nat :=
  (List.range (text.length + 1)).find? fun i => part.isPrefixOf (text.drop i)

def textMethod (text : List Char) (name : String) (args : List Value) : Run Value := do
  let texts (parts : List (List Char)) : Run Value := newList (parts.map .text)
  let isStripped : Char → Bool := match args with
    | .text chars :: _ => chars.contains
    | _ => Character.isBlank
  match name, args with
  | "split", [] =>
    texts ((splitAt Character.isBlank text).filter fun word => !word.isEmpty)
  | "split", .text separator :: _ =>
    if separator.isEmpty then raise "ValueError" "empty separator"
    else texts (splitText separator text)
  | "splitlines", _ => texts (Text.lines text)
  | "strip", _ => return .text (stripWith true true isStripped text)
  | "lstrip", _ => return .text (stripWith true false isStripped text)
  | "rstrip", _ => return .text (stripWith false true isStripped text)
  | "upper", _ => return .text (text.map Char.toUpper)
  | "lower", _ => return .text (text.map Char.toLower)
  | "join", [v] =>
    let parts ← (← itemsOf v).mapM wantText
    return .text (List.intercalate text parts)
  | "replace", .text old :: .text new :: _ =>
    return .text (List.intercalate new (splitText old text))
  | "startswith", [.text part] => return .bool (part.isPrefixOf text)
  | "endswith", [.text part] => return .bool (part.isSuffixOf text)
  | "isdigit", _ => return .bool (!text.isEmpty && text.all Char.isDigit)
  | "isalpha", _ => return .bool (!text.isEmpty && text.all Char.isAlpha)
  | "count", [.text part] => return .int ((splitText part text).length - 1 : Nat)
  | "find", [.text part] => return .int ((findText part text).elim (-1) fun (n : Nat) => (n : Int))
  | "encode", _ => return .text text
  | "zfill", [v] =>
    let missing := (← wantInt v).toNat - text.length
    return .text (List.replicate missing '0' ++ text)
  | "format", args =>
    let parts := splitText ['\x7b', '\x7d'] text
    let shown ← args.mapM textOf
    let rest := ((parts.drop 1).zip (shown ++ List.replicate parts.length [])).map
      fun (part, text) => text ++ part
    return .text (parts.headD [] ++ rest.flatten)
  | name, _ => raise "AttributeError" ("\x27str\x27 object has no attribute \x27" ++ name ++ "\x27")

def placeOf? (length : Nat) (i : Int) : Option Nat :=
  let index := if i < 0 then i + length else i
  if 0 ≤ index ∧ index < length then some index.toNat else none

def listMethod (place : Nat) (name : String) (args : List Value) (named : Named) : Run Value := do
  let items ← itemsAt place
  let memory := (← get).memory
  match name, args with
  | "append", [v] => setItems place (items ++ [v]); return .none
  | "extend", [v] => setItems place (items ++ (← itemsOf v)); return .none
  | "pop", args =>
    match placeOf? items.length (← wantInt (args.headD (.int (-1)))) with
    | some i =>
      setItems place (items.eraseIdx i)
      return (items[i]?).getD .none
    | none => raise "IndexError" "pop from empty list"
  | "insert", [i, v] =>
    let i ← wantInt i
    let index := if i < 0 then (i + items.length).toNat else min i.toNat items.length
    setItems place (items.take index ++ v :: items.drop index)
    return .none
  | "reverse", [] => setItems place items.reverse; return .none
  | "sort", [] =>
    let sorted ← sortByKeys (items.map fun v => (v, v))
    setItems place (if ← isTrue ((named? named "reverse").getD .none) then sorted.reverse else sorted)
    return .none
  | "count", [v] => return .int (items.countP fun item => item.equal memory Value.depth v : Nat)
  | "index", [v] =>
    match items.findIdx? fun item => item.equal memory Value.depth v with
    | some i => return .int i
    | none => raise "ValueError" "value is not in list"
  | "copy", [] => newList items
  | "clear", [] => setItems place []; return .none
  | name, _ => raise "AttributeError" ("\x27list\x27 object has no attribute \x27" ++ name ++ "\x27")

def streamMethod (descriptor : Nat) (name : String) (args : List Value) : Run Value := do
  match name, args with
  | "read", _ => return .text (← readRest descriptor)
  | "readline", _ => return .text (← readLine descriptor 100000000)
  | "readlines", _ => newList (linesWithEnds (← readRest descriptor))
  | "write", [.text text] =>
    emit descriptor text
    return .int text.length
  | "write", v :: _ => typeError ("write() argument must be str, not " ++ (Value.typeName v))
  | "flush", _ =>
    if descriptor = (← get).streams.output then flush
    return .none
  | "close", _ =>
    lift (.close descriptor)
    return .none
  | name, _ =>
    raise "AttributeError" ("\x27_io.TextIOWrapper\x27 object has no attribute \x27" ++ name ++ "\x27")

def callMethod (receiver : Value) (name : String) (args : List Value) (named : Named) :
    Run Value := do
  match receiver with
  | .text text => textMethod text name args
  | .list place => listMethod place name args named
  | .stream descriptor => streamMethod descriptor name args
  | v =>
    raise "AttributeError"
      ("\x27" ++ v.typeName ++ "\x27 object has no attribute \x27" ++ name ++ "\x27")

/-! Modules -/

def modules : List String := ["sys", "os", "time", "signal", "math", "ctypes"]

def moduleFunctions : List String :=
  ["sys.exit", "sys.setrecursionlimit", "os.getpid", "os.getppid", "os.kill", "os._exit", "os.abort",
    "os.set_blocking", "os.path.sameopenfile", "time.sleep", "time.time", "signal.raise_signal",
    "math.gcd", "ctypes.CDLL", "libc.syscall"]

def memberOf (module name : String) : Run Value := do
  let full := module ++ "." ++ name
  let state ← get
  if moduleFunctions.contains full then return .builtin full
  match full with
  | "sys.argv" => return state.args
  | "sys.stdin" => return .stream state.streams.input
  | "sys.stdout" => return .stream state.streams.output
  | "sys.stderr" => return .stream state.streams.diagnostics
  | "os.path" => return .module full
  | "sys.maxsize" => return .int 9223372036854775807
  | _ =>
    match if module = "signal" ∧ name.startsWith "SIG" then Signal.number? name else none with
    | some number => return .int number
    | none =>
      raise "AttributeError"
        ("module \x27" ++ module ++ "\x27 has no attribute \x27" ++ name ++ "\x27")

def attributeOf (v : Value) (name : String) : Run Value := do
  match v with
  | .module module => memberOf module name
  | .exception _ args => if name = "args" then return .tuple args else return .method v name
  | .stream _ => if name = "buffer" then return v else return .method v name
  | .text _ => return .method v name
  | .list _ => return .method v name
  | v =>
    raise "AttributeError"
      ("\x27" ++ v.typeName ++ "\x27 object has no attribute \x27" ++ name ++ "\x27")

/-! Indices -/

def itemAt (v i : Value) : Run Value := do
  let index ← match i.int? with
    | some n => pure n
    | none => typeError (v.typeName ++ " indices must be integers or slices, not " ++ i.typeName)
  let pick (items : List Value) : Run Value :=
    match (placeOf? items.length index).bind (items[·]?) with
    | some item => return item
    | none => raise "IndexError" (v.typeName ++ " index out of range")
  match v with
  | .text text =>
    match (placeOf? text.length index).bind (text[·]?) with
    | some c => return .text [c]
    | none => raise "IndexError" "string index out of range"
  | .list place => pick (← itemsAt place)
  | .tuple items => pick items
  | .range first last step =>
    match placeOf? (rangeLength first last step) index with
    | some n => return .int (first + step * (n : Int))
    | none => raise "IndexError" "range object index out of range"
  | v => typeError ("\x27" ++ v.typeName ++ "\x27 object is not subscriptable")

def setItemAt (v i item : Value) : Run Unit := do
  match v with
  | .list place =>
    let items ← itemsAt place
    match placeOf? items.length (← wantInt i) with
    | some n => setItems place (items.set n item)
    | none => raise "IndexError" "list assignment index out of range"
  | v => typeError ("\x27" ++ v.typeName ++ "\x27 object does not support item assignment")

def slicePlaces (length : Nat) (first last step : Option Int) : List Nat :=
  let step := step.getD 1
  let clamp (low high n : Int) : Int := max low (min high (if n < 0 then n + length else n))
  if step > 0 then
    let first := first.elim 0 (clamp 0 length)
    let last := last.elim (length : Int) (clamp 0 length)
    (List.range (rangeLength first last step)).map fun (i : Nat) => (first + step * (i : Int)).toNat
  else
    let first := first.elim ((length : Int) - 1) (clamp (-1) ((length : Int) - 1))
    let last := last.elim (-1) (clamp (-1) ((length : Int) - 1))
    (List.range (rangeLength first last step)).map fun (i : Nat) => (first + step * (i : Int)).toNat

def sliceOf (v first last step : Value) : Run Value := do
  let places (length : Nat) := slicePlaces length first.int? last.int? step.int?
  if step.int? = some 0 then raise "ValueError" "slice step cannot be zero"
  match v with
  | .text text => return .text ((places text.length).filterMap (text[·]?))
  | .tuple items => return .tuple ((places items.length).filterMap (items[·]?))
  | v =>
    let items ← itemsOf v
    newList ((places items.length).filterMap (items[·]?))

def isIn (v whole : Value) : Run Bool := do
  match v, whole with
  | .text part, .text text => return (findText part text).isSome
  | v, whole =>
    let memory := (← get).memory
    return (← itemsOf whole).any fun item => item.equal memory Value.depth v

def compareWith (operator : String) (a b : Value) : Run Bool := do
  let memory := (← get).memory
  match operator with
  | "==" => return a.equal memory Value.depth b
  | "!=" => return !(a.equal memory Value.depth b)
  | "<" => comesBefore a b
  | ">" => comesBefore b a
  | "<=" => return !(← comesBefore b a)
  | ">=" => return !(← comesBefore a b)
  | "in" => isIn a b
  | "not in" => return !(← isIn a b)
  | "is" => return a.typeName == b.typeName && a.equal memory Value.depth b
  | _ => return !(a.typeName == b.typeName && a.equal memory Value.depth b)

end ContestJudge.Host.Script
