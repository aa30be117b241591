import ContestJudge.Host.Script.Value
import ContestJudge.Signal

namespace ContestJudge.Host.Script

structure Function where
  name : String
  params : List (String × Option Value)
  body : Block

structure Frame where
  locals : List (String × Value)
  /-- Names that stand for variables of the whole program. -/
  shared : List String

structure Interpreter where
  memory : Memory
  functions : Array Function
  globals : List (String × Value)
  /-- The calls in progress, the innermost one first. -/
  frames : List Frame
  streams : Streams
  /-- The number of the process. -/
  number : Nat
  args : Value
  /-- Output is written at once. -/
  isDirect : Bool
  /-- Output that is not written yet, the last piece first. -/
  pending : List Bytes
  /-- What was read of files and not used. -/
  unread : List (Nat × Bytes)
  line : Nat

inductive Stop where
  | raised (kind : String) (args : List Value)
  | quit (code : Nat)

abbrev Run := ExceptT Stop (StateT Interpreter Routine)

def lift {α : Type} (routine : Routine α) : Run α := fun state next =>
  routine fun a => next (.ok a, state)

def raise {α : Type} (kind message : String) : Run α := throw (.raised kind [.text message.toList])

def typeError {α : Type} (message : String) : Run α := raise "TypeError" message

def raiseRefusal {α : Type} (cause : Refusal) (path : Option (List Char)) : Run α :=
  let (kind, number) : String × Nat := match cause with
    | .file .notFound => ("FileNotFoundError", 2)
    | .file .denied => ("PermissionError", 13)
    | .file .isDirectory => ("IsADirectoryError", 21)
    | .brokenPipe => ("BrokenPipeError", 32)
    | .fileTooLarge => ("OSError", 27)
    | .noProcess => ("ProcessLookupError", 3)
    | .again => ("BlockingIOError", 11)
    | _ => ("OSError", 9)
  let place := path.elim "" fun path => ": " ++ String.ofList (Value.quoted path)
  raise kind (s!"[Errno {number}] " ++ cause.message ++ place)

def ofOperator {α : Type} (result : Except Trouble α) : Run α :=
  match result with
  | .ok a => return a
  | .error trouble =>
    if trouble.message.isEmpty then throw (.raised trouble.kind [])
    else raise trouble.kind trouble.message

/-! Memory -/

def newList (items : List Value) : Run Value := do
  let state ← get
  set { state with memory := state.memory.push items }
  return .list state.memory.size

def itemsAt (place : Nat) : Run (List Value) := do return ((← get).memory[place]?).getD []

def setItems (place : Nat) (items : List Value) : Run Unit :=
  modify fun state => { state with memory := state.memory.modify place fun _ => items }

def textOf (v : Value) : Run (List Char) := do return v.textOf (← get).memory

def isTrue (v : Value) : Run Bool := do return v.isTrue (← get).memory

/-! Variables -/

def bindIn (name : String) (v : Value) (bindings : List (String × Value)) : List (String × Value) :=
  if bindings.any (·.1 = name) then
    bindings.map fun (other, old) => if other = name then (name, v) else (other, old)
  else bindings ++ [(name, v)]

def bind (name : String) (v : Value) : Run Unit :=
  modify fun state =>
    match state.frames with
    | frame :: rest =>
      if frame.shared.contains name then { state with globals := bindIn name v state.globals }
      else { state with frames := { frame with locals := bindIn name v frame.locals } :: rest }
    | [] => { state with globals := bindIn name v state.globals }

def builtins : List String :=
  ["print", "input", "int", "str", "float", "bool", "len", "range", "list", "tuple", "map",
    "filter", "sum", "min", "max", "abs", "sorted", "reversed", "enumerate", "zip", "open", "repr",
    "chr", "ord", "any", "all", "divmod", "pow", "round", "iter", "isinstance"]

def lookup (name : String) : Run Value := do
  let state ← get
  let isLocal (entry : String × Value) := entry.1 = name
  match (state.frames.head?.bind fun frame => frame.locals.find? isLocal).orElse
      fun _ => state.globals.find? isLocal with
  | some (_, v) => return v
  | none =>
    if builtins.contains name then return .builtin name
    else if exceptionKinds.contains name then return .kind name
    else if name = "__name__" then return .text "__main__".toList
    else raise "NameError" ("name \x27" ++ name ++ "\x27 is not defined")

/-! Streams -/

def bufferSize : Nat := 8192

def flush : Run Unit := do
  let state ← get
  set { state with pending := [] }
  match ← lift (.write state.streams.output state.pending.reverse.flatten) with
  | none => return ()
  | some cause => raiseRefusal cause none

def emit (descriptor : Nat) (text : List Char) : Run Unit := do
  let data := Utf8.encode (String.ofList text)
  let state ← get
  if state.isDirect ∨ descriptor ≠ state.streams.output then
    match ← lift (.write descriptor data) with
    | none => return ()
    | some cause => raiseRefusal cause none
  else
    set { state with pending := data :: state.pending }
    if state.pending.foldl (fun size part => size + part.length) data.length > bufferSize then flush

def unreadOf (state : Interpreter) (descriptor : Nat) : Bytes :=
  ((state.unread.find? (·.1 = descriptor)).map (·.2)).getD []

def setUnread (descriptor : Nat) (data : Bytes) : Run Unit :=
  modify fun state => { state with
    unread := (descriptor, data) :: state.unread.filter (·.1 ≠ descriptor) }

def splitLine (data : Bytes) : Option (Bytes × Bytes) :=
  let line := data.takeWhile (· ≠ 10)
  if line.length = data.length then none else some (line ++ [10], data.drop (line.length + 1))

def plainLines : List Char → List Char → List Char
  | found, '\r' :: '\n' :: rest => plainLines ('\n' :: found) rest
  | found, '\r' :: rest => plainLines ('\n' :: found) rest
  | found, c :: rest => plainLines (c :: found) rest
  | found, [] => found.reverse

def decode (data : Bytes) : List Char := plainLines [] (Utf8.decodeLossy data).toList

def readLine (descriptor : Nat) : Nat → Run (List Char)
  | 0 => return []
  | fuel + 1 => do
    let data := unreadOf (← get) descriptor
    match splitLine data with
    | some (line, rest) =>
      setUnread descriptor rest
      return decode line
    | none =>
      let more ← lift (.read descriptor bufferSize)
      if more.isEmpty then
        setUnread descriptor []
        return decode data
      else
        setUnread descriptor (data ++ more)
        readLine descriptor fuel

def readRest (descriptor : Nat) : Run (List Char) := do
  let data := unreadOf (← get) descriptor
  setUnread descriptor []
  return decode (← lift (.readAll descriptor 1000000 data))

def linesWithEnds (text : List Char) : List Value :=
  let parts := splitAt (· == '\n') text
  (parts.dropLast.map fun part => Value.text (part ++ ['\n'])) ++
    match parts.getLast? with
    | some [] => []
    | some last => [.text last]
    | none => []

/-! Iteration -/

def rangeLength (first last step : Int) : Nat :=
  if step = 0 then 0
  else ((if step > 0 then last - first + step - 1 else first - last - step - 1) /
    (step.natAbs : Int)).toNat

def itemsOf (v : Value) : Run (List Value) := do
  match v with
  | .list place => itemsAt place
  | .tuple items => return items
  | .text text => return text.map fun c => .text [c]
  | .range first last step =>
    let count := rangeLength first last step
    if count > largest then throw (.raised "MemoryError" [])
    else return (List.range count).map fun (i : Nat) => .int (first + step * (i : Int))
  | .stream descriptor => return linesWithEnds (← readRest descriptor)
  | v => typeError ("\x27" ++ v.typeName ++ "\x27 object is not iterable")

inductive Cursor where
  | items (items : List Value)
  | numbers (next last step : Int)

def Cursor.ofValue (v : Value) : Run Cursor := do
  match v with
  | .range first last step => return .numbers first last step
  | v => return .items (← itemsOf v)

def Cursor.next? : Cursor → Option (Value × Cursor)
  | .items [] => none
  | .items (v :: rest) => some (v, .items rest)
  | .numbers next last step =>
    if (step > 0 ∧ next < last) ∨ (step < 0 ∧ next > last) then
      some (.int next, .numbers (next + step) last step)
    else none

end ContestJudge.Host.Script
