import ContestJudge.Host.Script.Builtin
/-!
Running programs. The counter bounds the depth of expressions and statements and the rounds of
loops.
-/

namespace ContestJudge.Host.Script

inductive Flow where
  | onward
  | leave
  | again
  | back (v : Value)

def deepest : Nat := 990

def bindParams (f : Function) : List (String × Option Value) → List Value → Named →
    Run (List (String × Value))
  | [], [], _ => return []
  | [], _ :: _, _ => typeError (f.name ++ "() takes fewer positional arguments")
  | (name, _) :: params, v :: args, named => do
    return (name, v) :: (← bindParams f params args named)
  | (name, usual) :: params, [], named => do
    match (named? named name).orElse fun _ => usual with
    | some v => return (name, v) :: (← bindParams f params [] named)
    | none => typeError (f.name ++ "() missing required positional argument: \x27" ++ name ++ "\x27")

def isCaught (kind : String) : Value → Bool
  | .none => true
  | .kind name => isOfKind kind name
  | .tuple items => items.any fun
    | .kind name => isOfKind kind name
    | _ => false
  | _ => false

def raiseValue (v : Value) : Run Unit :=
  match v with
  | .kind "SystemExit" => throw (.quit 0)
  | .exception "SystemExit" args => do
    let _ ← exitWith args
    return ()
  | .kind name => throw (.raised name [])
  | .exception name args => throw (.raised name args)
  | .none => raise "RuntimeError" "No active exception to reraise"
  | _ => typeError "exceptions must derive from BaseException"

def bringModule (module name : String) : Run Unit := do
  if modules.contains module then bind name (.module module)
  else raise "ModuleNotFoundError" ("No module named \x27" ++ module ++ "\x27")

mutual

def eval : Nat → Expr → Run Value
  | 0, _ => throw (.raised "RecursionError" [])
  | fuel + 1, e => do
    match e with
    | .none => return .none
    | .bool b => return .bool b
    | .whole n => return .int n
    | .real x => return .real x
    | .text text => return .text text
    | .template parts =>
      let texts ← (← evalAll fuel parts).mapM textOf
      return .text texts.flatten
    | .name name => lookup name
    | .tuple items => return .tuple (← evalAll fuel items)
    | .list items => newList (← evalAll fuel items)
    | .comprehension item target source conditions =>
      let cursor ← Cursor.ofValue (← eval fuel source)
      newList (← collect fuel item target conditions cursor [])
    | .call f args named =>
      lift .tick
      let f ← eval fuel f
      let args ← evalArgs fuel args
      let named ← evalNamed fuel named
      apply fuel f args named
    | .attribute e name => attributeOf (← eval fuel e) name
    | .index e i => itemAt (← eval fuel e) (← eval fuel i)
    | .slice e first last step =>
      sliceOf (← eval fuel e) (← eval fuel first) (← eval fuel last) (← eval fuel step)
    | .unary "not" e => return .bool (!(← isTrue (← eval fuel e)))
    | .unary operator e =>
      let v ← eval fuel e
      match operator, v.int?, v with
      | "-", some n, _ => return .int (-n)
      | "+", some n, _ => return .int n
      | "~", some n, _ => return .int (-n - 1)
      | "-", none, .real x => return .real x.negate
      | "+", none, .real x => return .real x
      | _, _, _ =>
        typeError ("bad operand type for unary " ++ operator ++ ": \x27" ++ v.typeName ++ "\x27")
    | .binary operator left right =>
      operate operator (← eval fuel left) (← eval fuel right)
    | .compare first others => compareOn fuel (← eval fuel first) others
    | .both left right =>
      let v ← eval fuel left
      if ← isTrue v then eval fuel right else return v
    | .either left right =>
      let v ← eval fuel left
      if ← isTrue v then return v else eval fuel right
    | .choice condition yes no =>
      if ← isTrue (← eval fuel condition) then eval fuel yes else eval fuel no

def evalAll : Nat → List Expr → Run (List Value)
  | 0, _ => throw (.raised "RecursionError" [])
  | _, [] => return []
  | fuel + 1, e :: rest => do
    let v ← eval fuel e
    return v :: (← evalAll fuel rest)

def evalArgs : Nat → List Expr → Run (List Value)
  | 0, _ => throw (.raised "RecursionError" [])
  | _, [] => return []
  | fuel + 1, .unary "*" e :: rest => do
    let items ← itemsOf (← eval fuel e)
    return items ++ (← evalArgs fuel rest)
  | fuel + 1, e :: rest => do
    let v ← eval fuel e
    return v :: (← evalArgs fuel rest)

def evalNamed : Nat → List (String × Expr) → Run Named
  | 0, _ => throw (.raised "RecursionError" [])
  | _, [] => return []
  | fuel + 1, (name, e) :: rest => do
    let v ← eval fuel e
    return (name, v) :: (← evalNamed fuel rest)

def compareOn : Nat → Value → List (String × Expr) → Run Value
  | 0, _, _ => throw (.raised "RecursionError" [])
  | _, _, [] => return .bool true
  | fuel + 1, left, (operator, e) :: rest => do
    let right ← eval fuel e
    if ← compareWith operator left right then compareOn fuel right rest else return .bool false

def collect : Nat → Expr → Expr → List Expr → Cursor → List Value → Run (List Value)
  | 0, _, _, _, _, _ => throw (.raised "RecursionError" [])
  | fuel + 1, item, target, conditions, cursor, found => do
    match cursor.next? with
    | none => return found.reverse
    | some (v, cursor) =>
      assign fuel target v
      if ← (← evalAll fuel conditions).allM isTrue then
        let v ← eval fuel item
        collect fuel item target conditions cursor (v :: found)
      else collect fuel item target conditions cursor found

def apply : Nat → Value → List Value → Named → Run Value
  | 0, _, _, _ => throw (.raised "RecursionError" [])
  | fuel + 1, f, args, named => do
    match f with
    | .builtin name => applyBuiltin fuel name args named
    | .method (.list place) "sort" =>
      let keyed ← withKeys fuel (named? named "key") (← itemsAt place)
      let sorted ← sortByKeys keyed
      setItems place
        (if ← isTrue ((named? named "reverse").getD .none) then sorted.reverse else sorted)
      return .none
    | .method receiver name => callMethod receiver name args named
    | .kind name => return .exception name args
    | .function place =>
      let state ← get
      match state.functions[place]? with
      | none => typeError "no such function"
      | some function =>
        if state.frames.length ≥ deepest then
          raise "RecursionError" "maximum recursion depth exceeded"
        else
          let locals ← bindParams function function.params args named
          modify fun state => { state with frames := ⟨locals, []⟩ :: state.frames }
          let flow ← exec fuel function.body
          modify fun state => { state with frames := state.frames.drop 1 }
          match flow with
          | .back v => return v
          | _ => return .none
    | f => typeError ("\x27" ++ f.typeName ++ "\x27 object is not callable")

def withKeys : Nat → Option Value → List Value → Run (List (Value × Value))
  | 0, _, _ => throw (.raised "RecursionError" [])
  | _, _, [] => return []
  | _ + 1, none, items => return items.map fun v => (v, v)
  | fuel + 1, some f, v :: rest => do
    let key ← apply fuel f [v] []
    return (key, v) :: (← withKeys fuel (some f) rest)

def applyBuiltin : Nat → String → List Value → Named → Run Value
  | 0, _, _, _ => throw (.raised "RecursionError" [])
  | fuel + 1, name, args, named => do
    match name, args with
    | "map", f :: source :: more =>
      let columns ← (source :: more).mapM itemsOf
      let count := ((columns.map List.length).min?).getD 0
      newList (← applyEach fuel f
        ((List.range count).map fun i => columns.filterMap (·[i]?)))
    | "filter", [f, source] =>
      let items ← itemsOf source
      let kept ← applyEach fuel f (items.map fun v => [v])
      let holds ← kept.mapM isTrue
      newList ((items.zip holds).filterMap fun (v, holds) => if holds then some v else none)
    | "sorted", [source] =>
      let sorted ← sortByKeys (← withKeys fuel (named? named "key") (← itemsOf source))
      newList (if ← isTrue ((named? named "reverse").getD .none) then sorted.reverse else sorted)
    | "min", args => extremeOf fuel false args named
    | "max", args => extremeOf fuel true args named
    | name, args => callPlain name args named

def extremeOf : Nat → Bool → List Value → Named → Run Value
  | 0, _, _, _ => throw (.raised "RecursionError" [])
  | fuel + 1, turned, args, named => do
    let items ← match args with
      | [source] => itemsOf source
      | args => pure args
    match items, named? named "default" with
    | [], some v => return v
    | items, _ => extreme turned (← withKeys fuel (named? named "key") items)

def applyEach : Nat → Value → List (List Value) → Run (List Value)
  | 0, _, _ => throw (.raised "RecursionError" [])
  | _, _, [] => return []
  | fuel + 1, f, args :: rest => do
    let v ← apply fuel f args []
    return v :: (← applyEach fuel f rest)

def assign : Nat → Expr → Value → Run Unit
  | 0, _, _ => throw (.raised "RecursionError" [])
  | fuel + 1, target, v => do
    match target with
    | .name name => bind name v
    | .index e i => setItemAt (← eval fuel e) (← eval fuel i) v
    | .tuple targets => assignAll fuel targets v
    | .list targets => assignAll fuel targets v
    | _ => raise "AttributeError" "can\x27t set attribute"

def assignAll : Nat → List Expr → Value → Run Unit
  | 0, _, _ => throw (.raised "RecursionError" [])
  | fuel + 1, targets, v => do
    let items ← match v with
      | .int _ => typeError "cannot unpack non-iterable int object"
      | .none => typeError "cannot unpack non-iterable NoneType object"
      | v => itemsOf v
    if items.length < targets.length then
      raise "ValueError"
        s!"not enough values to unpack (expected {targets.length}, got {items.length})"
    else if items.length > targets.length then
      raise "ValueError" s!"too many values to unpack (expected {targets.length})"
    else assignEach fuel (targets.zip items)

def assignEach : Nat → List (Expr × Value) → Run Unit
  | 0, _ => throw (.raised "RecursionError" [])
  | _, [] => return ()
  | fuel + 1, (target, v) :: rest => do
    assign fuel target v
    assignEach fuel rest

def exec : Nat → Block → Run Flow
  | 0, _ => throw (.raised "RecursionError" [])
  | _, [] => return .onward
  | fuel + 1, (line, statement) :: rest => do
    modify ({ · with line := line })
    lift .tick
    match ← step fuel statement with
    | .onward => exec fuel rest
    | flow => return flow

def whileOn : Nat → Expr → Block → Block → Run Flow
  | 0, _, _, _ => throw (.raised "RecursionError" [])
  | fuel + 1, condition, body, otherwise => do
    lift .tick
    if ← isTrue (← eval fuel condition) then
      match ← exec fuel body with
      | .leave => return .onward
      | .back v => return .back v
      | _ => whileOn fuel condition body otherwise
    else exec fuel otherwise

def forOn : Nat → Expr → Cursor → Block → Block → Run Flow
  | 0, _, _, _, _ => throw (.raised "RecursionError" [])
  | fuel + 1, target, cursor, body, otherwise => do
    lift .tick
    match cursor.next? with
    | none => exec fuel otherwise
    | some (v, cursor) =>
      assign fuel target v
      match ← exec fuel body with
      | .leave => return .onward
      | .back v => return .back v
      | _ => forOn fuel target cursor body otherwise

def handle : Nat → Stop → List (Expr × Option String × Block) → Run Flow
  | 0, _, _ => throw (.raised "RecursionError" [])
  | _, stop, [] => throw stop
  | fuel + 1, stop, (kinds, name, body) :: rest => do
    match stop with
    | .quit code => throw (.quit code)
    | .raised kind args =>
      if isCaught kind (← eval fuel kinds) then
        if let some name := name then bind name (.exception kind args)
        exec fuel body
      else handle fuel stop rest

def defaults : Nat → List (String × Option Expr) → Run (List (String × Option Value))
  | 0, _ => throw (.raised "RecursionError" [])
  | _, [] => return []
  | fuel + 1, (name, usual) :: rest => do
    let v ← match usual with
      | none => pure none
      | some e => do
        let v ← eval fuel e
        pure (some v)
    return (name, v) :: (← defaults fuel rest)

def step : Nat → Statement → Run Flow
  | 0, _ => throw (.raised "RecursionError" [])
  | fuel + 1, statement => do
    match statement with
    | .nothing => return .onward
    | .leave => return .leave
    | .again => return .again
    | .expression e =>
      let _ ← eval fuel e
      return .onward
    | .assign targets e =>
      let v ← eval fuel e
      assignEach fuel (targets.map fun target => (target, v))
      return .onward
    | .update target operator e =>
      let old ← eval fuel target
      let change ← eval fuel e
      match old, operator with
      | .list place, "+" =>
        setItems place ((← itemsAt place) ++ (← itemsOf change))
        return .onward
      | _, _ =>
        assign fuel target (← operate operator old change)
        return .onward
    | .branch condition yes no =>
      if ← isTrue (← eval fuel condition) then exec fuel yes else exec fuel no
    | .repeatWhile condition body otherwise => whileOn fuel condition body otherwise
    | .repeatFor target source body otherwise =>
      let cursor ← Cursor.ofValue (← eval fuel source)
      forOn fuel target cursor body otherwise
    | .giveBack e => return .back (← eval fuel e)
    | .define name params body =>
      let params ← defaults fuel params
      let state ← get
      set { state with functions := state.functions.push ⟨name, params, body⟩ }
      bind name (.function state.functions.size)
      return .onward
    | .shared names =>
      modify fun state =>
        match state.frames with
        | frame :: rest => { state with
            frames := { frame with shared := names ++ frame.shared } :: rest }
        | [] => state
      return .onward
    | .bring found =>
      for (module, name) in found do
        bringModule module name
      return .onward
    | .bringFrom module found =>
      if modules.contains module then
        for (member, name) in found do
          bind name (← memberOf module member)
        return .onward
      else raise "ModuleNotFoundError" ("No module named \x27" ++ module ++ "\x27")
    | .raise e =>
      raiseValue (← eval fuel e)
      return .onward
    | .within e target body =>
      let v ← eval fuel e
      if let some target := target then assign fuel target v
      let flow ← exec fuel body
      if let .stream descriptor := v then lift (.close descriptor)
      return flow
    | .attempt body handlers always =>
      let depth := (← get).frames.length
      let flow ← tryCatch (exec fuel body) fun stop => do
        modify fun state => { state with frames := state.frames.drop (state.frames.length - depth) }
        handle fuel stop handlers
      match ← exec fuel always with
      | .onward => return flow
      | other => return other

end

end ContestJudge.Host.Script
