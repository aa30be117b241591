import ContestJudge.Json.Number
/-!
Reading documents into typed records. A record is an object, whose unknown members have no
effect and whose known members may not repeat, or an array that lists the fields in order and may
stop early where the rest have defaults.
-/

namespace ContestJudge.Json

def fields? (names : List String) : Json → Option (List (Option Json))
  | .object members =>
    if members.all (·.1.isSome) then
      names.mapM fun name =>
        match members.filter (·.1 = some name) with
        | [] => some none
        | [(_, value)] => some (some value)
        | _ => none
    else none
  | .array items =>
    if items.length ≤ names.length then
      some (items.map some ++ List.replicate (names.length - items.length) none)
    else none
  | _ => none

def text? : Json → Option String
  | .string value => value
  | _ => none

def bool? : Json → Option Bool
  | .bool value => some value
  | _ => none

def real? : Json → Option Binary64
  | .number literal => literal.value?.map (·.toBinary64)
  | _ => none

def natural? (bound : Nat) : Json → Option Nat
  | .number literal =>
    match literal.value? with
    | some (.natural n) => if n < bound then some n else none
    | _ => none
  | _ => none

def list? {α : Type} (read : Json → Option α) : Json → Option (List α)
  | .array items => items.mapM read
  | _ => none

def texts? : Json → Option (List String) := list? text?

def nullable? {α : Type} (read : Json → Option α) : Json → Option (Option α)
  | .null => some none
  | document => (read document).map some

def required? {α : Type} (read : Json → Option α) : Option Json → Option α
  | none => none
  | some document => read document

def default? {α : Type} (default : α) (read : Json → Option α) : Option Json → Option α
  | none => some default
  | some document => read document

def insertSorted (name value : String) : List (String × String) → List (String × String)
  | [] => [(name, value)]
  | (other, old) :: rest =>
    if name < other then (name, value) :: (other, old) :: rest
    else if name = other then (name, value) :: rest
    else (other, old) :: insertSorted name value rest

/-- An object of texts, sorted by name; of two members of a name the last one counts. -/
def textMap? : Json → Option (List (String × String))
  | .object members => do
    let pairs ← members.mapM fun (name, value) => do
      let name ← name
      let value ← value.text?
      return (name, value)
    return pairs.foldl (fun map (name, value) => insertSorted name value map) []
  | _ => none

mutual

def sound : Json → Bool
  | number literal => literal.value?.isSome
  | string value => value.isSome
  | array items => soundItems items
  | object members => soundMembers members
  | _ => true

def soundItems : List Json → Bool
  | [] => true
  | item :: rest => item.sound && soundItems rest

def soundMembers : List (WrittenText × Json) → Bool
  | [] => true
  | (name, item) :: rest => name.isSome && item.sound && soundMembers rest

end

/-- The members of a free-form object, which must be sound and may not be nested too deeply. -/
def freeForm? (deepest : Nat) : Json → Option (List (WrittenText × Json))
  | .object members =>
    let document := Json.object members
    if document.sound && decide (document.depth ≤ deepest) then some members else none
  | _ => none

def nestingLimit : Nat := 127

end ContestJudge.Json
