import ContestJudge.Number.Layout
/-!
JSON documents as data. Numbers keep the text they were written with, so that a number is judged
where it is used and not where it stands.
-/

namespace ContestJudge

/-- A text as written; none where an escape names half a surrogate pair. -/
abbrev WrittenText := Option String

/-- A document. Members keep their order, and a name may stand twice. -/
inductive Json where
  | null
  | bool (value : Bool)
  | number (literal : NumberLiteral)
  | string (value : WrittenText)
  | array (items : List Json)
  | object (members : List (WrittenText × Json))

namespace Json

instance : Inhabited Json := ⟨.null⟩

def record (members : List (String × Json)) : Json :=
  .object (members.map fun (name, value) => (some name, value))

def ofString (text : String) : Json := .string (some text)

def ofNat (n : Nat) : Json := .number ⟨false, digitsOf n, none, none⟩

def ofInt (n : Int) : Json := .number ⟨n < 0, digitsOf n.natAbs, none, none⟩

/-- A number in a record. NaN and the infinities have no literal and are null. -/
def ofBinary64 : Binary64 → Json
  | .finite negative steps _ =>
    .number (NumberLayout.record.literal negative steps)
  | _ => .null

def ofOption {α : Type} (write : α → Json) : Option α → Json
  | none => .null
  | some a => write a

def ofStrings (texts : List String) : Json := .array (texts.map ofString)

mutual

def depth : Json → Nat
  | array items => 1 + depthItems items
  | object members => 1 + depthMembers members
  | _ => 0

def depthItems : List Json → Nat
  | [] => 0
  | item :: rest => max item.depth (depthItems rest)

def depthMembers : List (WrittenText × Json) → Nat
  | [] => 0
  | (_, item) :: rest => max item.depth (depthMembers rest)

end

def member? (members : List (WrittenText × Json)) (name : String) : Option Json :=
  (members.reverse.find? fun entry => entry.1 = some name).map (·.2)

def putMember (members : List (WrittenText × Json)) (entry : WrittenText × Json) :
    List (WrittenText × Json) :=
  members.filter (·.1 ≠ entry.1) ++ [entry]

def overlay (members others : List (WrittenText × Json)) : List (WrittenText × Json) :=
  others.foldl putMember members

def lastMembers : List (WrittenText × Json) → List (WrittenText × Json)
  | [] => []
  | entry :: rest =>
    if rest.any (·.1 = entry.1) then lastMembers rest else entry :: lastMembers rest

/-- A document in which the last member of a name stands for all of that name; what is nested in its
members stays as it is. -/
def settled : Json → Json
  | .object members => .object (lastMembers members)
  | document => document

def get (document : Json) (name : String) : Json :=
  match document with
  | .object members => (member? members name).getD .null
  | _ => .null

end Json
end ContestJudge
