namespace ContestJudge.Path

/-- A part of a path. Repeated separators, separators at the end and points inside a path are no
parts. -/
inductive Component where
  | root
  | current
  | parent
  | name (text : String)
  deriving DecidableEq, Repr

def pieces (path : List Char) : List (List Char) :=
  path.foldr (fun c pieces =>
    match pieces with
    | [] => [[c]]
    | piece :: rest => if c = '/' then [] :: piece :: rest else (c :: piece) :: rest) [[]]

def isAbsolute (path : String) : Bool := path.toList.head? == some '/'

def componentOf? (piece : List Char) : Option Component :=
  if piece = [] ∨ piece = ['.'] then none
  else if piece = ['.', '.'] then some .parent
  else some (.name (String.ofList piece))

def components (path : String) : List Component :=
  let parts := pieces path.toList
  let start := if isAbsolute path then [.root]
    else if parts.head? = some ['.'] then [.current] else []
  start ++ parts.filterMap componentOf?

def fileName? (path : String) : Option String :=
  match (components path).getLast? with
  | some (.name text) => some text
  | _ => none

def isPlainName (name : String) : Bool :=
  (components name).length == 1 && fileName? name == some name

/-- A path below another one. An absolute path stands for itself. -/
def join (base name : String) : String :=
  if isAbsolute name ∨ base.isEmpty then name
  else if base.toList.getLast? = some '/' then base ++ name
  else base ++ "/" ++ name

end ContestJudge.Path
