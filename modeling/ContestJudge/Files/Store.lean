import ContestJudge.Fault
import ContestJudge.Files.Node
import ContestJudge.Files.Path
/-!
The files that the judge sees, as a value: those that were put there, and beneath them those that
every system has. Temporary files and workspaces get names that are never
used again; a temporary file is removed when the last of its holders lets go.
-/

namespace ContestJudge

structure FileStore where
  nodes : List (Location × FileNode)
  /-- The temporary files there are, each with the number of its holders. -/
  holders : List (String × Nat)
  /-- The number of the next temporary name. -/
  nextName : Nat
  /-- Why the request for a temporary name of that number fails, where it does. -/
  refusal : Nat → Option FileFault
  /-- Why content cannot be put into the temporary file of a path, where it cannot. -/
  rejection : String → Bytes → Option FileFault

namespace FileStore

def empty : FileStore := ⟨[], [], 0, fun _ => none, fun _ _ => none⟩

instance : Inhabited FileStore := ⟨empty⟩

def node? (store : FileStore) (location : Location) : Option FileNode :=
  match store.nodes.find? (·.1 = location) with
  | some (_, node) => some node
  | none => FileNode.ofSystem? location

def put (store : FileStore) (location : Location) (node : FileNode) : FileStore :=
  { store with nodes := (location, node) :: store.nodes.filter (·.1 ≠ location) }

def drop (store : FileStore) (location : Location) : FileStore :=
  { store with nodes := store.nodes.filter (·.1 ≠ location) }

def dropTree (store : FileStore) (location : Location) : FileStore :=
  { store with nodes := store.nodes.filter fun entry => !location.isPrefixOf entry.1 }

def nameLimit : Nat := 255

def walk (store : FileStore) : Location → List String → Except FileFault Location
  | location, [] => .ok location
  | location, piece :: rest =>
    if store.node? location ≠ some .directory then .error .notDirectory
    else if piece = "" ∨ piece = "." then walk store location rest
    else if piece = ".." then walk store location.dropLast rest
    else if piece.utf8ByteSize > nameLimit then .error .nameTooLong
    else
      let next := location ++ [piece]
      if (store.node? next).isNone then .error .notFound
      else walk store next rest

def piecesOf (path : String) : List String := (Path.pieces path.toList).map String.ofList

def checkPath (path : String) : Except FileFault Unit :=
  if path.toList.contains '\x00' then .error .nulInName
  else if path.isEmpty then .error .notFound
  else if path.utf8ByteSize > 4095 then .error .nameTooLong
  else .ok ()

def startOf (store : FileStore) (directory path : String) : Except FileFault Location :=
  if Path.isAbsolute path then .ok [] else store.walk [] (piecesOf directory)

def locateFrom (store : FileStore) (directory path : String) : Except FileFault Location := do
  checkPath path
  store.walk (← store.startOf directory path) (piecesOf path)

def locate (store : FileStore) (path : String) : Except FileFault Location :=
  store.locateFrom "/" path

def resolveFrom (store : FileStore) (directory path : String) :
    Except FileFault (Location × FileNode) := do
  let location ← store.locateFrom directory path
  match store.node? location with
  | some node => return (location, node)
  | none => throw .notFound

def resolve (store : FileStore) (path : String) : Except FileFault (Location × FileNode) :=
  store.resolveFrom "/" path

def read (store : FileStore) (path : String) : Except FileFault Bytes := do
  match (← store.resolve path).2.opened with
  | .directory => throw .isDirectory
  | opened => return opened.data

def openToRead (store : FileStore) (path : String) : Except FileFault OpenedFile := do
  return (← store.resolve path).2.opened

def readText (store : FileStore) (path : String) : Except FileFault String := do
  match Utf8.decode? (← store.read path) with
  | some text => return text
  | none => throw .notText

def isFile (store : FileStore) (path : String) : Bool :=
  match store.resolve path with
  | .ok (_, .file ..) => true
  | .ok (_, .program _) => true
  | _ => false

def isPresent (store : FileStore) (path : String) : Bool := (store.resolve path).isOk

/-- The location of a file to be written: its directory has to be there. -/
def targetFrom (store : FileStore) (base path : String) : Except FileFault Location := do
  checkPath path
  let pieces := piecesOf path
  let directory ← store.walk (← store.startOf base path) pieces.dropLast
  match pieces.getLast? with
  | none => throw .notFound
  | some name =>
    if store.node? directory ≠ some .directory then throw .notDirectory
    else if name = "" ∨ name = "." ∨ name = ".." then throw .isDirectory
    else if name.utf8ByteSize > nameLimit then throw .nameTooLong
    else return directory ++ [name]

def write (store : FileStore) (path : String) (content : Bytes) : Except FileFault FileStore := do
  let location ← store.targetFrom "/" path
  match store.node? location with
  | some .directory => throw .isDirectory
  | some (.device .full) => throw .noSpace
  | some (.device _) => return store
  | some (.program _) => throw .denied
  | some (.file _ executable) => return store.put location (.file content executable)
  | none => return store.put location (.file content false)

def remove (store : FileStore) (path : String) : FileStore :=
  match store.locate path with
  | .ok location => store.drop location
  | .error _ => store

def makeWay (store : FileStore) (pieces : List String) : Location × FileStore :=
  pieces.foldl (fun (location, store) piece =>
    let location := if piece = ".." then location.dropLast else location ++ [piece]
    (location, if (store.node? location).isNone then store.put location .directory else store))
    ([], store)

def install (store : FileStore) (path : String) (content : Bytes) (executable : Bool) :
    FileStore :=
  let pieces := (piecesOf path).filter fun piece => piece ≠ "" ∧ piece ≠ "."
  let (parent, store) := store.makeWay pieces.dropLast
  store.put (parent ++ pieces.getLast?.toList) (.file content executable)

def list (store : FileStore) (location : Location) : List String :=
  (store.nodes.filterMap fun (other, _) =>
    if other.dropLast = location then other.getLast? else none).mergeSort fun a b => decide (a ≤ b)

def pathOf (location : Location) : String := "/" ++ "/".intercalate location

def temporaryLocation (number : Nat) : Location := ["tmp", ".tmp" ++ toString number]

def temporaryPath (number : Nat) : String := pathOf (temporaryLocation number)

def vacancy (store : FileStore) (path : String) : Except FileFault Location := do
  let location ← store.targetFrom "/" path
  if (store.node? location).isSome ∨ path ∈ store.holders.map (·.1) then throw .exists
  else return location

def temporarySite (store : FileStore) (number : Nat) : Except FileFault Location :=
  match store.refusal number with
  | some cause => .error cause
  | none => store.vacancy (temporaryPath number)

def createTemporary (store : FileStore) : Except FileFault String × FileStore :=
  let path := temporaryPath store.nextName
  let later := { store with nextName := store.nextName + 1 }
  match store.temporarySite store.nextName with
  | .error cause => (.error cause, later)
  | .ok location =>
    (.ok path, { later.put location (.file [] false) with holders := (path, 1) :: later.holders })

def overwrite (store : FileStore) (path : String) (content : Bytes) : FileStore :=
  match store.resolve path with
  | .ok (location, .file _ executable) => store.put location (.file content executable)
  | _ => store

def fill (store : FileStore) (path : String) (content : Bytes) : Except FileFault FileStore :=
  match store.rejection path content with
  | some cause => .error cause
  | none => .ok (store.overwrite path content)

def heldBy (store : FileStore) (path : String) : Nat :=
  ((store.holders.find? (·.1 = path)).map (·.2)).getD 0

def setHolders (store : FileStore) (path : String) (count : Nat) : FileStore :=
  let others := store.holders.filter (·.1 ≠ path)
  if count = 0 then { store.remove path with holders := others }
  else { store with holders := (path, count) :: others }

def retain (store : FileStore) (path : String) : FileStore :=
  store.setHolders path (store.heldBy path + 1)

/-- One holder less; without holders the file is removed. -/
def release (store : FileStore) (path : String) : FileStore :=
  if store.heldBy path = 0 then store else store.setHolders path (store.heldBy path - 1)

def temporaryIn? (text : String) : Option String :=
  match text.splitOn "/tmp/.tmp" with
  | _ :: rest :: _ => some ("/tmp/.tmp" ++ (rest.takeWhile Char.isDigit).toString)
  | _ => none

def workspaceLocation (number : Nat) : Location := ["tmp", ".build" ++ toString number]

/-- A text with a word in place of each path with some beginning and a number behind it. -/
def maskNumbered (beginning word text : String) : String :=
  match text.splitOn beginning with
  | [] => text
  | first :: rest =>
    first ++ String.join (rest.map fun part => word ++ (part.dropWhile Char.isDigit).toString)

def mask (file workspace text : String) : String :=
  maskNumbered "/tmp/.tmp" file (maskNumbered "/tmp/.build" workspace text)

def createWorkspace (store : FileStore) : Except FileFault String × FileStore :=
  let number := store.nextName
  let later := { store with nextName := number + 1 }
  match store.refusal number with
  | some cause => (.error cause, later)
  | none => (.ok (pathOf (workspaceLocation number)), later.put (workspaceLocation number) .directory)

def removeWorkspace (store : FileStore) (path : String) : FileStore :=
  match store.locate path with
  | .ok location => store.dropTree location
  | .error _ => store

def contents (store : FileStore) (path : String) : List (String × Bytes) :=
  match store.locate path with
  | .ok location =>
    (store.list location).filterMap fun name =>
      match store.node? (location ++ [name]) with
      | some (.file content _) => some (name, content)
      | _ => none
  | .error _ => []

end FileStore
end ContestJudge
