import ContestJudge.Text.Utf8

namespace ContestJudge

abbrev Location := List String

inductive Device where
  /-- Empty, and takes everything. -/
  | null
  /-- Endless zero bytes; it takes everything. -/
  | zero
  /-- Endless zero bytes; it takes nothing. -/
  | full
  deriving DecidableEq, Repr

inductive FileNode where
  | file (content : Bytes) (executable : Bool)
  | directory
  | device (device : Device)
  /-- A program of the system. Nothing is known of its text. -/
  | program (name : String)
  deriving DecidableEq

inductive OpenedFile where
  | content (data : Bytes)
  | device (device : Device)
  /-- A directory can be opened, but nothing can be read from it. -/
  | directory
  deriving DecidableEq

namespace Device

def ofName? : String → Option Device
  | "null" => some .null
  | "zero" => some .zero
  | "full" => some .full
  | _ => none

end Device

namespace OpenedFile

/-- What can be read; an endless device has no last byte and counts as empty. -/
def data : OpenedFile → Bytes
  | .content data => data
  | _ => []

end OpenedFile

namespace FileNode

def isFile : FileNode → Bool
  | .file .. => true
  | .program _ => true
  | _ => false

def isDevice : FileNode → Bool
  | .device _ => true
  | _ => false

def isProgram : FileNode → Bool
  | .file _ executable => executable
  | .program _ => true
  | _ => false

def isExecutable (node : FileNode) : Bool := node == .directory || node.isProgram

def hasContent : FileNode → Bool
  | .file content _ => !content.isEmpty
  | .device _ => false
  | _ => true

def opened : FileNode → OpenedFile
  | .file content _ => .content content
  | .directory => .directory
  | .device kind => .device kind
  | .program _ => .content []

def systemDirectories : List Location :=
  [[], ["bin"], ["boot"], ["dev"], ["etc"], ["home"], ["lib"], ["media"], ["mnt"], ["opt"],
    ["proc"], ["root"], ["run"], ["sbin"], ["srv"], ["sys"], ["tmp"], ["usr"], ["usr", "bin"],
    ["usr", "lib"], ["usr", "local"], ["usr", "local", "bin"], ["usr", "local", "sbin"],
    ["usr", "sbin"], ["usr", "share"], ["var"], ["var", "tmp"]]

def systemPrograms : List String :=
  ["[", "cat", "dash", "echo", "env", "expr", "false", "head", "ls", "printf", "pwd", "python3",
    "seq", "sh", "sleep", "sort", "tail", "test", "tr", "true", "wc", "yes"]

def ofSystem? (location : Location) : Option FileNode :=
  if location ∈ systemDirectories then some .directory
  else match location with
    | ["dev", name] => (Device.ofName? name).map .device
    | ["bin", name] => if name ∈ systemPrograms then some (.program name) else none
    | ["usr", "bin", name] => if name ∈ systemPrograms then some (.program name) else none
    | _ => none

end FileNode
end ContestJudge
