import ContestJudge.Text.Utf8
/-!
Pipes with counted holders of both ends. A pipe keeps its bytes in a fixed number of pages. A write
that is no multiple of a page first tries to put its odd bytes behind the last page, and then fills
new ones; what is left when the pages run out is not written. So a pipe may be full while it holds
less than its capacity.
-/

namespace ContestJudge

inductive PipeSide where
  | read
  | write
  deriving DecidableEq, Repr

structure PipeEnd where
  pipe : Nat
  side : PipeSide
  deriving DecidableEq, Repr

structure PipePage where
  /-- Bytes that were read from its front; their room is not used again. -/
  spent : Nat
  bytes : Bytes
  deriving DecidableEq

structure Pipe where
  pages : List PipePage
  readers : Nat
  writers : Nat
  deriving DecidableEq

namespace PipePage

def size : Nat := 4096

def hasRoom (page : PipePage) (count : Nat) : Bool :=
  page.spent + page.bytes.length + count ≤ size

def cut : Nat → Bytes → List PipePage × Bytes
  | 0, data => ([], data)
  | count + 1, data =>
    if data.isEmpty then ([], [])
    else
      let (pages, rest) := cut count (data.drop size)
      (⟨0, data.take size⟩ :: pages, rest)

def take : List PipePage → Nat → Bytes × List PipePage
  | [], _ => ([], [])
  | page :: pages, limit =>
    if page.bytes.length ≤ limit then
      let (data, pages) := take pages (limit - page.bytes.length)
      (page.bytes ++ data, pages)
    else (page.bytes.take limit, ⟨page.spent + limit, page.bytes.drop limit⟩ :: pages)

end PipePage

namespace Pipe

def pageCount : Nat := 16

def buffer (pipe : Pipe) : Bytes := pipe.pages.flatMap (·.bytes)

def isEmpty (pipe : Pipe) : Bool := pipe.pages.all (·.bytes.isEmpty)

/-- Puts the odd bytes of a write behind the last page, if they fit there. -/
def topUp (pipe : Pipe) (data : Bytes) : Pipe × Bytes :=
  let odd := data.length % PipePage.size
  match pipe.pages.getLast? with
  | some last =>
    if last.hasRoom odd then
      ({ pipe with pages := pipe.pages.dropLast ++ [{ last with bytes := last.bytes ++ data.take odd }] },
        data.drop odd)
    else (pipe, data)
  | none => (pipe, data)

def put (pipe : Pipe) (data : Bytes) : Pipe × Bytes :=
  let (pipe, data) := pipe.topUp data
  let (pages, rest) := PipePage.cut (pageCount - pipe.pages.length) data
  ({ pipe with pages := pipe.pages ++ pages }, rest)

def take (pipe : Pipe) (limit : Nat) : Bytes × Pipe :=
  let (data, pages) := PipePage.take pipe.pages limit
  (data, { pipe with pages := pages })

end Pipe

inductive WriteOutcome where
  | written
  /-- Nobody can read. -/
  | broken
  /-- The pipe is full before the rest. -/
  | full (rest : Bytes)
  /-- The end is for reading. -/
  | refused
  deriving DecidableEq

structure PipeTable where
  pipes : List Pipe
  deriving DecidableEq

namespace PipeTable

def empty : PipeTable := ⟨[]⟩

def create (table : PipeTable) : Nat × PipeTable :=
  (table.pipes.length, ⟨table.pipes ++ [⟨[], 1, 1⟩]⟩)

def get? (table : PipeTable) (pipe : Nat) : Option Pipe := table.pipes[pipe]?

def update (table : PipeTable) (pipe : Nat) (change : Pipe → Pipe) : PipeTable :=
  ⟨table.pipes.modify pipe change⟩

def retain (table : PipeTable) (e : PipeEnd) : PipeTable :=
  table.update e.pipe fun pipe => match e.side with
    | .read => { pipe with readers := pipe.readers + 1 }
    | .write => { pipe with writers := pipe.writers + 1 }

def release (table : PipeTable) (e : PipeEnd) : PipeTable :=
  table.update e.pipe fun pipe => match e.side with
    | .read => { pipe with readers := pipe.readers - 1 }
    | .write => { pipe with writers := pipe.writers - 1 }

/-- Writes what fits. Nothing is written also where nobody can read. -/
def write (table : PipeTable) (pipe : Nat) (data : Bytes) : WriteOutcome × PipeTable :=
  if data.isEmpty then (.written, table)
  else match table.get? pipe with
  | none => (.broken, table)
  | some found =>
    if found.readers = 0 then (.broken, table)
    else
      let (filled, rest) := found.put data
      (if rest.isEmpty then .written else .full rest, table.update pipe fun _ => filled)

def writeAt (table : PipeTable) (e : PipeEnd) (data : Bytes) : WriteOutcome × PipeTable :=
  match e.side with
  | .write => table.write e.pipe data
  | .read => (if data.isEmpty then .written else .refused, table)

def fill (table : PipeTable) (pipe : Nat) (data : Bytes) : PipeTable :=
  table.update pipe fun pipe =>
    if pipe.readers = 0 then pipe else { pipe with pages := pipe.pages ++ [⟨0, data⟩] }

def drain (table : PipeTable) (pipe : Nat) : Bytes × Bool × PipeTable :=
  match table.get? pipe with
  | none => ([], false, table)
  | some found =>
    (found.buffer, found.writers > 0, table.update pipe fun pipe => { pipe with pages := [] })

def drainAt (table : PipeTable) (e : PipeEnd) : Bytes × Bool × PipeTable :=
  match e.side with
  | .read => table.drain e.pipe
  | .write => ([], true, table)

end PipeTable
end ContestJudge
