import ContestJudge.Text.Utf8
/-!
Reading a stream up to a limit. What lies past the limit is left unread or thrown away.
-/

namespace ContestJudge

inductive OutputIntegrity where
  /-- At the end of the stream, within the limit. -/
  | complete
  | truncatedByJudgeLimit
  /-- A read failed before the end of the stream. -/
  | readError
  deriving DecidableEq, Repr

def OutputIntegrity.text : OutputIntegrity → String
  | .complete => "complete"
  | .truncatedByJudgeLimit => "truncated_by_judge_limit"
  | .readError => "read_error"

inductive Overflow where
  /-- Stop reading. -/
  | stop
  /-- Read to the end and keep nothing more. -/
  | discard
  deriving DecidableEq, Repr

/-- What one read of a stream gives. No bytes are the end of the stream. -/
inductive ReadOutcome where
  | chunk (data : Bytes)
  | interrupted
  | failed
  deriving DecidableEq

namespace ReadOutcome

/-- Some bytes as they are read from a stream that gives at most so many at a time. The first read
is there also if there are no bytes. -/
def chunks (size : Nat) (data : Bytes) : List ReadOutcome :=
  let starts := List.range ((data.length + size - 1) / size)
  .chunk (data.take size) :: (starts.drop 1).map fun i => .chunk ((data.drop (i * size)).take size)

def data : ReadOutcome → Bytes
  | .chunk data => data
  | _ => []

def total (reads : List ReadOutcome) : Nat :=
  reads.foldl (fun size read => size + read.data.length) 0

def bytes (reads : List ReadOutcome) : Bytes := reads.flatMap data

end ReadOutcome

structure CapturedStream where
  data : Bytes
  integrity : OutputIntegrity
  deriving DecidableEq

def CapturedStream.empty : CapturedStream := ⟨[], .complete⟩

structure Capture where
  /-- What was kept, the last part first. -/
  parts : List Bytes
  size : Nat
  integrity : OutputIntegrity
  size_eq : size = parts.flatten.length

namespace Capture

def start : Capture := ⟨[], 0, .complete, rfl⟩

def keep (capture : Capture) (data : Bytes) : Capture where
  parts := data :: capture.parts
  size := data.length + capture.size
  integrity := capture.integrity
  size_eq := by simp [capture.size_eq]

def take (capture : Capture) (limit : Nat) (chunk : Bytes) : Capture :=
  if capture.integrity = .truncatedByJudgeLimit then capture
  else if capture.size + chunk.length > limit then
    { capture.keep (chunk.take (limit - capture.size)) with integrity := .truncatedByJudgeLimit }
  else capture.keep chunk

/-- A failed read; a truncated capture stays truncated. -/
def fail (capture : Capture) : Capture :=
  if capture.integrity = .complete then { capture with integrity := .readError } else capture

def finish (capture : Capture) : CapturedStream := ⟨capture.parts.reverse.flatten, capture.integrity⟩

end Capture

/-- Reads on from what was captured. Gives the capture and the reads that were not made. -/
def readOn (limit : Nat) (overflow : Overflow) :
    Capture → List ReadOutcome → Capture × List ReadOutcome
  | capture, [] => (capture, [])
  | capture, .interrupted :: rest => readOn limit overflow capture rest
  | capture, .failed :: rest => (capture.fail, rest)
  | capture, .chunk [] :: rest => (capture, rest)
  | capture, .chunk (b :: data) :: rest =>
    let taken := capture.take limit (b :: data)
    if taken.integrity = .truncatedByJudgeLimit ∧ overflow = .stop then (taken, rest)
    else readOn limit overflow taken rest

def readBounded (reads : List ReadOutcome) (limit : Nat) (overflow : Overflow) :
    CapturedStream × List ReadOutcome :=
  let (capture, rest) := readOn limit overflow .start reads
  (capture.finish, rest)

structure CapturedOutput where
  stdout : Bytes
  stderr : Bytes
  stdoutIntegrity : OutputIntegrity
  stderrIntegrity : OutputIntegrity
  deriving DecidableEq

def CapturedOutput.isTruncated (output : CapturedOutput) : Bool :=
  output.stdoutIntegrity == .truncatedByJudgeLimit

structure MemoryFile where
  /-- What was written, the last part first. -/
  parts : List Bytes
  size : Nat
  size_eq : size = parts.flatten.length

namespace MemoryFile

def empty : MemoryFile := ⟨[], 0, rfl⟩

def write (file : MemoryFile) (data : Bytes) : MemoryFile where
  parts := data :: file.parts
  size := data.length + file.size
  size_eq := by simp [file.size_eq]

def content (file : MemoryFile) : Bytes := file.parts.reverse.flatten

end MemoryFile
end ContestJudge
