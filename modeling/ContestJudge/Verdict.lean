import ContestJudge.Json.Value
import ContestJudge.Text.Quoted
import ContestJudge.Text.Utf8

namespace ContestJudge

inductive Mark where
  | wrongAnswer
  | runtimeError
  | timeLimit
  | memoryLimit
  | invalidReturn
  | outputLimit
  | internalError
  deriving DecidableEq, Repr

namespace Mark

def index : Mark → Nat
  | wrongAnswer => 0
  | runtimeError => 1
  | timeLimit => 2
  | memoryLimit => 3
  | invalidReturn => 4
  | outputLimit => 5
  | internalError => 30

def code : Mark → String
  | wrongAnswer => "WA"
  | runtimeError => "RTE"
  | timeLimit => "TLE"
  | memoryLimit => "MLE"
  | invalidReturn => "IR"
  | outputLimit => "OLE"
  | internalError => "IE"

def all : List Mark :=
  [wrongAnswer, runtimeError, timeLimit, memoryLimit, invalidReturn, outputLimit, internalError]

/-- Every mark, the one that names the verdict first. -/
def byPriority : List Mark :=
  [internalError, timeLimit, memoryLimit, outputLimit, runtimeError, invalidReturn, wrongAnswer]

end Mark

/-- A set of marks as a bit mask. Bits without a mark are kept. -/
structure Flags where
  bits : Nat
  deriving DecidableEq, Repr

namespace Flags

def none : Flags := ⟨0⟩

instance : Inhabited Flags := ⟨none⟩

def only (mark : Mark) : Flags := ⟨Nat.pow 2 mark.index⟩

def contains (flags : Flags) (mark : Mark) : Bool := flags.bits.testBit mark.index

def union (a b : Flags) : Flags := ⟨a.bits ||| b.bits⟩

def insert (flags : Flags) (mark : Mark) : Flags := flags.union (only mark)

def insertIf (flags : Flags) (condition : Bool) (mark : Mark) : Flags :=
  if condition then flags.insert mark else flags

def isEmpty (flags : Flags) : Bool := flags.bits == 0

def unknown (flags : Flags) : Nat :=
  Mark.all.foldl (fun bits mark => if bits.testBit mark.index then bits - Nat.pow 2 mark.index else bits)
    flags.bits

/-- The codes of the marks in the order of their bits, the unknown bits last in hexadecimal. -/
def text (flags : Flags) : String :=
  let known := (Mark.all.filter flags.contains).map Mark.code
  let rest := if flags.unknown = 0 then [] else ["0x" ++ String.ofList (Text.Hex.ofNat flags.unknown)]
  " | ".intercalate (known ++ rest)

def verdict (flags : Flags) : String :=
  match Mark.byPriority.find? flags.contains with
  | some mark => mark.code
  | .none => "AC"

end Flags

structure Award where
  passed : Bool
  points : Binary64
  feedback : Option String
  extendedFeedback : Option String
  deriving DecidableEq

structure CaseResult where
  position : Nat
  batch : Option Nat
  flags : Flags
  points : Binary64
  totalPoints : Binary64
  feedback : String
  extendedFeedback : String
  /-- The captured output of the submission. -/
  output : Bytes
  /-- Processor time in seconds. -/
  executionTime : Binary64
  wallTime : Binary64
  /-- Peak memory in KiB. -/
  maxMemory : Nat
  deriving DecidableEq

namespace CaseResult

def fresh (position : Nat) (batch : Option Nat) (totalPoints : Binary64) : CaseResult :=
  ⟨position, batch, .none, 0, totalPoints, "", "", [], 0, 0, 0⟩

def stopped (position : Nat) (batch : Option Nat) (totalPoints : Binary64) (message : String) :
    CaseResult :=
  { fresh position batch totalPoints with flags := .only .internalError, feedback := message }

def failed (r : CaseResult) : Bool := !r.flags.isEmpty

def isAccepted (r : CaseResult) : Bool := r.flags.isEmpty

def replaceText (old : String) : Option String → String
  | some new => if new.isEmpty then old else new
  | none => old

/-- Takes a judgement into the result. The case passes only if nothing failed before and the
judgement passed. -/
def apply (r : CaseResult) (award : Award) : CaseResult :=
  let passed := !r.failed && award.passed
  { r with
    flags := r.flags.insertIf (!passed) .wrongAnswer
    points := if passed then award.points else 0
    feedback := replaceText r.feedback award.feedback
    extendedFeedback := replaceText r.extendedFeedback award.extendedFeedback }

/-- The fields of a record that no clock decides. -/
def recordFields (r : CaseResult) : List (String × Json) :=
  [("position", .ofNat r.position),
    ("batch", .ofOption .ofNat r.batch),
    ("flags", .ofString r.flags.text),
    ("points", .ofBinary64 r.points),
    ("total_points", .ofBinary64 r.totalPoints),
    ("feedback", .ofString r.feedback),
    ("extended_feedback", .ofString r.extendedFeedback)]

def measuredFields (r : CaseResult) : List (String × Json) :=
  [("execution_time", .ofBinary64 r.executionTime),
    ("wall_time", .ofBinary64 r.wallTime),
    ("max_memory", .ofNat r.maxMemory)]

def toJson (r : CaseResult) : Json := .record (r.recordFields ++ r.measuredFields)

end CaseResult
end ContestJudge
