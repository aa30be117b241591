import ContestJudge.Fault
import ContestJudge.Number.Decimal
import ContestJudge.Text.Quoted
import ContestJudge.Text.Words
/-!
The points line of an interactor: the first line of stderr that begins with the word points, a
space and a number. A number is an optional sign, digits of any script, and at most one point with
at least one digit after it.
-/

namespace ContestJudge.Points

def lead : Bytes := Utf8.encode "points "

def digit? : Bytes → Option (Char × Bytes)
  | [] => none
  | first :: rest =>
    match Utf8.next first rest with
    | (some char, extra) =>
      if Character.isDecimalDigit char then some (char, rest.drop extra) else none
    | (none, _) => none

theorem digit_shorter {bytes rest : Bytes} {char : Char} (h : digit? bytes = some (char, rest)) :
    rest.length < bytes.length := by
  cases bytes with
  | nil => simp [digit?] at h
  | cons first tail =>
    simp only [digit?] at h
    split at h
    · split at h
      · cases h
        simp only [List.length_drop, List.length_cons]
        omega
      · simp at h
    · simp at h

def digits (bytes : Bytes) : List Char × Bytes :=
  match _h : digit? bytes with
  | none => ([], bytes)
  | some (char, rest) =>
    let (more, rest) := digits rest
    (char :: more, rest)
termination_by bytes.length
decreasing_by exact digit_shorter ‹_›

structure Number where
  negative : Bool
  whole : List Char
  fraction : List Char
  deriving DecidableEq

/-- The longest number at the start of bytes. -/
def number? (bytes : Bytes) : Option Number :=
  let (negative, bytes) := match bytes with
    | 45 :: rest => (true, rest)
    | 43 :: rest => (false, rest)
    | bytes => (false, bytes)
  let (whole, rest) := digits bytes
  let fraction := match rest with
    | 46 :: rest => (digits rest).1
    | _ => []
  if whole.isEmpty && fraction.isEmpty then none else some ⟨negative, whole, fraction⟩

def onLine? (line : Bytes) : Option Number :=
  if lead.isPrefixOf line then number? (line.drop lead.length) else none

def find? (stderr : Bytes) : Option Number := (splitAt (· == 10) stderr).findSome? onLine?

/-- The value of a number. Only digits of the ASCII range have one. -/
def Number.value? (number : Number) : Option Binary64 :=
  let written := number.whole ++ number.fraction
  if written.all fun c => c.isDigit then
    some (.ofRatio number.negative (digitsValue (written.map fun c => c.toNat - 48))
      (Nat.pow 10 number.fraction.length))
  else none

/-- The share of the points that a points line awards, between zero and one. -/
def fraction (stderr : Bytes) : Except InternalFault Binary64 :=
  match find? stderr with
  | none => .error (.pointsMissing (Text.quoted (Utf8.decodeLossy stderr)))
  | some number =>
    match number.value? with
    | none => .error .pointsUnparsable
    | some value =>
      if (Binary64.le 0 value) && value.le 1 then .ok value else .error (.pointsOutOfRange value)

end ContestJudge.Points
