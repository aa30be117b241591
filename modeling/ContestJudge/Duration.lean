import ContestJudge.Number.Layout

namespace ContestJudge

abbrev nanosecondBound : Nat := 18446744073709551616000000000

structure Duration where
  nanoseconds : Nat
  in_range : nanoseconds < nanosecondBound
  deriving DecidableEq

namespace Duration

def nanosPerSecond : Nat := 1000000000

def ofNanoseconds? (n : Nat) : Option Duration :=
  if h : n < nanosecondBound then some ⟨n, h⟩ else none

def zero : Duration := ⟨0, by decide⟩

instance : Inhabited Duration := ⟨zero⟩

def ofSeconds (n : Nat) (h : n * nanosPerSecond < nanosecondBound := by decide) :
    Duration :=
  ⟨n * nanosPerSecond, h⟩

def seconds (d : Duration) : Nat := d.nanoseconds / nanosPerSecond

def subsecond (d : Duration) : Nat := d.nanoseconds % nanosPerSecond

def add? (x y : Duration) : Option Duration := ofNanoseconds? (x.nanoseconds + y.nanoseconds)

instance : LE Duration := ⟨fun x y => x.nanoseconds ≤ y.nanoseconds⟩
instance : LT Duration := ⟨fun x y => x.nanoseconds < y.nanoseconds⟩
instance (x y : Duration) : Decidable (x ≤ y) :=
  inferInstanceAs (Decidable (x.nanoseconds ≤ y.nanoseconds))
instance (x y : Duration) : Decidable (x < y) :=
  inferInstanceAs (Decidable (x.nanoseconds < y.nanoseconds))

/-- The number of steps nearest to the whole seconds plus the number nearest to the rest, rounded
again. -/
def toSeconds (d : Duration) : Binary64 :=
  let whole := Binary64.nearest (d.seconds * Binary64.stepsPerUnit) 1
  let rest := Binary64.nearest (d.subsecond * Binary64.stepsPerUnit) nanosPerSecond
  .ofSteps false (whole + rest) 1

/-- The length of time nearest to a number of seconds, a half nanosecond going to the even
neighbour. None for NaN, for a number below zero and from 2 ^ 64 seconds on. -/
def ofSeconds? : Binary64 → Option Duration
  | .finite negative steps _ =>
    if negative ∧ steps ≠ 0 then none
    else ofNanoseconds? (roundHalfEven (steps * nanosPerSecond) Binary64.stepsPerUnit)
  | _ => none

def ceilSeconds (d : Duration) : Nat :=
  match d.toSeconds with
  | .finite _ steps _ => (steps + Binary64.stepsPerUnit - 1) / Binary64.stepsPerUnit
  | _ => 0

def text (d : Duration) : String :=
  let digits := Nat.toDigits 10 d.subsecond
  toString d.seconds ++ "." ++ String.ofList (List.replicate (9 - digits.length) '0' ++ digits)

end Duration
end ContestJudge
