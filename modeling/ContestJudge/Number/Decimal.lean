import ContestJudge.Number.Binary64

namespace ContestJudge

/-- A number of which digits are read: high * scale + low. The parts are joined only now and then, so
that a long number takes few long multiplications. -/
structure DigitReading where
  high : Nat
  low : Nat
  scale : Nat

namespace DigitReading

def start : DigitReading := ⟨0, 0, 1⟩

def value (r : DigitReading) : Nat := r.high * r.scale + r.low

def joinScale : Nat := Nat.pow 10 200

def push (r : DigitReading) (digit : Nat) : DigitReading :=
  if r.scale < joinScale then ⟨r.high, 10 * r.low + digit, 10 * r.scale⟩ else ⟨r.value, digit, 10⟩

end DigitReading

def digitsValue (digits : List Nat) : Nat := (digits.foldl DigitReading.push .start).value

def digitsOf (n : Nat) : List Nat := (Nat.toDigits 10 n).map fun c => c.toNat - 48

def digitChar (digit : Nat) : Char := Char.ofNat (48 + digit)

/-- A positive decimal number 0.d₁d₂d₃… times a power of ten. -/
structure Decimal where
  digits : List Nat
  /-- Digits before the decimal point; zero or negative where the number is below 0.1. -/
  point : Int
  deriving DecidableEq, Repr

namespace Decimal

def dropZeros (digits : List Nat) : List Nat := (digits.reverse.dropWhile (· == 0)).reverse

def toBinary64 (negative : Bool) (x : Decimal) : Binary64 :=
  let shift := x.point - x.digits.length
  if shift ≥ 0 then .ofRatio negative (digitsValue x.digits * Nat.pow 10 shift.toNat) 1
  else .ofRatio negative (digitsValue x.digits) (Nat.pow 10 (-shift).toNat)

/-- The exponent of the greatest power of ten that is at most n / d, for positive n and d. -/
def decade (n d : Nat) : Int :=
  if n ≥ d then (digitsOf (n / d)).length - 1
  else -((digitsOf ((d - 1) / n)).length : Int)

inductive Tie where
  | upward
  | even
  deriving DecidableEq, Repr

structure ReadBack where
  low : Nat
  high : Nat
  closed : Bool

/-- Halfway to both neighbours; the lower neighbour of a power of two is at half the distance. -/
def readBack (steps : Nat) : ReadBack :=
  let gap := Binary64.spacing steps 1
  let significand := steps / gap
  let below := if significand = Binary64.leastSignificand ∧ gap > 1 then gap else 2 * gap
  ⟨4 * steps - below, 4 * steps + 2 * gap, significand % 2 = 0⟩

def ReadBack.holds (range : ReadBack) (n d : Nat) : Bool :=
  if range.closed then range.low * d ≤ n && n ≤ range.high * d
  else range.low * d < n && n < range.high * d

/-- The decimal number with the given last place next to the count, if one reads back: a natural
number of units of that place. -/
def onGrid (tie : Tie) (steps : Nat) (place : Int) : Option Nat :=
  let up := if place ≥ 0 then Nat.pow 10 place.toNat else 1
  let down := if place ≥ 0 then 1 else Nat.pow 10 (-place).toNat
  let n := steps * down
  let d := Binary64.stepsPerUnit * up
  let floor := n / d
  let reads (k : Nat) := (readBack steps).holds (4 * (k * d)) down
  match reads floor, reads (floor + 1) with
  | true, false => some floor
  | false, true => some (floor + 1)
  | false, false => none
  | true, true =>
    let rest := n % d
    if 2 * rest < d then some floor
    else if 2 * rest > d then some (floor + 1)
    else match tie with
      | .upward => some (floor + 1)
      | .even => some (if floor % 2 = 0 then floor else floor + 1)

def searchGrids (tie : Tie) (steps : Nat) : Nat → Int → Decimal
  | 0, place => ⟨digitsOf (steps / Binary64.stepsPerUnit), place⟩
  | tries + 1, place =>
    match onGrid tie steps place with
    | some units =>
      let digits := digitsOf units
      ⟨dropZeros digits, place + digits.length⟩
    | none => searchGrids tie steps tries (place - 1)

/-- The fewest digits that read back as a positive count of steps, and of these the nearest.
Seventeen digits always read back. -/
def shortest (tie : Tie) (steps : Nat) : Decimal :=
  searchGrids tie steps 17 (decade steps Binary64.stepsPerUnit)

end Decimal
end ContestJudge
