import ContestJudge.Json.Value
/-!
The numbers that literals name. A literal without point and exponent is an integer while it fits
into 64 bits. Any other literal is read as its first digits, as many as fit into 64 bits, scaled by
a power of ten with one rounded multiplication or division.
-/

namespace ContestJudge

abbrev wordBound : Nat := 18446744073709551616

inductive JsonNumber where
  | natural (n : Nat)
  /-- The number -n, for positive n. -/
  | negative (n : Nat)
  | real (x : Binary64)
  deriving DecidableEq

namespace NumberLiteral

/-- Reads digits onto a number while it stays below 2 ^ 64, and leaves the rest. -/
def accumulate : List Nat → Nat → Nat × List Nat
  | [], value => (value, [])
  | digit :: rest, value =>
    if 10 * value + digit < wordBound then accumulate rest (10 * value + digit)
    else (value, digit :: rest)

def powerOfTen (exponent : Nat) : Binary64 := .ofNat (Nat.pow 10 exponent)

/-- Divides by 10 ^ shift in rounded divisions by at most 10 ^ 308 each. -/
def scaleDown (x : Binary64) (shift : Nat) : Binary64 :=
  if shift ≤ 308 then x / powerOfTen shift
  else if x.isZero then x
  else scaleDown (x / powerOfTen 308) (shift - 308)
termination_by shift

def scaled? (value : Nat) (exponent : Int) : Option Binary64 :=
  let x := Binary64.ofNat value
  if exponent < 0 then some (scaleDown x (-exponent).toNat)
  else if exponent ≤ 308 then
    let y := x * powerOfTen exponent.toNat
    if y.isFinite then some y else none
  else if x.isZero then some x else none

def exponentLimit : Nat := 2147483648

/-- The number of digits of a whole part and a fraction times the power of ten they leave over. -/
def significand (literal : NumberLiteral) : Nat × Int :=
  let (value, left) := accumulate literal.whole 0
  match literal.fraction with
  | none => (value, left.length)
  | some fraction =>
    let (value, unread) := accumulate fraction value
    (value, left.length - (fraction.length - unread.length : Nat))

def magnitude? (literal : NumberLiteral) : Option Binary64 :=
  let (value, shift) := literal.significand
  match literal.exponent with
  | none => scaled? value shift
  | some (sign, digits) =>
    let exponent := digitsValue digits
    if exponent < exponentLimit then
      scaled? value (if sign = .minus then shift - exponent else shift + exponent)
    else if value = 0 ∨ sign = .minus then some 0
    else none

def value? (literal : NumberLiteral) : Option JsonNumber :=
  let (value, left) := accumulate literal.whole 0
  let real (x : Binary64) : JsonNumber := .real (if literal.negative then x.negate else x)
  if literal.fraction.isNone ∧ literal.exponent.isNone ∧ left.isEmpty then
    if !literal.negative then some (.natural value)
    else if value = 0 ∨ value > 9223372036854775808 then some (real (.ofNat value))
    else some (.negative value)
  else literal.magnitude?.map real

end NumberLiteral

def JsonNumber.toBinary64 : JsonNumber → Binary64
  | .natural n => .ofNat n
  | .negative n => (Binary64.ofNat n).negate
  | .real x => x

end ContestJudge
