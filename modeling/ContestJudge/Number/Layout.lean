import ContestJudge.Number.Decimal
/-!
How a number is laid out as text. A literal is the text of a number in parts; the layouts of this
library are values of one type and differ in where positional notation ends and in whether a whole
number keeps its point.
-/

namespace ContestJudge

inductive ExponentSign where
  | bare
  | plus
  | minus
  deriving DecidableEq, Repr

def ExponentSign.write : ExponentSign → List Char
  | bare => []
  | plus => ['+']
  | minus => ['-']

structure NumberLiteral where
  negative : Bool
  whole : List Nat
  /-- Digits after the point; at least one where there is a point. -/
  fraction : Option (List Nat)
  exponent : Option (ExponentSign × List Nat)
  deriving DecidableEq, Repr

def writeDigits (digits : List Nat) : List Char := digits.map digitChar

def NumberLiteral.write (literal : NumberLiteral) : List Char :=
  (if literal.negative then ['-'] else []) ++ writeDigits literal.whole ++
    (match literal.fraction with
      | none => []
      | some digits => '.' :: writeDigits digits) ++
    (match literal.exponent with
      | none => []
      | some (sign, digits) => 'e' :: sign.write ++ writeDigits digits)

structure NumberLayout where
  /-- The decimal exponents written positionally, from the first to below the second; every
  exponent when absent. -/
  positional : Option (Int × Int)
  /-- Whether a whole number in positional notation ends in a point and a zero. -/
  wholePoint : Bool
  /-- How the sign of a positive exponent is written. -/
  positiveExponent : ExponentSign
  tie : Decimal.Tie

namespace NumberLayout

/-- Messages: always positional, whole numbers without a point. -/
def message : NumberLayout := ⟨none, false, .bare, .upward⟩

/-- Debug text: positional from 1e-4 to below 1e16. -/
def debug : NumberLayout := ⟨some (-4, 16), true, .bare, .upward⟩

/-- Records: positional from 1e-5 to below 1e16. -/
def record : NumberLayout := ⟨some (-5, 16), true, .plus, .even⟩

def isPositional (layout : NumberLayout) (exponent : Int) : Bool :=
  match layout.positional with
  | none => true
  | some (low, high) => low ≤ exponent && exponent < high

def emptyFraction (layout : NumberLayout) : Option (List Nat) :=
  if layout.wholePoint then some [0] else none

def decimalLiteral (layout : NumberLayout) (negative : Bool) (x : Decimal) : NumberLiteral :=
  let exponent := x.point - 1
  if layout.isPositional exponent then
    if x.point ≤ 0 then
      ⟨negative, [0], some (List.replicate (-x.point).toNat 0 ++ x.digits), none⟩
    else
      let whole := x.point.toNat
      if x.digits.length ≤ whole then
        ⟨negative, x.digits ++ List.replicate (whole - x.digits.length) 0, layout.emptyFraction,
          none⟩
      else ⟨negative, x.digits.take whole, some (x.digits.drop whole), none⟩
  else
    ⟨negative, x.digits.take 1, if x.digits.length ≤ 1 then none else some (x.digits.drop 1),
      some (if exponent < 0 then .minus else layout.positiveExponent, digitsOf exponent.natAbs)⟩

def literal (layout : NumberLayout) (negative : Bool) (steps : Nat) : NumberLiteral :=
  if steps = 0 then ⟨negative, [0], layout.emptyFraction, none⟩
  else layout.decimalLiteral negative (Decimal.shortest layout.tie steps)

def text (layout : NumberLayout) : Binary64 → String
  | .nan => "NaN"
  | .infinite negative => if negative then "-inf" else "inf"
  | .finite negative steps _ => String.ofList (layout.literal negative steps).write

end NumberLayout

def Binary64.inMessage (x : Binary64) : String := NumberLayout.message.text x

end ContestJudge
