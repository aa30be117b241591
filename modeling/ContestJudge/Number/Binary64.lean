/-!
Binary64 numbers as exact values. A finite number is a sign and a count of the least positive
step, 2 ^ -1074; every operation is exact arithmetic on counts followed by one rounding to the
nearest number, ties to the even one.
-/

namespace ContestJudge

/-- The nearest natural number to n / d, a half going to the even neighbour. -/
def roundHalfEven (n d : Nat) : Nat :=
  let q := n / d
  let r := n % d
  if 2 * r < d ∨ (2 * r = d ∧ q % 2 = 0) then q else q + 1

theorem div_le_round_half_even (n d : Nat) : n / d ≤ roundHalfEven n d := by
  unfold roundHalfEven
  simp only
  split <;> omega

theorem round_half_even_le (n d : Nat) : roundHalfEven n d ≤ n / d + 1 := by
  unfold roundHalfEven
  simp only
  split <;> omega

/-- Steps of 2 ^ -1074 in 2 ^ 1024, the first power of two out of range. -/
def outOfRange : Nat := Nat.pow 2 (1074 + 1024)

/-- Steps of 2 ^ -1074 that fit into 53 significant bits and stay in range. -/
def Representable (steps : Nat) : Prop :=
  Nat.pow 2 (Nat.log2 steps - 52) ∣ steps ∧ steps < outOfRange

instance (steps : Nat) : Decidable (Representable steps) := by
  unfold Representable
  infer_instance

/-- A number of the binary64 format. All NaNs are one. -/
inductive Binary64 where
  | nan
  | infinite (negative : Bool)
  | finite (negative : Bool) (steps : Nat) (representable : Representable steps)
  deriving DecidableEq

namespace Binary64

def stepsPerUnit : Nat := Nat.pow 2 1074

def leastSignificand : Nat := Nat.pow 2 52

/-- The distance between neighbouring numbers at a count of n / d steps. -/
def spacing (n d : Nat) : Nat := Nat.pow 2 (Nat.log2 (n / d) - 52)

def nearest (n d : Nat) : Nat := roundHalfEven n (d * spacing n d) * spacing n d

theorem round_significand_le (n d : Nat) : roundHalfEven n (d * spacing n d) ≤ Nat.pow 2 53 := by
  refine Nat.le_trans (round_half_even_le _ _) ?_
  rw [← Nat.div_div_eq_div_mul]
  unfold spacing
  generalize n / d = x
  suffices x / Nat.pow 2 (x.log2 - 52) < Nat.pow 2 53 from this
  simp only [Nat.pow_eq]
  rw [Nat.div_lt_iff_lt_mul (Nat.two_pow_pos _), ← Nat.pow_add]
  refine Nat.lt_of_lt_of_le Nat.lt_log2_self ?_
  exact Nat.pow_le_pow_right (by decide) (by omega)

theorem spacing_dvd_of_significand {m : Nat} (bound : m ≤ Nat.pow 2 53) (k : Nat) :
    Nat.pow 2 (Nat.log2 (m * Nat.pow 2 k) - 52) ∣ m * Nat.pow 2 k := by
  simp only [Nat.pow_eq] at bound ⊢
  rcases Nat.eq_zero_or_pos m with rfl | positive
  · simp
  have nonzero : m * 2 ^ k ≠ 0 := Nat.mul_ne_zero (by omega) (Nat.ne_of_gt (Nat.two_pow_pos k))
  rcases Nat.lt_or_eq_of_le bound with below | rfl
  · have small : (m * 2 ^ k).log2 < 53 + k := by
      rw [Nat.log2_lt nonzero, Nat.pow_add]
      exact Nat.mul_lt_mul_of_pos_right below (Nat.two_pow_pos k)
    exact Nat.dvd_trans (Nat.pow_dvd_pow 2 (by omega)) (Nat.dvd_mul_left _ _)
  · rw [← Nat.pow_add, Nat.log2_two_pow]
    exact Nat.pow_dvd_pow 2 (by omega)

theorem nearest_dvd (n d : Nat) : Nat.pow 2 (Nat.log2 (nearest n d) - 52) ∣ nearest n d := by
  have bound := round_significand_le n d
  unfold nearest
  unfold spacing at bound ⊢
  exact spacing_dvd_of_significand bound _

/-- The number nearest to n / d steps; a count of 2 ^ 1024 or more is infinite. -/
def ofSteps (negative : Bool) (n d : Nat) : Binary64 :=
  if h : nearest n d < outOfRange then .finite negative (nearest n d) ⟨nearest_dvd n d, h⟩
  else .infinite negative

def ofRatio (negative : Bool) (n d : Nat) : Binary64 := ofSteps negative (n * stepsPerUnit) d

def ofNat (n : Nat) : Binary64 := ofRatio false n 1

instance (n : Nat) : OfNat Binary64 n := ⟨ofNat n⟩

def signBit : Nat := Nat.pow 2 63

def ofBits (word : UInt64) : Binary64 :=
  let bits := word.toNat
  let negative := bits / signBit = 1
  let exponent := bits / leastSignificand % 2048
  let fraction := bits % leastSignificand
  if exponent = 2047 then
    if fraction = 0 then .infinite negative else .nan
  else if exponent = 0 then ofSteps negative fraction 1
  else ofSteps negative ((leastSignificand + fraction) * Nat.pow 2 (exponent - 1)) 1

/-- The 64-bit word of a number; NaN is the quiet one without payload. -/
def toBits : Binary64 → UInt64
  | .nan => 0x7ff8000000000000
  | .infinite negative => if negative then 0xfff0000000000000 else 0x7ff0000000000000
  | .finite negative steps _ =>
    let shift := Nat.log2 steps - 52
    let magnitude := shift * leastSignificand + steps / Nat.pow 2 shift
    .ofNat (if negative then signBit + magnitude else magnitude)

def isNan : Binary64 → Bool
  | .nan => true
  | _ => false

def isFinite : Binary64 → Bool
  | .finite .. => true
  | _ => false

def signedSteps (negative : Bool) (steps : Nat) : Int :=
  if negative then -(steps : Int) else steps

/-- The order of the numbers: the two zeros are equal, and nothing compares with NaN. -/
def le : Binary64 → Binary64 → Bool
  | .nan, _ => false
  | _, .nan => false
  | .infinite true, _ => true
  | _, .infinite false => true
  | .infinite false, _ => false
  | _, .infinite true => false
  | .finite m x _, .finite n y _ => decide (signedSteps m x ≤ signedSteps n y)

def lt (x y : Binary64) : Bool := x.le y && !y.le x

def isZero : Binary64 → Bool
  | .finite _ 0 _ => true
  | _ => false

def isNegative : Binary64 → Bool
  | .nan => false
  | .infinite negative => negative
  | .finite negative _ _ => negative

def negate : Binary64 → Binary64
  | .nan => .nan
  | .infinite negative => .infinite (!negative)
  | .finite negative steps h => .finite (!negative) steps h

/-- The greater of two numbers, the positive one of two zeros; a NaN gives way to the other one. -/
def max (x y : Binary64) : Binary64 :=
  if x.isNan then y
  else if y.isNan then x
  else if x.lt y || (x.isZero && y.isZero && x.isNegative) then y else x

def clamp (x low high : Binary64) : Binary64 :=
  if x.lt low then low
  else if high.lt x then high
  else x

def mul : Binary64 → Binary64 → Binary64
  | .nan, _ => .nan
  | _, .nan => .nan
  | .infinite m, y => if y.isZero then .nan else .infinite (m != y.isNegative)
  | x, .infinite n => if x.isZero then .nan else .infinite (x.isNegative != n)
  | .finite m x _, .finite n y _ => ofSteps (m != n) (x * y) stepsPerUnit

def div : Binary64 → Binary64 → Binary64
  | .nan, _ => .nan
  | _, .nan => .nan
  | .infinite m, y => if !y.isFinite then .nan else .infinite (m != y.isNegative)
  | x, .infinite n => ofSteps (x.isNegative != n) 0 1
  | .finite m x _, .finite n y _ =>
    if y = 0 then
      if x = 0 then .nan else .infinite (m != n)
    else ofSteps (m != n) (x * stepsPerUnit) y

instance : Mul Binary64 := ⟨mul⟩
instance : Div Binary64 := ⟨div⟩
instance : Inhabited Binary64 := ⟨0⟩

end Binary64
end ContestJudge
