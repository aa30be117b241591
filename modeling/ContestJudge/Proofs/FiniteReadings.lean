import ContestJudge.Json.Record
import ContestJudge.Proofs.Binary64Order
/-!
Rounding and range. The nearest number to a count of steps is never far from the count, so that a
number read from a literal is finite or is refused.
-/

namespace ContestJudge

namespace Binary64

-- The exponents are set aside, as powers of this size must not be computed.
theorem lt_outOfRange_of_units {units bits : Nat} (few : bits ≤ 1024)
    (inRange : units < Nat.pow 2 bits) : units * stepsPerUnit < outOfRange := by
  have unit := stepsPerUnit_pos
  have units_lt : units * stepsPerUnit < Nat.pow 2 bits * stepsPerUnit :=
    Nat.mul_lt_mul_of_pos_right inRange unit
  refine Nat.lt_of_lt_of_le units_lt ?_
  revert few
  unfold outOfRange stepsPerUnit
  generalize 1074 = least
  generalize 1024 = most
  intro few
  calc Nat.pow 2 bits * Nat.pow 2 least
    _ ≤ 2 ^ most * 2 ^ least := Nat.mul_le_mul_right _ (Nat.pow_le_pow_right (by decide) few)
    _ = 2 ^ (least + most) := by rw [Nat.mul_comm, Nat.pow_add]

theorem spacing_pos (n d : Nat) : 0 < spacing n d := Nat.two_pow_pos _

theorem two_mul_spacing_le {n d : Nat} (several : 2 ≤ n / d) : 2 * spacing n d ≤ n / d := by
  have log : 2 ^ (n / d).log2 ≤ n / d := Nat.log2_self_le (by omega)
  have positive : 1 ≤ (n / d).log2 := (Nat.le_log2 (by omega)).mpr several
  calc 2 * spacing n d
    _ = 2 ^ ((n / d).log2 - 52 + 1) := by
      rw [spacing, Nat.pow_eq, Nat.pow_succ, Nat.mul_comm]
    _ ≤ 2 ^ (n / d).log2 := Nat.pow_le_pow_right (by decide) (by omega)
    _ ≤ n / d := log

theorem spacing_of_few {n d : Nat} (few : n / d < 2) : spacing n d = 1 := by
  have log : (n / d).log2 = 0 := by
    rcases Nat.lt_or_ge (n / d) 1 with none | one
    · rw [Nat.lt_one_iff.mp none]
      decide
    · rw [show n / d = 1 by omega]
      decide
  rw [spacing, log]

/-- A count is off by less than one and a half of itself once it is rounded. -/
theorem nearest_le (n d : Nat) : nearest n d ≤ 2 * (n / d) + 1 := by
  have rounded : nearest n d ≤ (n / d / spacing n d + 1) * spacing n d := by
    have bound := round_half_even_le n (d * spacing n d)
    rw [← Nat.div_div_eq_div_mul] at bound
    exact Nat.mul_le_mul_right _ bound
  have floor : n / d / spacing n d * spacing n d ≤ n / d := Nat.div_mul_le_self _ _
  rw [Nat.add_mul, Nat.one_mul] at rounded
  rcases Nat.lt_or_ge (n / d) 2 with few | several
  · have single := spacing_of_few few
    omega
  · have close := two_mul_spacing_le several
    omega

theorem le_nearest {n d : Nat} (several : 2 ≤ n / d) : n / d ≤ 2 * nearest n d := by
  have rounded : n / d / spacing n d * spacing n d ≤ nearest n d := by
    have bound := div_le_round_half_even n (d * spacing n d)
    rw [← Nat.div_div_eq_div_mul] at bound
    exact Nat.mul_le_mul_right _ bound
  have above : n / d < n / d / spacing n d * spacing n d + spacing n d :=
    Nat.lt_div_mul_add (spacing_pos n d)
  have close := two_mul_spacing_le several
  omega

theorem ofSteps_cases (negative : Bool) (n d : Nat) :
    (∃ h, ofSteps negative n d = .finite negative (nearest n d) h) ∨
      ofSteps negative n d = .infinite negative := by
  unfold ofSteps
  split
  · rename_i inRange
    exact .inl ⟨⟨nearest_dvd n d, inRange⟩, rfl⟩
  · exact .inr rfl

theorem isFinite_ofSteps {n d : Nat} (negative : Bool) (inRange : 2 * (n / d) + 1 < outOfRange) :
    (ofSteps negative n d).isFinite := by
  have bound := nearest_le n d
  rw [ofSteps, dif_pos (by omega)]
  rfl

theorem isFinite_ofSteps_div {steps divisor : Nat} (negative : Bool) (inRange : steps < outOfRange)
    (large : 4 * stepsPerUnit ≤ divisor) :
    (ofSteps negative (steps * stepsPerUnit) divisor).isFinite := by
  have unit := stepsPerUnit_pos
  have wide : 4 * stepsPerUnit < outOfRange :=
    lt_outOfRange_of_units (by decide) (by decide : 4 < Nat.pow 2 3)
  have quarter : steps * stepsPerUnit / divisor ≤ steps / 4 := by
    calc steps * stepsPerUnit / divisor
      _ ≤ steps * stepsPerUnit / (4 * stepsPerUnit) := Nat.div_le_div_left large (by omega)
      _ = steps / 4 := Nat.mul_div_mul_right steps 4 unit
  apply isFinite_ofSteps
  omega

theorem div_of_nonzero {m n : Bool} {steps divisor : Nat} {h : Representable steps}
    {h' : Representable divisor} (nonzero : divisor ≠ 0) :
    (finite m steps h).div (finite n divisor h') =
      ofSteps (m != n) (steps * stepsPerUnit) divisor :=
  if_neg nonzero

theorem isFinite_div_ofSteps {x : Binary64} (finite : x.isFinite) {n d : Nat}
    (large : 4 * stepsPerUnit ≤ nearest n d) : (x.div (ofSteps false n d)).isFinite := by
  have unit := stepsPerUnit_pos
  have wide : 4 * stepsPerUnit < outOfRange :=
    lt_outOfRange_of_units (by decide) (by decide : 4 < Nat.pow 2 3)
  cases x with
  | nan => cases finite
  | infinite negative => cases finite
  | finite negative steps representable =>
    rcases ofSteps_cases false n d with ⟨h, inRange⟩ | outside
    · rw [inRange, div_of_nonzero (by omega)]
      exact isFinite_ofSteps_div _ representable.2 large
    · rw [outside]
      apply isFinite_ofSteps
      omega

theorem isFinite_negate (x : Binary64) : x.negate.isFinite = x.isFinite := by
  cases x <;> rfl

theorem isFinite_ofNat {n : Nat} (fits : n < wordBound) : (ofNat n).isFinite := by
  have wide : 2 * wordBound = Nat.pow 2 65 := by decide
  have inRange : (2 * n + 1) * stepsPerUnit < outOfRange :=
    lt_outOfRange_of_units (by decide) (by omega : 2 * n + 1 < Nat.pow 2 65)
  have positive := stepsPerUnit_pos
  rw [ofNat, ofRatio]
  apply isFinite_ofSteps
  rw [Nat.div_one]
  rw [Nat.add_mul, Nat.mul_assoc, Nat.one_mul] at inRange
  omega

end Binary64

namespace NumberLiteral

open Binary64

theorem accumulate_lt {value : Nat} (fits : value < wordBound) (digits : List Nat) :
    (accumulate digits value).1 < wordBound := by
  induction digits generalizing value with
  | nil => exact fits
  | cons digit digits ih =>
    unfold accumulate
    split
    · rename_i more
      exact ih more
    · exact fits

theorem significand_lt (literal : NumberLiteral) : literal.significand.1 < wordBound := by
  have whole := accumulate_lt (by decide : 0 < wordBound) literal.whole
  unfold significand
  simp only
  split
  · exact whole
  · exact accumulate_lt whole _

/-- A power of ten that divides is at least four, if it is in range at all. -/
theorem four_le_powerOfTen {shift : Nat} (positive : 0 < shift) :
    4 * stepsPerUnit ≤ nearest (Nat.pow 10 shift * stepsPerUnit) 1 := by
  have ten : 10 ≤ Nat.pow 10 shift := by
    calc 10
      _ = 10 ^ 1 := rfl
      _ ≤ 10 ^ shift := Nat.pow_le_pow_right (by decide) positive
  have steps : 10 * stepsPerUnit ≤ Nat.pow 10 shift * stepsPerUnit := Nat.mul_le_mul_right _ ten
  have unit := stepsPerUnit_pos
  have several : 2 ≤ Nat.pow 10 shift * stepsPerUnit / 1 := by omega
  have above := le_nearest several
  omega

theorem isFinite_div_powerOfTen {x : Binary64} (finite : x.isFinite) {shift : Nat}
    (positive : 0 < shift) : (x / powerOfTen shift).isFinite := by
  have large := four_le_powerOfTen positive
  rw [powerOfTen, ofNat, ofRatio]
  exact isFinite_div_ofSteps finite large

theorem isFinite_scaleDown {x : Binary64} (finite : x.isFinite) {shift : Nat}
    (positive : 0 < shift) : (scaleDown x shift).isFinite := by
  induction shift using Nat.strongRecOn generalizing x with
  | ind shift ih =>
    rw [scaleDown]
    split
    · exact isFinite_div_powerOfTen finite positive
    · split
      · exact finite
      · exact ih (shift - 308) (by omega) (isFinite_div_powerOfTen finite (by decide)) (by omega)

theorem isFinite_scaled? {value : Nat} (fits : value < wordBound) {exponent : Int} {x : Binary64}
    (scaled : scaled? value exponent = some x) : x.isFinite := by
  have whole := isFinite_ofNat fits
  unfold scaled? at scaled
  simp only at scaled
  generalize Binary64.ofNat value = count at scaled whole
  split at scaled
  · obtain rfl := Option.some.inj scaled
    exact isFinite_scaleDown whole (by omega)
  · split at scaled
    · split at scaled
      · rename_i inRange
        obtain rfl := Option.some.inj scaled
        exact inRange
      · cases scaled
    · split at scaled
      · obtain rfl := Option.some.inj scaled
        exact whole
      · cases scaled

theorem isFinite_magnitude? {literal : NumberLiteral} {x : Binary64}
    (read : literal.magnitude? = some x) : x.isFinite := by
  have fits := significand_lt literal
  have zero : (0 : Binary64).isFinite := isFinite_ofNat (by decide)
  unfold magnitude? at read
  generalize literal.significand = counted at read fits
  obtain ⟨value, shift⟩ := counted
  generalize (0 : Binary64) = none at read zero
  simp only at read
  split at read
  · exact isFinite_scaled? fits read
  · split at read
    · exact isFinite_scaled? fits read
    · split at read
      · obtain rfl := Option.some.inj read
        exact zero
      · cases read

theorem isFinite_value? {literal : NumberLiteral} {number : JsonNumber}
    (read : literal.value? = some number) : number.toBinary64.isFinite := by
  have fits := accumulate_lt (by decide : 0 < wordBound) literal.whole
  have signed {x : Binary64} (finite : x.isFinite) :
      (if literal.negative then x.negate else x).isFinite := by
    split
    · rw [isFinite_negate]
      exact finite
    · exact finite
  unfold value? at read
  generalize accumulate literal.whole 0 = counted at read fits
  obtain ⟨value, left⟩ := counted
  have whole := isFinite_ofNat fits
  simp only at read
  split at read
  · split at read
    · obtain rfl := Option.some.inj read
      exact whole
    · split at read
      · obtain rfl := Option.some.inj read
        exact signed whole
      · obtain rfl := Option.some.inj read
        rw [JsonNumber.toBinary64, isFinite_negate]
        exact whole
  · obtain ⟨x, magnitude, rfl⟩ := Option.map_eq_some_iff.mp read
    exact signed (isFinite_magnitude? magnitude)

end NumberLiteral

theorem Json.isFinite_real? {document : Json} {x : Binary64} (read : document.real? = some x) :
    x.isFinite := by
  cases document with
  | number literal =>
    obtain ⟨number, value, rfl⟩ := Option.map_eq_some_iff.mp read
    exact NumberLiteral.isFinite_value? value
  | _ => cases read

end ContestJudge
