import ContestJudge.Proofs.Binary64Order
import Mathlib.Algebra.Group.Nat.Defs
import Mathlib.Data.Nat.Log
/-!
Rounding to the nearest number. What is rounded moves by at most half a step, a number that is
there stays, and nothing is rounded past a number that is there.
-/

namespace ContestJudge

section Whole

variable {n m d k : Nat} (positive : 0 < d)
include positive

theorem roundHalfEven_bounds (n : Nat) : 2 * n ≤ 2 * (roundHalfEven n d * d) + d ∧
    2 * (roundHalfEven n d * d) ≤ 2 * n + d := by
  have whole : d * (n / d) + n % d = n := Nat.div_add_mod n d
  have rest : n % d < d := Nat.mod_lt n positive
  rw [Nat.mul_comm] at whole
  unfold roundHalfEven
  dsimp only
  split
  · omega
  · have above : (n / d + 1) * d = n / d * d + d := Nat.succ_mul _ _
    omega

theorem le_roundHalfEven (near : 2 * (k * d) < 2 * n + d) : k ≤ roundHalfEven n d := by
  have bounds := roundHalfEven_bounds positive n
  apply Nat.le_of_lt_succ
  apply Nat.lt_of_mul_lt_mul_right (a := d)
  rw [Nat.succ_mul]
  omega

theorem roundHalfEven_le (near : 2 * n < 2 * (k * d) + d) : roundHalfEven n d ≤ k := by
  have bounds := roundHalfEven_bounds positive n
  apply Nat.le_of_lt_succ
  apply Nat.lt_of_mul_lt_mul_right (a := d)
  rw [Nat.succ_mul]
  omega

theorem roundHalfEven_mul (k : Nat) : roundHalfEven (k * d) d = k := by
  apply Nat.le_antisymm
  · exact roundHalfEven_le positive (by omega)
  · exact le_roundHalfEven positive (by omega)

theorem roundHalfEven_mono (ordered : n ≤ m) : roundHalfEven n d ≤ roundHalfEven m d := by
  rcases Nat.eq_or_lt_of_le ordered with rfl | below
  · exact Nat.le_refl _
  · have lower := (roundHalfEven_bounds positive n).2
    have upper := (roundHalfEven_bounds positive m).1
    exact le_roundHalfEven positive (by omega)

end Whole

namespace Binary64

theorem log2_mono {n m : Nat} (ordered : n ≤ m) : n.log2 ≤ m.log2 := by
  rw [Nat.log2_eq_log_two, Nat.log2_eq_log_two]
  exact Nat.log_mono_right ordered

section Spacing

theorem spacing_eq (n d : Nat) : spacing n d = 2 ^ ((n / d).log2 - 52) := rfl

theorem spacing_one (x : Nat) : spacing x 1 = 2 ^ (x.log2 - 52) := by
  rw [spacing_eq, Nat.div_one]

theorem spacing_dvd_spacing {x y : Nat} (ordered : x ≤ y) : spacing x 1 ∣ spacing y 1 := by
  rw [spacing_one, spacing_one]
  apply Nat.pow_dvd_pow
  have logs := log2_mono ordered
  omega

theorem spacing_mono {x y : Nat} (ordered : x ≤ y) : spacing x 1 ≤ spacing y 1 :=
  Nat.le_of_dvd (Nat.two_pow_pos _) (spacing_dvd_spacing ordered)

theorem spacing_dvd_of_le {x y : Nat} (there : spacing y 1 ∣ y) (ordered : x ≤ y) :
    spacing x 1 ∣ y :=
  Nat.dvd_trans (spacing_dvd_spacing ordered) there

theorem spacing_two_pow (k : Nat) : spacing (2 ^ k) 1 = 2 ^ (k - 52) := by
  rw [spacing_one, Nat.log2_two_pow]

theorem spacing_of_power {step : Nat} (power : ∃ k, step = 2 ^ k) :
    spacing (2 ^ 53 * step) 1 = 2 * step := by
  obtain ⟨k, rfl⟩ := power
  have log : 53 + k - 52 = k + 1 := by omega
  rw [← Nat.pow_add, spacing_two_pow, log, Nat.pow_succ, Nat.mul_comm]

variable {n d : Nat}

theorem spacing_le_of_lt {step : Nat} (power : ∃ k, step = 2 ^ k)
    (small : n / d < 2 ^ 53 * step) : spacing n d ≤ step := by
  obtain ⟨k, rfl⟩ := power
  rw [spacing_eq]
  apply Nat.pow_le_pow_right (by decide)
  rcases Nat.eq_zero_or_pos (n / d) with none | positive
  · rw [none]
    exact Nat.zero_le _
  · rw [← Nat.pow_add] at small
    have log := (Nat.log2_lt (Nat.ne_of_gt positive)).mpr small
    omega

theorem le_spacing_of_le {step : Nat} (power : ∃ k, step = 2 ^ k)
    (large : 2 ^ 52 * step ≤ n / d) : step ≤ spacing n d := by
  obtain ⟨k, rfl⟩ := power
  rw [← Nat.pow_add] at large
  rw [spacing_eq]
  apply Nat.pow_le_pow_right (by decide)
  have nonzero : n / d ≠ 0 := Nat.ne_of_gt (Nat.lt_of_lt_of_le (Nat.two_pow_pos _) large)
  have log := (Nat.le_log2 nonzero).mpr large
  omega

/-- A step is at most 2 ^ -52 of a number with all its bits. -/
theorem spacing_mul_le {x : Nat} (normal : 2 ^ 52 ≤ x) : spacing x 1 * 2 ^ 52 ≤ x := by
  have nonzero : x ≠ 0 := Nat.ne_of_gt (Nat.lt_of_lt_of_le (Nat.two_pow_pos 52) normal)
  have log : 52 ≤ x.log2 := (Nat.le_log2 nonzero).mpr normal
  calc spacing x 1 * 2 ^ 52
    _ = 2 ^ (x.log2 - 52 + 52) := by rw [spacing_one, Nat.pow_add]
    _ = 2 ^ x.log2 := by rw [Nat.sub_add_cancel log]
    _ ≤ x := Nat.log2_self_le nonzero

end Spacing

section Nearest

variable {n d x : Nat} (positive : 0 < d)
include positive

theorem nearest_bounds (n : Nat) : 2 * n ≤ 2 * (nearest n d * d) + d * spacing n d ∧
    2 * (nearest n d * d) ≤ 2 * n + d * spacing n d := by
  have step : 0 < d * spacing n d := Nat.mul_pos positive (Nat.two_pow_pos _)
  have bounds := roundHalfEven_bounds step n
  have same : nearest n d * d = roundHalfEven n (d * spacing n d) * (d * spacing n d) := by
    rw [nearest, Nat.mul_assoc, Nat.mul_comm d]
  rw [same]
  exact bounds

/-- A number of the neighbourhood that is less than half a step above is not missed. -/
theorem le_nearest_of_close (there : spacing n d ∣ x)
    (close : 2 * (x * d) < 2 * n + d * spacing n d) : x ≤ nearest n d := by
  have step : 0 < d * spacing n d := Nat.mul_pos positive (Nat.two_pow_pos _)
  obtain ⟨k, rfl⟩ := there
  rw [nearest, Nat.mul_comm]
  apply Nat.mul_le_mul_right
  apply le_roundHalfEven step
  have same : k * (d * spacing n d) = spacing n d * k * d := by ac_rfl
  rw [same]
  exact close

theorem le_nearest_of_le (there : spacing x 1 ∣ x) (below : x * d ≤ n) : x ≤ nearest n d := by
  have step : 0 < d * spacing n d := Nat.mul_pos positive (Nat.two_pow_pos _)
  have ordered : x ≤ n / d := (Nat.le_div_iff_mul_le positive).mpr below
  by_cases same : x.log2 = (n / d).log2
  · apply le_nearest_of_close positive
    · rw [spacing_eq, ← same, ← spacing_one]
      exact there
    · omega
  -- A greater logarithm leaves a power of two between the number and the quotient.
  · have logs := log2_mono ordered
    have nonzero : n / d ≠ 0 := by
      intro zero
      obtain rfl : x = 0 := by omega
      rw [zero] at same
      exact same rfl
    have under : x < 2 ^ (n / d).log2 := by
      calc x
        _ < 2 ^ (x.log2 + 1) := Nat.lt_log2_self
        _ ≤ 2 ^ (n / d).log2 := Nat.pow_le_pow_right (by decide) (by omega)
    have reached : 2 ^ (n / d).log2 * d ≤ n :=
      (Nat.le_div_iff_mul_le positive).mp (Nat.log2_self_le nonzero)
    have power : 2 ^ (n / d).log2 ≤ nearest n d := by
      apply le_nearest_of_close positive
      · rw [spacing_eq]
        exact Nat.pow_dvd_pow 2 (Nat.sub_le _ _)
      · omega
    omega

theorem nearest_mul (there : spacing x 1 ∣ x) : nearest (x * d) d = x := by
  have same : spacing (x * d) d = spacing x 1 := by
    rw [spacing_eq, spacing_one, Nat.mul_div_cancel _ positive]
  have step : 0 < d * spacing x 1 := Nat.mul_pos positive (Nat.two_pow_pos _)
  obtain ⟨k, whole⟩ := there
  have multiple : x * d = k * (d * spacing x 1) := by
    conv => lhs; rw [whole]
    ac_rfl
  rw [nearest, same, multiple, roundHalfEven_mul step, Nat.mul_comm, ← whole]

end Nearest

theorem spacing_nearest_dvd (n d : Nat) : spacing (nearest n d) 1 ∣ nearest n d := by
  rw [spacing_one]
  exact nearest_dvd n d

theorem spacing_dvd_of_representable {x : Nat} (representable : Representable x) :
    spacing x 1 ∣ x := by
  rw [spacing_one]
  exact representable.1

theorem nearest_of_representable {x : Nat} (there : spacing x 1 ∣ x) : nearest x 1 = x := by
  have same := nearest_mul Nat.one_pos there
  rwa [Nat.mul_one] at same

theorem spacing_dvd_next {x : Nat} (there : spacing x 1 ∣ x) :
    spacing (x + spacing x 1) 1 ∣ x + spacing x 1 := by
  rw [spacing_one x] at there ⊢
  obtain ⟨m, whole⟩ := there
  have significand : m < 2 ^ 53 := by
    have below : x < 2 ^ (x.log2 - 52) * 2 ^ 53 := by
      calc x
        _ < 2 ^ (x.log2 + 1) := Nat.lt_log2_self
        _ ≤ 2 ^ (x.log2 - 52 + 53) := Nat.pow_le_pow_right (by decide) (by omega)
        _ = 2 ^ (x.log2 - 52) * 2 ^ 53 := Nat.pow_add ..
    conv at below => lhs; rw [whole]
    exact Nat.lt_of_mul_lt_mul_left below
  have next : x + 2 ^ (x.log2 - 52) = (m + 1) * 2 ^ (x.log2 - 52) := by
    conv => lhs; lhs; rw [whole]
    rw [Nat.succ_mul, Nat.mul_comm]
  rw [spacing_one, next]
  exact spacing_dvd_of_significand (Nat.succ_le_of_lt significand) (x.log2 - 52)

/-- What is rounded is half a step below the number after the rounded one, at the least. -/
theorem le_next_of_nearest {n : Nat} (positive : 0 < n) :
    2 * n + spacing n 1 ≤ 2 * (nearest n 1 + spacing (nearest n 1) 1) := by
  have bounds := nearest_bounds Nat.one_pos n
  have step : spacing (2 ^ n.log2) 1 = spacing n 1 := by rw [spacing_two_pow, spacing_one]
  have power : 2 ^ n.log2 ≤ nearest n 1 := by
    apply le_nearest_of_le Nat.one_pos
    · rw [spacing_two_pow]
      exact Nat.pow_dvd_pow 2 (Nat.sub_le _ _)
    · rw [Nat.mul_one]
      exact Nat.log2_self_le (Nat.ne_of_gt positive)
  have wider := spacing_mono power
  omega

end Binary64
end ContestJudge
