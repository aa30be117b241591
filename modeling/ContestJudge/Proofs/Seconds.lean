import ContestJudge.Proofs.FiniteReadings
import ContestJudge.Proofs.PositiveTimes
import ContestJudge.Proofs.Rounding
/-!
Lengths of time as binary64 numbers of seconds. A time of less than 97 days comes back from its
seconds, and one that was a number of seconds loses nothing; any other may lose a little.
-/

namespace ContestJudge

open Binary64

namespace Duration

def stepBelowUnit : Nat := Nat.pow 2 1021

-- The exponents are set aside, as powers of this size must not be computed.
theorem stepBelowUnit_power : ∃ k, stepBelowUnit = 2 ^ k := by
  unfold stepBelowUnit
  generalize 1021 = k
  exact ⟨k, rfl⟩

theorem exists_power (j : Nat) : ∃ k, 2 ^ j * stepBelowUnit = 2 ^ k := by
  obtain ⟨k, power⟩ := stepBelowUnit_power
  exact ⟨j + k, by rw [power, Nat.pow_add]⟩

theorem stepsPerUnit_eq : stepsPerUnit = 2 ^ 53 * stepBelowUnit := by
  have split : 1074 = 53 + 1021 := rfl
  unfold stepsPerUnit stepBelowUnit
  rw [split]
  generalize 1021 = k
  exact Nat.pow_add 2 53 k

theorem stepsPerUnit_power : ∃ k, stepsPerUnit = 2 ^ k := by
  rw [stepsPerUnit_eq]
  exact exists_power 53

theorem spacing_dvd_of_seconds {m : Nat} (few : m ≤ 2 ^ 53) :
    spacing (m * stepsPerUnit) 1 ∣ m * stepsPerUnit := by
  obtain ⟨k, power⟩ := stepsPerUnit_power
  rw [power, spacing_one]
  exact spacing_dvd_of_significand few k

theorem stepBelowUnit_pos : 0 < stepBelowUnit := by
  have unit := stepsPerUnit_pos
  rw [stepsPerUnit_eq] at unit
  omega

variable (time : Duration)

def wholeSteps : Nat := nearest (time.seconds * stepsPerUnit) 1

def restSteps : Nat := nearest (time.subsecond * stepsPerUnit) nanosPerSecond

def steps : Nat := nearest (time.wholeSteps + time.restSteps) 1

def roundedNanoseconds : Nat := roundHalfEven (time.steps * nanosPerSecond) stepsPerUnit

def readBack? : Option Duration := ofSeconds? time.toSeconds

theorem toSeconds_eq : time.toSeconds = .ofSteps false (time.wholeSteps + time.restSteps) 1 := rfl

theorem spacing_steps_dvd : spacing time.steps 1 ∣ time.steps := spacing_nearest_dvd _ _

theorem subsecond_lt : time.subsecond < nanosPerSecond := Nat.mod_lt _ (by decide)

theorem nanoseconds_eq : time.nanoseconds = time.seconds * nanosPerSecond + time.subsecond := by
  have parts := Nat.div_add_mod time.nanoseconds nanosPerSecond
  rw [Nat.mul_comm] at parts
  exact parts.symm

theorem nanoseconds_mul : time.nanoseconds * stepsPerUnit =
    time.seconds * stepsPerUnit * nanosPerSecond + time.subsecond * stepsPerUnit := by
  rw [nanoseconds_eq, Nat.add_mul, Nat.mul_right_comm]

theorem restSteps_bounds :
    2 * (time.subsecond * stepsPerUnit) ≤
      2 * (time.restSteps * nanosPerSecond) + nanosPerSecond * stepBelowUnit ∧
    2 * (time.restSteps * nanosPerSecond) ≤
      2 * (time.subsecond * stepsPerUnit) + nanosPerSecond * stepBelowUnit := by
  have below : time.subsecond * stepsPerUnit < stepsPerUnit * nanosPerSecond := by
    rw [Nat.mul_comm]
    exact Nat.mul_lt_mul_of_pos_left time.subsecond_lt stepsPerUnit_pos
  have small : time.subsecond * stepsPerUnit / nanosPerSecond < 2 ^ 53 * stepBelowUnit := by
    rw [← stepsPerUnit_eq]
    exact (Nat.div_lt_iff_lt_mul (by decide)).mpr below
  have step : nanosPerSecond * spacing (time.subsecond * stepsPerUnit) nanosPerSecond ≤
      nanosPerSecond * stepBelowUnit :=
    Nat.mul_le_mul_left _ (spacing_le_of_lt stepBelowUnit_power small)
  have bounds := nearest_bounds (by decide : 0 < nanosPerSecond) (time.subsecond * stepsPerUnit)
  rw [restSteps]
  omega

theorem wholeSteps_of_le (few : time.seconds ≤ 2 ^ 53) :
    time.wholeSteps = time.seconds * stepsPerUnit :=
  nearest_of_representable (spacing_dvd_of_seconds few)

/-- The parts of a time together are next to nothing away from it. -/
theorem sum_bounds (few : time.seconds ≤ 2 ^ 53) :
    2 * (time.nanoseconds * stepsPerUnit) ≤
      2 * ((time.wholeSteps + time.restSteps) * nanosPerSecond) + nanosPerSecond * stepBelowUnit ∧
    2 * ((time.wholeSteps + time.restSteps) * nanosPerSecond) ≤
      2 * (time.nanoseconds * stepsPerUnit) + nanosPerSecond * stepBelowUnit := by
  have rest := time.restSteps_bounds
  rw [nanoseconds_mul, wholeSteps_of_le time few, Nat.add_mul]
  omega

/-- A time of less than 2 ^ 23 seconds, which are 97 days, comes back from its seconds. -/
theorem roundedNanoseconds_of_short (short : time.seconds < 2 ^ 23) :
    time.roundedNanoseconds = time.nanoseconds := by
  rw [roundedNanoseconds]
  have unit := stepsPerUnit_eq
  have positive := stepBelowUnit_pos
  have near := time.sum_bounds (by omega)
  have bound : (time.nanoseconds + 1) * stepsPerUnit ≤ 2 ^ 23 * nanosPerSecond * stepsPerUnit := by
    apply Nat.mul_le_mul_right
    exact (Nat.div_lt_iff_lt_mul (by decide)).mp short
  rw [Nat.succ_mul] at bound
  simp only [nanosPerSecond] at near bound ⊢
  have small : (time.wholeSteps + time.restSteps) / 1 < 2 ^ 53 * (2 ^ 23 * stepBelowUnit) := by
    rw [Nat.div_one]
    omega
  have step := spacing_le_of_lt (exists_power 23) small
  have rounded := nearest_bounds Nat.one_pos (time.wholeSteps + time.restSteps)
  rw [← steps] at rounded
  apply Nat.le_antisymm
  · apply roundHalfEven_le stepsPerUnit_pos
    omega
  · apply le_roundHalfEven stepsPerUnit_pos
    omega

section Long

variable {time}

theorem le_wholeSteps (long : 2 ^ 23 ≤ time.seconds) :
    2 ^ 23 * stepsPerUnit ≤ time.wholeSteps := by
  apply le_nearest_of_le Nat.one_pos (spacing_dvd_of_seconds (by decide))
  rw [Nat.mul_one]
  exact Nat.mul_le_mul_right _ long

theorem le_sum (long : 2 ^ 23 ≤ time.seconds) :
    2 ^ 52 * (2 ^ 24 * stepBelowUnit) ≤ time.wholeSteps + time.restSteps := by
  have unit := stepsPerUnit_eq
  have whole := le_wholeSteps long
  omega

theorem le_spacing_sum (long : 2 ^ 23 ≤ time.seconds) :
    2 ^ 24 * stepBelowUnit ≤ spacing (time.wholeSteps + time.restSteps) 1 := by
  apply le_spacing_of_le (exists_power 24)
  rw [Nat.div_one]
  exact le_sum long

theorem wholeSteps_le_steps (time : Duration) : time.wholeSteps ≤ time.steps := by
  have there : spacing time.wholeSteps 1 ∣ time.wholeSteps := spacing_nearest_dvd _ _
  apply le_nearest_of_le Nat.one_pos there
  rw [Nat.mul_one]
  exact Nat.le_add_right _ _

theorem stepsPerUnit_dvd {x : Nat} (there : spacing x 1 ∣ x) (many : 2 ^ 53 * stepsPerUnit ≤ x) :
    stepsPerUnit ∣ x := by
  have step := spacing_dvd_of_le there many
  rw [spacing_of_power stepsPerUnit_power] at step
  exact Nat.dvd_trans (Nat.dvd_mul_left _ _) step

/-- A time that was a number of seconds is at least that number again. -/
theorem le_steps_of_configured {x : Nat} (there : spacing x 1 ∣ x)
    (rounded : roundHalfEven (x * nanosPerSecond) stepsPerUnit = time.nanoseconds)
    (long : 2 ^ 23 ≤ time.seconds) : x ≤ time.steps := by
  have unit := stepsPerUnit_eq
  have positive := stepBelowUnit_pos
  rcases Nat.le_total time.seconds (2 ^ 53) with few | many
  · rcases Nat.le_total x (time.wholeSteps + time.restSteps) with below | above
    · apply le_nearest_of_le Nat.one_pos there
      omega
    · have near := time.sum_bounds few
      have step := le_spacing_sum long
      have close := (roundHalfEven_bounds stepsPerUnit_pos (x * nanosPerSecond)).1
      rw [rounded] at close
      simp only [nanosPerSecond] at near close
      apply le_nearest_of_close Nat.one_pos (spacing_dvd_of_le there above)
      omega
  · have whole : x ≤ time.seconds * stepsPerUnit := by
      rcases Nat.lt_or_ge x (2 ^ 53 * stepsPerUnit) with below | above
      · have least := Nat.mul_le_mul_right stepsPerUnit many
        omega
      · obtain ⟨y, whole⟩ := stepsPerUnit_dvd there above
        have multiple : x * nanosPerSecond = y * nanosPerSecond * stepsPerUnit := by
          rw [whole]
          generalize stepsPerUnit = unit
          ac_rfl
        have seconds : y * nanosPerSecond = time.nanoseconds := by
          rw [← rounded, multiple, roundHalfEven_mul stepsPerUnit_pos]
        have under : y ≤ time.seconds := by
          rw [Duration.seconds, ← seconds, Nat.mul_div_cancel _ (by decide)]
        rw [whole, Nat.mul_comm]
        exact Nat.mul_le_mul_right _ under
    calc x
      _ ≤ time.wholeSteps := le_nearest_of_le Nat.one_pos there (by omega)
      _ ≤ time.steps := wholeSteps_le_steps time

theorem le_roundedNanoseconds_of_configured {value : Binary64}
    (configured : ofSeconds? value = some time) :
    time.nanoseconds ≤ time.roundedNanoseconds := by
  rcases Nat.lt_or_ge time.seconds (2 ^ 23) with short | long
  · exact Nat.le_of_eq (roundedNanoseconds_of_short time short).symm
  · cases value with
    | nan => cases configured
    | infinite negative => cases configured
    | finite negative x representable =>
      rw [ofSeconds?] at configured
      split at configured
      · cases configured
      · have rounded := eq_of_ofNanoseconds? configured
        have there := spacing_dvd_of_representable representable
        have covered := le_steps_of_configured there rounded.symm long
        rw [rounded]
        exact roundHalfEven_mono stepsPerUnit_pos (Nat.mul_le_mul_right _ covered)

theorem spacing_seconds (many : 2 ^ 53 ≤ time.seconds) :
    2 * stepsPerUnit ≤ spacing (time.seconds * stepsPerUnit) 1 := by
  have power : ∃ k, 2 * stepsPerUnit = 2 ^ k := by
    obtain ⟨k, power⟩ := exists_power 54
    exact ⟨k, by rw [← power, stepsPerUnit_eq]; omega⟩
  apply le_spacing_of_le power
  have least := Nat.mul_le_mul_right stepsPerUnit many
  rw [Nat.div_one]
  omega

theorem le_next_steps (long : 2 ^ 23 ≤ time.seconds) : time.nanoseconds * stepsPerUnit ≤
    (time.steps + spacing time.steps 1) * nanosPerSecond := by
  have unit := stepsPerUnit_eq
  have positive := stepBelowUnit_pos
  rcases Nat.le_total time.seconds (2 ^ 53) with few | many
  · have near := time.sum_bounds few
    have step := le_spacing_sum long
    have sum := le_sum long
    have next := le_next_of_nearest (n := time.wholeSteps + time.restSteps) (by omega)
    rw [← steps] at next
    simp only [nanosPerSecond] at near ⊢
    omega
  · have least := Nat.mul_le_mul_right stepsPerUnit many
    have step := spacing_seconds many
    have next := le_next_of_nearest (n := time.seconds * stepsPerUnit) (by omega)
    rw [← wholeSteps] at next
    have rest : time.subsecond * stepsPerUnit ≤ nanosPerSecond * stepsPerUnit :=
      Nat.mul_le_mul_right _ (Nat.le_of_lt time.subsecond_lt)
    have whole := wholeSteps_le_steps time
    have wider := spacing_mono whole
    rw [nanoseconds_mul]
    simp only [nanosPerSecond] at rest ⊢
    omega

theorem loss_of_few (long : 2 ^ 23 ≤ time.seconds) (few : time.seconds ≤ 2 ^ 53) :
    2 ^ 52 * (time.nanoseconds * stepsPerUnit) ≤
      2 ^ 52 * (time.roundedNanoseconds * stepsPerUnit) + time.nanoseconds * stepsPerUnit := by
  have unit := stepsPerUnit_eq
  have near := time.sum_bounds few
  have sum := le_sum long
  have step := le_spacing_sum long
  have wide : spacing (time.wholeSteps + time.restSteps) 1 * 2 ^ 52 ≤
      time.wholeSteps + time.restSteps := by
    have positive := stepBelowUnit_pos
    apply spacing_mul_le
    omega
  have rounded := (nearest_bounds Nat.one_pos (time.wholeSteps + time.restSteps)).1
  have back := (roundHalfEven_bounds stepsPerUnit_pos (time.steps * nanosPerSecond)).1
  rw [← steps] at rounded
  rw [← roundedNanoseconds] at back
  simp only [nanosPerSecond] at near back
  omega

theorem loss_of_many (many : 2 ^ 53 ≤ time.seconds) :
    2 ^ 52 * (time.nanoseconds * stepsPerUnit) ≤
      2 ^ 52 * (time.roundedNanoseconds * stepsPerUnit) + time.nanoseconds * stepsPerUnit := by
  have least := Nat.mul_le_mul_right stepsPerUnit many
  have step := spacing_seconds many
  have wide : spacing (time.seconds * stepsPerUnit) 1 * 2 ^ 52 ≤ time.seconds * stepsPerUnit := by
    have unit := stepsPerUnit_pos
    apply spacing_mul_le
    omega
  have rounded := (nearest_bounds Nat.one_pos (time.seconds * stepsPerUnit)).1
  have whole := wholeSteps_le_steps time
  have rest : (time.subsecond + 1) * stepsPerUnit ≤ nanosPerSecond * stepsPerUnit :=
    Nat.mul_le_mul_right _ (Nat.succ_le_of_lt time.subsecond_lt)
  have back := (roundHalfEven_bounds stepsPerUnit_pos (time.steps * nanosPerSecond)).1
  rw [← wholeSteps] at rounded
  rw [← roundedNanoseconds] at back
  rw [Nat.succ_mul] at rest
  rw [nanoseconds_mul]
  simp only [nanosPerSecond] at rest back ⊢
  omega

/-- A reading loses at most one part in 2 ^ 52. -/
theorem nanoseconds_le_add (time : Duration) :
    time.nanoseconds ≤ time.roundedNanoseconds + time.nanoseconds / 2 ^ 52 := by
  rcases Nat.lt_or_ge time.seconds (2 ^ 23) with short | long
  · rw [roundedNanoseconds_of_short time short]
    exact Nat.le_add_right _ _
  · have loss : 2 ^ 52 * (time.nanoseconds * stepsPerUnit) ≤
        2 ^ 52 * (time.roundedNanoseconds * stepsPerUnit) + time.nanoseconds * stepsPerUnit :=
      (Nat.le_total time.seconds (2 ^ 53)).elim (loss_of_few long) loss_of_many
    rw [← Nat.mul_assoc, ← Nat.mul_assoc, ← Nat.add_mul] at loss
    have scaled := Nat.le_of_mul_le_mul_right loss stepsPerUnit_pos
    omega

end Long

end Duration
end ContestJudge
