import ContestJudge.Judge.Standard
import ContestJudge.Proofs.Seconds
/-!
The wall clock and the processor time. A time is stretched as a number of seconds, which may be a
little less than the time. A factor above one makes up for that; without one, a time of many days
can lose nanoseconds.
-/

namespace ContestJudge

open Binary64

namespace Duration

section Long

variable {time : Duration}

theorem le_of_stepsPerUnit_lt {g : Nat} (there : spacing g 1 ∣ g) (above : stepsPerUnit < g) :
    stepsPerUnit + 2 * stepBelowUnit ≤ g := by
  have step : 2 * stepBelowUnit ∣ g := by
    rw [← spacing_of_power stepBelowUnit_power, ← stepsPerUnit_eq]
    exact spacing_dvd_of_le there (Nat.le_of_lt above)
  have unit : 2 * stepBelowUnit ∣ stepsPerUnit :=
    ⟨2 ^ 52, by rw [stepsPerUnit_eq]; omega⟩
  have apart : 2 * stepBelowUnit ≤ g - stepsPerUnit :=
    Nat.le_of_dvd (Nat.sub_pos_of_lt above) (Nat.dvd_sub step unit)
  omega

theorem next_le_nearest {g : Nat} (there : spacing g 1 ∣ g) (above : stepsPerUnit < g)
    (long : 2 ^ 23 ≤ time.seconds) :
    time.steps + spacing time.steps 1 ≤ nearest (time.steps * g) stepsPerUnit := by
  have unit := stepsPerUnit_eq
  have positive := stepBelowUnit_pos
  have wide : spacing time.steps 1 * 2 ^ 52 ≤ time.steps := by
    have whole := Nat.le_trans (le_wholeSteps long) (wholeSteps_le_steps time)
    apply spacing_mul_le
    omega
  apply le_nearest_of_le stepsPerUnit_pos (spacing_dvd_next time.spacing_steps_dvd)
  calc (time.steps + spacing time.steps 1) * stepsPerUnit
    _ = time.steps * stepsPerUnit + spacing time.steps 1 * 2 ^ 52 * (2 * stepBelowUnit) := by
      have parts : stepsPerUnit = 2 ^ 52 * (2 * stepBelowUnit) := by omega
      rw [Nat.add_mul, Nat.mul_assoc, ← parts]
    _ ≤ time.steps * stepsPerUnit + time.steps * (2 * stepBelowUnit) :=
      Nat.add_le_add_left (Nat.mul_le_mul_right _ wide) _
    _ = time.steps * (stepsPerUnit + 2 * stepBelowUnit) := (Nat.mul_add ..).symm
    _ ≤ time.steps * g := Nat.mul_le_mul_left _ (le_of_stepsPerUnit_lt there above)

end Long

section Stretched

variable (time : Duration)

def stretchedNanoseconds (g : Nat) : Nat :=
  roundHalfEven (nearest (time.steps * g) stepsPerUnit * nanosPerSecond) stepsPerUnit

variable {time} {g : Nat}

theorem rounded_le_stretched (least : stepsPerUnit ≤ g) :
    time.roundedNanoseconds ≤ time.stretchedNanoseconds g := by
  have more : time.steps ≤ nearest (time.steps * g) stepsPerUnit :=
    le_nearest_of_le stepsPerUnit_pos time.spacing_steps_dvd (Nat.mul_le_mul_left _ least)
  exact roundHalfEven_mono stepsPerUnit_pos (Nat.mul_le_mul_right _ more)

/-- A factor above one makes up for what the seconds of a time lack. -/
theorem le_stretched (there : spacing g 1 ∣ g) (above : stepsPerUnit < g) :
    time.nanoseconds ≤ time.stretchedNanoseconds g := by
  rcases Nat.lt_or_ge time.seconds (2 ^ 23) with short | long
  · rw [← roundedNanoseconds_of_short time short]
    exact rounded_le_stretched (Nat.le_of_lt above)
  · have unit := stepsPerUnit_pos
    have least := Nat.mul_le_mul_right nanosPerSecond (next_le_nearest there above long)
    have covered := le_next_steps long
    apply le_roundHalfEven stepsPerUnit_pos
    omega

end Stretched

end Duration

namespace Binary64

theorem isNan_one : isNan 1 = false := isNan_ofNat 1

theorem one_eq : (1 : Binary64) = .finite false stepsPerUnit (by decide +kernel) := by
  decide +kernel

theorem ofSteps_mul (negative : Bool) {x d : Nat} (positive : 0 < d) (h : Representable x) :
    ofSteps negative (x * d) d = .finite negative x h := by
  have same := nearest_mul positive (spacing_dvd_of_representable h)
  unfold ofSteps
  simp only [same, h.2, dif_pos]

variable (factor : Binary64)

theorem one_le_max : le 1 (factor.max 1) := by
  cases number : factor.isNan with
  | false => exact right_le_max number isNan_one
  | true =>
    rw [max, if_pos number]
    exact le_refl isNan_one

theorem max_le_one_iff : (factor.max 1).le 1 ↔ ¬lt 1 factor := by
  cases number : factor.isNan with
  | false =>
    constructor
    · intro small above
      have ordered : factor.le 1 := le_trans (left_le_max number isNan_one) small
      simp [lt, ordered] at above
    · intro small
      exact max_le (le_of_not_lt isNan_one number small) (le_refl isNan_one)
  | true =>
    have unordered : ¬lt 1 factor := by
      intro above
      have impossible := isNan_right_of_le (le_of_lt above)
      rw [number] at impossible
      cases impossible
    rw [max, if_pos number]
    exact iff_of_true (le_refl isNan_one) unordered

theorem rank_one : (1 : Binary64).rank = stepsPerUnit := by
  rw [one_eq]
  rfl

variable {factor}

/-- A factor counts as one at least, and as more exactly if it is more. -/
theorem steps_of_max {negative : Bool} {g : Nat} {h : Representable g}
    (counted : factor.max 1 = .finite negative g h) :
    negative = false ∧ stepsPerUnit ≤ g ∧ (lt 1 factor ↔ stepsPerUnit < g) := by
  have unit := stepsPerUnit_pos
  have least := ((le_iff ..).mp (one_le_max factor)).2.2
  have most : (factor.max 1).rank ≤ rank 1 ↔ ¬lt 1 factor := by
    have number := isNan_right_of_le (one_le_max factor)
    rw [← max_le_one_iff, le_iff, and_iff_right number, and_iff_right isNan_one]
  rw [counted, rank_one] at least most
  cases negative with
  | false =>
    have value : (finite false g h).rank = g := rfl
    rw [value] at least most
    refine ⟨rfl, by omega, ?_⟩
    rw [← not_iff_not, ← most]
    omega
  | true =>
    have value : (finite true g h).rank = -g := rfl
    rw [value] at least
    omega

theorem max_eq_one (counted : (factor.max 1).isFinite) (unscaled : ¬lt 1 factor) :
    factor.max 1 = 1 := by
  cases scale : factor.max 1 with
  | finite negative g h =>
    obtain ⟨rfl, least, more⟩ := steps_of_max scale
    have one : g = stepsPerUnit := by
      rw [more] at unscaled
      omega
    rw [one_eq]
    congr
  | _ =>
    rw [scale] at counted
    cases counted

theorem mul_of_finite {m n : Bool} {x y : Nat} (h : Representable x) (h' : Representable y) :
    (finite m x h).mul (finite n y h') = ofSteps (m != n) (x * y) stepsPerUnit := rfl

theorem mul_one_of_isFinite {x : Binary64} (number : x.isFinite) : x.mul 1 = x := by
  cases x with
  | finite negative steps h =>
    rw [one_eq, mul_of_finite, Bool.bne_false, ofSteps_mul negative stepsPerUnit_pos h]
  | _ => cases number

theorem isFinite_of_mul {x y : Binary64} (product : (x.mul y).isFinite) :
    x.isFinite ∧ y.isFinite := by
  cases x with
  | nan => cases product
  | infinite m =>
    cases y with
    | nan => cases product
    | infinite n => cases product
    | finite n steps h =>
      simp only [mul] at product
      split at product <;> cases product
  | finite m steps h =>
    cases y with
    | nan => cases product
    | infinite n =>
      simp only [mul] at product
      split at product <;> cases product
    | finite n steps' h' => exact ⟨rfl, rfl⟩

theorem eq_of_isFinite_ofSteps {negative : Bool} {n d : Nat}
    (inRange : (ofSteps negative n d).isFinite) :
    ∃ h, ofSteps negative n d = .finite negative (nearest n d) h := by
  rcases ofSteps_cases negative n d with within | beyond
  · exact within
  · rw [beyond] at inRange
    cases inRange

end Binary64

variable {time wall : Duration} {factor : Binary64}

namespace Duration

theorem isFinite_of_ofSeconds? {value : Binary64} (found : ofSeconds? value = some time) :
    value.isFinite := by
  cases value with
  | finite => rfl
  | _ => cases found

theorem nanoseconds_of_stretched {g : Nat} {h : Representable g}
    (found : ofSeconds? (time.toSeconds.mul (.finite false g h)) = some wall) :
    wall.nanoseconds = time.stretchedNanoseconds g := by
  have seconds := (isFinite_of_mul (isFinite_of_ofSeconds? found)).1
  rw [toSeconds_eq] at seconds found
  obtain ⟨within, whole⟩ := eq_of_isFinite_ofSteps seconds
  rw [whole, mul_of_finite] at found
  obtain ⟨within', stretched⟩ := eq_of_isFinite_ofSteps (isFinite_of_ofSeconds? found)
  rw [stretched, ofSeconds?] at found
  split at found
  · cases found
  · exact eq_of_ofNanoseconds? found

end Duration

theorem ofSeconds?_of_scaledWallTime
    (found : scaledWallTime time factor = .ok wall) :
    Duration.ofSeconds? (time.toSeconds.mul (factor.max 1)) = some wall := by
  rw [scaledWallTime, wallTimeOf] at found
  split at found
  · rename_i time' within
    obtain rfl := Except.ok.inj found
    exact within
  · cases found

theorem exists_of_scaledWallTime (found : scaledWallTime time factor = .ok wall) :
    ∃ g, spacing g 1 ∣ g ∧ stepsPerUnit ≤ g ∧ (lt 1 factor ↔ stepsPerUnit < g) ∧
      wall.nanoseconds = time.stretchedNanoseconds g := by
  have seconds := ofSeconds?_of_scaledWallTime found
  have counted := (isFinite_of_mul (Duration.isFinite_of_ofSeconds? seconds)).2
  cases scale : factor.max 1 with
  | nan =>
    rw [scale] at counted
    cases counted
  | infinite negative =>
    rw [scale] at counted
    cases counted
  | finite negative g representable =>
    obtain ⟨rfl, least, more⟩ := steps_of_max scale
    rw [scale] at seconds
    exact ⟨g, spacing_dvd_of_representable representable, least, more,
      Duration.nanoseconds_of_stretched seconds⟩

theorem readBack_of_unscaled (found : scaledWallTime time factor = .ok wall)
    (unscaled : ¬lt 1 factor) : time.readBack? = some wall := by
  have seconds := ofSeconds?_of_scaledWallTime found
  have counted := (isFinite_of_mul (Duration.isFinite_of_ofSeconds? seconds)).2
  rw [max_eq_one counted unscaled, mul_one_of_isFinite] at seconds
  · exact seconds
  · exact (isFinite_of_mul (Duration.isFinite_of_ofSeconds? seconds)).1

theorem rounded_le_wallTime (found : scaledWallTime time factor = .ok wall) :
    time.roundedNanoseconds ≤ wall.nanoseconds := by
  obtain ⟨g, -, least, -, stretched⟩ := exists_of_scaledWallTime found
  rw [stretched]
  exact Duration.rounded_le_stretched least

theorem le_wallTime_of_factor (found : scaledWallTime time factor = .ok wall)
    (above : lt 1 factor) : time ≤ wall := by
  obtain ⟨g, there, -, more, stretched⟩ := exists_of_scaledWallTime found
  have covered : time.nanoseconds ≤ time.stretchedNanoseconds g :=
    Duration.le_stretched there (more.mp above)
  rw [← stretched] at covered
  exact covered

theorem le_wallTime_of_configured {value : Binary64}
    (configured : Duration.ofSeconds? value = some time)
    (found : scaledWallTime time factor = .ok wall) : time ≤ wall :=
  Nat.le_trans (Duration.le_roundedNanoseconds_of_configured configured)
    (rounded_le_wallTime found)

/-- The wall clock of a submission covers its processor time, if the problem was loaded: a time
limit that was loaded was a number of seconds. -/
theorem StandardGrader.time_le_wallTime_of_loaded {σ : Type} {g : StandardGrader σ} {c : TestCase}
    {files : FileStore} {directory : String} {checkers : CheckerRegistry} {cases : List TestCase}
    {spec : LaunchSpec} (loads : loadProblem files directory checkers = .ok (g.problem, cases))
    (launched : g.submissionSpec c = .ok spec) :
    ∃ wall, spec.wallTime = some wall ∧ spec.time ≤ wall := by
  obtain ⟨-, manifest, -, -, loads⟩ := exists_of_loadProblem loads
  obtain ⟨-, configured⟩ := Manifest.timeLimit_of_load loads
  obtain ⟨wall, found, same⟩ := bind_eq_ok_iff.mp launched
  obtain rfl := Except.ok.inj same
  exact ⟨wall, rfl, le_wallTime_of_configured configured found⟩

/-- When the wall clock covers the processor time. A factor above one is enough, and without one the
time has to come back from its seconds. It does if it is less than 2 ^ 23 seconds, or if it was a
number of seconds; what it lacks otherwise is at most one part in 2 ^ 52. -/
theorem wallTime_covers_iff (found : scaledWallTime time factor = .ok wall) :
    (time ≤ wall ↔ lt 1 factor ∨ ∃ back, time.readBack? = some back ∧ time ≤ back) ∧
    (time.seconds < 2 ^ 23 → time ≤ wall) ∧
    (∀ value, Duration.ofSeconds? value = some time → time ≤ wall) ∧
    time.nanoseconds ≤ wall.nanoseconds + time.nanoseconds / 2 ^ 52 := by
  have rounded := rounded_le_wallTime found
  refine ⟨?_, ?_, ?_, ?_⟩
  · by_cases above : lt 1 factor
    · exact iff_of_true (le_wallTime_of_factor found above) (.inl above)
    · simp [above, readBack_of_unscaled found above]
  · intro short
    rw [Duration.roundedNanoseconds_of_short time short] at rounded
    exact rounded
  · intro value configured
    exact le_wallTime_of_configured configured found
  · have loss := Duration.nanoseconds_le_add time
    omega

namespace Sample

def unevenTime : Duration := ⟨8388608000000008, by decide⟩

def leastStretch : Binary64 := .ofSteps false (stepsPerUnit + 2 * Duration.stepBelowUnit) 1

theorem least_stretch_covers :
    scaledWallTime unevenTime leastStretch = .ok ⟨8388608000000009, by decide⟩ ∧
    unevenTime ≤ ⟨8388608000000009, by decide⟩ := by
  have found : scaledWallTime unevenTime leastStretch = .ok ⟨8388608000000009, by decide⟩ := by
    decide +kernel
  exact ⟨found, (wallTime_covers_iff found).1.mpr (.inl (by decide +kernel))⟩

/-- An interactor with eight nanoseconds of its own has one less on the clock. -/
theorem uneven_time_not_covered :
    InteractorLimits.derive (briefProblem ⟨8388608000000000, by decide⟩) (briefInteractor 80)
      .usual = .ok ⟨unevenTime, 262144⟩ ∧
    scaledWallTime unevenTime 1 = .ok ⟨8388608000000007, by decide⟩ ∧
    ¬unevenTime ≤ ⟨8388608000000007, by decide⟩ := by
  decide +kernel

end Sample
end ContestJudge
