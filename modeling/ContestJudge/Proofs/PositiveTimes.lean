import ContestJudge.Judge.Interactive
import ContestJudge.Problem.Manifest
import ContestJudge.Proofs.Binary64Order
import ContestJudge.Proofs.Manifests

namespace ContestJudge

theorem roundHalfEven_pos_iff {n d : Nat} (positive : 0 < d) :
    0 < roundHalfEven n d ↔ d < 2 * n := by
  by_cases small : n < d
  · have quotient : n / d = 0 := Nat.div_eq_of_lt small
    have remainder : n % d = n := Nat.mod_eq_of_lt small
    simp only [roundHalfEven, quotient, remainder, and_true]
    split <;> omega
  · have whole : 0 < n / d := Nat.div_pos (Nat.le_of_not_lt small) positive
    have above := div_le_round_half_even n d
    omega

def Binary64.isNoticeable : Binary64 → Bool
  | .nan => false
  | .infinite negative => !negative
  | .finite negative steps _ =>
    !negative && decide (stepsPerUnit < 2 * (steps * Duration.nanosPerSecond))

namespace Duration

theorem eq_of_ofNanoseconds? {n : Nat} {time : Duration} (found : ofNanoseconds? n = some time) :
    time.nanoseconds = n := by
  unfold ofNanoseconds? at found
  split at found
  · obtain rfl := Option.some.inj found
    rfl
  · cases found

theorem zero_lt_iff_of_ofSeconds? {value : Binary64} {time : Duration}
    (found : ofSeconds? value = some time) : zero < time ↔ value.isNoticeable := by
  cases value with
  | nan => cases found
  | infinite negative => cases found
  | finite negative steps representable =>
    have order : zero < time ↔ 0 < time.nanoseconds := Iff.rfl
    rw [ofSeconds?] at found
    split at found
    · cases found
    · rename_i unsigned
      rw [order, eq_of_ofNanoseconds? found, roundHalfEven_pos_iff Binary64.stepsPerUnit_pos,
        Binary64.isNoticeable, Bool.and_eq_true, decide_eq_true_eq, Bool.not_eq_true']
      constructor
      · intro above
        refine ⟨?_, above⟩
        rw [not_and_not_right] at unsigned
        cases negative with
        | false => rfl
        | true =>
          rw [unsigned rfl, Nat.zero_mul, Nat.mul_zero] at above
          exact absurd above (Nat.not_lt_zero _)
      · exact And.right

theorem lt_of_add? {x y sum : Duration} (found : x.add? y = some sum) : y < sum ↔ zero < x := by
  have total := eq_of_ofNanoseconds? found
  have order : y < sum ↔ y.nanoseconds < sum.nanoseconds := Iff.rfl
  have positive : zero < x ↔ 0 < x.nanoseconds := Iff.rfl
  rw [order, positive, total]
  omega

end Duration

theorem eq_of_configuredTime {value : Binary64} {field : String} {time : Duration}
    (kept : configuredTime value field = .ok time) : Duration.ofSeconds? value = some time := by
  unfold configuredTime at kept
  split at kept
  · obtain rfl := Except.ok.inj kept
    assumption
  · cases kept

namespace Manifest

variable {manifest : Manifest} {directory : String} {checkers : CheckerRegistry}
  {problem : Problem} {cases : List TestCase}

theorem timeLimit_of_load (loads : manifest.load directory checkers = .ok (problem, cases)) :
    Binary64.lt 0 manifest.timeLimit ∧
      Duration.ofSeconds? manifest.timeLimit = some problem.timeLimit := by
  rw [load, bind_eq_ok_iff] at loads
  obtain ⟨given, kept, loads⟩ := loads
  obtain ⟨found, -, same⟩ := bind_eq_ok_iff.mp loads
  obtain ⟨rfl, -⟩ := Prod.mk.inj (Except.ok.inj same)
  rw [Manifest.problem] at kept
  split at kept
  · rename_i fits
    obtain ⟨time, configured, same⟩ := bind_eq_ok_iff.mp kept
    obtain rfl := Except.ok.inj same
    exact ⟨((Bool.and_eq_true ..).mp fits).2, eq_of_configuredTime configured⟩
  · cases kept

end Manifest

theorem exists_of_loadProblem {files : FileStore} {directory : String} {checkers : CheckerRegistry}
    {loaded : Problem × List TestCase} (loads : loadProblem files directory checkers = .ok loaded) :
    ∃ text manifest, files.readText (Path.join directory manifestName) = .ok text ∧
      (Json.parse? text).bind Manifest.ofJson? = some manifest ∧
      manifest.load directory checkers = .ok loaded := by
  unfold loadProblem at loads
  dsimp only at loads
  split at loads
  · cases loads
  · rename_i text read
    split at loads
    · rename_i manifest decoded
      exact ⟨text, manifest, read, decoded, loads⟩
    · cases loads

namespace InteractiveConfig

/-- Whether the time that is configured for an interactor, if any is, is more than half a
nanosecond. What is not positive counts as not configured. -/
def HasNoticeableTime (config : InteractiveConfig) : Prop :=
  ∀ value ∈ config.preprocessingTime, Binary64.lt 0 value → value.isNoticeable

variable {config : InteractiveConfig} {time : Duration}

theorem zero_lt_preprocessing_iff (found : config.preprocessing = .ok time) :
    Duration.zero < time ↔ config.HasNoticeableTime := by
  have usual : Duration.zero < usualPreprocessing := by decide
  rw [preprocessing] at found
  cases configured : config.preprocessingTime with
  | none =>
    rw [configured] at found
    obtain rfl := Except.ok.inj found
    simp [HasNoticeableTime, configured, usual]
  | some value =>
    rw [configured] at found
    by_cases positive : Binary64.lt 0 value
    · have kept : configuredTime value "preprocessing_time" = .ok time := by
        simpa only [positive, if_true] using found
      rw [Duration.zero_lt_iff_of_ofSeconds? (eq_of_configuredTime kept)]
      simp [HasNoticeableTime, configured, positive]
    · have same : usualPreprocessing = time := by simpa [positive] using found
      subst same
      simp [HasNoticeableTime, configured, positive, usual]

end InteractiveConfig

theorem timeLimit_lt_interactor_iff {problem : Problem} {config : InteractiveConfig}
    {environment : JudgeEnvironment} {limits : InteractorLimits}
    (derived : InteractorLimits.derive problem config environment = .ok limits) :
    problem.timeLimit < limits.time ↔ config.HasNoticeableTime := by
  obtain ⟨preprocessing, found, added⟩ := bind_eq_ok_iff.mp derived
  split at added
  · rename_i time sum
    obtain rfl := Except.ok.inj added
    rw [← InteractiveConfig.zero_lt_preprocessing_iff found]
    exact Duration.lt_of_add? sum
  · cases added

/-- A time that has been found positive stays positive exactly if it is more than half a nanosecond:
the time limit of a problem that loads, the time of an interactor, and so what an interactor has
beyond the submission. -/
theorem time_stays_positive_iff_noticeable (files : FileStore) (directory : String)
    (checkers : CheckerRegistry) (config : InteractiveConfig) :
    (∀ (problem : Problem) (cases : List TestCase),
      loadProblem files directory checkers = .ok (problem, cases) →
      ∃ text manifest, files.readText (Path.join directory manifestName) = .ok text ∧
        (Json.parse? text).bind Manifest.ofJson? = some manifest ∧
        Binary64.lt 0 manifest.timeLimit ∧
        (Duration.zero < problem.timeLimit ↔ manifest.timeLimit.isNoticeable)) ∧
    (∀ time : Duration, config.preprocessing = .ok time →
      (Duration.zero < time ↔ config.HasNoticeableTime)) ∧
    (∀ (problem : Problem) (environment : JudgeEnvironment) (limits : InteractorLimits),
      InteractorLimits.derive problem config environment = .ok limits →
      (problem.timeLimit < limits.time ↔ config.HasNoticeableTime)) := by
  refine ⟨?_, ?_, ?_⟩
  · intro problem cases loads
    obtain ⟨text, manifest, read, decoded, loads⟩ := exists_of_loadProblem loads
    obtain ⟨positive, kept⟩ := Manifest.timeLimit_of_load loads
    exact ⟨text, manifest, read, decoded, positive, Duration.zero_lt_iff_of_ofSeconds? kept⟩
  · intro time found
    exact InteractiveConfig.zero_lt_preprocessing_iff found
  · intro problem environment limits derived
    exact timeLimit_lt_interactor_iff derived

namespace Sample

section Brief

variable (tenths : Nat)

def tenthsLiteral : NumberLiteral := ⟨false, digitsOf tenths, none, some (.minus, [1, 0])⟩

def tenthsOfNanosecond : Binary64 := .ofRatio false tenths 10000000000

def briefDocument : Json := .record [
  ("id", .ofString "brief"), ("time_limit", .number (tenthsLiteral tenths)),
  ("memory_limit", .ofNat 1024), ("cases", .array [])]

def briefManifest : Manifest :=
  ⟨"brief", tenthsOfNanosecond tenths, 1024, "standard", true, none, [], []⟩

def briefProblem (time : Duration) : Problem := ⟨"brief", time, 1024, "/p", ⟨none, true⟩⟩

def briefInteractor : InteractiveConfig :=
  { interactorSettings with preprocessingTime := some (tenthsOfNanosecond tenths) }

variable {tenths}
  (read : Json.real? (.number (tenthsLiteral tenths)) = some (tenthsOfNanosecond tenths))
include read

theorem decoded_briefDocument : (Json.parse? (briefDocument tenths).render).bind Manifest.ofJson? =
    some (briefManifest tenths) := by
  have exponent : IsNumeral [1, 0] := ⟨by decide, by decide⟩
  have wellFormed : (tenthsLiteral tenths).WellFormed :=
    ⟨isWhole_digitsOf tenths, by simp [tenthsLiteral], by simpa [tenthsLiteral] using exponent⟩
  have writable : (briefDocument tenths).Writable := by
    apply Json.Writable.record
    simp only [List.forall_mem_cons]
    exact ⟨.string _, .number wellFormed, Json.writable_ofNat _, .array (by simp), by simp⟩
  have fields : (briefDocument tenths).fields? Manifest.fieldNames =
      some [some (.ofString "brief"), some (.number (tenthsLiteral tenths)), some (.ofNat 1024),
        none, none, none, none, some (.array [])] := by
    with_unfolding_all rfl
  have memory : Json.natural? wordBound (.ofNat 1024) = some 1024 := by decide +kernel
  rw [Json.parse?_render writable]
  simp [Manifest.ofJson?, fields, Json.required?, Json.default?, read, memory, Json.list?,
    Json.ofString, Json.text?, briefManifest]

theorem loads_briefDocument {time : Duration}
    (positive : Binary64.lt 0 (briefManifest tenths).timeLimit)
    (kept : Duration.ofSeconds? (briefManifest tenths).timeLimit = some time) :
    loadProblem (manifestFiles (briefDocument tenths)) "/p" .builtin =
      .ok (briefProblem time, []) := by
  rw [loadProblem_eq_load (readText_manifestFiles _) (decoded_briefDocument read),
    Manifest.load_eq "/p" .builtin positive kept]
  rfl

end Brief

def oneNanosecond : Duration := ⟨1, by decide⟩

/-- Half a nanosecond is written as a number that is a little more. -/
theorem half_nanosecond_kept :
    loadProblem (manifestFiles (briefDocument 5)) "/p" .builtin =
      .ok (briefProblem oneNanosecond, []) ∧
    Duration.zero < (briefProblem oneNanosecond).timeLimit ∧
    (briefInteractor 5).preprocessing = .ok oneNanosecond ∧ Duration.zero < oneNanosecond ∧
    ∃ limits, InteractorLimits.derive (briefProblem oneNanosecond) (briefInteractor 5) .usual =
        .ok limits ∧ (briefProblem oneNanosecond).timeLimit < limits.time := by
  have read : Json.real? (.number (tenthsLiteral 5)) = some (tenthsOfNanosecond 5) := by
    decide +kernel
  have loads : loadProblem (manifestFiles (briefDocument 5)) "/p" .builtin =
      .ok (briefProblem oneNanosecond, []) :=
    loads_briefDocument read (by decide +kernel) (by decide +kernel)
  have found : (briefInteractor 5).preprocessing = .ok oneNanosecond := by decide +kernel
  have derived : InteractorLimits.derive (briefProblem oneNanosecond) (briefInteractor 5) .usual =
      .ok ⟨⟨2, by decide⟩, 262144⟩ := by decide +kernel
  have noticeable : (briefInteractor 5).HasNoticeableTime := by
    rintro value configured -
    obtain rfl : tenthsOfNanosecond 5 = value := Option.some.inj configured
    decide +kernel
  obtain ⟨limit, own, more⟩ := time_stays_positive_iff_noticeable
    (manifestFiles (briefDocument 5)) "/p" .builtin (briefInteractor 5)
  obtain ⟨text, manifest, stored, decoded, -, positive⟩ := limit _ _ loads
  rw [readText_manifestFiles, Except.ok.injEq] at stored
  subst stored
  rw [decoded_briefDocument read, Option.some.injEq] at decoded
  subst decoded
  exact ⟨loads, positive.mpr (by decide +kernel), found, (own _ found).mpr noticeable, _, derived,
    (more _ _ _ derived).mpr noticeable⟩

/-- A tenth of a nanosecond is positive, and it is lost. -/
theorem tenth_of_nanosecond_lost :
    Binary64.lt 0 (tenthsOfNanosecond 1) ∧
    loadProblem (manifestFiles (briefDocument 1)) "/p" .builtin = .ok (briefProblem .zero, []) ∧
    (briefInteractor 1).preprocessing = .ok .zero ∧
    InteractorLimits.derive (briefProblem oneNanosecond) (briefInteractor 1) .usual =
      .ok ⟨(briefProblem oneNanosecond).timeLimit, 262144⟩ := by
  have positive : Binary64.lt 0 (tenthsOfNanosecond 1) := by decide +kernel
  have read : Json.real? (.number (tenthsLiteral 1)) = some (tenthsOfNanosecond 1) := by
    decide +kernel
  have loads : loadProblem (manifestFiles (briefDocument 1)) "/p" .builtin =
      .ok (briefProblem .zero, []) :=
    loads_briefDocument read (by decide +kernel) (by decide +kernel)
  exact ⟨positive, loads, by decide +kernel, by decide +kernel⟩

end Sample
end ContestJudge
