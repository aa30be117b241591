import ContestJudge.Telemetry
import ContestJudge.Checker.Basic
import ContestJudge.Proofs.Binary64Order

namespace ContestJudge

theorem Mark.index_injective : Function.Injective Mark.index := by
  intro mark other same
  cases mark <;> cases other <;> first | rfl | cases same

namespace Flags

theorem contains_insert (flags : Flags) (mark other : Mark) :
    (flags.insert mark).contains other = (flags.contains other || decide (mark = other)) := by
  have bit : (Nat.pow 2 mark.index).testBit other.index = decide (mark = other) := by
    refine Nat.testBit_two_pow.trans (decide_eq_decide.mpr ⟨fun same => ?_, congrArg Mark.index⟩)
    exact Mark.index_injective same
  simp only [contains, insert, union, only, Nat.testBit_or, bit]

theorem insert_isEmpty (flags : Flags) (mark : Mark) : (flags.insert mark).isEmpty = false := by
  simp [isEmpty, insert, union, only]

theorem insert_contains (flags : Flags) (mark : Mark) : (flags.insert mark).contains mark := by
  simp [contains, insert, union, only]

theorem insertIf_isEmpty (flags : Flags) (condition : Bool) (mark : Mark) :
    (flags.insertIf condition mark).isEmpty = (flags.isEmpty && !condition) := by
  cases condition <;> simp [insertIf, insert_isEmpty]

theorem insertIf_contains_of_contains {flags : Flags} {mark : Mark} (present : flags.contains mark)
    (condition : Bool) (other : Mark) : (flags.insertIf condition other).contains mark := by
  have bit : flags.bits.testBit mark.index = true := present
  cases condition
  · exact present
  · simp [insertIf, contains, insert, union, bit]

theorem isEmpty_of_contains {flags : Flags} {mark : Mark} (present : flags.contains mark) :
    flags.isEmpty = false := by
  rw [isEmpty, beq_eq_false_iff_ne]
  intro empty
  rw [contains, empty, Nat.zero_testBit] at present
  cases present

end Flags

namespace ProcessReport

def withExcess (report : ProcessReport) (excess : Bool) : ProcessReport :=
  { report with outputLimitExceeded := report.outputLimitExceeded || excess }

@[simp] theorem withExcess_false (report : ProcessReport) : report.withExcess false = report := by
  simp [withExcess]

theorem isOle_withExcess_true (report : ProcessReport) : (report.withExcess true).isOle := by
  simp [withExcess, isOle]

end ProcessReport

def Award.silencedIf (award : Award) (silent : Bool) : Award :=
  if silent then { award with feedback := none, extendedFeedback := none } else award

namespace Judgement

def passes : Judgement → Bool
  | .fail => false
  | .pass => true
  | .graded award => award.passed

def feedback? : Judgement → Option String
  | .graded award => award.feedback
  | _ => none

def extendedFeedback? : Judgement → Option String
  | .graded award => award.extendedFeedback
  | _ => none

/-- The most that an award can be worth: none of the points of a case that has none to give. -/
def ceiling (maxPoints : Binary64) : Binary64 := if Binary64.lt 0 maxPoints then maxPoints else 0

/-- What a judgement is worth. A pass takes the points of the case as they are; the points of a
passed award are brought between zero and those of the case. -/
inductive Worth (maxPoints : Binary64) : Judgement → Binary64 → Prop where
  | fail : Worth maxPoints .fail 0
  | pass : Worth maxPoints .pass maxPoints
  | failed {award : Award} (failed : award.passed = false) : Worth maxPoints (.graded award) 0
  | nan {award : Award} (passed : award.passed) (nan : award.points.isNan) :
      Worth maxPoints (.graded award) 0
  | within {award : Award} (passed : award.passed) (least : Binary64.le 0 award.points)
      (most : award.points.le (ceiling maxPoints)) : Worth maxPoints (.graded award) award.points
  | below {award : Award} (passed : award.passed) (below : award.points.lt 0) :
      Worth maxPoints (.graded award) 0
  | above {award : Award} (passed : award.passed) (above : (ceiling maxPoints).lt award.points) :
      Worth maxPoints (.graded award) (ceiling maxPoints)

theorem ceiling_eq_max (maxPoints : Binary64) : ceiling maxPoints = maxPoints.max 0 :=
  (Binary64.max_zero maxPoints).symm

theorem isNan_ceiling (maxPoints : Binary64) : (ceiling maxPoints).isNan = false := by
  rw [ceiling]
  split
  · exact Binary64.isNan_right_of_le (Binary64.le_of_lt ‹_›)
  · exact Binary64.isNan_ofNat 0

theorem zero_le_ceiling (maxPoints : Binary64) : Binary64.le 0 (ceiling maxPoints) := by
  rw [ceiling]
  split
  · exact Binary64.le_of_lt ‹_›
  · exact Binary64.le_refl (Binary64.isNan_ofNat 0)

theorem le_ceiling {points maxPoints : Binary64} (within : points.le maxPoints) :
    points.le (ceiling maxPoints) := by
  rw [ceiling]
  split
  · exact within
  · rename_i low
    refine Binary64.le_trans within (Binary64.le_of_not_lt (Binary64.isNan_ofNat 0) ?_ low)
    exact Binary64.isNan_right_of_le within

theorem worth_graded {award : Award} (passed : award.passed) (maxPoints : Binary64) :
    Worth maxPoints (.graded award) (bounded award.points maxPoints) := by
  rw [bounded]
  split
  · rename_i inside
    rw [Bool.and_eq_true] at inside
    exact .within passed inside.1 (le_ceiling inside.2)
  split
  · exact .nan passed ‹_›
  rename_i number
  have number : award.points.isNan = false := Bool.eq_false_iff.mpr number
  rw [← ceiling_eq_max, Binary64.clamp]
  split
  · exact .below passed ‹_›
  rename_i least
  split
  · exact .above passed ‹_›
  rename_i most
  exact .within passed (Binary64.le_of_not_lt number (Binary64.isNan_ofNat 0) least)
    (Binary64.le_of_not_lt (isNan_ceiling maxPoints) number most)

theorem eq_bounded_of_worth {award : Award} {maxPoints points : Binary64} (passed : award.passed)
    (worth : Worth maxPoints (.graded award) points) :
    points = bounded award.points maxPoints := by
  rw [bounded, ← ceiling_eq_max, Binary64.clamp]
  cases worth with
  | failed failed =>
    rw [failed] at passed
    cases passed
  | nan passed nan =>
    rw [if_neg, if_pos nan]
    intro inside
    rw [Bool.and_eq_true] at inside
    rw [Binary64.isNan_right_of_le inside.1] at nan
    cases nan
  | within passed least most =>
    have number : ¬award.points.isNan := by simp [Binary64.isNan_right_of_le least]
    rw [if_neg number, if_neg fun below => Binary64.not_le_of_lt below least,
      if_neg fun above => Binary64.not_le_of_lt above most, ite_self]
  | below passed below =>
    rw [if_neg, if_pos below, ite_self]
    intro inside
    rw [Bool.and_eq_true] at inside
    exact Binary64.not_le_of_lt below inside.1
  | above passed above =>
    have number : ¬award.points.isNan := by
      simp [Binary64.isNan_right_of_le (Binary64.le_of_lt above)]
    have positive : ¬award.points.lt 0 := fun below => Binary64.not_le_of_lt below
      (Binary64.le_trans (zero_le_ceiling maxPoints) (Binary64.le_of_lt above))
    rw [if_neg, if_neg number, if_neg positive, if_pos above]
    intro inside
    rw [Bool.and_eq_true] at inside
    exact Binary64.not_le_of_lt above (le_ceiling inside.2)

theorem normalize_points (maxPoints : Binary64) (award : Award) :
    (normalize maxPoints (.graded award)).points =
      if award.passed then bounded award.points maxPoints else 0 := by
  simp only [normalize]

theorem points_normalize_iff {maxPoints points : Binary64} {judgement : Judgement} :
    (judgement.normalize maxPoints).points = points ↔ judgement.Worth maxPoints points := by
  constructor
  · rintro rfl
    cases judgement with
    | fail => exact .fail
    | pass => exact .pass
    | graded award =>
      rw [normalize_points]
      split
      · exact worth_graded ‹_› maxPoints
      · exact .failed (Bool.eq_false_iff.mpr ‹_›)
  · intro worth
    cases judgement with
    | fail =>
      cases worth
      rfl
    | pass =>
      cases worth
      rfl
    | graded award =>
      rw [normalize_points]
      split
      · exact (eq_bounded_of_worth ‹_› worth).symm
      · rename_i failed
        cases worth with
        | failed => rfl
        | nan passed => exact absurd passed failed
        | within passed => exact absurd passed failed
        | below passed => exact absurd passed failed
        | above passed => exact absurd passed failed

theorem passed_normalize (maxPoints : Binary64) (judgement : Judgement) :
    (judgement.normalize maxPoints).passed = judgement.passes := by
  cases judgement <;> simp only [normalize, passes, Award.ofPoints]

theorem feedback_normalize (maxPoints : Binary64) (judgement : Judgement) :
    (judgement.normalize maxPoints).feedback = judgement.feedback? := by
  cases judgement <;> simp only [normalize, feedback?, Award.ofPoints]

theorem extendedFeedback_normalize (maxPoints : Binary64) (judgement : Judgement) :
    (judgement.normalize maxPoints).extendedFeedback = judgement.extendedFeedback? := by
  cases judgement <;> simp only [normalize, extendedFeedback?, Award.ofPoints]

end Judgement

namespace CaseResult

inductive Replaces (old : String) : Option String → String → Prop where
  | silent {given : Option String} (silent : ∀ text ∈ given, text = "") : Replaces old given old
  | said {text : String} (said : text ≠ "") : Replaces old (some text) text

theorem replaces_replaceText (old : String) (given : Option String) :
    Replaces old given (replaceText old given) := by
  cases given with
  | none => exact .silent nofun
  | some text =>
    rw [replaceText]
    split
    · rename_i empty
      exact .silent (by simpa using empty)
    · rename_i said
      exact .said (by simpa using said)

/-- What a judgement makes of an observed result. It is accepted if nothing was marked before and
the judgement passes, and is marked as wrong otherwise. What was measured stays. -/
structure Judged (observed : CaseResult) (maxPoints : Binary64) (judgement : Judgement)
    (result : CaseResult) : Prop where
  accepted : result.isAccepted ↔ observed.flags.isEmpty ∧ judgement.passes
  flags : result.flags =
    if result.isAccepted then observed.flags else observed.flags.insert .wrongAnswer
  marks : ∀ mark, result.flags.contains mark ↔
    observed.flags.contains mark ∨ mark = .wrongAnswer ∧ ¬result.isAccepted
  worth : result.isAccepted → judgement.Worth maxPoints result.points
  worthless : ¬result.isAccepted → result.points = 0
  feedback : Replaces observed.feedback judgement.feedback? result.feedback
  extendedFeedback :
    Replaces observed.extendedFeedback judgement.extendedFeedback? result.extendedFeedback
  rest : result = { observed with
    flags := result.flags
    points := result.points
    feedback := result.feedback
    extendedFeedback := result.extendedFeedback }

variable (r : CaseResult) (award : Award)

theorem apply_isAccepted : (r.apply award).isAccepted = (r.flags.isEmpty && award.passed) := by
  cases flags : r.flags.isEmpty <;> cases passed : award.passed <;>
    simp [apply, isAccepted, failed, flags, passed, Flags.insertIf_isEmpty]

theorem apply_flags : (r.apply award).flags =
    r.flags.insertIf (!(r.flags.isEmpty && award.passed)) .wrongAnswer := by
  simp [apply, failed]

theorem apply_points : (r.apply award).points =
    if (r.apply award).isAccepted then award.points else 0 := by
  rw [apply_isAccepted]
  simp [apply, failed]

/-- An award that stands for a judgement where it counts makes of a result what the judgement
makes of it. -/
theorem judged_of_standsFor {award : Award} {maxPoints : Binary64} {judgement : Judgement}
    (passed : r.flags.isEmpty → award.passed = judgement.passes)
    (worth : r.flags.isEmpty → judgement.Worth maxPoints award.points)
    (feedback : award.feedback = judgement.feedback?)
    (extendedFeedback : award.extendedFeedback = judgement.extendedFeedback?) :
    r.Judged maxPoints judgement (r.apply award) := by
  have accepted : (r.apply award).isAccepted ↔ r.flags.isEmpty ∧ judgement.passes := by
    rw [apply_isAccepted, Bool.and_eq_true]
    exact and_congr_right fun unmarked => by rw [passed unmarked]
  have flags : (r.apply award).flags =
      if (r.apply award).isAccepted then r.flags else r.flags.insert .wrongAnswer := by
    rw [apply_flags, ← apply_isAccepted, Flags.insertIf]
    cases (r.apply award).isAccepted <;> rfl
  refine ⟨accepted, flags, fun mark => ?_, fun taken => ?_, fun refused => ?_,
    feedback ▸ replaces_replaceText _ _, extendedFeedback ▸ replaces_replaceText _ _, rfl⟩
  · rw [flags]
    split
    · rename_i taken
      simp only [taken, not_true_eq_false, and_false, or_false]
    · rename_i refused
      rw [Flags.contains_insert, Bool.or_eq_true, decide_eq_true_iff, and_iff_left refused]
      exact or_congr_right eq_comm
  · rw [apply_points, if_pos taken]
    exact worth (accepted.mp taken).1
  · rw [apply_points, if_neg refused]

theorem apply_judged (maxPoints : Binary64) (judgement : Judgement) :
    r.Judged maxPoints judgement (r.apply (judgement.normalize maxPoints)) :=
  r.judged_of_standsFor (fun _ => judgement.passed_normalize maxPoints)
    (fun _ => Judgement.points_normalize_iff.mp rfl) (judgement.feedback_normalize maxPoints)
    (judgement.extendedFeedback_normalize maxPoints)

/-- A submission that failed turns every judgement into a failure, and silences it. -/
theorem judged_of_failed {award : Award} {maxPoints : Binary64} (failed : r.failed) :
    r.Judged maxPoints (.graded (award.silencedIf r.failed))
      (r.apply (Judgement.normalize maxPoints .fail)) := by
  have marked : r.flags.isEmpty = false := by simpa [CaseResult.failed] using failed
  refine r.judged_of_standsFor (fun unmarked => ?_) (fun unmarked => ?_) ?_ ?_
  · rw [marked] at unmarked
    cases unmarked
  · rw [marked] at unmarked
    cases unmarked
  · rw [failed]
    rfl
  · rw [failed]
    rfl

theorem apply_withOutput (output : Bytes) :
    { r with output := output }.apply award = { r.apply award with output := output } := rfl

-- The times are set aside, as comparing the fields of the results must not compute them.
theorem withUsage_withOutput (output : Bytes) (report : ProcessReport) :
    { r with output := output }.withUsage report =
      { r.withUsage report with output := output } := by
  unfold withUsage
  generalize report.cpuTime.toSeconds = cpu
  generalize report.wallTime.toSeconds = wall
  rfl

theorem withLimits_withOutput (output : Bytes) (report : ProcessReport) :
    { r with output := output }.withLimits report =
      { r.withLimits report with output := output } := rfl

theorem withEnd_withOutput (output stderr : Bytes) (report : ProcessReport) :
    { r with output := output }.withEnd stderr report =
      { r.withEnd stderr report with output := output } := by
  cases signal : report.signalName with
  | some name => simp only [withEnd, signal]
  | none =>
    cases exit : report.exitCode with
    | none => simp only [withEnd, signal, exit]
    | some code =>
      by_cases success : code = 0
      · simp only [withEnd, signal, exit, success, if_true]
      · simp only [withEnd, signal, exit, success, if_false]

theorem populate_eq (stderr : Bytes) (report : ProcessReport) :
    r.populate stderr report =
      if ((r.withUsage report).withLimits report).failed then (r.withUsage report).withLimits report
      else ((r.withUsage report).withLimits report).withEnd stderr report := rfl

def usage (r : CaseResult) : Binary64 × Binary64 × Nat :=
  (r.executionTime, r.wallTime, r.maxMemory)

section Usage

variable (stderr : Bytes) (report : ProcessReport)

-- The times are set aside, as comparing the fields of the results must not compute them.
theorem usage_withUsage : (r.withUsage report).usage =
    (report.cpuTime.toSeconds, report.wallTime.toSeconds, report.maxMemory) := by
  unfold withUsage
  generalize report.cpuTime.toSeconds = cpu
  generalize report.wallTime.toSeconds = wall
  rfl

theorem usage_withLimits : (r.withLimits report).usage = r.usage := rfl

theorem usage_withEnd : (r.withEnd stderr report).usage = r.usage := by
  unfold withEnd
  split
  · rfl
  · split <;> rfl
  · rfl

theorem usage_populate : (r.populate stderr report).usage =
    (report.cpuTime.toSeconds, report.wallTime.toSeconds, report.maxMemory) := by
  rw [populate_eq]
  split
  · rw [usage_withLimits, usage_withUsage]
  · rw [usage_withEnd, usage_withLimits, usage_withUsage]

end Usage

theorem populate_withOutput (output stderr : Bytes) (report : ProcessReport) :
    { r with output := output }.populate stderr report =
      { r.populate stderr report with output := output } := by
  rw [populate_eq, populate_eq, withUsage_withOutput, withLimits_withOutput]
  have same (observed : CaseResult) :
      { observed with output := output }.failed = observed.failed := rfl
  cases excess : ((r.withUsage report).withLimits report).failed
  · rw [if_neg (by rw [same, excess]; decide), if_neg (by decide), withEnd_withOutput]
  · rw [if_pos ((same _).trans excess), if_pos rfl]

theorem withEnd_flags_eq (stderr other : Bytes) (report : ProcessReport) :
    (r.withEnd stderr report).flags = (r.withEnd other report).flags := by
  cases signal : report.signalName with
  | some name => simp only [withEnd, signal]
  | none =>
    cases exit : report.exitCode with
    | none => simp only [withEnd, signal, exit]
    | some code =>
      by_cases success : code = 0
      · simp only [withEnd, signal, exit, success, if_true]
      · simp only [withEnd, signal, exit, success, if_false]

/-- What stderr says never decides a flag. -/
theorem populate_flags_eq (stderr other : Bytes) (report : ProcessReport) :
    (r.populate stderr report).flags = (r.populate other report).flags := by
  rw [populate_eq, populate_eq]
  cases ((r.withUsage report).withLimits report).failed
  · exact withEnd_flags_eq _ stderr other report
  · rfl

theorem withLimits_contains_outputLimit {report : ProcessReport} (excess : report.isOle) :
    (r.withLimits report).flags.contains .outputLimit := by
  simp [withLimits, excess, Flags.insertIf, Flags.insert_contains]

/-- After a breach of the output limit stderr is not looked at. -/
theorem populate_of_isOle {report : ProcessReport} (excess : report.isOle) (stderr : Bytes) :
    r.populate stderr report = (r.withUsage report).withLimits report := by
  have marked : ((r.withUsage report).withLimits report).failed := by
    simp [failed, withLimits, excess, Flags.insertIf_isEmpty]
  simp only [populate, marked, if_true]

end CaseResult
end ContestJudge
