import ContestJudge.Proofs.Transcripts
/-!
Whom a verdict blames. A report earns marks of one kind only: for the limits that it breaks, else
for the signal, else for the exit code. The verdict is then decided by the report alone; a
judgement decides only about a submission whose report earns nothing.
-/

namespace ContestJudge

namespace Mark

def ofReports : List Mark :=
  [internalError, timeLimit, memoryLimit, outputLimit, runtimeError, invalidReturn]

theorem byPriority_eq : byPriority = ofReports ++ [wrongAnswer] := rfl

theorem code_eq_wrongAnswer_iff (mark : Mark) : mark.code = "WA" ↔ mark = .wrongAnswer := by
  cases mark <;> decide

theorem ne_wrongAnswer_of_mem {mark : Mark} (listed : mark ∈ ofReports) : mark ≠ .wrongAnswer := by
  rintro rfl
  simp [ofReports] at listed

end Mark

namespace Flags

theorem contains_none (mark : Mark) : none.contains mark = false := by
  simp [contains, none]

theorem contains_insertIf (flags : Flags) (condition : Bool) (mark other : Mark) :
    (flags.insertIf condition mark).contains other =
      (flags.contains other || (condition && decide (mark = other))) := by
  cases condition with
  | false => simp [insertIf]
  | true => simp [insertIf, contains_insert]

theorem insert_of_contains {flags : Flags} {mark : Mark} (present : flags.contains mark) :
    flags.insert mark = flags := by
  have bits : flags.bits ||| 2 ^ mark.index = flags.bits := by
    apply Nat.eq_of_testBit_eq
    intro i
    rw [Nat.testBit_or, Nat.testBit_two_pow]
    by_cases same : mark.index = i
    · subst same
      have bit : flags.bits.testBit mark.index = true := present
      simp [bit]
    · simp [same]
  rw [insert, union, only, Nat.pow_eq, bits]

theorem insertIf_of_contains {flags : Flags} {condition : Bool} {mark : Mark}
    (present : condition → flags.contains mark) : flags.insertIf condition mark = flags := by
  cases condition with
  | false => rfl
  | true => exact insert_of_contains (present rfl)

end Flags

namespace ProcessReport

variable (report : ProcessReport)

def isExcessive : Bool := report.isTle || report.isMle || report.isOle

/-- Whether a report alone earns a mark. A signal and an exit code count only for a run within its
limits, and an exit code only for a run without a signal. -/
def earns : Mark → Bool
  | .timeLimit => report.isTle
  | .memoryLimit => report.isMle
  | .outputLimit => report.isOle
  | .runtimeError => !report.isExcessive && report.signal.isSome
  | .invalidReturn =>
    !report.isExcessive && report.signal.isNone && report.exitCode.any (fun code => code != 0)
  | .wrongAnswer => false
  | .internalError => false

def blame? : Option Mark := Mark.ofReports.find? report.earns

end ProcessReport

namespace CaseResult

variable (r : CaseResult) (stderr : Bytes) (report : ProcessReport)

theorem withLimits_contains (mark : Mark) : (r.withLimits report).flags.contains mark =
    (r.flags.contains mark || (report.isTle && decide (.timeLimit = mark)) ||
      (report.isMle && decide (.memoryLimit = mark)) ||
      (report.isOle && decide (.outputLimit = mark))) := by
  rw [withLimits, Flags.contains_insertIf, Flags.contains_insertIf, Flags.contains_insertIf]

theorem withEnd_contains (mark : Mark) : (r.withEnd stderr report).flags.contains mark =
    (r.flags.contains mark || (report.signal.isSome && decide (.runtimeError = mark)) ||
      (report.signal.isNone && report.exitCode.any (fun code => code != 0) &&
        decide (.invalidReturn = mark))) := by
  unfold withEnd
  cases signal : report.signal with
  | some number =>
    simp [ProcessReport.signalName, signal, Flags.contains_insert]
  | none =>
    cases exit : report.exitCode with
    | none => simp [ProcessReport.signalName, signal]
    | some code =>
      by_cases success : code = 0
      · simp [ProcessReport.signalName, signal, success]
      · have failure : (code != 0) = true := bne_iff_ne.mpr success
        simp [ProcessReport.signalName, signal, success, failure, Flags.contains_insert]

theorem limited_failed (unmarked : r.flags.isEmpty) :
    ((r.withUsage report).withLimits report).failed = report.isExcessive := by
  have used : (r.withUsage report).flags = r.flags := by rw [withUsage]
  rw [failed, withLimits_isEmpty, used, unmarked, ProcessReport.isExcessive]
  cases report.isTle <;> cases report.isMle <;> cases report.isOle <;> rfl

theorem populate_contains (unmarked : r.flags = .none) (mark : Mark) :
    (r.populate stderr report).flags.contains mark = report.earns mark := by
  have used : (r.withUsage report).flags = .none := by rw [withUsage, unmarked]
  have failed := limited_failed r report (by rw [unmarked]; rfl)
  rw [populate_eq, failed]
  cases excess : report.isExcessive with
  | true =>
    rw [if_pos rfl, withLimits_contains, used, Flags.contains_none]
    cases mark <;> simp [ProcessReport.earns, excess]
  | false =>
    have within : report.isTle = false ∧ report.isMle = false ∧ report.isOle = false := by
      simpa [ProcessReport.isExcessive, and_assoc] using excess
    obtain ⟨inTime, inMemory, inOutput⟩ := within
    rw [if_neg (by decide), withEnd_contains, withLimits_contains, used, Flags.contains_none]
    cases mark <;> simp [ProcessReport.earns, excess, inTime, inMemory, inOutput]

theorem populate_isEmpty_iff_blame? (unmarked : r.flags = .none) :
    (r.populate stderr report).flags.isEmpty ↔ report.blame? = none := by
  have ordinary : (r.populate stderr report).flags.IsOrdinary :=
    isOrdinary_populate (by rw [unmarked]; exact Flags.isOrdinary_none) stderr report
  have marks := populate_contains r stderr report unmarked
  rw [ProcessReport.blame?, List.find?_eq_none]
  constructor
  · intro empty mark _ earned
    rw [← marks mark] at earned
    rw [Flags.isEmpty_of_contains earned] at empty
    cases empty
  · intro blameless
    apply ordinary.isEmpty_of_unmarked
    intro mark
    rw [marks mark]
    cases mark with
    | wrongAnswer => rfl
    | _ => exact Bool.eq_false_iff.mpr (blameless _ (by decide))

theorem withUsage_of_usage
    (used : r.usage = (report.cpuTime.toSeconds, report.wallTime.toSeconds, report.maxMemory)) :
    r.withUsage report = r := by
  unfold withUsage
  revert used
  generalize report.cpuTime.toSeconds = cpu
  generalize report.wallTime.toSeconds = wall
  intro used
  simp only [usage, Prod.mk.injEq] at used
  obtain ⟨executed, passed, held⟩ := used
  rw [← executed, ← passed, ← held]

theorem withLimits_of_contains (timed : report.isTle → r.flags.contains .timeLimit)
    (sized : report.isMle → r.flags.contains .memoryLimit)
    (flooded : report.isOle → r.flags.contains .outputLimit) : r.withLimits report = r := by
  rw [withLimits, Flags.insertIf_of_contains timed, Flags.insertIf_of_contains sized,
    Flags.insertIf_of_contains flooded]

/-- Of a submission that ended well, or of which no end is told, telemetry takes no more than its
use of time and memory. -/
theorem withEnd_of_clean (clean : report.IsClean) : r.withEnd stderr report = r := by
  unfold withEnd
  rw [ProcessReport.signalName, clean.unsignalled]
  cases exit : report.exitCode with
  | none => rfl
  | some code => exact if_pos (clean.exit code exit)

theorem withEnd_contains_of_contains {mark : Mark} (present : r.flags.contains mark) :
    (r.withEnd stderr report).flags.contains mark := by
  rw [withEnd_contains, present, Bool.true_or, Bool.true_or]

theorem populate_contains_limits {mark : Mark}
    (present : (r.withLimits report).flags.contains mark) :
    (r.populate stderr report).flags.contains mark := by
  have used : (r.withUsage report).flags = r.flags := by rw [withUsage]
  have limited : ((r.withUsage report).withLimits report).flags.contains mark := by
    rw [withLimits_contains, used, ← withLimits_contains]
    exact present
  rw [populate_eq]
  split
  · exact limited
  · exact withEnd_contains_of_contains _ stderr report limited

theorem populate_populate :
    (r.populate stderr report).populate stderr report = r.populate stderr report := by
  have used := withUsage_of_usage (r.populate stderr report) report (usage_populate r stderr report)
  have limited : (r.populate stderr report).withLimits report = r.populate stderr report := by
    apply withLimits_of_contains
    · intro breach
      exact populate_contains_limits r stderr report (by simp [withLimits_contains, breach])
    · intro breach
      exact populate_contains_limits r stderr report (by simp [withLimits_contains, breach])
    · intro breach
      exact populate_contains_limits r stderr report (by simp [withLimits_contains, breach])
  rw [populate_eq (r.populate stderr report), used, limited]
  split
  · rfl
  · rename_i unfailed
    have unmarked : (r.populate stderr report).flags.isEmpty := by simpa [failed] using unfailed
    exact withEnd_of_clean _ stderr report ((populate_isEmpty_iff r report stderr).mp unmarked).2

theorem feedback_withUsage : (r.withUsage report).feedback = r.feedback := by rw [withUsage]

theorem feedback_withLimits : (r.withLimits report).feedback = r.feedback := rfl

/-- Feedback comes only with a mark for a signal or for an exit code. -/
theorem feedback_populate (unmarked : r.flags = .none)
    (unsignalled : (r.populate stderr report).flags.contains .runtimeError = false)
    (returned : (r.populate stderr report).flags.contains .invalidReturn = false) :
    (r.populate stderr report).feedback = r.feedback := by
  rw [populate_contains r stderr report unmarked] at unsignalled returned
  have failed := limited_failed r report (by rw [unmarked]; rfl)
  rw [populate_eq, failed]
  split
  · rw [feedback_withLimits, feedback_withUsage]
  · rename_i within
    simp only [ProcessReport.earns, within, Bool.not_false, Bool.true_and] at unsignalled returned
    have quiet : report.signal = none := by simpa using unsignalled
    rw [withEnd, ProcessReport.signalName, quiet]
    cases exit : report.exitCode with
    | none =>
      rw [Option.map_none]
      rw [feedback_withLimits, feedback_withUsage]
    | some code =>
      have success : code = 0 := by simpa [quiet, exit] using returned
      simp only [Option.map_none, if_pos success]
      rw [feedback_withLimits, feedback_withUsage]

theorem extendedFeedback_withUsage :
    (r.withUsage report).extendedFeedback = r.extendedFeedback := by rw [withUsage]

theorem extendedFeedback_withLimits :
    (r.withLimits report).extendedFeedback = r.extendedFeedback := rfl

theorem extendedFeedback_withEnd :
    (r.withEnd stderr report).extendedFeedback = r.extendedFeedback := by
  unfold withEnd
  split
  · rfl
  · split <;> rfl
  · rfl

theorem extendedFeedback_populate :
    (r.populate stderr report).extendedFeedback = r.extendedFeedback := by
  rw [populate_eq]
  split
  · rw [extendedFeedback_withLimits, extendedFeedback_withUsage]
  · rw [extendedFeedback_withEnd, extendedFeedback_withLimits, extendedFeedback_withUsage]

section Judged

variable (award : Award)

/-- The verdict is the report's to name; where it blames nothing, the judgement decides. -/
theorem verdict_apply_populate (unmarked : r.flags = .none) :
    ((r.populate stderr report).apply award).flags.verdict =
      match report.blame? with
      | some mark => mark.code
      | none => if award.passed then "AC" else "WA" := by
  have marks := populate_contains r stderr report unmarked
  have empty := populate_isEmpty_iff_blame? r stderr report unmarked
  have judged (mark : Mark) : ((r.populate stderr report).apply award).flags.contains mark =
      (report.earns mark || (!((r.populate stderr report).flags.isEmpty && award.passed) &&
        decide (.wrongAnswer = mark))) := by
    rw [apply_flags, Flags.contains_insertIf, marks]
  have early : Mark.ofReports.find? ((r.populate stderr report).apply award).flags.contains =
      report.blame? := by
    have same : ∀ mark ∈ Mark.ofReports,
        ((r.populate stderr report).apply award).flags.contains mark = report.earns mark := by
      intro mark listed
      rw [judged, decide_eq_false (Mark.ne_wrongAnswer_of_mem listed).symm, Bool.and_false,
        Bool.or_false]
    rw [ProcessReport.blame?, ← List.head?_filter, ← List.head?_filter, List.filter_congr same]
  rw [Flags.verdict, Mark.byPriority_eq, List.find?_append, early]
  cases blame : report.blame? with
  | some mark => rfl
  | none =>
    rw [blame] at empty
    simp only [Option.none_or, List.find?_cons, List.find?_nil, judged, ProcessReport.earns,
      empty.mpr rfl, Bool.true_and, Bool.false_or, decide_true, Bool.and_true]
    cases award.passed <;> rfl

theorem apply_contains_wrongAnswer (unmarked : r.flags.contains .wrongAnswer = false) :
    (r.apply award).flags.contains .wrongAnswer ↔ (r.apply award).flags.isEmpty = false := by
  rw [apply_flags, Flags.contains_insertIf, Flags.insertIf_isEmpty, unmarked]
  cases r.flags.isEmpty <;> cases award.passed <;> decide

end Judged

/-- A report blames a submission for one thing, and the judgement of its output changes nothing
about that. -/
theorem verdict_attributed (c : TestCase) (stderr : Bytes) (report : ProcessReport)
    (award : Award) :
    let observed := c.freshResult.populate stderr report
    let judged := observed.apply award
    let marked := observed.flags.contains
    let exceeded := marked .timeLimit || marked .memoryLimit || marked .outputLimit
    exceeded = report.isExcessive ∧
    (exceeded → marked .runtimeError = false ∧ marked .invalidReturn = false) ∧
    (marked .runtimeError → marked .invalidReturn = false) ∧
    (marked .runtimeError = false → marked .invalidReturn = false →
      observed.feedback = c.freshResult.feedback) ∧
    observed.extendedFeedback = c.freshResult.extendedFeedback ∧
    observed.executionTime = report.cpuTime.toSeconds ∧
    observed.wallTime = report.wallTime.toSeconds ∧
    observed.maxMemory = report.maxMemory ∧
    observed.populate stderr report = observed ∧
    (judged.flags.verdict = "AC" ↔ judged.flags.isEmpty) ∧
    (judged.flags.verdict = "WA" ↔ observed.flags.isEmpty ∧ award.passed = false) ∧
    (observed.flags.isEmpty = false →
      ∃ mark, report.blame? = some mark ∧ judged.flags.verdict = mark.code) ∧
    (judged.flags.contains .wrongAnswer ↔ judged.flags.isEmpty = false) := by
  intro observed judged marked exceeded
  have earned (mark : Mark) : marked mark = report.earns mark :=
    populate_contains c.freshResult stderr report rfl mark
  have empty := populate_isEmpty_iff_blame? c.freshResult stderr report rfl
  have verdict := verdict_apply_populate c.freshResult stderr report award rfl
  have ordinary : observed.flags.IsOrdinary :=
    isOrdinary_populate Flags.isOrdinary_none stderr report
  have measured := usage_populate c.freshResult stderr report
  simp only [usage, Prod.mk.injEq] at measured
  obtain ⟨executed, passed, held⟩ := measured
  have exceeds : exceeded = report.isExcessive := by
    simp only [exceeded, earned, ProcessReport.earns, ProcessReport.isExcessive]
  refine ⟨exceeds, ?_, ?_, feedback_populate c.freshResult stderr report rfl,
    extendedFeedback_populate c.freshResult stderr report, executed, passed, held,
    populate_populate c.freshResult stderr report, ?_, ?_, ?_, ?_⟩
  · intro excess
    rw [exceeds] at excess
    simp [earned, ProcessReport.earns, excess]
  · intro signalled
    rw [earned, ProcessReport.earns, Bool.and_eq_true] at signalled
    have named : report.signal.isNone = false := by
      rw [← Option.not_isSome, signalled.2, Bool.not_true]
    simp [earned, ProcessReport.earns, named]
  · exact Flags.verdict_eq_accepted_iff (isOrdinary_apply ordinary award)
  · rw [verdict, empty]
    cases blame : report.blame? with
    | some mark =>
      have before : mark ≠ .wrongAnswer :=
        Mark.ne_wrongAnswer_of_mem (List.mem_of_find?_eq_some blame)
      simp [Mark.code_eq_wrongAnswer_iff, before]
    | none => cases award.passed <;> decide
  · intro failed
    cases blame : report.blame? with
    | some mark => exact ⟨mark, rfl, by rw [verdict, blame]⟩
    | none =>
      rw [empty.mpr blame] at failed
      cases failed
  · exact apply_contains_wrongAnswer observed award (earned .wrongAnswer)

end CaseResult
end ContestJudge
