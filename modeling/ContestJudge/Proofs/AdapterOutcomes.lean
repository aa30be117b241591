import ContestJudge.Adapter.Builtin
import ContestJudge.Proofs.PointsLines

namespace ContestJudge

namespace InteractorOutcome

variable {o : InteractorOutcome} {award : Award}

structure EndsOrderly (o : InteractorOutcome) : Prop where
  inTime : o.report.isTle = false
  inMemory : o.report.isMle = false
  unsignalled : o.report.signal = none

theorem isBroken_eq_false_iff : o.isBroken = false ↔ o.EndsOrderly := by
  rw [isBroken, Bool.or_eq_false_iff, Bool.or_eq_false_iff, Option.isSome_eq_false_iff,
    Option.isNone_iff_eq_none]
  constructor
  · rintro ⟨⟨inTime, inMemory⟩, unsignalled⟩
    exact ⟨inTime, inMemory, unsignalled⟩
  · rintro ⟨inTime, inMemory, unsignalled⟩
    exact ⟨⟨inTime, inMemory⟩, unsignalled⟩

def awarding (o : InteractorOutcome) (passed : Bool) (points : Binary64) : Award :=
  ⟨passed, points, o.feedback, none⟩

theorem awarding_of_withFeedback (passed : Bool) (points : Binary64) :
    (Award.ofPoints passed points).withFeedback o.feedback = o.awarding passed points := by
  cases feedback : o.feedback with
  | none => rw [awarding, feedback]; rfl
  | some text => rw [awarding, feedback]; rfl

inductive Earns (o : InteractorOutcome) : Award → Prop
  | all (accepts : o.report.exitCode = some 0) : Earns o (o.awarding true o.maxPoints)
  | nothing (rejects : o.report.exitCode = some 1) : Earns o (o.awarding false 0)

/-- What the exit codes of testlib earn: with 2 too no points, and with 7 the share of the points
line. -/
inductive EarnsInTestlib (o : InteractorOutcome) : Award → Prop
  | commonly {award : Award} (earns : o.Earns award) : EarnsInTestlib o award
  | nothing (malformed : o.report.exitCode = some 2) : EarnsInTestlib o (o.awarding false 0)
  | share {value : Binary64} (graded : o.report.exitCode = some 7)
      (awards : Points.Awards o.stderr value) :
      EarnsInTestlib o (o.awarding true (o.maxPoints * value))

end InteractorOutcome

namespace Adapter

open InteractorOutcome

variable {o : InteractorOutcome} {award : Award}

/-- Whether a convention awards what an interactor earns by an orderly end, and blames the judge where
it earns nothing. -/
structure Follows (judge : InteractorOutcome → Except Fault Award) (o : InteractorOutcome)
    (earns : Award → Prop) : Prop where
  awards : ∀ award, o.EndsOrderly → earns award → judge o = .ok award
  outcome : (∃ award, o.EndsOrderly ∧ earns award) ∨ ∃ cause, judge o = .error (.internal cause)

namespace Follows

variable {judge : InteractorOutcome → Except Fault Award} {earns : Award → Prop}

theorem eq_ok_iff (follows : Follows judge o earns) (award : Award) :
    judge o = .ok award ↔ o.EndsOrderly ∧ earns award := by
  constructor
  · intro judged
    rcases follows.outcome with ⟨earned, orderly, given⟩ | ⟨cause, refused⟩
    · rw [follows.awards earned orderly given, Except.ok.injEq] at judged
      exact judged ▸ ⟨orderly, given⟩
    · rw [refused] at judged
      cases judged
  · rintro ⟨orderly, given⟩
    exact follows.awards award orderly given

theorem internal (follows : Follows judge o earns) {fault : Fault} (refused : judge o = .error fault) :
    ∃ cause, fault = .internal cause := by
  rcases follows.outcome with ⟨earned, orderly, given⟩ | ⟨cause, blamed⟩
  · rw [follows.awards earned orderly given] at refused
    cases refused
  · rw [blamed, Except.error.injEq] at refused
    exact ⟨cause, refused.symm⟩

end Follows

theorem judge_of_broken (broken : ¬o.EndsOrderly) :
    judgeDefault o = .error o.helperFault ∧ judgeTestlib o = .error o.helperFault := by
  rw [← isBroken_eq_false_iff, Bool.not_eq_false] at broken
  rw [judgeDefault, judgeTestlib, broken]
  exact ⟨rfl, rfl⟩

theorem judgeDefault_of_earned (orderly : o.EndsOrderly) (earns : o.Earns award) :
    judgeDefault o = .ok award := by
  rw [judgeDefault, isBroken_eq_false_iff.mpr orderly]
  cases earns with
  | all accepts => simp [accepts, passed, awarding_of_withFeedback]
  | nothing rejects => simp [rejects, failed, awarding_of_withFeedback]

theorem judgeTestlib_of_earned (orderly : o.EndsOrderly) (earns : o.EarnsInTestlib award) :
    judgeTestlib o = .ok award := by
  rw [judgeTestlib, isBroken_eq_false_iff.mpr orderly]
  cases earns with
  | commonly earns =>
    cases earns with
    | all accepts => simp [accepts, passed, awarding_of_withFeedback]
    | nothing rejects => simp [rejects, failed, awarding_of_withFeedback]
  | nothing malformed => simp [malformed, failed, awarding_of_withFeedback]
  | share graded awards =>
    rw [← Points.fraction_eq_ok_iff] at awards
    simp [graded, awards, passed, awarding_of_withFeedback, awarding]

theorem judgeDefault_follows (o : InteractorOutcome) : Follows judgeDefault o o.Earns := by
  refine ⟨fun award => judgeDefault_of_earned, ?_⟩
  by_cases orderly : o.EndsOrderly
  · by_cases accepts : o.report.exitCode = some 0
    · exact .inl ⟨_, orderly, .all accepts⟩
    by_cases rejects : o.report.exitCode = some 1
    · exact .inl ⟨_, orderly, .nothing rejects⟩
    · right
      rw [judgeDefault, isBroken_eq_false_iff.mpr orderly, if_neg Bool.false_ne_true, if_neg accepts,
        if_neg rejects]
      exact ⟨_, rfl⟩
  · exact .inr ⟨_, (judge_of_broken orderly).1⟩

theorem judgeTestlib_follows (o : InteractorOutcome) :
    Follows judgeTestlib o o.EarnsInTestlib := by
  refine ⟨fun award => judgeTestlib_of_earned, ?_⟩
  by_cases orderly : o.EndsOrderly
  · by_cases accepts : o.report.exitCode = some 0
    · exact .inl ⟨_, orderly, .commonly (.all accepts)⟩
    by_cases rejects : o.report.exitCode = some 1
    · exact .inl ⟨_, orderly, .commonly (.nothing rejects)⟩
    by_cases malformed : o.report.exitCode = some 2
    · exact .inl ⟨_, orderly, .nothing malformed⟩
    have other : ¬(o.report.exitCode = some 1 ∨ o.report.exitCode = some 2) := by
      simp [rejects, malformed]
    rw [judgeTestlib, isBroken_eq_false_iff.mpr orderly, if_neg Bool.false_ne_true, if_neg accepts,
      if_neg other]
    by_cases graded : o.report.exitCode = some 7
    · rw [if_pos graded]
      cases share : Points.fraction o.stderr with
      | ok value => exact .inl ⟨_, orderly, .share graded (Points.fraction_eq_ok_iff.mp share)⟩
      | error cause => exact .inr ⟨cause, rfl⟩
    · rw [if_neg graded]
      right
      split
      · exact ⟨_, rfl⟩
      · exact ⟨_, rfl⟩
  · exact .inr ⟨_, (judge_of_broken orderly).2⟩

theorem judge_eq_of_earned (earns : o.Earns award) : judgeDefault o = judgeTestlib o := by
  by_cases orderly : o.EndsOrderly
  · rw [judgeDefault_of_earned orderly earns, judgeTestlib_of_earned orderly (.commonly earns)]
  · obtain ⟨plain, testlib⟩ := judge_of_broken orderly
    rw [plain, testlib]

/-- The built-in conventions on every end of an interactor: what they award, that they blame the judge
where they award nothing, and where they agree. The mark of too much output never counts. -/
theorem builtin_classify (o : InteractorOutcome) :
    (∀ award, Adapter.default.judge o = .ok award ↔ o.EndsOrderly ∧ o.Earns award) ∧
    (∀ award, Adapter.testlib.judge o = .ok award ↔ o.EndsOrderly ∧ o.EarnsInTestlib award) ∧
    (∀ adapter ∈ [Adapter.default, Adapter.testlib], ∀ fault, adapter.judge o = .error fault →
      ∃ cause, fault = .internal cause) ∧
    (o.report.exitCode = some 0 ∨ o.report.exitCode = some 1 ∨ ¬o.EndsOrderly →
      Adapter.default.judge o = Adapter.testlib.judge o) ∧
    ∀ adapter ∈ [Adapter.default, Adapter.testlib], ∀ excess,
      adapter.judge { o with report := { o.report with outputLimitExceeded := excess } } =
        adapter.judge o := by
  refine ⟨(judgeDefault_follows o).eq_ok_iff, (judgeTestlib_follows o).eq_ok_iff, ?_, ?_, ?_⟩
  · intro adapter builtin fault refused
    rw [List.mem_pair] at builtin
    rcases builtin with rfl | rfl
    · exact (judgeDefault_follows o).internal refused
    · exact (judgeTestlib_follows o).internal refused
  · rintro (accepts | rejects | broken)
    · exact judge_eq_of_earned (.all accepts)
    · exact judge_eq_of_earned (.nothing rejects)
    · obtain ⟨plain, testlib⟩ := judge_of_broken broken
      exact plain.trans testlib.symm
  · intro adapter builtin excess
    rw [List.mem_pair] at builtin
    rcases builtin with rfl | rfl
    · rfl
    · rfl

end Adapter

namespace Sample

def interactorEnd (exitCode : Int) (stderr : Bytes) : InteractorOutcome where
  report := { (default : ProcessReport) with exitCode := some exitCode }
  maxPoints := 10
  timeLimit := .ofSeconds 4
  memoryLimit := 65536
  feedback := some "shown"
  name := "interactor"
  stderr := stderr

def late : InteractorOutcome :=
  { interactorEnd 0 [] with report := { (interactorEnd 0 []).report with wallLimitExceeded := true } }

theorem quarter_earned_and_late_refused :
    Adapter.testlib.judge (interactorEnd 7 (Points.lead ++ Utf8.encode "0.25")) =
      .ok ⟨true, 10 * .ofRatio false 1 4, some "shown", none⟩ ∧
    Adapter.default.judge late = Adapter.testlib.judge late ∧
    ∃ cause, late.helperFault = .internal cause := by
  obtain ⟨-, judged, -, -, -⟩ :=
    Adapter.builtin_classify (interactorEnd 7 (Points.lead ++ Utf8.encode "0.25"))
  obtain ⟨-, -, internal, agree, -⟩ := Adapter.builtin_classify late
  have refused : Adapter.default.judge late = .error late.helperFault := rfl
  have broken : ¬late.EndsOrderly := fun orderly => absurd orderly.inTime (by decide)
  refine ⟨(judged _).mpr ⟨⟨rfl, rfl, rfl⟩, .share rfl ?_⟩, agree (.inr (.inr broken)),
    internal _ List.mem_cons_self _ refused⟩
  exact ⟨_, Points.isFirst_alone quarter_surrounded.longest, by decide, quarter_reads,
    quarter_isShare⟩

end Sample
end ContestJudge
