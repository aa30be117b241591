import ContestJudge.Proofs.Binary64Order
import ContestJudge.Proofs.Conversation
/-!
How many points a graded case can get. An award that is written out is brought between zero and the
points of its case; a pass takes the points of the case as they are, whatever their sign.
-/

namespace ContestJudge

structure PointsWithin (maxPoints points : Binary64) : Prop where
  number : points.isNan = false
  nonnegative : Binary64.le 0 points
  atMost : points.le (Binary64.max 0 maxPoints)

namespace Judgement

variable {maxPoints : Binary64} (number : maxPoints.isNan = false)
include number

theorem within_zero : PointsWithin maxPoints 0 where
  number := Binary64.isNan_ofNat 0
  nonnegative := Binary64.le_refl (Binary64.isNan_ofNat 0)
  atMost := Binary64.left_le_max (Binary64.isNan_ofNat 0) number

theorem within_of_le {points : Binary64} (nonnegative : Binary64.le 0 points)
    (atMost : points.le maxPoints) : PointsWithin maxPoints points where
  number := Binary64.isNan_left_of_le atMost
  nonnegative := nonnegative
  atMost := Binary64.le_trans atMost (Binary64.right_le_max (Binary64.isNan_ofNat 0) number)

theorem ceiling_within : PointsWithin maxPoints (ceiling maxPoints) where
  number := isNan_ceiling maxPoints
  nonnegative := zero_le_ceiling maxPoints
  atMost := by
    rw [ceiling]
    split
    · exact Binary64.right_le_max (Binary64.isNan_ofNat 0) number
    · exact Binary64.left_le_max (Binary64.isNan_ofNat 0) number

/-- Whatever was awarded, infinities and NaN too, is worth points that the case can give. -/
theorem worth_within {judgement : Judgement} {points : Binary64}
    (worth : judgement.Worth maxPoints points) (written : judgement ≠ .pass) :
    PointsWithin maxPoints points := by
  cases worth with
  | pass => exact absurd rfl written
  | fail => exact within_zero number
  | failed => exact within_zero number
  | nan => exact within_zero number
  | below => exact within_zero number
  | above => exact ceiling_within number
  | within passed least most =>
    have atMost := Binary64.le_trans most (ceiling_within number).atMost
    exact ⟨Binary64.isNan_left_of_le most, least, atMost⟩

theorem normalize_within {judgement : Judgement} (written : judgement ≠ .pass) :
    PointsWithin maxPoints (judgement.normalize maxPoints).points :=
  worth_within number (points_normalize_iff.mp rfl) written

omit number in
/-- Of a case with points to give, a pass is worth what the award of all of them is worth. -/
theorem bounded_self (nonnegative : Binary64.le 0 maxPoints) :
    bounded maxPoints maxPoints = maxPoints := by
  have whole : maxPoints.le maxPoints :=
    Binary64.le_refl (Binary64.isNan_right_of_le nonnegative)
  rw [bounded, nonnegative, whole]
  rfl

def awarding (points : Binary64) : Judgement → Judgement
  | .fail => .fail
  | .pass => .graded (.ofPoints true points)
  | .graded award => .graded award

omit number in
theorem awarding_ne_pass (points : Binary64) (judgement : Judgement) :
    judgement.awarding points ≠ .pass := by
  cases judgement <;> simp only [awarding, ne_eq, reduceCtorEq, not_false_eq_true]

omit number in
theorem normalize_awarding (nonnegative : Binary64.le 0 maxPoints) (judgement : Judgement) :
    (judgement.awarding maxPoints).normalize maxPoints = judgement.normalize maxPoints := by
  cases judgement with
  | fail => rfl
  | pass =>
    simp only [awarding, normalize, Award.ofPoints, if_true, bounded_self nonnegative]
  | graded award => rfl

end Judgement

/-! A checker that writes its passes out as awards. -/

def Consultation.map (change : Judgement → Judgement) : Consultation → Consultation
  | .answer said => .answer (said.map change)
  | .readInput next => .readInput fun input => (next input).map change

/-- The case with a checker that awards all points in so many words where it had passed. -/
def TestCase.awardingPasses (c : TestCase) : TestCase :=
  { c with checker := { c.checker with
      check := fun context => (c.checker.check context).map (.awarding c.points) } }

theorem verdictOf_map_awarding (points : Binary64) (said : Except CheckerFault Judgement) :
    verdictOf (said.map (.awarding points)) = (verdictOf said).map (.awarding points) := by
  rcases said with (_ | message) | judgement <;> rfl

section Grading

variable {σ : Type} {c : TestCase}

theorem consult_map {other : TestCase} (same : (other.inputData : Judge σ Bytes) = c.inputData)
    (change : Judgement → Judgement) (consultation : Consultation) (lazy : LazyBytes) :
    (consult other lazy (consultation.map change) : Judge σ (Except CheckerFault Judgement)) =
      (·.map change) <$> consult c lazy consultation := by
  induction consultation generalizing lazy with
  | answer said => rfl
  | readInput next ih =>
    simp only [Consultation.map, consult, map_bind, same]
    refine bind_congr fun loaded => ?_
    rcases loaded with fault | ⟨read, data⟩
    · exact ih _ _
    · simp only [map_bind, ih]

theorem ofExcept_map {α β : Type} (answer : Except Fault α) (change : α → β) :
    (Work.ofExcept (answer.map change) : Work σ β) = change <$> Work.ofExcept answer := by
  cases answer <;> rfl

theorem StandardGrader.runChecker_awardingPasses (g : StandardGrader σ) (result : CaseResult) :
    g.runChecker c.awardingPasses result =
      (Judgement.awarding c.points) <$> g.runChecker c result := by
  have heard (context : CheckContext) :
      (do
        let answer ← consult c.awardingPasses .unread (c.awardingPasses.checker.check context)
        Work.ofExcept (verdictOf answer) : Judge σ Judgement) =
      Judgement.awarding c.points <$> (do
        let answer ← consult c .unread (c.checker.check context)
        Work.ofExcept (verdictOf answer)) := by
    change consult c.awardingPasses .unread ((c.checker.check context).map _) >>= _ = _
    have same : (c.awardingPasses.inputData : Judge σ Bytes) = c.inputData := rfl
    rw [consult_map same, bind_map_left, map_bind]
    refine bind_congr fun said => ?_
    rw [verdictOf_map_awarding, ofExcept_map]
  by_cases skipped : result.failed && !c.checker.runOnError
  · have skipped' : result.failed && !c.awardingPasses.checker.runOnError := skipped
    rw [runChecker, runChecker, if_pos skipped, if_pos skipped', map_pure]
    rfl
  · have asked' : ¬(result.failed && !c.awardingPasses.checker.runOnError) := skipped
    rw [runChecker, runChecker, if_neg skipped, if_neg asked', map_bind]
    refine bind_congr fun judgeOutput => ?_
    rw [map_bind]
    exact bind_congr fun _ => heard _

theorem atDesk_map {α β Run : Type} (work : Judge σ α) (change : α → β) :
    (Session.atDesk (change <$> work) : Work (Session σ Run) β) =
      change <$> Session.atDesk work := by
  rw [← bind_pure_comp, ← bind_pure_comp]
  refine funext fun session => ?_
  change (Session.atDesk (work >>= _)).runOn session = (Session.atDesk work >>= _).runOn session
  rw [Session.runOn_atDesk, Work.runOn_bind, Work.runOn_bind, Session.runOn_atDesk]
  rcases work.runOn session.desk with ⟨fault | a, later⟩ <;> rfl

theorem StandardGrader.conclude_awardingPasses (g : StandardGrader σ)
    (nonnegative : Binary64.le 0 c.points) :
    g.steps.conclude c.awardingPasses = g.steps.conclude c := by
  refine bind_congr fun ended => bind_congr fun observed => ?_
  change Session.atDesk (g.runChecker c.awardingPasses observed) >>= _ = _
  rw [runChecker_awardingPasses, atDesk_map, bind_map_left]
  refine bind_congr fun judgement => ?_
  rw [← Judgement.normalize_awarding nonnegative judgement]
  rfl

theorem StandardGrader.gradeCase_awardingPasses (g : StandardGrader σ)
    (nonnegative : Binary64.le 0 c.points) :
    g.steps.gradeCase c.awardingPasses = g.steps.gradeCase c := by
  unfold GradingSteps.gradeCase GradingSteps.runCase
  rw [conclude_awardingPasses g nonnegative]
  rfl

theorem GradingSteps.exists_judgement {Run : Type} {steps : GradingSteps σ Run} {desk : Desk σ}
    {result : CaseResult} (grades : ((steps.gradeCase c).runOn desk).1 = .ok result) :
    ∃ observed judgement session later, (steps.check c observed).Gives session judgement later ∧
      result = observed.apply (judgement.normalize c.points) := by
  have ran : ((steps.runCase c).runOn desk).1 = .ok result := grades
  obtain ⟨run, launched, -, graded⟩ := Work.exists_of_gives_bind (Work.gives_of_answer ran)
  have concluded : ((steps.conclude c).runOn ⟨launched, run⟩).1 = .ok result :=
    congrArg Prod.fst graded
  obtain ⟨⟨captured, stderr⟩, ended, -, shown⟩ :=
    Work.exists_of_gives_bind (Work.gives_of_answer concluded)
  obtain ⟨observed, seen, -, checked⟩ := Work.exists_of_gives_bind shown
  obtain ⟨judgement, later, judged, answered⟩ := Work.exists_of_gives_bind checked
  have same := congrArg Prod.fst answered
  simp only [Work.runOn_pure, Except.ok.injEq] at same
  exact ⟨observed, judgement, seen, later, judged, same.symm⟩

theorem InteractiveGrader.ne_pass_of_check {g : InteractiveGrader σ} {result : CaseResult}
    {session later : Session σ InteractiveRun} {judgement : Judgement}
    (gives : (g.check c result).Gives session judgement later) : judgement ≠ .pass := by
  rw [Work.Gives, check, Work.runOn_bind, Work.runOn_get] at gives
  cases joined : session.run.interactor with
  | none =>
    simp only [joined, Work.runOn_throw, Prod.mk.injEq, reduceCtorEq, false_and] at gives
  | some interactor =>
    simp only [joined] at gives
    obtain ⟨award, heard, -, answered⟩ := Work.exists_of_gives_bind gives
    have same := congrArg Prod.fst answered
    simp only [Work.runOn_pure, Except.ok.injEq] at same
    rw [← same]
    split <;> simp only [ne_eq, reduceCtorEq, not_false_eq_true]

theorem StandardGrader.ne_pass_of_check {g : StandardGrader σ} {result : CaseResult}
    {session later : Session σ StandardRun} {judgement : Judgement}
    (gives : (g.steps.check c.awardingPasses result).Gives session judgement later) :
    judgement ≠ .pass := by
  change (Session.atDesk (g.runChecker c.awardingPasses result)).Gives _ _ _ at gives
  rw [runChecker_awardingPasses, atDesk_map, ← bind_pure_comp] at gives
  obtain ⟨said, heard, -, answered⟩ := Work.exists_of_gives_bind gives
  have same := congrArg Prod.fst answered
  simp only [Work.runOn_pure, Except.ok.injEq] at same
  rw [← same]
  exact Judgement.awarding_ne_pass c.points said

end Grading

section Points

variable {maxPoints : Binary64} (number : maxPoints.isNan = false) (observed : CaseResult)
include number

theorem CaseResult.apply_within {award : Award} (within : PointsWithin maxPoints award.points) :
    PointsWithin maxPoints (observed.apply award).points := by
  rw [apply_points]
  split
  · exact within
  · exact Judgement.within_zero number

/-- A judgement takes a case out of bounds only as a pass of a case with a negative value. -/
theorem CaseResult.apply_normalize (judgement : Judgement) :
    PointsWithin maxPoints (observed.apply (judgement.normalize maxPoints)).points ∨
      judgement = .pass ∧ maxPoints.lt 0 ∧
        (observed.apply (judgement.normalize maxPoints)).isAccepted ∧
        (observed.apply (judgement.normalize maxPoints)).points = maxPoints := by
  by_cases written : judgement = .pass
  · subst written
    by_cases nonnegative : Binary64.le 0 maxPoints
    · left
      exact apply_within number observed
        (Judgement.within_of_le number nonnegative (Binary64.le_refl number))
    · have negative : maxPoints.lt 0 :=
        Binary64.lt_of_not_le (Binary64.isNan_ofNat 0) number nonnegative
      rw [apply_points]
      split
      · rename_i accepted
        exact .inr ⟨rfl, negative, accepted, rfl⟩
      · exact .inl (Judgement.within_zero number)
  · exact .inl (apply_within number observed (Judgement.normalize_within number written))

end Points

theorem Grader.points_of_rejected {σ : Type} {g : Grader σ} {c : TestCase} {desk : Desk σ}
    {result : CaseResult} (grades : ((g.grade c).runOn desk).1 = .ok result)
    (rejects : result.isAccepted = false) : result.points = 0 := by
  cases g with
  | standard g =>
    obtain ⟨observed, judgement, _, _, -, rfl⟩ := GradingSteps.exists_judgement grades
    rw [CaseResult.apply_points, rejects, if_neg Bool.false_ne_true]
  | interactive g =>
    obtain ⟨observed, judgement, _, _, -, rfl⟩ := GradingSteps.exists_judgement grades
    rw [CaseResult.apply_points, rejects, if_neg Bool.false_ne_true]

/-- The points of a graded case lie between zero and the points of the case, unless a checker
passes a case with a negative value: then they are that value. Writing a pass out as an award of
all points changes nothing where there are points to give, and keeps the bounds everywhere. -/
theorem Grader.grade_points_within {σ : Type} (g : Grader σ) (c : TestCase) (desk : Desk σ)
    (number : c.points.isNan = false) :
    (∀ result, ((g.grade c).runOn desk).1 = .ok result →
      (PointsWithin c.points result.points ∨ g.isInteractive = false ∧ c.points.lt 0 ∧
        result.isAccepted ∧ result.points = c.points) ∧
      (result.isAccepted = false → result.points = 0)) ∧
    (Binary64.le 0 c.points →
      (g.grade c.awardingPasses).runOn desk = (g.grade c).runOn desk) ∧
    ∀ result, ((g.grade c.awardingPasses).runOn desk).1 = .ok result →
      PointsWithin c.points result.points := by
  cases g with
  | standard g =>
    refine ⟨?_, ?_, ?_⟩
    · intro result grades
      refine ⟨?_, fun rejects => points_of_rejected grades rejects⟩
      obtain ⟨observed, judgement, _, _, -, rfl⟩ := GradingSteps.exists_judgement grades
      exact (CaseResult.apply_normalize number observed judgement).imp_right
        fun ⟨_, negative, taken⟩ => ⟨rfl, negative, taken⟩
    · intro nonnegative
      exact congrArg (·.runOn desk) (g.gradeCase_awardingPasses nonnegative)
    · intro result grades
      obtain ⟨observed, judgement, session, later, judged, rfl⟩ := GradingSteps.exists_judgement grades
      exact CaseResult.apply_within number observed
        (Judgement.normalize_within number (StandardGrader.ne_pass_of_check judged))
  | interactive g =>
    have within : ∀ result, (((Grader.interactive g).grade c).runOn desk).1 = .ok result →
        PointsWithin c.points result.points := by
      intro result grades
      obtain ⟨observed, judgement, session, later, judged, rfl⟩ := GradingSteps.exists_judgement grades
      exact CaseResult.apply_within number observed
        (Judgement.normalize_within number (InteractiveGrader.ne_pass_of_check judged))
    refine ⟨?_, fun _ => rfl, within⟩
    intro result grades
    exact ⟨.inl (within result grades), fun rejects => points_of_rejected grades rejects⟩

namespace Sample

def passedCase (points : Binary64) : TestCase :=
  { testCase 64 with
    points := points
    checker := ⟨"pass", false, fun _ => .answer (.ok .pass)⟩ }

theorem pass_within_ten :
    (passedCase 10).points.isNan = false ∧ ∃ result,
      (((Grader.standard (standard true)).grade (passedCase 10)).runOn (desk [])).1 = .ok result ∧
      PointsWithin 10 result.points := by
  have number : (passedCase 10).points.isNan = false := by decide +kernel
  have unsigned : (passedCase 10).points.lt 0 = false := by decide +kernel
  have valued : ((((Grader.standard (standard true)).grade (passedCase 10)).runOn
      (desk [])).1.map (·.points)) = .ok 10 := by decide +kernel
  have bounds := Grader.grade_points_within (.standard (standard true)) (passedCase 10) (desk [])
    number
  rcases graded : (((Grader.standard (standard true)).grade (passedCase 10)).runOn (desk [])).1
    with fault | result
  · rw [graded] at valued
    cases valued
  · refine ⟨number, result, rfl, ?_⟩
    rcases (bounds.1 result graded).1 with within | ⟨-, negative, -⟩
    · exact within
    · rw [unsigned] at negative
      cases negative

/-- A pass of a case that is worth less than nothing costs points; an award of as much does not. -/
theorem pass_costs_points :
    let costly := passedCase (Binary64.negate 5)
    let grade (c : TestCase) := (((Grader.standard (standard true)).grade c).runOn (desk [])).1
    (grade costly).map (·.points) = .ok (Binary64.negate 5) ∧
    Binary64.le 0 (Binary64.negate 5) = false ∧
    (grade costly.awardingPasses).map (·.points) = .ok 0 := by
  refine ⟨?_, ?_, ?_⟩ <;> decide +kernel

end Sample
end ContestJudge
