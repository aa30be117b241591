import ContestJudge.Problem.Case
import ContestJudge.Proofs.Acceptance
import ContestJudge.Proofs.Histories
/-!
The course of a verdict: a result takes in reports and judgements in whatever order they come. Marks
stay once they are made, so a result is accepted only if nothing that it took in speaks against it.
-/

namespace ContestJudge

namespace Flags

/-- Every bit of the first set is one of the second, also a bit without a mark. -/
def IsSubset (flags other : Flags) : Prop :=
  ∀ bit, flags.bits.testBit bit → other.bits.testBit bit

theorem IsSubset.refl (flags : Flags) : flags.IsSubset flags := fun _ present => present

variable {first second third : Flags}

theorem IsSubset.trans (lower : first.IsSubset second) (upper : second.IsSubset third) :
    first.IsSubset third :=
  fun bit present => upper bit (lower bit present)

theorem isSubset_insert (flags : Flags) (mark : Mark) : flags.IsSubset (flags.insert mark) := by
  intro bit present
  simp [insert, union, present]

theorem isSubset_insertIf (flags : Flags) (condition : Bool) (mark : Mark) :
    flags.IsSubset (flags.insertIf condition mark) := by
  cases condition with
  | false => exact IsSubset.refl flags
  | true => exact isSubset_insert flags mark

end Flags

inductive Finding where
  /-- The report of a process, with its stderr. -/
  | reported (stderr : Bytes) (report : ProcessReport)
  /-- The award of a judgement, whether it was brought into bounds or not. -/
  | judged (award : Award)

namespace CaseResult

def take (r : CaseResult) : Finding → CaseResult
  | .reported stderr report => r.populate stderr report
  | .judged award => r.apply award

def takeAll (r : CaseResult) (findings : List Finding) : CaseResult := findings.foldl take r

variable (r : CaseResult)

theorem takeAll_cons (finding : Finding) (findings : List Finding) :
    r.takeAll (finding :: findings) = (r.take finding).takeAll findings := rfl

theorem takeAll_append (findings more : List Finding) :
    r.takeAll (findings ++ more) = (r.takeAll findings).takeAll more := List.foldl_append

theorem isSubset_withLimits (report : ProcessReport) :
    r.flags.IsSubset (r.withLimits report).flags := by
  rw [withLimits]
  exact ((Flags.isSubset_insertIf _ _ _).trans (Flags.isSubset_insertIf _ _ _)).trans
    (Flags.isSubset_insertIf _ _ _)

theorem isSubset_withEnd (stderr : Bytes) (report : ProcessReport) :
    r.flags.IsSubset (r.withEnd stderr report).flags := by
  unfold withEnd
  split
  · exact Flags.isSubset_insert _ _
  · split
    · exact Flags.IsSubset.refl _
    · exact Flags.isSubset_insert _ _
  · exact Flags.IsSubset.refl _

theorem isSubset_populate (stderr : Bytes) (report : ProcessReport) :
    r.flags.IsSubset (r.populate stderr report).flags := by
  have used : (r.withUsage report).flags = r.flags := by rw [withUsage]
  have limited := isSubset_withLimits (r.withUsage report) report
  rw [used] at limited
  rw [populate_eq]
  split
  · exact limited
  · exact limited.trans (isSubset_withEnd _ stderr report)

theorem isSubset_apply (award : Award) : r.flags.IsSubset (r.apply award).flags := by
  rw [apply_flags]
  exact Flags.isSubset_insertIf _ _ _

theorem isSubset_take (finding : Finding) : r.flags.IsSubset (r.take finding).flags := by
  cases finding with
  | reported stderr report => exact isSubset_populate r stderr report
  | judged award => exact isSubset_apply r award

theorem isSubset_takeAll (findings : List Finding) :
    r.flags.IsSubset (r.takeAll findings).flags := by
  induction findings generalizing r with
  | nil => exact Flags.IsSubset.refl _
  | cons finding findings ih => exact (isSubset_take r finding).trans (ih (r.take finding))

end CaseResult

/-- Whether a finding alone is nothing against a submission: a report that leaves the fresh result
of the case unmarked, or a judgement that passes. -/
def Finding.IsFavourable (c : TestCase) : Finding → Prop
  | .reported stderr report => (c.freshResult.populate stderr report).flags.isEmpty
  | .judged award => award.passed

namespace CaseResult

variable {c : TestCase}

theorem take_isAccepted_iff (r : CaseResult) (finding : Finding) :
    (r.take finding).isAccepted ↔ r.isAccepted ∧ finding.IsFavourable c := by
  cases finding with
  | reported stderr report =>
    have fresh : c.freshResult.flags.isEmpty := rfl
    have alone := populate_isEmpty_iff c.freshResult report stderr
    rw [Finding.IsFavourable, alone, and_iff_right fresh]
    exact populate_isEmpty_iff r report stderr
  | judged award =>
    rw [take, apply_isAccepted, Bool.and_eq_true]
    rfl

theorem takeAll_isAccepted_iff (r : CaseResult) (findings : List Finding) :
    (r.takeAll findings).isAccepted ↔
      r.isAccepted ∧ ∀ finding ∈ findings, finding.IsFavourable c := by
  induction findings generalizing r with
  | nil => simp [takeAll]
  | cons finding findings ih =>
    rw [takeAll_cons, ih, take_isAccepted_iff (c := c), and_assoc, List.forall_mem_cons]

theorem apply_points_ne_zero {r : CaseResult} {award : Award} (worth : (r.apply award).points ≠ 0) :
    (r.apply award).isAccepted ∧ (r.apply award).points = award.points := by
  rw [apply_points] at worth ⊢
  split at worth
  · rename_i accepted
    exact ⟨accepted, if_pos accepted⟩
  · exact absurd rfl worth

/-- A result never recovers: no mark is lost, it is accepted only if every finding was favourable,
in whatever order they came, and a judgement gives points only to a result without marks. -/
theorem takeAll_never_recovers (c : TestCase) (findings : List Finding) :
    (∀ past next future, findings = past ++ next ++ future →
      (c.freshResult.takeAll past).flags.IsSubset (c.freshResult.takeAll (past ++ next)).flags) ∧
    ((c.freshResult.takeAll findings).isAccepted ↔
      ∀ finding ∈ findings, finding.IsFavourable c) ∧
    (∀ reordered, findings.Perm reordered →
      (c.freshResult.takeAll reordered).isAccepted =
        (c.freshResult.takeAll findings).isAccepted) ∧
    Lawful (fun past finding => ∀ award, finding = .judged award →
      let judged := c.freshResult.takeAll (past ++ [finding])
      judged.points ≠ 0 → judged.flags.isEmpty ∧ judged.points = award.points) findings := by
  have fresh : c.freshResult.isAccepted := rfl
  have accepted (sequence : List Finding) : (c.freshResult.takeAll sequence).isAccepted ↔
      ∀ finding ∈ sequence, finding.IsFavourable c := by
    rw [takeAll_isAccepted_iff (c := c), and_iff_right fresh]
  refine ⟨?_, accepted findings, ?_, ?_⟩
  · intro past next future _
    rw [takeAll_append]
    exact isSubset_takeAll _ next
  · intro reordered permuted
    rw [Bool.eq_iff_iff, accepted, accepted]
    exact forall_congr' fun finding => imp_congr_left permuted.mem_iff.symm
  · rintro past _ future - award rfl judged worth
    have taken : judged = (c.freshResult.takeAll past).apply award := takeAll_append _ past _
    rw [taken] at worth ⊢
    exact apply_points_ne_zero worth

end CaseResult
end ContestJudge
