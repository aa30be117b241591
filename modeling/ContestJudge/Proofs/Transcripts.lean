import ContestJudge.Command.Respond
import ContestJudge.Proofs.Acceptance
import ContestJudge.Proofs.JsonText

namespace ContestJudge

namespace Mark

theorem index_lt_of_ne {mark : Mark} (ordinary : mark ≠ .internalError) : mark.index < 6 := by
  cases mark <;> simp_all [index]

theorem code_ne_accepted (mark : Mark) : mark.code ≠ "AC" := by
  cases mark <;> decide

theorem code_eq_internalError_iff (mark : Mark) : mark.code = "IE" ↔ mark = .internalError := by
  cases mark <;> decide

end Mark

namespace Flags

/-- Flags that only hold marks which a submission can earn. -/
def IsOrdinary (flags : Flags) : Prop := flags.bits < 64

variable {flags : Flags} {mark : Mark}

theorem isOrdinary_none : none.IsOrdinary := by
  simp [IsOrdinary, none]

theorem IsOrdinary.insert (ordinary : flags.IsOrdinary) (earned : mark ≠ .internalError) :
    (flags.insert mark).IsOrdinary := by
  have bit : 2 ^ mark.index < 2 ^ 6 := Nat.pow_lt_pow_right (by decide) (Mark.index_lt_of_ne earned)
  exact Nat.or_lt_two_pow ordinary bit

theorem IsOrdinary.insertIf (ordinary : flags.IsOrdinary) (condition : Bool)
    (earned : mark ≠ .internalError) : (flags.insertIf condition mark).IsOrdinary := by
  cases condition with
  | false => exact ordinary
  | true => exact ordinary.insert earned

theorem IsOrdinary.not_contains (ordinary : flags.IsOrdinary) :
    flags.contains .internalError = false := by
  apply Nat.testBit_lt_two_pow
  calc
    flags.bits < 2 ^ 6 := ordinary
    _ ≤ 2 ^ 30 := by decide

theorem IsOrdinary.isEmpty_of_unmarked (ordinary : flags.IsOrdinary)
    (unmarked : ∀ mark, flags.contains mark = false) : flags.isEmpty := by
  have bits : flags.bits = 0 := by
    apply Nat.eq_of_testBit_eq
    intro i
    rw [Nat.zero_testBit]
    by_cases low : i < 6
    · have marks : ∃ mark : Mark, mark.index = i := by
        match i, low with
        | 0, _ => exact ⟨.wrongAnswer, rfl⟩
        | 1, _ => exact ⟨.runtimeError, rfl⟩
        | 2, _ => exact ⟨.timeLimit, rfl⟩
        | 3, _ => exact ⟨.memoryLimit, rfl⟩
        | 4, _ => exact ⟨.invalidReturn, rfl⟩
        | 5, _ => exact ⟨.outputLimit, rfl⟩
      obtain ⟨mark, rfl⟩ := marks
      exact unmarked mark
    · apply Nat.testBit_lt_two_pow
      calc
        flags.bits < 2 ^ 6 := ordinary
        _ ≤ 2 ^ i := Nat.pow_le_pow_right (by decide) (by omega)
  simp [isEmpty, bits]

theorem verdict_eq_accepted_iff (ordinary : flags.IsOrdinary) :
    flags.verdict = "AC" ↔ flags.isEmpty := by
  unfold verdict
  split
  · rename_i mark found
    have marked : flags.contains mark := List.find?_some found
    simp [mark.code_ne_accepted, isEmpty_of_contains marked]
  · rename_i unfound
    have unmarked : ∀ mark, flags.contains mark = false := by
      intro mark
      have listed : mark ∈ Mark.byPriority := by cases mark <;> decide
      simpa using List.find?_eq_none.mp unfound mark listed
    simp [ordinary.isEmpty_of_unmarked unmarked]

theorem verdict_ne_internalError (ordinary : flags.IsOrdinary) : flags.verdict ≠ "IE" := by
  unfold verdict
  split
  · rename_i mark found
    have marked : flags.contains mark := List.find?_some found
    intro internal
    rw [Mark.code_eq_internalError_iff] at internal
    rw [internal, ordinary.not_contains] at marked
    cases marked
  · decide

end Flags

/-- A result that reports and judgements, in whatever order, make of the fresh result of a case. -/
inductive CaseResult.ComposedFor (c : TestCase) : CaseResult → Prop where
  | fresh : ComposedFor c c.freshResult
  | withOutput {result : CaseResult} (composed : ComposedFor c result) (output : Bytes) :
    ComposedFor c { result with output := output }
  | populate {result : CaseResult} (composed : ComposedFor c result) (stderr : Bytes)
    (report : ProcessReport) : ComposedFor c (result.populate stderr report)
  | apply {result : CaseResult} (composed : ComposedFor c result) (award : Award) :
    ComposedFor c (result.apply award)

namespace CaseResult

variable {c : TestCase} {result : CaseResult}

theorem isOrdinary_withLimits (ordinary : result.flags.IsOrdinary) (report : ProcessReport) :
    (result.withLimits report).flags.IsOrdinary :=
  ((ordinary.insertIf _ (by decide)).insertIf _ (by decide)).insertIf _ (by decide)

theorem isOrdinary_withEnd (ordinary : result.flags.IsOrdinary) (stderr : Bytes)
    (report : ProcessReport) : (result.withEnd stderr report).flags.IsOrdinary := by
  unfold withEnd
  split
  · exact ordinary.insert (by decide)
  · split
    · exact ordinary
    · exact ordinary.insert (by decide)
  · exact ordinary

theorem isOrdinary_populate (ordinary : result.flags.IsOrdinary) (stderr : Bytes)
    (report : ProcessReport) : (result.populate stderr report).flags.IsOrdinary := by
  have used : (result.withUsage report).flags.IsOrdinary := by
    rw [withUsage]
    exact ordinary
  have limited := isOrdinary_withLimits used report
  rw [populate_eq]
  split
  · exact limited
  · exact isOrdinary_withEnd limited stderr report

theorem isOrdinary_apply (ordinary : result.flags.IsOrdinary) (award : Award) :
    (result.apply award).flags.IsOrdinary := ordinary.insertIf _ (by decide)

theorem ComposedFor.isOrdinary (composed : result.ComposedFor c) : result.flags.IsOrdinary := by
  induction composed with
  | fresh => exact Flags.isOrdinary_none
  | withOutput composed output ih => exact ih
  | populate composed stderr report ih => exact isOrdinary_populate ih stderr report
  | apply composed award ih => exact isOrdinary_apply ih award

end CaseResult

theorem Grader.composed_of_gives {σ : Type} {g : Grader σ} {c : TestCase} {desk later : Desk σ}
    {result : CaseResult} (grades : (g.grade c).Gives desk result later) :
    result.ComposedFor c := by
  obtain ⟨report, attended⟩ := attended_of_gives grades
  obtain ⟨-, -, output, stderr, judgement, -, -, rfl, -⟩ := attended.settled
  exact ((CaseResult.ComposedFor.fresh.withOutput output).populate stderr report).apply _

namespace Record

def line (record : Record) : String := record.toJson.render

theorem fields_graded (result : CaseResult) : (Record.graded result).fields =
    [("verdict", .ofString result.flags.verdict), ("position", .ofNat result.position),
      ("batch", .ofOption .ofNat result.batch), ("flags", .ofString result.flags.text),
      ("points", .ofBinary64 result.points), ("total_points", .ofBinary64 result.totalPoints),
      ("feedback", .ofString result.feedback),
      ("extended_feedback", .ofString result.extendedFeedback),
      ("execution_time", .ofBinary64 result.executionTime),
      ("wall_time", .ofBinary64 result.wallTime), ("max_memory", .ofNat result.maxMemory)] := rfl

/-- A line that is read as an object of just the fields of a record, in the order of their names. -/
structure ShownBy (record : Record) (line : String) : Prop where
  fields : ∃ members, Json.parse? line = some (.record members) ∧ members.Perm record.fields ∧
    members.Pairwise fun a b => a.1 ≤ b.1
  single : '\n' ∉ line.toList

theorem writable_fields (record : Record) : ∀ field ∈ record.fields, field.2.Writable := by
  cases record with
  | graded result =>
    rw [fields_graded]
    simp only [List.forall_mem_cons]
    exact ⟨.string _, Json.writable_ofNat _, Json.writable_ofOption Json.writable_ofNat _,
      .string _, Json.writable_ofBinary64 _, Json.writable_ofBinary64 _, .string _, .string _,
      Json.writable_ofBinary64 _, Json.writable_ofBinary64 _, Json.writable_ofNat _, nofun⟩
  | notBuilt diagnostics =>
    simp only [fields, details, List.forall_mem_cons]
    exact ⟨.string _, .string _, nofun⟩
  | notBegun fault =>
    simp only [fields, details, List.forall_mem_cons]
    exact ⟨.string _, .string _, nofun⟩

theorem shownBy_line (record : Record) : record.ShownBy record.line := by
  have writable : record.toJson.Writable :=
    .record fun field mem => record.writable_fields field (List.mem_mergeSort.mp mem)
  have ordered : (record.fields.mergeSort fun a b => decide (a.1 ≤ b.1)).Pairwise
      fun a b => decide (a.1 ≤ b.1) :=
    List.pairwise_mergeSort (fun a b c => by simpa using String.le_trans)
      (fun a b => by simpa using String.le_total a.1 b.1) record.fields
  refine ⟨⟨_, Json.parse?_render writable, List.mergeSort_perm _ _, ?_⟩, ?_⟩
  · exact ordered.imp of_decide_eq_true
  · rw [line, Json.render, String.toList_ofList]
    exact Json.newline_not_mem_write writable

end Record

def TestCase.recordOf (c : TestCase) : Except Fault CaseResult → Record
  | .ok result => .graded result
  | .error fault => .graded (c.stoppedResult fault.message)

theorem TestCase.verdict_recordOf_fault (c : TestCase) (fault : Fault) :
    (c.recordOf (.error fault)).verdict = "IE" := by
  have verdict : (Flags.only .internalError).verdict = "IE" := by decide
  exact verdict

theorem TestCase.fields_recordOf_fault (c : TestCase) (fault : Fault) :
    (c.recordOf (.error fault)).fields =
      [("verdict", .ofString "IE"), ("position", .ofNat c.position),
        ("batch", .ofOption .ofNat c.batch), ("flags", .ofString "IE"), ("points", .ofBinary64 0),
        ("total_points", .ofBinary64 c.points), ("feedback", .ofString fault.message),
        ("extended_feedback", .ofString ""), ("execution_time", .ofBinary64 0),
        ("wall_time", .ofBinary64 0), ("max_memory", .ofNat 0)] := by
  have marks : (Flags.only .internalError).text = "IE" := by decide
  have verdict : (Flags.only .internalError).verdict = "IE" := c.verdict_recordOf_fault fault
  rw [recordOf, Record.fields_graded, stoppedResult, CaseResult.stopped, marks, verdict]
  rfl

namespace Grading

section Sessions

variable {σ γ : Type}

/-- What a session prints and leaves: one record if it has no grader; otherwise the records of the
cases, up to the first that cannot be graded. Nothing is done for the cases behind that one. -/
inductive Prints (build : Judge σ γ) (grade : γ → TestCase → Judge σ CaseResult)
    (cases : List TestCase) (desk : Desk σ) : Transcript → Desk σ → Prop where
  | notBuilt {diagnostics : String} {left : Desk σ}
    (stops : build.Stops desk (.compile diagnostics) left) :
    Prints build grade cases desk ⟨[(Record.notBuilt diagnostics).line], [], 1⟩ left
  | notBegun {fault : Fault} {left : Desk σ} (stops : build.Stops desk fault left)
    (other : ∀ diagnostics, fault ≠ .compile diagnostics) :
    Prints build grade cases desk ⟨[(Record.notBegun fault).line], [], 2⟩ left
  | graded {grader : γ} {begun left : Desk σ} {results : List CaseResult}
    (builds : build.Gives desk grader begun)
    (grades : (cases.mapM (grade grader)).Gives begun results left) :
    Prints build grade cases desk
      ⟨results.map fun result => (Record.graded result).line, [], 0⟩ left
  | stopped {grader : γ} {begun middle left : Desk σ} {results : List CaseResult}
    {earlier later : List TestCase} {c : TestCase} {fault : Fault}
    (builds : build.Gives desk grader begun) (split : cases = earlier ++ c :: later)
    (grades : (earlier.mapM (grade grader)).Gives begun results middle)
    (stops : (grade grader c).Stops middle fault left) :
    Prints build grade cases desk
      ⟨(results.map fun result => (Record.graded result).line) ++
        [(c.recordOf (.error fault)).line], [], 2⟩ left

theorem transcript_record (result : CaseResult) (later : Grading) :
    (record result later).transcript =
      { later.transcript with output := (Record.graded result).line :: later.transcript.output } :=
  rfl

theorem gives_mapM_cons {grade : TestCase → Judge σ CaseResult} {c : TestCase}
    {rest : List TestCase} {desk middle left : Desk σ} {result : CaseResult}
    {results : List CaseResult} (first : (grade c).Gives desk result middle)
    (others : (rest.mapM grade).Gives middle results left) :
    ((c :: rest).mapM grade).Gives desk (result :: results) left := by
  rw [Work.Gives, List.mapM_cons, Work.runOn_bind_of_gives first, Work.runOn_bind_of_gives others,
    Work.runOn_pure]

theorem ofCases_outcome (grade : TestCase → Judge σ CaseResult) (cases : List TestCase)
    (desk : Desk σ) :
    (∃ results left, (cases.mapM grade).Gives desk results left ∧
      (ofCases grade cases desk).2 = left ∧
      (ofCases grade cases desk).1.transcript =
        ⟨results.map fun result => (Record.graded result).line, [], 0⟩) ∨
    ∃ earlier c later results middle fault left, cases = earlier ++ c :: later ∧
      (earlier.mapM grade).Gives desk results middle ∧ (grade c).Stops middle fault left ∧
      (ofCases grade cases desk).2 = left ∧
      (ofCases grade cases desk).1.transcript =
        ⟨(results.map fun result => (Record.graded result).line) ++
          [(c.recordOf (.error fault)).line], [], 2⟩ := by
  induction cases generalizing desk with
  | nil => exact .inl ⟨[], desk, rfl, rfl, rfl⟩
  | cons c rest ih =>
    rcases graded : (grade c).runOn desk with ⟨fault | result, middle⟩
    · refine .inr ⟨[], c, rest, [], desk, fault, middle, rfl, rfl, graded, ?_, ?_⟩
      · simp [ofCases, graded]
      · simp [ofCases, graded]
        rfl
    · have next : ofCases grade (c :: rest) desk =
          (record result (ofCases grade rest middle).1, (ofCases grade rest middle).2) := by
        simp [ofCases, graded]
      rw [next, transcript_record]
      rcases ih middle with ⟨results, left, grades, last, prints⟩ |
        ⟨earlier, c', later, results, middle', fault, left, split, grades, stops, last, prints⟩
      · refine .inl ⟨result :: results, left, gives_mapM_cons graded grades, last, ?_⟩
        rw [prints]
        rfl
      · refine .inr ⟨c :: earlier, c', later, result :: results, middle', fault, left, ?_,
          gives_mapM_cons graded grades, stops, last, ?_⟩
        · rw [split]
          rfl
        · rw [prints]
          rfl

theorem prints_perform (build : Judge σ γ) (grade : γ → TestCase → Judge σ CaseResult)
    (cases : List TestCase) (desk : Desk σ) :
    Prints build grade cases desk (perform build grade cases desk).1.transcript
      (perform build grade cases desk).2 := by
  rcases built : build.runOn desk with ⟨fault | grader, begun⟩
  · have ends : perform build grade cases desk = (notBegun fault, begun) := by
      simp [perform, built]
    rw [ends]
    by_cases compiles : ∃ diagnostics, fault = .compile diagnostics
    · obtain ⟨diagnostics, rfl⟩ := compiles
      exact .notBuilt built
    · have other : ∀ diagnostics, fault ≠ .compile diagnostics := by
        intro diagnostics same
        exact compiles ⟨diagnostics, same⟩
      have ordinary : (notBegun fault).transcript = ⟨[(Record.notBegun fault).line], [], 2⟩ := by
        unfold notBegun
        split
        · exact absurd rfl (other _)
        · rfl
      rw [ordinary]
      exact .notBegun built other
  · have goes : perform build grade cases desk = ofCases (grade grader) cases begun := by
      simp [perform, built]
    rw [goes]
    rcases ofCases_outcome (grade grader) cases begun with
      ⟨results, left, grades, rfl, prints⟩ |
      ⟨earlier, c, later, results, middle, fault, left, split, grades, stops, rfl, prints⟩
    · rw [prints]
      exact .graded built grades
    · rw [prints]
      exact .stopped built split grades stops

def IsTold (c : TestCase) (answer : Except Fault CaseResult) : Prop :=
  ((c.recordOf answer).verdict = "IE" ↔ ∃ fault, answer = .error fault) ∧
  ((c.recordOf answer).verdict = "AC" ↔ ∃ result, answer = .ok result ∧ result.isAccepted)

theorem isTold_of_composed {c : TestCase} {answer : Except Fault CaseResult}
    (composed : ∀ result, answer = .ok result → result.ComposedFor c) : IsTold c answer := by
  cases answer with
  | error fault =>
    have verdict := c.verdict_recordOf_fault fault
    constructor
    · simp [verdict]
    · simp [verdict]
  | ok result =>
    have ordinary := (composed result rfl).isOrdinary
    have verdict : (c.recordOf (.ok result)).verdict = result.flags.verdict := rfl
    rw [IsTold, verdict, Flags.verdict_eq_accepted_iff ordinary]
    constructor
    · simp [Flags.verdict_ne_internalError ordinary]
    · simp [CaseResult.isAccepted]

structure Tells (build : Judge σ γ) (grade : γ → TestCase → Judge σ CaseResult)
    (cases : List TestCase) (desk : Desk σ) (transcript : Transcript) (left : Desk σ) : Prop where
  prints : Prints build grade cases desk transcript left
  told : ∀ grader c before, IsTold c ((grade grader c).runOn before).1

theorem tells_perform (build : Judge σ γ) {grade : γ → TestCase → Judge σ CaseResult}
    (composed : ∀ grader c before result after,
      (grade grader c).Gives before result after → result.ComposedFor c)
    (cases : List TestCase) (desk : Desk σ) :
    Tells build grade cases desk (perform build grade cases desk).1.transcript
      (perform build grade cases desk).2 where
  prints := prints_perform build grade cases desk
  told grader c before := by
    apply isTold_of_composed
    intro result answers
    exact composed grader c before result _ (Work.gives_of_answer answers)

end Sessions
end Grading

/-- However a grader comes about and whatever it makes of the cases, a session prints one record for
each case in their order, until one cannot be graded; the record of that case is the last, and the
cases behind it are left alone. Without a grader it prints one record only. The code tells which of
these it was, and the verdict of a record whether its case could be graded and was accepted. A
record is printed as one line with all of its fields. The command to grade is such a session, once
it has read its files. -/
theorem Grading.command_tells {σ γ : Type} (build : Judge σ γ)
    (grade : γ → TestCase → Judge σ CaseResult) (cases : List TestCase) (desk : Desk σ)
    (composed : ∀ grader c before result after,
      (grade grader c).Gives before result after → result.ComposedFor c) :
    Tells build grade cases desk (perform build grade cases desk).1.transcript
      (perform build grade cases desk).2 ∧
    (∀ (τ : Type) (kernel : Kernel τ) bindings files host (options : GradeOptions) assignment,
      options.load files = .ok assignment →
      let bench := assignment.bench (.plain kernel)
      let start := Desk.fresh files (.start host)
      Tells (Grader.build assignment.problem assignment.submission bench) Grader.grade
        assignment.cases start (Request.answer kernel bindings files host (.grade options))
        (assignment.perform (.plain kernel) start).2) ∧
    (∀ record : Record, record.ShownBy record.line) ∧
    (∀ diagnostics, (Record.notBuilt diagnostics).fields =
      [("verdict", .ofString "CE"), ("message", .ofString diagnostics)]) ∧
    (∀ fault, (Record.notBegun fault).fields =
      [("verdict", .ofString "IE"), ("message", .ofString fault.message)]) ∧
    (∀ result, (Record.graded result).fields =
      [("verdict", .ofString result.flags.verdict), ("position", .ofNat result.position),
        ("batch", .ofOption .ofNat result.batch), ("flags", .ofString result.flags.text),
        ("points", .ofBinary64 result.points), ("total_points", .ofBinary64 result.totalPoints),
        ("feedback", .ofString result.feedback),
        ("extended_feedback", .ofString result.extendedFeedback),
        ("execution_time", .ofBinary64 result.executionTime),
        ("wall_time", .ofBinary64 result.wallTime), ("max_memory", .ofNat result.maxMemory)]) ∧
    (Json.ofBinary64 0).render = "0.0" ∧
    ∀ (c : TestCase) (fault : Fault), (c.recordOf (.error fault)).fields =
      [("verdict", .ofString "IE"), ("position", .ofNat c.position),
        ("batch", .ofOption .ofNat c.batch), ("flags", .ofString "IE"), ("points", .ofBinary64 0),
        ("total_points", .ofBinary64 c.points), ("feedback", .ofString fault.message),
        ("extended_feedback", .ofString ""), ("execution_time", .ofBinary64 0),
        ("wall_time", .ofBinary64 0), ("max_memory", .ofNat 0)] := by
  refine ⟨tells_perform build composed cases desk, ?_, Record.shownBy_line, fun _ => rfl,
    fun _ => rfl, Record.fields_graded, by decide +kernel, TestCase.fields_recordOf_fault⟩
  intro τ kernel bindings files host options assignment loaded bench start
  have answered : Request.answer kernel bindings files host (.grade options) =
      (assignment.perform (.plain kernel) start).1.transcript := by
    simp only [Request.answer, loaded]
    rfl
  rw [answered]
  apply tells_perform
  intro grader c before result after grades
  exact Grader.composed_of_gives grades

namespace Sample

/-- The second of three cases has an expected output that is not there. -/
def course : List TestCase :=
  [testCase 64, { testCase 64 with position := 2, output := .file "/missing" },
    { testCase 64 with position := 3 }]

theorem course_tells :
    let build := Grader.build problem ⟨"submission", []⟩ (bench true)
    let start := desk [("submission", exiting 0 [53, 10] [])]
    let session := Grading.perform build Grader.grade course start
    (∀ (grader : Grader ScriptedHost) c before result after,
      (grader.grade c).Gives before result after → result.ComposedFor c) ∧
    Grading.Tells build Grader.grade course start session.1.transcript session.2 ∧
    session.1.records.map (·.verdict) = ["AC", "IE"] ∧ session.1.code = 2 := by
  intro build start session
  have composed : ∀ (grader : Grader ScriptedHost) c before result after,
      (grader.grade c).Gives before result after → result.ComposedFor c := by
    intro grader c before result after grades
    exact Grader.composed_of_gives grades
  refine ⟨composed, (Grading.command_tells build Grader.grade course start composed).1, ?_, ?_⟩
  · decide +kernel
  · decide +kernel

end Sample
end ContestJudge
