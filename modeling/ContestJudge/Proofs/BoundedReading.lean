import ContestJudge.Proofs.PlainSandbox

namespace ContestJudge

/-- The bytes that a stream gives until it ends or a read of it fails. -/
def ReadOutcome.delivered : List ReadOutcome → Bytes
  | [] => []
  | .interrupted :: rest => delivered rest
  | .failed :: _ => []
  | .chunk [] :: _ => []
  | .chunk (b :: data) :: rest => (b :: data) ++ delivered rest

theorem ReadOutcome.delivered_map_chunk {parts : List Bytes} (filled : ∀ part ∈ parts, part ≠ []) :
    delivered (parts.map .chunk) = parts.flatten := by
  induction parts with
  | nil => rfl
  | cons part rest ih =>
    have later : delivered (rest.map .chunk) = rest.flatten := by
      apply ih
      intro other listed
      exact filled other (List.mem_cons_of_mem part listed)
    cases part with
    | nil => exact absurd rfl (filled [] List.mem_cons_self)
    | cons b data => simp [delivered, later]

/-- What was taken of a stream is what a limit lets through of some bytes, and it is known whether
there were more. -/
structure CapturedStream.Takes (limit : Nat) (bytes : Bytes) (captured : CapturedStream) :
    Prop where
  data : captured.data = bytes.take limit
  cut : captured.integrity = .truncatedByJudgeLimit ↔ limit < bytes.length

namespace Capture

variable {limit : Nat} {seen : Bytes} {capture : Capture}

theorem size_eq_length_finish (capture : Capture) : capture.size = capture.finish.data.length := by
  rw [capture.size_eq]
  simp [finish]

theorem takes_of_cut (takes : capture.finish.Takes limit seen)
    (cut : capture.integrity = .truncatedByJudgeLimit) (more : Bytes) :
    capture.finish.Takes limit (seen ++ more) := by
  have full : limit < seen.length := takes.cut.mp cut
  constructor
  · rw [takes.data, List.take_append_of_le_length (by omega)]
  · have longer : limit < (seen ++ more).length := by
      simp
      omega
    exact iff_of_true cut longer

theorem takes_take (takes : capture.finish.Takes limit seen) (chunk : Bytes) :
    (capture.take limit chunk).finish.Takes limit (seen ++ chunk) := by
  unfold take
  by_cases cut : capture.integrity = .truncatedByJudgeLimit
  · rw [if_pos cut]
    exact takes_of_cut takes cut chunk
  · have fits : seen.length ≤ limit := Nat.le_of_not_lt (mt takes.cut.mpr cut)
    have data : capture.finish.data = seen := by
      rw [takes.data, List.take_of_length_le fits]
    have size : capture.size = seen.length := by
      rw [size_eq_length_finish, data]
    rw [if_neg cut, size]
    by_cases exceeds : seen.length + chunk.length > limit
    · rw [if_pos exceeds]
      constructor
      · calc
          _ = capture.finish.data ++ chunk.take (limit - seen.length) := by simp [finish, keep]
          _ = (seen ++ chunk).take limit := by
            rw [data, List.take_append, List.take_of_length_le fits]
      · simp [finish]
        omega
    · rw [if_neg exceeds]
      constructor
      · calc
          _ = capture.finish.data ++ chunk := by simp [finish, keep]
          _ = (seen ++ chunk).take limit := by
            rw [data, List.take_of_length_le (by simp; omega)]
      · have short : ¬limit < (seen ++ chunk).length := by
          simp
          omega
        exact iff_of_false cut short

theorem takes_fail (takes : capture.finish.Takes limit seen) :
    capture.fail.finish.Takes limit seen := by
  unfold fail
  split
  · rename_i whole
    have uncut : ¬limit < seen.length := by
      intro exceeds
      have cut : capture.integrity = .truncatedByJudgeLimit := takes.cut.mpr exceeds
      simp [whole] at cut
    constructor
    · exact takes.data
    · simp [finish]
      omega
  · exact takes

theorem takes_readOn (overflow : Overflow) (reads : List ReadOutcome)
    (takes : capture.finish.Takes limit seen) :
    (readOn limit overflow capture reads).1.finish.Takes limit
      (seen ++ ReadOutcome.delivered reads) := by
  fun_induction ReadOutcome.delivered reads generalizing capture seen with
  | case1 => simpa [readOn] using takes
  | case2 rest ih => simpa [readOn] using ih takes
  | case3 rest => simpa [readOn] using takes_fail takes
  | case4 rest => simpa [readOn] using takes
  | case5 b data rest ih =>
    have taken := takes_take takes (b :: data)
    rw [← List.append_assoc]
    simp only [readOn]
    split
    · rename_i stops
      exact takes_of_cut taken stops.1 _
    · exact ih taken

end Capture

theorem Capture.takes_start (limit : Nat) : Capture.start.finish.Takes limit [] := by
  constructor
  · simp [finish, start]
  · simp [finish, start]

theorem takes_readBounded (reads : List ReadOutcome) (limit : Nat) (overflow : Overflow) :
    (readBounded reads limit overflow).1.Takes limit (ReadOutcome.delivered reads) :=
  Capture.takes_readOn overflow reads (Capture.takes_start limit)

namespace ReadOutcome

def breaks : List ReadOutcome → Bool
  | [] => false
  | .interrupted :: rest => breaks rest
  | .failed :: _ => true
  | .chunk [] :: _ => false
  | .chunk (_ :: _) :: rest => breaks rest

def pastEnd : List ReadOutcome → List ReadOutcome
  | [] => []
  | .interrupted :: rest => pastEnd rest
  | .failed :: rest => rest
  | .chunk [] :: rest => rest
  | .chunk (_ :: _) :: rest => pastEnd rest

end ReadOutcome

namespace Capture

variable {limit : Nat} {overflow : Overflow} {seen : Bytes} {capture : Capture}
  {reads : List ReadOutcome}

/-- As `take`, but with no answer where more was kept than the limit allows. -/
def take? (capture : Capture) (limit : Nat) (chunk : Bytes) : Option Capture :=
  if capture.integrity = .truncatedByJudgeLimit then some capture
  else if capture.size + chunk.length > limit then
    if capture.size ≤ limit then
      some { capture.keep (chunk.take (limit - capture.size)) with
        integrity := .truncatedByJudgeLimit }
    else none
  else some (capture.keep chunk)

def readOn? (limit : Nat) (overflow : Overflow) :
    Capture → List ReadOutcome → Option (Capture × List ReadOutcome)
  | capture, [] => some (capture, [])
  | capture, .interrupted :: rest => readOn? limit overflow capture rest
  | capture, .failed :: rest => some (capture.fail, rest)
  | capture, .chunk [] :: rest => some (capture, rest)
  | capture, .chunk (b :: data) :: rest =>
    match capture.take? limit (b :: data) with
    | none => none
    | some taken =>
      if taken.integrity = .truncatedByJudgeLimit ∧ overflow = .stop then some (taken, rest)
      else readOn? limit overflow taken rest

theorem size_le (takes : capture.finish.Takes limit seen) : capture.size ≤ limit := by
  rw [size_eq_length_finish, takes.data, List.length_take]
  exact Nat.min_le_left limit seen.length

theorem take?_eq_take (takes : capture.finish.Takes limit seen) (chunk : Bytes) :
    capture.take? limit chunk = some (capture.take limit chunk) := by
  have room : capture.size ≤ limit := size_le takes
  unfold take? take
  simp only [if_pos room]
  split
  · rfl
  · split <;> rfl

theorem readOn?_eq_readOn (takes : capture.finish.Takes limit seen) :
    readOn? limit overflow capture reads = some (readOn limit overflow capture reads) := by
  fun_induction ReadOutcome.delivered reads generalizing capture seen with
  | case1 => rfl
  | case2 rest ih => exact ih takes
  | case3 rest => rfl
  | case4 rest => rfl
  | case5 b data rest ih =>
    have taken := takes_take takes (b :: data)
    simp only [readOn?, readOn, take?_eq_take takes]
    split
    · rfl
    · exact ih taken

theorem take_integrity (takes : capture.finish.Takes limit seen) (chunk : Bytes) :
    (capture.take limit chunk).integrity =
      if limit < (seen ++ chunk).length then .truncatedByJudgeLimit else capture.integrity := by
  have taken := takes_take takes chunk
  split
  · rename_i crosses
    exact taken.cut.mpr crosses
  · rename_i fits
    have uncut : (capture.take limit chunk).integrity ≠ .truncatedByJudgeLimit :=
      mt taken.cut.mp fits
    unfold take at uncut ⊢
    split
    · rfl
    · split
      · rename_i unfilled crosses
        simp [unfilled, crosses] at uncut
      · rfl

theorem readOn_integrity (takes : capture.finish.Takes limit seen)
    (whole : capture.integrity = .complete)
    (fits : (seen ++ ReadOutcome.delivered reads).length ≤ limit) :
    (readOn limit overflow capture reads).1.integrity =
      if ReadOutcome.breaks reads then .readError else .complete := by
  fun_induction ReadOutcome.delivered reads generalizing capture seen with
  | case1 => exact whole
  | case2 rest ih => exact ih takes whole fits
  | case3 rest =>
    simp only [readOn, fail, whole, ReadOutcome.breaks, if_true]
  | case4 rest => exact whole
  | case5 b data rest ih =>
    rw [← List.append_assoc] at fits
    have within : ¬limit < (seen ++ (b :: data)).length := by
      rw [List.length_append] at fits
      omega
    have uncut : (capture.take limit (b :: data)).integrity = .complete := by
      rw [take_integrity takes, if_neg within, whole]
    simp only [readOn, uncut, reduceCtorEq, false_and, if_false, ReadOutcome.breaks]
    exact ih (takes_take takes (b :: data)) uncut fits

theorem readOn_left (takes : capture.finish.Takes limit seen)
    (goesOn : overflow = .stop → (seen ++ ReadOutcome.delivered reads).length ≤ limit) :
    (readOn limit overflow capture reads).2 = ReadOutcome.pastEnd reads := by
  fun_induction ReadOutcome.delivered reads generalizing capture seen with
  | case1 => rfl
  | case2 rest ih => exact ih takes goesOn
  | case3 rest => rfl
  | case4 rest => rfl
  | case5 b data rest ih =>
    have taken := takes_take takes (b :: data)
    rw [← List.append_assoc] at goesOn
    have unstopped : ¬((capture.take limit (b :: data)).integrity = .truncatedByJudgeLimit ∧
        overflow = .stop) := by
      rintro ⟨cut, stops⟩
      have crosses : limit < (seen ++ (b :: data)).length := taken.cut.mp cut
      have fits := goesOn stops
      rw [List.length_append] at fits
      omega
    simp only [readOn, if_neg unstopped, ReadOutcome.pastEnd]
    exact ih taken goesOn

/-- Reading that stops at the limit makes no read behind the one that crosses it. -/
theorem readOn_crossing (takes : capture.finish.Takes limit seen) (within : seen.length ≤ limit)
    (exceeds : limit < (seen ++ ReadOutcome.delivered reads).length) :
    ∃ before crossing,
      reads = before ++ .chunk crossing :: (readOn limit .stop capture reads).2 ∧
      (seen ++ ReadOutcome.delivered before).length ≤ limit ∧
      limit < (seen ++ ReadOutcome.delivered before ++ crossing).length := by
  fun_induction ReadOutcome.delivered reads generalizing capture seen with
  | case1 =>
    rw [List.append_nil] at exceeds
    omega
  | case2 rest ih =>
    obtain ⟨before, crossing, split, fits, crosses⟩ := ih takes within exceeds
    exact ⟨.interrupted :: before, crossing, congrArg (.interrupted :: ·) split, fits, crosses⟩
  | case3 rest =>
    rw [List.append_nil] at exceeds
    omega
  | case4 rest =>
    rw [List.append_nil] at exceeds
    omega
  | case5 b data rest ih =>
    have taken := takes_take takes (b :: data)
    by_cases crosses : limit < (seen ++ (b :: data)).length
    · refine ⟨[], b :: data, ?_, ?_, ?_⟩
      · have cut : (capture.take limit (b :: data)).integrity = .truncatedByJudgeLimit :=
          taken.cut.mpr crosses
        rw [readOn, if_pos ⟨cut, rfl⟩, List.nil_append]
      · rwa [ReadOutcome.delivered, List.append_nil]
      · rwa [ReadOutcome.delivered, List.append_nil]
    · have uncut : (capture.take limit (b :: data)).integrity ≠ .truncatedByJudgeLimit :=
        mt taken.cut.mp crosses
      rw [← List.append_assoc] at exceeds
      obtain ⟨before, crossing, split, fits, crosses⟩ :=
        ih taken (Nat.le_of_not_lt crosses) exceeds
      refine ⟨.chunk (b :: data) :: before, crossing, ?_, ?_, ?_⟩
      · simp only [readOn, uncut, false_and, if_false, List.cons_append]
        exact congrArg (.chunk (b :: data) :: ·) split
      · rwa [ReadOutcome.delivered, ← List.append_assoc]
      · rwa [ReadOutcome.delivered, ← List.append_assoc]

end Capture

def readBounded? (reads : List ReadOutcome) (limit : Nat) (overflow : Overflow) :
    Option (CapturedStream × List ReadOutcome) :=
  (Capture.readOn? limit overflow .start reads).map fun (capture, rest) => (capture.finish, rest)

/-- What is captured of a stream is decided by the bytes that it delivers and by how it ends. -/
theorem readBounded_captured (reads : List ReadOutcome) (limit : Nat) (overflow : Overflow) :
    (readBounded reads limit overflow).1 = ⟨(ReadOutcome.delivered reads).take limit,
      if limit < (ReadOutcome.delivered reads).length then .truncatedByJudgeLimit
      else if ReadOutcome.breaks reads then .readError
      else .complete⟩ := by
  have takes := takes_readBounded reads limit overflow
  have integrity : (readBounded reads limit overflow).1.integrity =
      if limit < (ReadOutcome.delivered reads).length then .truncatedByJudgeLimit
      else if ReadOutcome.breaks reads then .readError
      else .complete := by
    split
    · rename_i exceeds
      exact takes.cut.mpr exceeds
    · rename_i fits
      exact Capture.readOn_integrity (Capture.takes_start limit) rfl (Nat.le_of_not_lt fits)
  rw [← takes.data, ← integrity]

/-- Of a stream the first bytes are kept, up to the limit. A longer stream is cut, whatever its end;
any other stream is known by its end. How the bytes come in chunks, and where a read is interrupted,
does not matter. What is past the limit is read to the end or left alone, from the chunk on that
crosses the limit; there is never more kept than the limit allows. -/
theorem readBounded_outcome (reads : List ReadOutcome) (limit : Nat) (overflow : Overflow) :
    let delivered := ReadOutcome.delivered reads
    let captured := (readBounded reads limit overflow).1
    let left := (readBounded reads limit overflow).2
    captured.data = delivered.take limit ∧
    (captured.integrity = .truncatedByJudgeLimit ↔ limit < delivered.length) ∧
    (captured.integrity = .complete ↔
      delivered.length ≤ limit ∧ ReadOutcome.breaks reads = false) ∧
    (captured.integrity = .readError ↔
      delivered.length ≤ limit ∧ ReadOutcome.breaks reads = true) ∧
    (∀ others manner, ReadOutcome.delivered others = delivered →
      ReadOutcome.breaks others = ReadOutcome.breaks reads →
      (readBounded others limit manner).1 = captured) ∧
    (overflow = .discard ∨ delivered.length ≤ limit → left = ReadOutcome.pastEnd reads) ∧
    (overflow = .stop → limit < delivered.length → ∃ before crossing,
      reads = before ++ .chunk crossing :: left ∧
      (ReadOutcome.delivered before).length ≤ limit ∧
      limit < (ReadOutcome.delivered before ++ crossing).length) ∧
    readBounded? reads limit overflow = some (readBounded reads limit overflow) := by
  intro delivered captured left
  have begun : Capture.start.finish.Takes limit [] := Capture.takes_start limit
  have known : captured.integrity =
      if limit < delivered.length then .truncatedByJudgeLimit
      else if ReadOutcome.breaks reads then .readError
      else .complete :=
    congrArg CapturedStream.integrity (readBounded_captured reads limit overflow)
  refine ⟨(takes_readBounded reads limit overflow).data,
    (takes_readBounded reads limit overflow).cut, ?_, ?_, ?_, ?_, ?_, ?_⟩
  · rw [known]
    by_cases exceeds : limit < delivered.length
    · simp [exceeds, Nat.not_le_of_lt exceeds]
    · cases ReadOutcome.breaks reads <;> simp [exceeds, Nat.le_of_not_lt exceeds]
  · rw [known]
    by_cases exceeds : limit < delivered.length
    · simp [exceeds, Nat.not_le_of_lt exceeds]
    · cases ReadOutcome.breaks reads <;> simp [exceeds, Nat.le_of_not_lt exceeds]
  · intro others manner same ends
    have other := readBounded_captured others limit manner
    rw [same, ends] at other
    exact other.trans (readBounded_captured reads limit overflow).symm
  · intro goesOn
    apply Capture.readOn_left begun
    intro stops
    rcases goesOn with discards | fits
    · cases stops.symm.trans discards
    · exact fits
  · intro stops exceeds
    subst stops
    exact Capture.readOn_crossing begun (Nat.zero_le limit) exceeds
  · rw [readBounded?, Capture.readOn?_eq_readOn begun]
    rfl

end ContestJudge
