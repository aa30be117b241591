import ContestJudge.Proofs.AdapterOutcomes

namespace ContestJudge

open Utf8 (encodeChars encodeChars_append encodeChars_cons)

namespace Points

/-- A text of which the first line with the word has a decimal literal as the next word. -/
structure PrintedShare (stderr : Bytes) where
  earlier : List Bytes
  /-- The blanks between the blank of the word and the literal. -/
  padding : List Char
  literal : DecimalLiteral
  tail : Bytes
  later : List Bytes
  lines : splitAt (· == 10) stderr =
    earlier ++ (lead ++ (encodeChars (padding ++ literal.write) ++ tail)) :: later
  bare : ∀ line ∈ earlier, ¬lead <+: line
  blank : ∀ c ∈ padding, Character.isBlank c
  proper : literal.IsProper
  ended : tail = [] ∨ ∃ c rest, Character.isBlank c ∧ tail = String.utf8EncodeChar c ++ rest

theorem encode_ne {c : Char} {b : UInt8} (small : b.toNat < 0x80) (other : c.toNat ≠ b.toNat)
    (more rest : Bytes) : String.utf8EncodeChar c ++ more ≠ b :: rest := by
  intro same
  obtain ⟨first, found, written, -⟩ := Utf8.next_encode c []
  rw [written, List.cons_append, List.cons.injEq] at same
  have listed : b ∈ String.utf8EncodeChar c := by simp [written, same.1]
  exact other (Utf8.encode_of_mem small listed).2

theorem digit?_encode_of_not {c : Char} (other : Character.isDecimalDigit c = false) (rest : Bytes) :
    digit? (String.utf8EncodeChar c ++ rest) = none := by
  obtain ⟨first, found, written, read⟩ := Utf8.next_encode c rest
  rw [written, List.cons_append, digit?, read]
  simp [other]

theorem parts_of_blank {c : Char} (blank : Character.isBlank c) :
    Character.isDecimalDigit c = false ∧ c.toNat ≠ 43 ∧ c.toNat ≠ 45 ∧ c.toNat ≠ 46 := by
  have gaps : ∀ first ∈ Character.digitZeros, first = 0x30 ∨ (0x660 ≤ first ∧ first < 0x1670) ∨
      (0x1680 < first ∧ first < 0x1ff0) ∨ 0x3000 < first := by decide
  have codes := blank
  simp only [Character.isBlank, Bool.or_eq_true, Bool.and_eq_true, decide_eq_true_eq,
    beq_iff_eq] at codes
  refine ⟨?_, by omega, by omega, by omega⟩
  rw [Character.isDecimalDigit, List.any_eq_false]
  intro first listed within
  rw [Bool.and_eq_true, decide_eq_true_eq, decide_eq_true_eq] at within
  have gap := gaps first listed
  omega

theorem spelled?_of_blank {c : Char} (blank : Character.isBlank c) (rest : Bytes) :
    spelled? (String.utf8EncodeChar c ++ rest) = none := by
  obtain ⟨undigited, plus, minus, point⟩ := parts_of_blank blank
  have bare : unsigned (String.utf8EncodeChar c ++ rest) =
      (.bare, String.utf8EncodeChar c ++ rest) :=
    unsigned.eq_3 _ (encode_ne (by decide) minus rest) (encode_ne (by decide) plus rest)
  have unpointed := pointed_of_ne (encode_ne (b := 46) (by decide) point rest)
  rw [spelled?, bare]
  simp only [digits_of_none (digit?_encode_of_not undigited rest), unpointed, and_self, if_true]

namespace PrintedShare

variable {stderr : Bytes} (printed : PrintedShare stderr)

theorem unborne : ∀ line ∈ printed.earlier, captureAt line = none := by
  intro line listed
  rw [captureAt_eq, if_neg]
  rw [List.isPrefixOf_iff_prefix]
  exact printed.bare line listed

theorem behind_mantissa :
    let behind := encodeChars (DecimalLiteral.writeExponent printed.literal.exponent) ++ printed.tail
    digit? behind = none ∧ ∀ rest, behind ≠ 46 :: rest := by
  cases given : printed.literal.exponent with
  | none =>
    rcases printed.ended with none | ⟨c, rest, blank, tail⟩
    · rw [none]
      exact ⟨rfl, fun _ => (List.cons_ne_nil _ _).symm⟩
    · obtain ⟨undigited, -, -, point⟩ := parts_of_blank blank
      rw [tail]
      exact ⟨digit?_encode_of_not undigited rest, encode_ne (by decide) point rest⟩
  | some exponent =>
    have letter : Character.isDecimalDigit exponent.1 = false ∧ exponent.1.toNat ≠ 46 := by
      rcases printed.proper.letter exponent given with small | great
      · rw [small]
        decide
      · rw [great]
        decide
    rw [DecimalLiteral.writeExponent, List.cons_append, encodeChars_cons, List.append_assoc]
    exact ⟨digit?_encode_of_not letter.1 _, encode_ne (by decide) letter.2 _⟩

theorem find?_eq_or : find? stderr =
    (number? (encodeChars (printed.padding ++ printed.literal.write) ++ printed.tail)).or
      (printed.later.findSome? onLine?) := by
  have earlier : printed.earlier.findSome? onLine? = none := by
    rw [List.findSome?_eq_none_iff]
    intro line listed
    rw [onLine?_eq, printed.unborne line listed, Option.bind_none]
  rw [find?, printed.lines, List.findSome?_append, earlier, Option.none_or, List.findSome?_cons,
    onLine?, List.isPrefixOf_iff_prefix.mpr (List.prefix_append lead _), if_pos rfl, List.drop_left]
  cases number? (encodeChars (printed.padding ++ printed.literal.write) ++ printed.tail) with
  | none => rfl
  | some number => rfl

theorem find?_of_unpadded (unpadded : printed.padding = []) :
    find? stderr = some printed.proper.numeral.number := by
  obtain ⟨undigited, unpointed⟩ := printed.behind_mantissa
  obtain ⟨rest, split, ends⟩ := DecimalLiteral.mantissa_split printed.proper undigited unpointed
  rw [printed.find?_eq_or, unpadded, List.nil_append, DecimalLiteral.write_mantissa,
    encodeChars_append, List.append_assoc, split, (printed.proper.numeral.read_text ends).1,
    Option.some_or]

/-- A literal behind a further blank is passed over. -/
theorem find?_of_padded (padded : printed.padding ≠ []) :
    find? stderr = printed.later.findSome? onLine? := by
  obtain ⟨c, padding, given⟩ := List.exists_cons_of_ne_nil padded
  have blank := printed.blank
  rw [given, List.forall_mem_cons] at blank
  have unread := number?_of_unspelled (spelled?_of_blank blank.1
    (encodeChars (padding ++ printed.literal.write) ++ printed.tail))
  rw [printed.find?_eq_or, given, List.cons_append, encodeChars_cons, List.append_assoc, unread,
    Option.none_or]

end PrintedShare
end Points

open Points

def InteractorOutcome.sharing (o : InteractorOutcome) (value : Binary64) : Except Fault Award :=
  if IsShare value then .ok (o.awarding true (o.maxPoints * value))
  else .error (.internal (.pointsOutOfRange value))

namespace Adapter

variable {o : InteractorOutcome}

theorem judgeTestlib_graded (orderly : o.EndsOrderly) (graded : o.report.exitCode = some 7) :
    judgeTestlib o = match fraction o.stderr with
      | .ok value => .ok (o.awarding true (o.maxPoints * value))
      | .error cause => .error (.internal cause) := by
  rw [judgeTestlib, InteractorOutcome.isBroken_eq_false_iff.mpr orderly]
  cases fraction o.stderr with
  | ok value => simp [graded, InteractorOutcome.passed,
      InteractorOutcome.awarding_of_withFeedback, InteractorOutcome.awarding]
  | error cause => simp [graded]

theorem judgeTestlib_unpadded (orderly : o.EndsOrderly) (graded : o.report.exitCode = some 7)
    (printed : PrintedShare o.stderr) (unpadded : printed.padding = []) :
    judgeTestlib o = o.sharing printed.literal.mantissa.value := by
  have valued := DecimalLiteral.value?_numeral printed.proper
  obtain ⟨taken, refused⟩ := fraction_of_value (printed.find?_of_unpadded unpadded) valued
  rw [judgeTestlib_graded orderly graded, InteractorOutcome.sharing]
  by_cases share : IsShare printed.literal.mantissa.value
  · rw [taken share, if_pos share]
  · rw [refused share, if_neg share]

/-- An interactor that prints a share as a literal right behind the word is judged by the value of the
mantissa, which is the literal's own where it is not scaled. A literal behind more than one blank counts
for nothing, and the lines behind it are searched. -/
theorem judgeTestlib_by_mantissa (orderly : o.EndsOrderly) (graded : o.report.exitCode = some 7)
    (printed : PrintedShare o.stderr) :
    (printed.padding = [] → judgeTestlib o = o.sharing printed.literal.mantissa.value) ∧
    (printed.padding = [] → DecimalLiteral.power printed.literal.exponent = 0 →
      judgeTestlib o = o.sharing printed.literal.value) ∧
    (printed.padding ≠ [] → find? o.stderr = printed.later.findSome? onLine? ∧
      ((∀ line ∈ printed.later, ¬Bears line) → judgeTestlib o = .error (.internal
        (.pointsMissing (Text.quoted (Utf8.decodeLossy o.stderr)))))) := by
  refine ⟨fun unpadded => judgeTestlib_unpadded orderly graded printed unpadded, ?_, ?_⟩
  · intro unpadded unscaled
    rw [← DecimalLiteral.value_mantissa unscaled]
    exact judgeTestlib_unpadded orderly graded printed unpadded
  · intro padded
    have passed := printed.find?_of_padded padded
    refine ⟨passed, fun bare => ?_⟩
    have missing : find? o.stderr = none := by
      rw [passed, List.findSome?_eq_none_iff]
      intro line listed
      rw [onLine?_eq, captureAt_eq_none.mpr (bare line listed), Option.bind_none]
    rw [judgeTestlib_graded orderly graded, fraction, missing]

end Adapter

namespace Sample

def printedQuarter : PrintedShare (Utf8.encode "points 0.25\n") where
  earlier := []
  padding := []
  literal := quarter
  tail := []
  later := [[]]
  lines := rfl
  bare := by simp
  blank := by simp
  proper := quarter_isProper
  ended := .inl rfl

theorem quarter_shared :
    let o := interactorEnd 7 (Utf8.encode "points 0.25\n")
    o.EndsOrderly ∧ Adapter.judgeTestlib o = .ok (o.awarding true (.ofRatio false 5 2)) := by
  intro o
  have orderly : o.EndsOrderly := ⟨rfl, rfl, rfl⟩
  have judged := (Adapter.judgeTestlib_by_mantissa orderly rfl printedQuarter).2.1 rfl rfl
  have points : o.maxPoints * printedQuarter.literal.value = .ofRatio false 5 2 := by decide +kernel
  refine ⟨orderly, ?_⟩
  rw [judged, InteractorOutcome.sharing, if_pos (by decide +kernel), points]

/-- The literal 1e-3, as languages print small numbers by default. -/
def thousandth : DecimalLiteral := ⟨.bare, [1], none, some ('e', .minus, [3])⟩

theorem thousandth_isProper : thousandth.IsProper where
  significand := ⟨by decide, by decide⟩
  letter := by simp [thousandth]
  exponent := by
    intro given listed
    cases listed
    exact ⟨by decide, by decide⟩

def printedThousandth : PrintedShare (Utf8.encode "points 1e-3\n") where
  earlier := []
  padding := []
  literal := thousandth
  tail := []
  later := [[]]
  lines := rfl
  bare := by simp
  blank := by simp
  proper := thousandth_isProper
  ended := .inl rfl

theorem thousandth_earns_all :
    let o := interactorEnd 7 (Utf8.encode "points 1e-3\n")
    o.EndsOrderly ∧ o.report.exitCode = some 7 ∧ printedThousandth.padding = [] ∧
      IsShare printedThousandth.literal.value ∧
      Adapter.judgeTestlib o = .ok (o.awarding true o.maxPoints) ∧
      Adapter.judgeTestlib o ≠ o.sharing printedThousandth.literal.value := by
  intro o
  have orderly : o.EndsOrderly := ⟨rfl, rfl, rfl⟩
  have share : IsShare printedThousandth.literal.value := by decide +kernel
  have judged := Adapter.judgeTestlib_unpadded orderly rfl printedThousandth rfl
  have all : o.maxPoints * printedThousandth.literal.mantissa.value = o.maxPoints := by
    decide +kernel
  have part : o.maxPoints * printedThousandth.literal.value ≠ o.maxPoints := by decide +kernel
  have earned : Adapter.judgeTestlib o = .ok (o.awarding true o.maxPoints) := by
    rw [judged, InteractorOutcome.sharing, if_pos (by decide +kernel), all]
  refine ⟨orderly, rfl, rfl, share, earned, ?_⟩
  intro same
  rw [earned, InteractorOutcome.sharing, if_pos share, Except.ok.injEq] at same
  exact part (congrArg Award.points same).symm

end Sample
end ContestJudge
