import ContestJudge.Json.Number
import ContestJudge.Json.Reader
import ContestJudge.Proofs.Binary64Order
/-!
Number literals as text. A literal is read back as it was written wherever no digit, point or
exponent follows, and the literals of whole numbers and of binary64 numbers are of that kind.
-/

namespace ContestJudge

def readOnto (value : Nat) (digits : List Nat) : Nat :=
  digits.foldl (fun value digit => 10 * value + digit) value

structure IsNumeral (digits : List Nat) : Prop where
  given : digits ≠ []
  small : ∀ digit ∈ digits, digit < 10

section Parts

variable {digits : List Nat} {count : Nat}

theorem IsNumeral.take (numeral : IsNumeral digits) (positive : 0 < count) :
    IsNumeral (digits.take count) := by
  refine ⟨?_, fun digit mem => numeral.small digit (List.mem_of_mem_take mem)⟩
  intro empty
  rcases List.take_eq_nil_iff.mp empty with none | nothing
  · omega
  · exact numeral.given nothing

theorem IsNumeral.drop (numeral : IsNumeral digits) (longer : count < digits.length) :
    IsNumeral (digits.drop count) := by
  refine ⟨?_, fun digit mem => numeral.small digit (List.mem_of_mem_drop mem)⟩
  intro empty
  have short := List.drop_eq_nil_iff.mp empty
  omega

theorem IsNumeral.append_zeros (numeral : IsNumeral digits) (count : Nat) :
    IsNumeral (digits ++ List.replicate count 0) := by
  refine ⟨by simp [numeral.given], ?_⟩
  intro digit mem
  rcases List.mem_append.mp mem with own | padding
  · exact numeral.small digit own
  · rw [List.eq_of_mem_replicate padding]
    decide

theorem IsNumeral.zeros_append (numeral : IsNumeral digits) (count : Nat) :
    IsNumeral (List.replicate count 0 ++ digits) := by
  refine ⟨by simp [numeral.given], ?_⟩
  intro digit mem
  rcases List.mem_append.mp mem with padding | own
  · rw [List.eq_of_mem_replicate padding]
    decide
  · exact numeral.small digit own

theorem IsNumeral.head?_append (numeral : IsNumeral digits) (more : List Nat) :
    (digits ++ more).head? = digits.head? := by
  cases digits with
  | nil => exact absurd rfl numeral.given
  | cons digit digits => rfl

end Parts

section DigitsOf

variable {n : Nat}

theorem digitsOf_of_lt (single : n < 10) : digitsOf n = [n] := by
  have only : ∀ digit < 10, (Nat.digitChar digit).toNat - 48 = digit := by decide
  rw [digitsOf, Nat.toDigits_of_lt_base single, List.map_singleton, only n single]

theorem digitsOf_of_le (long : 10 ≤ n) : digitsOf n = digitsOf (n / 10) ++ [n % 10] := by
  have last : digitsOf (n % 10) = [n % 10] := digitsOf_of_lt (Nat.mod_lt n (by decide))
  have chars : Nat.toDigits 10 (n % 10) = [Nat.digitChar (n % 10)] :=
    Nat.toDigits_of_lt_base (Nat.mod_lt n (by decide))
  rw [digitsOf, chars, List.map_singleton] at last
  rw [digitsOf, Nat.toDigits_of_base_le (by decide) long, List.map_append, List.map_singleton, last]
  rfl

variable (n)

theorem isNumeral_digitsOf : IsNumeral (digitsOf n) := by
  induction n using Nat.strongRecOn with
  | ind n ih =>
    rcases Nat.lt_or_ge n 10 with single | long
    · rw [digitsOf_of_lt single]
      exact ⟨by simp, by simpa using single⟩
    · have shorter := ih (n / 10) (by omega)
      rw [digitsOf_of_le long]
      refine ⟨by simp, ?_⟩
      intro digit mem
      rcases List.mem_append.mp mem with earlier | last
      · exact shorter.small digit earlier
      · rw [List.mem_singleton.mp last]
        exact Nat.mod_lt n (by decide)

theorem readOnto_digitsOf : readOnto 0 (digitsOf n) = n := by
  induction n using Nat.strongRecOn with
  | ind n ih =>
    rcases Nat.lt_or_ge n 10 with single | long
    · rw [digitsOf_of_lt single]
      simp [readOnto]
    · have shorter := ih (n / 10) (by omega)
      rw [readOnto] at shorter ⊢
      rw [digitsOf_of_le long, List.foldl_append, shorter]
      simp only [List.foldl_cons, List.foldl_nil]
      omega

theorem head?_digitsOf (positive : 0 < n) : (digitsOf n).head? ≠ some 0 := by
  induction n using Nat.strongRecOn with
  | ind n ih =>
    rcases Nat.lt_or_ge n 10 with single | long
    · rw [digitsOf_of_lt single]
      simp
      omega
    · have shorter := ih (n / 10) (by omega) (by omega)
      rw [digitsOf_of_le long, (isNumeral_digitsOf (n / 10)).head?_append]
      exact shorter

end DigitsOf

/-- The whole part of a literal: a numeral that begins with no zero, or a zero alone. -/
structure IsWhole (digits : List Nat) : Prop extends IsNumeral digits where
  lead : digits = [0] ∨ digits.head? ≠ some 0

theorem isWhole_digitsOf (n : Nat) : IsWhole (digitsOf n) := by
  refine ⟨isNumeral_digitsOf n, ?_⟩
  rcases Nat.eq_zero_or_pos n with rfl | positive
  · exact .inl (digitsOf_of_lt (by decide))
  · exact .inr (head?_digitsOf n positive)

theorem le_readOnto (value : Nat) (digits : List Nat) : value ≤ readOnto value digits := by
  induction digits generalizing value with
  | nil => exact Nat.le_refl value
  | cons digit digits ih =>
    have longer : 10 * value + digit ≤ readOnto value (digit :: digits) := ih (10 * value + digit)
    omega

namespace NumberLiteral

structure WellFormed (literal : NumberLiteral) : Prop where
  whole : IsWhole literal.whole
  fraction : ∀ digits ∈ literal.fraction, IsNumeral digits
  exponent : ∀ exponent ∈ literal.exponent, IsNumeral exponent.2

theorem accumulate_of_fits {digits : List Nat} {value : Nat}
    (fits : readOnto value digits < wordBound) :
    accumulate digits value = (readOnto value digits, []) := by
  induction digits generalizing value with
  | nil => rfl
  | cons digit digits ih =>
    have longer : 10 * value + digit ≤ readOnto value (digit :: digits) :=
      le_readOnto (10 * value + digit) digits
    rw [accumulate, if_pos (Nat.lt_of_le_of_lt longer fits)]
    exact ih fits

theorem wellFormed_digitsOf (n : Nat) : WellFormed ⟨false, digitsOf n, none, none⟩ where
  whole := isWhole_digitsOf n
  fraction := by simp
  exponent := by simp

theorem value?_digitsOf {n : Nat} (fits : n < wordBound) :
    value? ⟨false, digitsOf n, none, none⟩ = some (.natural n) := by
  have all := readOnto_digitsOf n
  have read : accumulate (digitsOf n) 0 = (readOnto 0 (digitsOf n), []) :=
    accumulate_of_fits (by rw [all]; exact fits)
  rw [all] at read
  simp [value?, read]

end NumberLiteral

namespace Json

/-- What can stand behind a value: nothing, a comma, or the end of what the value is part of. -/
def EndsValue (rest : List Char) : Prop :=
  ∀ c ∈ rest.head?, c = ',' ∨ c = ']' ∨ c = '\x7d'

def EndsDigits (rest : List Char) : Prop := ∀ c ∈ rest.head?, isDigit c = false

theorem EndsValue.digits {rest : List Char} (ends : EndsValue rest) : EndsDigits rest := by
  intro c next
  rcases ends c next with rfl | rfl | rfl <;> decide

section Reading

variable {digits : List Nat} {rest : List Char}

theorem isDigit_digitChar {digit : Nat} (small : digit < 10) :
    isDigit (digitChar digit) = true := by
  have all : ∀ digit < 10, isDigit (digitChar digit) = true := by decide
  exact all digit small

theorem digitValue_digitChar {digit : Nat} (small : digit < 10) :
    digitValue (digitChar digit) = digit := by
  have all : ∀ digit < 10, digitValue (digitChar digit) = digit := by decide
  exact all digit small

theorem readDigits_write (small : ∀ digit ∈ digits, digit < 10) (ends : EndsDigits rest) :
    readDigits (writeDigits digits ++ rest) = (digits, rest) := by
  induction digits with
  | nil =>
    cases rest with
    | nil => rfl
    | cons c rest =>
      have other : isDigit c = false := ends c rfl
      simp [readDigits, writeDigits, other]
  | cons digit digits ih =>
    have first : digit < 10 := small digit List.mem_cons_self
    have others := ih fun other mem => small other (List.mem_cons_of_mem _ mem)
    simp only [readDigits, writeDigits, Prod.mk.injEq] at others
    obtain ⟨found, left⟩ := others
    simp only [readDigits, writeDigits, List.map_cons, List.cons_append, List.takeWhile_cons,
      List.dropWhile_cons, isDigit_digitChar first, if_true, digitValue_digitChar first, found,
      left]

theorem readSomeDigits?_write (numeral : IsNumeral digits) (ends : EndsDigits rest) :
    readSomeDigits? (writeDigits digits ++ rest) = some (digits, rest) := by
  rw [readSomeDigits?, readDigits_write numeral.small ends]
  cases digits with
  | nil => exact absurd rfl numeral.given
  | cons digit digits => rfl

theorem readWhole?_write (whole : IsWhole digits) (ends : EndsDigits rest) :
    readWhole? (writeDigits digits ++ rest) = some (digits, rest) := by
  rw [readWhole?, readDigits_write whole.small ends]
  rcases digits with _ | ⟨digit, _ | ⟨next, digits⟩⟩
  · exact absurd rfl whole.given
  · cases digit <;> rfl
  · have nonzero : digit ≠ 0 := by
      rcases whole.lead with zero | other
      · cases zero
      · simpa using other
    cases digit with
    | zero => exact absurd rfl nonzero
    | succ digit => rfl

end Reading

section Parts

variable {rest : List Char}

def writeFraction : Option (List Nat) → List Char
  | none => []
  | some digits => '.' :: writeDigits digits

def writeExponent : Option (ExponentSign × List Nat) → List Char
  | none => []
  | some (sign, digits) => 'e' :: sign.write ++ writeDigits digits

theorem write_eq (literal : NumberLiteral) : literal.write =
    (if literal.negative then ['-'] else []) ++ (writeDigits literal.whole ++
      (writeFraction literal.fraction ++ writeExponent literal.exponent)) := by
  rw [NumberLiteral.write, List.append_assoc, List.append_assoc]
  rfl

theorem readExponent?_write {exponent : Option (ExponentSign × List Nat)}
    (numeral : ∀ given ∈ exponent, IsNumeral given.2) (ends : EndsValue rest) :
    readExponent? (writeExponent exponent ++ rest) = some (exponent, rest) := by
  cases exponent with
  | none =>
    cases rest with
    | nil => rfl
    | cons c rest => rcases ends c rfl with rfl | rfl | rfl <;> rfl
  | some given =>
    obtain ⟨sign, digits⟩ := given
    have read (sign : ExponentSign) : readExponentDigits? sign (writeDigits digits ++ rest) =
        some (some (sign, digits), rest) := by
      rw [readExponentDigits?, readSomeDigits?_write (numeral _ rfl) ends.digits]
      rfl
    cases sign with
    | minus => exact read .minus
    | plus => exact read .plus
    | bare =>
      have given := (numeral _ rfl).given
      have small := (numeral _ rfl).small
      cases digits with
      | nil => exact absurd rfl given
      | cons digit digits =>
        have first : digit < 10 := small digit List.mem_cons_self
        have bare : readExponent? (writeExponent (some (.bare, digit :: digits)) ++ rest) =
            readExponentDigits? .bare (writeDigits (digit :: digits) ++ rest) := by
          have unsigned : ∀ digit < 10, digitChar digit ≠ '-' ∧ digitChar digit ≠ '+' := by decide
          obtain ⟨noMinus, noPlus⟩ := unsigned digit first
          simp [writeExponent, ExponentSign.write, writeDigits, readExponent?, noMinus, noPlus]
        exact bare.trans (read .bare)

theorem endsDigits_exponent (exponent : Option (ExponentSign × List Nat)) (ends : EndsValue rest) :
    EndsDigits (writeExponent exponent ++ rest) := by
  cases exponent with
  | none => exact ends.digits
  | some given =>
    intro c next
    cases next
    decide

theorem readFraction?_write {fraction : Option (List Nat)}
    (numeral : ∀ digits ∈ fraction, IsNumeral digits) (exponent : Option (ExponentSign × List Nat))
    (ends : EndsValue rest) :
    readFraction? (writeFraction fraction ++ (writeExponent exponent ++ rest)) =
      some (fraction, writeExponent exponent ++ rest) := by
  cases fraction with
  | some digits =>
    have read := readSomeDigits?_write (numeral digits rfl) (endsDigits_exponent exponent ends)
    simp only [writeFraction, List.cons_append, readFraction?, read, Option.map_some]
  | none =>
    cases exponent with
    | some given => rfl
    | none =>
      cases rest with
      | nil => rfl
      | cons c rest => rcases ends c rfl with rfl | rfl | rfl <;> rfl

theorem endsDigits_fraction (fraction : Option (List Nat))
    (exponent : Option (ExponentSign × List Nat)) (ends : EndsValue rest) :
    EndsDigits (writeFraction fraction ++ (writeExponent exponent ++ rest)) := by
  cases fraction with
  | none => exact endsDigits_exponent exponent ends
  | some digits =>
    intro c next
    cases next
    decide

theorem readNumber?_write {literal : NumberLiteral} (wellFormed : literal.WellFormed)
    (ends : EndsValue rest) : readNumber? (literal.write ++ rest) = some (literal, rest) := by
  have wholeRead := readWhole?_write wellFormed.whole
    (endsDigits_fraction literal.fraction literal.exponent ends)
  have fractionRead := readFraction?_write wellFormed.fraction literal.exponent ends
  have exponentRead := readExponent?_write wellFormed.exponent ends
  rw [write_eq]
  obtain ⟨negative, whole, fraction, exponent⟩ := literal
  simp only [List.append_assoc] at *
  cases negative with
  | true => simp [readNumber?, wholeRead, fractionRead, exponentRead]
  | false =>
    cases whole with
    | nil => exact absurd rfl wellFormed.whole.given
    | cons digit digits =>
      have unsigned : ∀ digit < 10, digitChar digit ≠ '-' := by decide
      have first := unsigned digit (wellFormed.whole.small digit List.mem_cons_self)
      have shown : writeDigits (digit :: digits) = digitChar digit :: writeDigits digits := rfl
      rw [shown, List.cons_append] at wholeRead
      rw [shown]
      simp [readNumber?, first, wholeRead, fractionRead, exponentRead]

end Parts

end Json

namespace Decimal

/-- A decimal number whose digits make a literal: above 0.1 the first one is no zero. -/
structure IsProper (x : Decimal) : Prop where
  numeral : IsNumeral x.digits
  lead : 0 < x.point → x.digits.head? ≠ some 0

theorem dropZeros_cons {digit : Nat} (nonzero : digit ≠ 0) (digits : List Nat) :
    dropZeros (digit :: digits) = digit :: dropZeros digits := by
  have stays : (digit == 0) = false := beq_eq_false_iff_ne.mpr nonzero
  rw [dropZeros, dropZeros, List.reverse_cons, List.dropWhile_append]
  split
  · rename_i empty
    rw [List.isEmpty_iff.mp empty, List.dropWhile_cons, stays]
    rfl
  · rw [List.reverse_append]
    rfl

theorem mem_of_mem_dropZeros {digit : Nat} {digits : List Nat} (mem : digit ∈ dropZeros digits) :
    digit ∈ digits := by
  have kept : digit ∈ digits.reverse :=
    (List.dropWhile_sublist _).subset (List.mem_reverse.mp mem)
  exact List.mem_reverse.mp kept

theorem isProper_dropZeros {units : Nat} (positive : 0 < units) (point : Int) :
    IsProper ⟨dropZeros (digitsOf units), point⟩ := by
  have small := (isNumeral_digitsOf units).small
  have lead := head?_digitsOf units positive
  cases digits : digitsOf units with
  | nil => exact absurd digits (isNumeral_digitsOf units).given
  | cons digit rest =>
    have nonzero : digit ≠ 0 := by
      rw [digits] at lead
      simpa using lead
    have kept := dropZeros_cons nonzero rest
    refine ⟨⟨?_, ?_⟩, ?_⟩
    · simp [kept]
    · intro other mem
      exact small other (digits ▸ mem_of_mem_dropZeros mem)
    · simp [kept, nonzero]

theorem spacing_le {steps : Nat} (positive : 0 < steps) : Binary64.spacing steps 1 ≤ steps := by
  have log : 2 ^ steps.log2 ≤ steps := Nat.log2_self_le (by omega)
  have less : 2 ^ (steps.log2 - 52) ≤ 2 ^ steps.log2 := Nat.pow_le_pow_right (by decide) (by omega)
  rw [Binary64.spacing, Nat.div_one, Nat.pow_eq]
  omega

/-- No positive number is read back as zero. -/
theorem readBack_low {steps : Nat} (positive : 0 < steps) : 0 < (readBack steps).low := by
  have gap := spacing_le positive
  simp only [readBack]
  split <;> omega

theorem not_holds_zero {range : ReadBack} (positive : 0 < range.low) {d : Nat} (unit : 0 < d) :
    range.holds 0 d = false := by
  have above : 0 < range.low * d := Nat.mul_pos positive unit
  unfold ReadBack.holds
  split
  · simp
    omega
  · simp

theorem onGrid_pos {tie : Tie} {steps units : Nat} {place : Int} (positive : 0 < steps)
    (found : onGrid tie steps place = some units) : 0 < units := by
  have unit : 0 < if place ≥ 0 then 1 else Nat.pow 10 (-place).toNat := by
    split
    · decide
    · exact Nat.pow_pos (by decide)
  unfold onGrid at found
  revert found unit
  -- Of the grid only the length of its steps matters here.
  generalize (if place ≥ 0 then Nat.pow 10 place.toNat else 1) = up
  generalize (if place ≥ 0 then 1 else Nat.pow 10 (-place).toNat) = down
  intro found unit
  simp only at found
  generalize Binary64.stepsPerUnit * up = d at found
  generalize steps * down / d = floor at found
  generalize steps * down % d = rest at found
  have nonzero (k : Nat) (reads : (readBack steps).holds (4 * (k * d)) down = true) : 0 < k := by
    apply Nat.pos_of_ne_zero
    rintro rfl
    have unread := not_holds_zero (readBack_low positive) unit
    rw [Nat.zero_mul, Nat.mul_zero, unread] at reads
    cases reads
  split at found
  · rename_i reads _
    exact Option.some.inj found ▸ nonzero floor reads
  · exact Option.some.inj found ▸ Nat.succ_pos floor
  · cases found
  · rename_i reads _
    have above := nonzero floor reads
    have next : 0 < floor + 1 := Nat.succ_pos floor
    repeat' split at found
    all_goals
      have chosen := Option.some.inj found
      omega

theorem isProper_searchGrids (tie : Tie) {steps : Nat} (positive : 0 < steps) (tries : Nat)
    (place : Int) (whole : 0 < place → 0 < steps / Binary64.stepsPerUnit) :
    (searchGrids tie steps tries place).IsProper := by
  induction tries generalizing place with
  | zero => exact ⟨isNumeral_digitsOf _, fun above => head?_digitsOf _ (whole above)⟩
  | succ tries ih =>
    unfold searchGrids
    split
    · rename_i units found
      exact isProper_dropZeros (onGrid_pos positive found) _
    · exact ih (place - 1) fun above => whole (by omega)

theorem isProper_shortest (tie : Tie) {steps : Nat} (positive : 0 < steps) :
    (shortest tie steps).IsProper := by
  apply isProper_searchGrids tie positive
  intro above
  unfold decade at above
  split at above
  · rename_i large
    exact Nat.div_pos large Binary64.stepsPerUnit_pos
  · omega

end Decimal

namespace NumberLayout

theorem wellFormed_decimalLiteral {x : Decimal} (proper : x.IsProper) (negative : Bool) :
    (record.decimalLiteral negative x).WellFormed := by
  have numeral := proper.numeral
  have zero : IsWhole [0] := isWhole_digitsOf 0
  unfold decimalLiteral
  simp only
  split
  · split
    · -- Below one: all digits come after the point.
      refine ⟨zero, ?_, ?_⟩
      · rintro digits ⟨⟩
        exact numeral.zeros_append _
      · rintro exponent ⟨⟩
    · rename_i above
      have lead := proper.lead (by omega)
      split
      · -- Whole: zeros fill up to the point.
        refine ⟨⟨numeral.append_zeros _, .inr ?_⟩, ?_, ?_⟩
        · rw [numeral.head?_append]
          exact lead
        · rintro digits ⟨⟩
          exact zero.toIsNumeral
        · rintro exponent ⟨⟩
      · -- The point stands among the digits.
        have positive : 0 < x.point.toNat := by omega
        refine ⟨⟨numeral.take positive, .inr ?_⟩, ?_, ?_⟩
        · rw [List.head?_take, if_neg (by omega)]
          exact lead
        · rintro digits ⟨⟩
          exact numeral.drop (by omega)
        · rintro exponent ⟨⟩
  · refine ⟨⟨numeral.take (by decide), ?_⟩, ?_, ?_⟩
    · cases digits : x.digits with
      | nil => exact absurd digits numeral.given
      | cons digit rest => cases digit <;> simp
    · intro digits mem
      split at mem
      · cases mem
      · cases mem
        exact numeral.drop (by omega)
    · rintro exponent ⟨⟩
      exact isNumeral_digitsOf _

theorem wellFormed_literal (negative : Bool) (steps : Nat) :
    (record.literal negative steps).WellFormed := by
  unfold literal
  split
  · refine ⟨isWhole_digitsOf 0, ?_, ?_⟩
    · rintro digits ⟨⟩
      exact isNumeral_digitsOf 0
    · rintro exponent ⟨⟩
  · exact wellFormed_decimalLiteral (Decimal.isProper_shortest _ (by omega)) negative

end NumberLayout

end ContestJudge
