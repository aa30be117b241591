import ContestJudge.Proofs.Numerals
import ContestJudge.Proofs.PointsGrammar
/-!
Decimal literals as programs print them. The numbers of points lines are read of literals without
their exponents, and the value of a number in digits of the ASCII range is the one of a literal.
-/

namespace ContestJudge

open Json (writeFraction)
open Utf8 (encodeChars encodeChars_append encodeChars_cons)

/-- A decimal number in the parts that programs print: a sign, digits, a point and an exponent, of
which only some digit is never left out. -/
structure DecimalLiteral where
  sign : ExponentSign
  whole : List Nat
  /-- The digits behind the point, where there is one. -/
  fraction : Option (List Nat)
  /-- The letter, the sign and the digits of the power of ten, where there is one. -/
  exponent : Option (Char × ExponentSign × List Nat)

namespace DecimalLiteral

variable (literal : DecimalLiteral)

def significand : List Nat := literal.whole ++ literal.fraction.getD []

structure IsProper : Prop where
  significand : IsNumeral literal.significand
  letter : ∀ given ∈ literal.exponent, given.1 = 'e' ∨ given.1 = 'E'
  exponent : ∀ given ∈ literal.exponent, IsNumeral given.2.2

def power : Option (Char × ExponentSign × List Nat) → Int
  | none => 0
  | some (_, sign, digits) => if sign = .minus then -(digitsValue digits : Int) else digitsValue digits

def value : Binary64 :=
  Decimal.toBinary64 (literal.sign = .minus)
    ⟨literal.significand, literal.whole.length + power literal.exponent⟩

def mantissa : DecimalLiteral := { literal with exponent := none }

def writeExponent : Option (Char × ExponentSign × List Nat) → List Char
  | none => []
  | some (letter, sign, digits) => letter :: sign.write ++ writeDigits digits

def write : List Char :=
  literal.sign.write ++ writeDigits literal.whole ++ writeFraction literal.fraction ++
    writeExponent literal.exponent

variable {literal}

theorem mantissa_of_none (plain : literal.exponent = none) : literal.mantissa = literal := by
  cases literal
  cases plain
  rfl

theorem write_mantissa : literal.write = literal.mantissa.write ++ writeExponent literal.exponent :=
  congrArg (· ++ writeExponent literal.exponent) (List.append_nil _).symm

theorem value_mantissa (unscaled : power literal.exponent = 0) :
    literal.mantissa.value = literal.value := by
  change Decimal.toBinary64 _ ⟨_, literal.whole.length + power none⟩ = Decimal.toBinary64 _ _
  rw [unscaled]
  rfl

theorem areDigits_writeDigits {digits : List Nat} (small : ∀ digit ∈ digits, digit < 10) :
    Points.AreDigits (writeDigits digits) := by
  have all : ∀ digit < 10, Character.isDecimalDigit (digitChar digit) := by decide
  intro c listed
  obtain ⟨digit, given, rfl⟩ := List.mem_map.mp listed
  exact all digit (small digit given)

theorem writeDigits_eq_nil {digits : List Nat} : writeDigits digits = [] ↔ digits = [] :=
  List.map_eq_nil_iff

def IsProper.numeral (proper : literal.IsProper) : Points.Numeral where
  sign := literal.sign
  whole := writeDigits literal.whole
  fraction := writeDigits (literal.fraction.getD [])
  whole_digits := areDigits_writeDigits fun digit given =>
    proper.significand.small digit (List.mem_append_left _ given)
  fraction_digits := areDigits_writeDigits fun digit given =>
    proper.significand.small digit (List.mem_append_right _ given)
  given := by
    rw [writeDigits_eq_nil, writeDigits_eq_nil, ← List.append_eq_nil_iff]
    exact proper.significand.given

/-- The number ends before the exponent, and before a point without digits behind it. -/
theorem mantissa_split (proper : literal.IsProper) {tail : Bytes}
    (undigited : Points.digit? tail = none) (unpointed : ∀ rest, tail ≠ 46 :: rest) :
    ∃ rest, encodeChars literal.mantissa.write ++ tail = proper.numeral.text ++ rest ∧
      proper.numeral.EndsBefore rest := by
  have ended : (Points.pointed tail).1 = [] := by rw [Points.pointed_of_ne unpointed]
  have written : encodeChars literal.mantissa.write =
      encodeChars (literal.sign.write ++ writeDigits literal.whole) ++
        encodeChars (writeFraction literal.fraction) := by
    rw [← encodeChars_append, write, mantissa, writeExponent, List.append_nil]
  have text : proper.numeral.text =
      encodeChars (literal.sign.write ++ writeDigits literal.whole) ++
        encodeChars (if writeDigits (literal.fraction.getD []) = [] then []
          else '.' :: writeDigits (literal.fraction.getD [])) := encodeChars_append _ _
  rw [written, text]
  rcases fraction : literal.fraction with _ | _ | ⟨digit, digits⟩
  · exact ⟨tail, rfl, undigited, fun _ => ended⟩
  · have point : encodeChars (writeFraction (some [])) = [46] := rfl
    refine ⟨46 :: tail, ?_, Points.digit?_point tail, fun _ => ?_⟩
    · rw [point, List.append_assoc, Option.getD_some, if_pos (writeDigits_eq_nil.mpr rfl)]
      exact congrArg (· ++ 46 :: tail) (List.append_nil _).symm
    · exact congrArg Prod.fst (Points.digits_of_none undigited)
  · refine ⟨tail, rfl, undigited, fun empty => ?_⟩
    have none : writeDigits (literal.fraction.getD []) = [] := empty
    rw [fraction] at none
    cases none

theorem digits_of_written {digits : List Nat} (small : ∀ digit ∈ digits, digit < 10) :
    (writeDigits digits).map (fun c => c.toNat - 48) = digits ∧
      (writeDigits digits).all Char.isDigit := by
  have all : ∀ digit < 10, (digitChar digit).toNat - 48 = digit ∧ (digitChar digit).isDigit := by
    decide
  constructor
  · rw [writeDigits, List.map_map]
    exact (List.map_congr_left fun digit given => (all digit (small digit given)).1).trans
      (List.map_id digits)
  · rw [List.all_eq_true]
    intro c listed
    obtain ⟨digit, given, rfl⟩ := List.mem_map.mp listed
    exact (all digit (small digit given)).2

/-- What is read of a literal has the value of its mantissa. -/
theorem value?_numeral (proper : literal.IsProper) :
    proper.numeral.number.value? = some literal.mantissa.value := by
  have written : proper.numeral.whole ++ proper.numeral.fraction = writeDigits literal.significand :=
    List.map_append.symm
  obtain ⟨digits, ascii⟩ := digits_of_written proper.significand.small
  have count : proper.numeral.fraction.length = (literal.fraction.getD []).length := List.length_map _
  have length : literal.significand.length =
      literal.whole.length + (literal.fraction.getD []).length := List.length_append
  have shift : (literal.whole.length : Int) + 0 - literal.significand.length =
      -((literal.fraction.getD []).length : Int) := by omega
  have nearest : literal.mantissa.value = Binary64.ofRatio (literal.sign = .minus)
      (digitsValue literal.significand) (Nat.pow 10 (literal.fraction.getD []).length) := by
    change Decimal.toBinary64 (literal.sign = .minus)
      ⟨literal.significand, literal.whole.length + 0⟩ = _
    simp only [Decimal.toBinary64, shift]
    split
    · have none : (literal.fraction.getD []).length = 0 := by omega
      rw [none]
      exact congrArg₂ (Binary64.ofRatio _) (Nat.mul_one _) rfl
    · rw [Int.neg_neg, Int.toNat_natCast]
  rw [Points.Number.value?, nearest]
  simp only [Points.Numeral.number, written, digits, ascii, if_true, count]
  rfl

end DecimalLiteral

namespace Points

def IsAscii (text : Bytes) : Prop := ∀ b ∈ text, b.toNat < 0x80

instance (text : Bytes) : Decidable (IsAscii text) :=
  List.decidableBAll (fun b : UInt8 => b.toNat < 0x80) text

theorem isAscii_encodeChars {text : List Char} :
    IsAscii (encodeChars text) ↔ ∀ c ∈ text, c.toNat < 0x80 := by
  have one (c : Char) : (∀ b ∈ String.utf8EncodeChar c, b.toNat < 0x80) ↔ c.toNat < 0x80 := by
    constructor
    · intro small
      obtain ⟨first, found, written, -⟩ := Utf8.next_encode c []
      have listed : first ∈ String.utf8EncodeChar c := by simp [written]
      rw [(Utf8.encode_of_mem (small first listed) listed).2]
      exact small first listed
    · intro small
      simp only [Utf8.encode_of_small small, List.mem_singleton, forall_eq,
        Utf8.toNat_ofNat (Nat.lt_trans small (by decide))]
      exact small
  simp only [IsAscii, encodeChars, List.mem_flatMap, forall_exists_index, and_imp]
  rw [forall_comm]
  exact forall_congr' fun c => ⟨fun small listed => (one c).mp fun b => small b listed,
    fun small b listed => (one c).mpr (small listed) b⟩

theorem isDigit_iff {c : Char} : c.isDigit ↔ 48 ≤ c.toNat ∧ c.toNat ≤ 57 := by
  rw [Char.isDigit, Bool.and_eq_true, decide_eq_true_iff, decide_eq_true_iff, ge_iff_le,
    UInt32.le_iff_toNat_le, UInt32.le_iff_toNat_le]
  exact Iff.rfl

theorem isDigit_iff_of_decimal {c : Char} (decimal : Character.isDecimalDigit c) :
    c.isDigit ↔ c.toNat < 0x80 := by
  have all : ∀ first ∈ Character.digitZeros, first = 0x30 ∨ 0x80 ≤ first := by decide
  obtain ⟨first, listed, within⟩ := List.any_eq_true.mp decimal
  have ascii := all first listed
  rw [Bool.and_eq_true, decide_eq_true_iff, decide_eq_true_iff] at within
  rw [isDigit_iff]
  omega

namespace Numeral

variable (numeral : Numeral)

theorem isAscii_text :
    IsAscii numeral.text ↔ (numeral.whole ++ numeral.fraction).all Char.isDigit := by
  have decimal : AreDigits (numeral.whole ++ numeral.fraction) :=
    List.forall_mem_append.mpr ⟨numeral.whole_digits, numeral.fraction_digits⟩
  have ascii : (numeral.whole ++ numeral.fraction).all Char.isDigit ↔
      ∀ c ∈ numeral.whole ++ numeral.fraction, c.toNat < 0x80 := by
    rw [List.all_eq_true]
    exact forall₂_congr fun c listed => isDigit_iff_of_decimal (decimal c listed)
  have sign : ∀ c ∈ numeral.sign.write, c.toNat < 0x80 := by
    cases numeral.sign <;> simp [ExponentSign.write]
  have point : (∀ c ∈ if numeral.fraction = [] then [] else '.' :: numeral.fraction,
      c.toNat < 0x80) ↔ ∀ c ∈ numeral.fraction, c.toNat < 0x80 := by
    split
    · rename_i empty
      rw [empty]
    · rw [List.forall_mem_cons]
      exact and_iff_right (by decide)
  rw [ascii, text, spelling, isAscii_encodeChars, List.forall_mem_append, List.forall_mem_append,
    List.forall_mem_append, and_iff_right sign, point]

theorem value?_eq_none : numeral.number.value? = none ↔ ¬IsAscii numeral.text := by
  rw [isAscii_text, Number.value?]
  exact ite_eq_right_iff.trans (imp_congr_right fun _ => iff_of_false (Option.some_ne_none _) id)

end Numeral

def Reads (text : Bytes) (value : Binary64) : Prop :=
  ∃ literal : DecimalLiteral, literal.IsProper ∧ literal.exponent = none ∧
    encodeChars literal.write = text ∧ literal.value = value

def readDigits (text : List Char) : List Nat := text.map fun c => c.toNat - 48

theorem readDigits_spec {text : List Char} (digits : ∀ c ∈ text, c.isDigit) :
    writeDigits (readDigits text) = text ∧ ∀ digit ∈ readDigits text, digit < 10 := by
  have one (c : Char) (digit : c.isDigit) : digitChar (c.toNat - 48) = c ∧ c.toNat - 48 < 10 := by
    have range := isDigit_iff.mp digit
    rw [digitChar, Nat.add_sub_cancel' range.1, Char.ofNat_toNat]
    exact ⟨rfl, by omega⟩
  constructor
  · rw [writeDigits, readDigits, List.map_map]
    exact (List.map_congr_left fun c listed => (one c (digits c listed)).1).trans (List.map_id text)
  · intro digit listed
    obtain ⟨c, given, rfl⟩ := List.mem_map.mp listed
    exact (one c (digits c given)).2

def Numeral.literal (numeral : Numeral) : DecimalLiteral where
  sign := numeral.sign
  whole := readDigits numeral.whole
  fraction := if numeral.fraction = [] then none else some (readDigits numeral.fraction)
  exponent := none

theorem Numeral.significand_literal (numeral : Numeral) :
    numeral.literal.significand = readDigits (numeral.whole ++ numeral.fraction) := by
  have fraction : numeral.literal.fraction.getD [] = readDigits numeral.fraction := by
    by_cases empty : numeral.fraction = []
    · simp [literal, empty, readDigits]
    · simp [literal, empty]
  rw [DecimalLiteral.significand, fraction]
  exact List.map_append.symm

theorem Numeral.literal_spec {numeral : Numeral} (ascii : IsAscii numeral.text) :
    numeral.literal.IsProper ∧ encodeChars numeral.literal.write = numeral.text := by
  have digits := List.all_eq_true.mp (numeral.isAscii_text.mp ascii)
  obtain ⟨whole, fraction⟩ := List.forall_mem_append.mp digits
  constructor
  · refine ⟨?_, by simp [literal], by simp [literal]⟩
    rw [significand_literal]
    refine ⟨fun empty => numeral.given ?_, (readDigits_spec digits).2⟩
    rwa [readDigits, List.map_eq_nil_iff, List.append_eq_nil_iff] at empty
  · have pointed : writeFraction numeral.literal.fraction =
        if numeral.fraction = [] then [] else '.' :: numeral.fraction := by
      by_cases empty : numeral.fraction = []
      · simp [literal, empty, writeFraction]
      · simp [literal, empty, writeFraction, (readDigits_spec fraction).1]
    have wholly : writeDigits numeral.literal.whole = numeral.whole := (readDigits_spec whole).1
    rw [DecimalLiteral.write, wholly, pointed, text, spelling]
    exact congrArg encodeChars (List.append_nil _)

theorem Numeral.value?_eq_some {numeral : Numeral} {value : Binary64} :
    numeral.number.value? = some value ↔ Reads numeral.text value := by
  have read {literal : DecimalLiteral} (proper : literal.IsProper)
      (plain : literal.exponent = none) (written : encodeChars literal.write = numeral.text) :
      numeral.number.value? = some literal.value := by
    have ended : digit? [] = none := rfl
    obtain ⟨rest, split, ends⟩ :=
      DecimalLiteral.mantissa_split proper ended fun _ => (List.cons_ne_nil _ _).symm
    have same := (proper.numeral.read_text ends).1
    rw [← split, DecimalLiteral.mantissa_of_none plain, written, List.append_nil,
      numeral.number?_text, Option.some.injEq] at same
    rw [same, DecimalLiteral.value?_numeral, DecimalLiteral.mantissa_of_none plain]
  constructor
  · intro found
    by_cases ascii : IsAscii numeral.text
    · obtain ⟨proper, written⟩ := literal_spec ascii
      rw [read proper rfl written, Option.some.injEq] at found
      exact ⟨numeral.literal, proper, rfl, written, found⟩
    · rw [numeral.value?_eq_none.mpr ascii] at found
      cases found
  · rintro ⟨literal, proper, plain, written, rfl⟩
    exact read proper plain written

end Points
end ContestJudge
