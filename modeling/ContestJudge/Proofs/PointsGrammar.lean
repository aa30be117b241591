import ContestJudge.Number.Layout
import ContestJudge.Proofs.Patterns
import ContestJudge.Proofs.Splitting
/-!
The grammar of points lines. A number is read from the left without falling back, and what is read
is both what a search by the pattern of numbers prefers and the longest text of that pattern.
-/

namespace ContestJudge.Points

open Utf8 (encodeChars encodeChars_cons encodeChars_append)

def someDigits : Pattern := .follow .digit (.many .digit)

/-- Digits, a point or none, and one digit or more. -/
def magnitude : Pattern := .follow (.many .digit) (.follow (.maybe (.byte 46)) someDigits)

def numeral : Pattern := .follow (.maybe (.either (.byte 45) (.byte 43))) magnitude

structure IsLongest (bytes text : Bytes) : Prop where
  starts : text <+: bytes
  described : text ∈ numeral.language
  longest : ∀ other, other <+: bytes → other ∈ numeral.language → other.length ≤ text.length

section Digits

theorem digits_of_none {bytes : Bytes} (ended : digit? bytes = none) : digits bytes = ([], bytes) := by
  unfold digits
  split
  · rfl
  · rename_i read
    rw [ended] at read
    cases read

theorem digits_of_some {bytes rest : Bytes} {c : Char} (read : digit? bytes = some (c, rest)) :
    digits bytes = (c :: (digits rest).1, (digits rest).2) := by
  rw [digits]
  split
  · rename_i ended
    rw [read] at ended
    cases ended
  · rename_i found
    rw [read] at found
    cases found
    rfl

def AreDigits (text : List Char) : Prop := ∀ c ∈ text, Character.isDecimalDigit c

theorem digits_encode {text : List Char} (decimal : AreDigits text) (rest : Bytes) :
    digits (encodeChars text ++ rest) = (text ++ (digits rest).1, (digits rest).2) := by
  induction text with
  | nil => rfl
  | cons c text ih =>
    obtain ⟨first, more⟩ := List.forall_mem_cons.mp decimal
    rw [encodeChars_cons, List.append_assoc, digits_of_some (digit?_encode first _), ih more]
    rfl

theorem digits_spec (bytes : Bytes) :
    bytes = encodeChars (digits bytes).1 ++ (digits bytes).2 ∧ AreDigits (digits bytes).1 ∧
      digit? (digits bytes).2 = none := by
  induction bytes using digits.induct with
  | case1 bytes ended =>
    rw [digits_of_none ended]
    exact ⟨rfl, by simp [AreDigits], ended⟩
  | case2 bytes c rest read _ _ found ih =>
    obtain ⟨decimal, split⟩ := digit?_eq_some_iff.mp read
    obtain ⟨whole, digits, ended⟩ := ih
    rw [digits_of_some read]
    refine ⟨?_, List.forall_mem_cons.mpr ⟨decimal, digits⟩, ended⟩
    rw [encodeChars_cons, List.append_assoc, ← whole, split]

/-- The bytes that are characters of their own and no digits stand in no digit. -/
theorem not_mem_encode {c : Char} {b : UInt8} (decimal : Character.isDecimalDigit c)
    (small : b.toNat < 0x80) (other : Character.isDecimalDigit (Char.ofNat b.toNat) = false) :
    b ∉ String.utf8EncodeChar c := by
  intro listed
  have code := (Utf8.encode_of_mem small listed).2
  rw [← code, Char.ofNat_toNat, decimal] at other
  cases other

end Digits

section Spelling

def unsigned : Bytes → ExponentSign × Bytes
  | 45 :: rest => (.minus, rest)
  | 43 :: rest => (.plus, rest)
  | bytes => (.bare, bytes)

def pointed : Bytes → List Char × Bytes
  | 46 :: rest => digits rest
  | bytes => ([], bytes)

def spelling (sign : ExponentSign) (whole fraction : List Char) : Bytes :=
  encodeChars (sign.write ++ whole ++ if fraction = [] then [] else '.' :: fraction)

def spelled? (bytes : Bytes) : Option Bytes :=
  let (sign, body) := unsigned bytes
  let (whole, tail) := digits body
  let fraction := (pointed tail).1
  if whole = [] ∧ fraction = [] then none else some (spelling sign whole fraction)

theorem number?_eq (bytes : Bytes) : number? bytes =
    let (sign, body) := unsigned bytes
    let (whole, tail) := digits body
    let fraction := (pointed tail).1
    if whole = [] ∧ fraction = [] then none else some ⟨sign = .minus, whole, fraction⟩ := by
  have points (negative : Bool) (whole : List Char) (tail : Bytes) :
      (let fraction := match tail with
        | 46 :: rest => (digits rest).1
        | _ => []
      if whole.isEmpty && fraction.isEmpty then none
      else some (⟨negative, whole, fraction⟩ : Number)) =
      let fraction := (pointed tail).1
      if whole = [] ∧ fraction = [] then none else some ⟨negative, whole, fraction⟩ := by
    unfold pointed
    split <;> simp only [Bool.and_eq_true, List.isEmpty_iff]
  have signs : ∃ negative body, number? bytes = (
      let (whole, tail) := digits body
      let fraction := match tail with
        | 46 :: rest => (digits rest).1
        | _ => []
      if whole.isEmpty && fraction.isEmpty then none
      else some (⟨negative, whole, fraction⟩ : Number)) ∧
      negative = decide ((unsigned bytes).1 = .minus) ∧ body = (unsigned bytes).2 := by
    unfold number?
    split
    rename_i negative body split
    refine ⟨negative, body, rfl, ?_⟩
    split at split
    · cases split
      exact ⟨rfl, rfl⟩
    · cases split
      exact ⟨rfl, rfl⟩
    · rename_i minus plus
      cases split
      rw [unsigned.eq_3 bytes minus plus]
      exact ⟨rfl, rfl⟩
  obtain ⟨_, _, read, rfl, rfl⟩ := signs
  exact read.trans (points _ _ _)

theorem unsigned_spec (bytes : Bytes) :
    bytes = encodeChars (unsigned bytes).1.write ++ (unsigned bytes).2 := by
  unfold unsigned
  split <;> rfl

theorem unsigned_encode {sign : ExponentSign} {body : Bytes}
    (plain : sign = .bare → ∀ rest, body ≠ 45 :: rest ∧ body ≠ 43 :: rest) :
    unsigned (encodeChars sign.write ++ body) = (sign, body) := by
  cases sign with
  | minus => rfl
  | plus => rfl
  | bare => exact unsigned.eq_3 body (fun rest => (plain rfl rest).1) (fun rest => (plain rfl rest).2)

theorem unsigned_of_ne {b : UInt8} {rest : Bytes} (minus : b ≠ 45) (plus : b ≠ 43) :
    unsigned (b :: rest) = (.bare, b :: rest) :=
  unsigned.eq_3 _ (fun _ split => minus (List.cons.inj split).1)
    (fun _ split => plus (List.cons.inj split).1)

theorem pointed_of_ne {bytes : Bytes} (other : ∀ rest, bytes ≠ 46 :: rest) :
    pointed bytes = ([], bytes) := pointed.eq_2 bytes other

theorem pointed_spec {bytes : Bytes} (some : (pointed bytes).1 ≠ []) :
    bytes = encodeChars ('.' :: (pointed bytes).1) ++ (pointed bytes).2 ∧
      AreDigits (pointed bytes).1 ∧ digit? (pointed bytes).2 = none := by
  unfold pointed at some ⊢
  split at some
  · rename_i rest
    obtain ⟨whole, decimal, ended⟩ := digits_spec rest
    exact ⟨congrArg (46 :: ·) whole, decimal, ended⟩
  · exact absurd rfl some

theorem digit?_of_byte {b : UInt8} (rest : Bytes) (small : b.toNat < 0x80)
    (other : Character.isDecimalDigit (Char.ofNat b.toNat) = false) : digit? (b :: rest) = none := by
  cases read : digit? (b :: rest) with
  | none => rfl
  | some found =>
    obtain ⟨decimal, split⟩ := digit?_eq_some_iff.mp read
    obtain ⟨first, more, written, -⟩ := Utf8.next_encode found.1 []
    rw [written, List.cons_append, List.cons.injEq] at split
    refine absurd ?_ (not_mem_encode decimal small other)
    rw [written, split.1]
    exact List.mem_cons_self

theorem digit?_minus (rest : Bytes) : digit? (45 :: rest) = none :=
  digit?_of_byte rest (by decide) (by decide)

theorem digit?_plus (rest : Bytes) : digit? (43 :: rest) = none :=
  digit?_of_byte rest (by decide) (by decide)

theorem digit?_point (rest : Bytes) : digit? (46 :: rest) = none :=
  digit?_of_byte rest (by decide) (by decide)

theorem not_sign_of_digit {c : Char} (decimal : Character.isDecimalDigit c) (rest more : Bytes) :
    String.utf8EncodeChar c ++ more ≠ 45 :: rest ∧ String.utf8EncodeChar c ++ more ≠ 43 :: rest := by
  have read := digit?_encode decimal more
  constructor <;> intro same <;> rw [same] at read
  · rw [digit?_minus] at read
    cases read
  · rw [digit?_plus] at read
    cases read

end Spelling

structure Numeral where
  sign : ExponentSign
  whole : List Char
  fraction : List Char
  whole_digits : AreDigits whole
  fraction_digits : AreDigits fraction
  given : ¬(whole = [] ∧ fraction = [])

namespace Numeral

def text (numeral : Numeral) : Bytes := spelling numeral.sign numeral.whole numeral.fraction

def number (numeral : Numeral) : Number :=
  ⟨numeral.sign = .minus, numeral.whole, numeral.fraction⟩

structure EndsBefore (numeral : Numeral) (tail : Bytes) : Prop where
  undigited : digit? tail = none
  unpointed : numeral.fraction = [] → (pointed tail).1 = []

variable (numeral : Numeral) {tail : Bytes}

theorem unsigned_text (tail : Bytes) : unsigned (numeral.text ++ tail) = (numeral.sign,
    encodeChars numeral.whole ++
      (encodeChars (if numeral.fraction = [] then [] else '.' :: numeral.fraction) ++ tail)) := by
  rw [text, spelling, encodeChars_append, encodeChars_append, List.append_assoc, List.append_assoc]
  apply unsigned_encode
  intro _ rest
  have decimal := numeral.whole_digits
  cases digits : numeral.whole with
  | cons c whole =>
    rw [digits] at decimal
    rw [encodeChars_cons, List.append_assoc]
    exact not_sign_of_digit (List.forall_mem_cons.mp decimal).1 rest _
  | nil =>
    rw [if_neg fun empty => numeral.given ⟨digits, empty⟩]
    constructor <;> intro same <;> cases same

theorem pointed_fraction (ends : numeral.EndsBefore tail) :
    let rest := encodeChars (if numeral.fraction = [] then [] else '.' :: numeral.fraction) ++ tail
    digit? rest = none ∧ (pointed rest).1 = numeral.fraction := by
  by_cases empty : numeral.fraction = []
  · rw [if_pos empty]
    exact ⟨ends.undigited, (ends.unpointed empty).trans empty.symm⟩
  · rw [if_neg empty]
    refine ⟨digit?_point _, ?_⟩
    change (digits (encodeChars numeral.fraction ++ tail)).1 = numeral.fraction
    rw [digits_encode numeral.fraction_digits, digits_of_none ends.undigited, List.append_nil]

theorem read_text (ends : numeral.EndsBefore tail) :
    number? (numeral.text ++ tail) = some numeral.number ∧
      spelled? (numeral.text ++ tail) = some numeral.text := by
  obtain ⟨undigited, fraction⟩ := numeral.pointed_fraction ends
  rw [number?_eq, spelled?, numeral.unsigned_text]
  simp only [digits_encode numeral.whole_digits, digits_of_none undigited, List.append_nil, fraction]
  exact ⟨if_neg numeral.given, if_neg numeral.given⟩

theorem number?_text : number? numeral.text = some numeral.number := by
  have ends : numeral.EndsBefore [] := ⟨rfl, fun _ => rfl⟩
  simpa using (numeral.read_text ends).1

end Numeral

theorem number?_of_unspelled {bytes : Bytes} (unspelled : spelled? bytes = none) :
    number? bytes = none := by
  rw [spelled?] at unspelled
  rw [number?_eq]
  simp only [ite_eq_left_iff, reduceCtorEq, imp_false, not_not] at unspelled
  exact if_pos unspelled

theorem exists_numeral {bytes text : Bytes} (spelled : spelled? bytes = some text) :
    ∃ numeral : Numeral, numeral.text = text ∧ number? bytes = some numeral.number := by
  rw [spelled?] at spelled
  simp only at spelled
  split at spelled
  · cases spelled
  · rename_i given
    have fraction : AreDigits (pointed (digits (unsigned bytes).2).2).1 := by
      by_cases empty : (pointed (digits (unsigned bytes).2).2).1 = []
      · rw [empty]
        exact List.forall_mem_nil _
      · exact (pointed_spec empty).2.1
    refine ⟨⟨_, _, _, (digits_spec _).2.1, fraction, given⟩, Option.some.inj spelled, ?_⟩
    rw [number?_eq]
    exact if_neg given

section Search

theorem rests_digit_of_none {bytes : Bytes} (ended : digit? bytes = none) :
    Pattern.digit.rests bytes = [] := by
  rw [Pattern.rests, ended]
  rfl

theorem rests_digit_of_some {bytes rest : Bytes} {c : Char} (read : digit? bytes = some (c, rest)) :
    Pattern.digit.rests bytes = [rest] := by
  rw [Pattern.rests, read]
  rfl

theorem repeated_of_none {bytes : Bytes} (ended : digit? bytes = none) :
    repeated Pattern.digit.rests bytes = [bytes] := by
  rw [repeated, rests_digit_of_none ended]
  rfl

theorem repeated_of_some {bytes rest : Bytes} {c : Char} (read : digit? bytes = some (c, rest)) :
    repeated Pattern.digit.rests bytes = repeated Pattern.digit.rests rest ++ [bytes] := by
  rw [repeated, rests_digit_of_some read, List.flatMap_singleton, if_pos (digit_shorter read)]

theorem first?_many (bytes : Bytes) : (Pattern.many .digit).first? bytes = some (digits bytes).2 := by
  rw [Pattern.first?, Pattern.rests]
  induction bytes using digits.induct with
  | case1 bytes ended => rw [repeated_of_none ended, digits_of_none ended]; rfl
  | case2 bytes c rest read _ _ found ih =>
    rw [repeated_of_some read, digits_of_some read, List.head?_append, ih]
    rfl

theorem first?_someDigits (bytes : Bytes) : someDigits.first? bytes =
    if (digits bytes).1 = [] then none else some (digits bytes).2 := by
  rw [someDigits, Pattern.first?_follow]
  cases read : digit? bytes with
  | none => rw [rests_digit_of_none read, digits_of_none read]; rfl
  | some found =>
    rw [rests_digit_of_some read, digits_of_some read, List.findSome?_singleton, first?_many]
    rfl

/-- A point is preferred, but not without a digit behind it. -/
theorem first?_fraction (bytes : Bytes) :
    ((Pattern.maybe (.byte 46)).follow someDigits).first? bytes =
      if (pointed bytes).1 = [] then
        if (digits bytes).1 = [] then none else some (digits bytes).2
      else some (pointed bytes).2 := by
  rw [Pattern.first?_follow, Pattern.rests]
  by_cases point : ∃ rest, bytes = 46 :: rest
  · obtain ⟨rest, rfl⟩ := point
    have ended := digits_of_none (digit?_point rest)
    rw [Pattern.rests_byte_cons, if_pos rfl, List.findSome?_append, List.findSome?_singleton,
      List.findSome?_singleton, first?_someDigits, first?_someDigits, ended]
    change _ = if (digits rest).1 = [] then _ else some (digits rest).2
    split <;> rfl
  · have unpointed := pointed_of_ne fun rest split => point ⟨rest, split⟩
    have unread : (Pattern.byte 46).rests bytes = [] := by
      rcases bytes with _ | ⟨b, rest⟩
      · rfl
      · rw [Pattern.rests_byte_cons, if_neg fun same => point ⟨rest, by rw [same]⟩]
    rw [unread, List.nil_append, List.findSome?_singleton, first?_someDigits, unpointed, if_pos rfl]

/-- Of the ways to part the digits, the one that leaves none behind is preferred; the others help
only where no digits follow a point. -/
theorem first?_magnitude (bytes : Bytes) : magnitude.first? bytes =
    if (pointed (digits bytes).2).1 = [] then
      if (digits bytes).1 = [] then none else some (digits bytes).2
    else some (pointed (digits bytes).2).2 := by
  rw [magnitude, Pattern.first?_follow, Pattern.rests]
  induction bytes using digits.induct with
  | case1 bytes ended =>
    rw [repeated_of_none ended, List.findSome?_singleton, first?_fraction, digits_of_none ended]
  | case2 bytes c rest read _ _ found ih =>
    have unpointed : pointed bytes = ([], bytes) := by
      apply pointed_of_ne
      rintro more rfl
      rw [digit?_point] at read
      cases read
    rw [repeated_of_some read, List.findSome?_append, ih, List.findSome?_singleton,
      first?_fraction, unpointed, digits_of_some read]
    simp only [List.cons_ne_nil, if_true, if_false]
    split
    · split <;> rfl
    · rfl

theorem first?_magnitude_of_other {b : UInt8} {rest : Bytes} (unread : digit? (b :: rest) = none)
    (other : b ≠ 46) : magnitude.first? (b :: rest) = none := by
  have unpointed : pointed (b :: rest) = ([], b :: rest) :=
    pointed_of_ne fun more split => other (List.cons.inj split).1
  rw [first?_magnitude, digits_of_none unread, unpointed]
  rfl

/-- There is no sign to take, or it can be left, and then no digits follow. -/
theorem rests_sign (bytes : Bytes) :
    let rests := (Pattern.maybe (.either (.byte 45) (.byte 43))).rests bytes
    rests = [bytes] ∧ (unsigned bytes).2 = bytes ∨
      rests = [(unsigned bytes).2, bytes] ∧ magnitude.first? bytes = none := by
  rcases bytes with _ | ⟨b, rest⟩
  · exact .inl ⟨rfl, rfl⟩
  rw [Pattern.rests, Pattern.rests, Pattern.rests_byte_cons, Pattern.rests_byte_cons]
  by_cases minus : b = 45
  · subst minus
    exact .inr ⟨rfl, first?_magnitude_of_other (digit?_minus rest) (by decide)⟩
  by_cases plus : b = 43
  · subst plus
    exact .inr ⟨rfl, first?_magnitude_of_other (digit?_plus rest) (by decide)⟩
  · rw [if_neg minus, if_neg plus, unsigned_of_ne minus plus]
    exact .inl ⟨rfl, rfl⟩

theorem first?_numeral (bytes : Bytes) :
    numeral.first? bytes = magnitude.first? (unsigned bytes).2 := by
  rw [numeral, Pattern.first?_follow]
  rcases rests_sign bytes with ⟨rests, same⟩ | ⟨rests, unread⟩
  · rw [rests, same, List.findSome?_singleton]
  · rw [rests, List.findSome?_cons, List.findSome?_singleton, unread]
    cases magnitude.first? (unsigned bytes).2 with
    | none => rfl
    | some left => rfl

theorem digits_of_mem_repeated {bytes rest : Bytes}
    (left : rest ∈ repeated Pattern.digit.rests bytes) :
    (digits rest).2 = (digits bytes).2 ∧ ((digits bytes).1 = [] → rest = bytes) := by
  induction bytes using digits.induct with
  | case1 bytes ended =>
    rw [repeated_of_none ended, List.mem_singleton] at left
    rw [left]
    exact ⟨rfl, fun _ => rfl⟩
  | case2 bytes c next read _ _ found ih =>
    rw [repeated_of_some read, List.mem_append, List.mem_singleton] at left
    rw [digits_of_some read]
    refine ⟨?_, fun empty => absurd empty (List.cons_ne_nil _ _)⟩
    rcases left with later | rfl
    · exact (ih later).1
    · rw [digits_of_some read]

theorem digits_of_mem_someDigits {bytes rest : Bytes} (left : rest ∈ someDigits.rests bytes) :
    (digits bytes).1 ≠ [] ∧ (digits bytes).2.length ≤ rest.length := by
  rw [someDigits, Pattern.rests, List.mem_flatMap] at left
  obtain ⟨next, taken, later⟩ := left
  cases read : digit? bytes with
  | none =>
    rw [rests_digit_of_none read] at taken
    cases taken
  | some found =>
    rw [rests_digit_of_some read, List.mem_singleton] at taken
    rw [digits_of_some read, ← taken, ← (digits_of_mem_repeated later).1]
    refine ⟨List.cons_ne_nil _ _, ?_⟩
    have split := congrArg List.length (digits_spec rest).1
    rw [List.length_append] at split
    omega

theorem length_pointed_le (bytes : Bytes) : (pointed bytes).2.length ≤ bytes.length := by
  unfold pointed
  split
  · rename_i rest
    have split := congrArg List.length (digits_spec rest).1
    rw [List.length_append] at split
    rw [List.length_cons]
    omega
  · exact Nat.le_refl _

theorem first?_takes_most_of_magnitude {bytes rest : Bytes} (left : rest ∈ magnitude.rests bytes) :
    ∃ least, magnitude.first? bytes = some least ∧ least.length ≤ rest.length := by
  rw [magnitude, Pattern.rests, List.mem_flatMap] at left
  obtain ⟨next, taken, later⟩ := left
  rw [Pattern.rests, List.mem_flatMap] at later
  obtain ⟨more, parted, ended⟩ := later
  obtain ⟨same, unmoved⟩ := digits_of_mem_repeated taken
  obtain ⟨some, shorter⟩ := digits_of_mem_someDigits ended
  have pointedTail := length_pointed_le (digits bytes).2
  rw [first?_magnitude]
  rw [Pattern.rests, List.mem_append, List.mem_singleton] at parted
  rcases parted with pointed | rfl
  · -- The digits end at a point, so the match parted them as the preferred one does.
    rcases next with _ | ⟨b, next⟩
    · cases pointed
    rw [Pattern.rests_byte_cons] at pointed
    split at pointed
    · rename_i point
      rw [List.mem_singleton] at pointed
      subst point pointed
      rw [digits_of_none (digit?_point more)] at same
      rw [← same]
      exact ⟨_, if_neg some, shorter⟩
    · cases pointed
  · rw [same] at shorter
    split
    · have whole : (digits bytes).1 ≠ [] := fun empty => some (unmoved empty ▸ empty)
      exact ⟨_, if_neg whole, shorter⟩
    · exact ⟨_, rfl, Nat.le_trans pointedTail shorter⟩

theorem first?_takes_most {bytes rest : Bytes} (left : rest ∈ numeral.rests bytes) :
    ∃ least, numeral.first? bytes = some least ∧ least.length ≤ rest.length := by
  rw [numeral, Pattern.rests, List.mem_flatMap] at left
  obtain ⟨body, taken, matched⟩ := left
  obtain ⟨least, found, shorter⟩ := first?_takes_most_of_magnitude matched
  rw [first?_numeral]
  rcases rests_sign bytes with ⟨rests, same⟩ | ⟨rests, unread⟩
  · rw [rests, List.mem_singleton] at taken
    rw [same, ← taken]
    exact ⟨least, found, shorter⟩
  · rw [rests, List.mem_pair] at taken
    rcases taken with rfl | rfl
    · exact ⟨least, found, shorter⟩
    · rw [unread] at found
      cases found

theorem first?_of_spelled? (bytes : Bytes) :
    (∃ text rest, spelled? bytes = some text ∧ bytes = text ++ rest ∧
      numeral.first? bytes = some rest) ∨
    (spelled? bytes = none ∧ numeral.first? bytes = none) := by
  have signed := unsigned_spec bytes
  have whole := (digits_spec (unsigned bytes).2).1
  rw [first?_numeral, first?_magnitude, spelled?]
  simp only
  by_cases fraction : (pointed (digits (unsigned bytes).2).2).1 = []
  · rw [fraction]
    by_cases empty : (digits (unsigned bytes).2).1 = []
    · rw [if_pos ⟨empty, rfl⟩, if_pos rfl, if_pos empty]
      exact .inr ⟨rfl, rfl⟩
    · rw [if_neg fun both => empty both.1, if_pos rfl, if_neg empty]
      refine .inl ⟨_, _, rfl, ?_, rfl⟩
      rw [spelling, if_pos rfl, List.append_nil, encodeChars_append, List.append_assoc, ← whole,
        ← signed]
  · have point := (pointed_spec fraction).1
    rw [if_neg fun both => fraction both.2, if_neg fraction]
    refine .inl ⟨_, _, rfl, ?_, rfl⟩
    rw [spelling, if_neg fraction, encodeChars_append, encodeChars_append, List.append_assoc,
      List.append_assoc, ← point, ← whole, ← signed]

theorem capture?_numeral (bytes : Bytes) : numeral.capture? bytes = spelled? bytes := by
  rw [Pattern.capture?]
  rcases first?_of_spelled? bytes with ⟨text, rest, spelled, split, found⟩ | ⟨spelled, unfound⟩
  · rw [spelled, found, split, Option.map_some, List.length_append, Nat.add_sub_cancel,
      List.take_left]
  · rw [spelled, unfound, Option.map_none]

/-- What is read of bytes is the longest text of the pattern. -/
theorem isLongest_iff {bytes text : Bytes} : IsLongest bytes text ↔ spelled? bytes = some text := by
  have isLongest {text rest : Bytes} (split : bytes = text ++ rest)
      (found : numeral.first? bytes = some rest) : IsLongest bytes text := by
    have left : rest ∈ numeral.rests bytes := List.mem_of_mem_head? (Option.mem_def.mpr found)
    obtain ⟨word, described, parted⟩ := (numeral.mem_rests_iff bytes rest).mp left
    obtain rfl : text = word := List.append_cancel_right (split.symm.trans parted)
    refine ⟨⟨rest, split.symm⟩, described, ?_⟩
    rintro other ⟨more, added⟩ also
    obtain ⟨least, preferred, shorter⟩ :=
      first?_takes_most ((numeral.mem_rests_iff bytes more).mpr ⟨other, also, added.symm⟩)
    rw [found, Option.some.injEq] at preferred
    have lengths := congrArg List.length (added.trans split)
    rw [List.length_append, List.length_append, preferred] at lengths
    omega
  rcases first?_of_spelled? bytes with ⟨read, rest, spelled, split, found⟩ | ⟨spelled, unfound⟩
  · have best := isLongest split found
    rw [spelled, Option.some.injEq]
    constructor
    · intro longest
      have length := Nat.le_antisymm (longest.longest read best.starts best.described)
        (best.longest text longest.starts longest.described)
      exact (List.prefix_of_prefix_length_le best.starts longest.starts
        (Nat.le_of_eq length)).eq_of_length length
    · rintro rfl
      exact best
  · rw [spelled]
    refine iff_of_false ?_ (Option.some_ne_none text).symm
    intro longest
    obtain ⟨more, added⟩ := longest.starts
    obtain ⟨least, preferred, -⟩ := first?_takes_most
      ((numeral.mem_rests_iff bytes more).mpr ⟨text, longest.described, added.symm⟩)
    rw [unfound] at preferred
    cases preferred

end Search
end ContestJudge.Points
