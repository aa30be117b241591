import ContestJudge.Proofs.Encoding
import ContestJudge.Proofs.Splitting
/-!
Lossy reading and ASCII. A byte below 0x80 is a character of its own wherever it stands, behind a
broken piece too: reading goes with cutting at such bytes, and an ASCII character that is read is a
byte that was there.
-/

namespace ContestJudge.Utf8

def chars (bytes : Bytes) : List Char := (pieces bytes []).map (·.getD replacement)

theorem toList_decodeLossy (bytes : Bytes) : (decodeLossy bytes).toList = chars bytes :=
  String.toList_ofList

theorem pieces_before (bytes : Bytes) (before : List (Option Char)) :
    pieces bytes before = before.reverse ++ pieces bytes [] := by
  cases bytes with
  | nil => simp [pieces]
  | cons first rest =>
    rw [pieces, pieces]
    dsimp only
    rw [pieces_before _ (_ :: before), pieces_before _ [_]]
    simp
termination_by bytes.length
decreasing_by all_goals simp only [List.length_drop, List.length_cons]; omega

@[simp] theorem chars_nil : chars [] = [] := by
  simp [chars, pieces]

theorem chars_cons (first : UInt8) (rest : Bytes) : chars (first :: rest) =
    (next first rest).1.getD replacement :: chars (rest.drop (next first rest).2) := by
  rw [chars, pieces]
  dsimp only
  rw [pieces_before]
  rfl

@[elab_as_elim]
theorem piece_induction {motive : Bytes → Prop} (nil : motive [])
    (cons : ∀ first rest, motive (rest.drop (next first rest).2) → motive (first :: rest))
    (bytes : Bytes) : motive bytes := by
  cases bytes with
  | nil => exact nil
  | cons first rest => exact cons first rest (piece_induction nil cons _)
termination_by bytes.length
decreasing_by simp only [List.length_drop, List.length_cons]; omega

theorem length_tails_le (lead : Lead) (rest : Bytes) : (tails lead rest).length ≤ rest.length := by
  cases rest with
  | nil => exact Nat.le_refl _
  | cons first more =>
    rw [tails]
    split
    · have kept : ((more.take (lead.tails - 1)).takeWhile
          fun b => 0x80 ≤ b.toNat && b.toNat ≤ 0xbf).length ≤ (more.take (lead.tails - 1)).length :=
        (List.takeWhile_sublist _).length_le
      rw [List.length_take] at kept
      simp only [List.length_cons]
      omega
    · exact Nat.zero_le _

theorem extra_le (first : UInt8) (rest : Bytes) : (next first rest).2 ≤ rest.length := by
  unfold next
  split
  · exact Nat.zero_le _
  split
  · exact Nat.zero_le _
  · rename_i lead led
    have bound := length_tails_le lead rest
    dsimp only
    split <;> exact bound

section Ascii

variable {b : UInt8} (ascii : b.toNat < 0x80)
include ascii

theorem tails_append_ascii {lead : Lead} (low : 0x80 ≤ lead.low) (rest more : Bytes) :
    tails lead (rest ++ b :: more) = tails lead rest := by
  cases rest with
  | nil =>
    have unfit : ¬(lead.low ≤ b.toNat ∧ b.toNat ≤ lead.high) := by omega
    exact if_neg unfit
  | cons first rest =>
    have none : ((b :: more).take (lead.tails - 1 - rest.length)).takeWhile
        (fun b => 0x80 ≤ b.toNat && b.toNat ≤ 0xbf) = [] := by
      cases lead.tails - 1 - rest.length with
      | zero => rfl
      | succ count =>
        rw [List.take_succ_cons, List.takeWhile_cons_of_neg]
        simp only [Bool.and_eq_true, decide_eq_true_eq]
        omega
    rw [List.cons_append, tails, tails, List.take_append, List.takeWhile_append, none,
      List.append_nil]
    split
    · split
      · rename_i whole
        have initial := List.takeWhile_prefix (l := rest.take (lead.tails - 1))
          (p := fun b => 0x80 ≤ b.toNat && b.toNat ≤ 0xbf)
        rw [initial.eq_of_length whole]
      · rfl
    · rfl

/-- What stands behind an ASCII byte has no part in the character before it. -/
theorem next_append_ascii (first : UInt8) (rest more : Bytes) :
    next first (rest ++ b :: more) = next first rest := by
  unfold next
  split
  · rfl
  split
  · rfl
  · rename_i lead led
    have low : 0x80 ≤ lead.low := by
      rcases lead?_cases led with two | three | four <;> omega
    rw [tails_append_ascii ascii low]

/-- Reading goes with cutting at an ASCII byte. -/
theorem chars_append_ascii (front back : Bytes) :
    chars (front ++ b :: back) = chars front ++ Char.ofNat b.toNat :: chars back := by
  induction front using piece_induction with
  | nil =>
    have single : next b back = (some (Char.ofNat b.toNat), 0) := if_pos ascii
    rw [List.nil_append, chars_cons, single, chars_nil]
    rfl
  | cons first rest ih =>
    rw [List.cons_append, chars_cons, chars_cons, next_append_ascii ascii,
      List.drop_append_of_le_length (extra_le first rest), ih]
    rfl

end Ascii

theorem chars_encodeChars (text : List Char) : chars (encodeChars text) = text := by
  rw [chars, pieces_encodeChars]
  simp [Function.comp_def]

theorem exists_behind {bytes : Bytes} {front back : List Char}
    (read : chars bytes = front ++ back) :
    ∃ before after, bytes = before ++ after ∧ chars after = back := by
  induction front generalizing bytes with
  | nil => exact ⟨[], bytes, rfl, read⟩
  | cons c front ih =>
    cases bytes with
    | nil => simp at read
    | cons first rest =>
      rw [chars_cons, List.cons_append] at read
      obtain ⟨before, after, split, rfl⟩ := ih (List.cons.inj read).2
      refine ⟨first :: rest.take (next first rest).2 ++ before, after, ?_, rfl⟩
      rw [List.append_assoc, ← split, List.cons_append, List.take_append_drop]

theorem encode_of_read {first : UInt8} {rest : Bytes} {c : Char} (ascii : c.toNat < 0x80)
    (read : (next first rest).1.getD replacement = c) :
    first :: rest = String.utf8EncodeChar c ++ rest.drop (next first rest).2 := by
  cases found : next first rest with
  | mk char extra =>
    rw [found] at read
    cases char with
    | some other =>
      obtain rfl : other = c := read
      exact encode_of_next found
    | none =>
      have broken : replacement.toNat = 0xfffd := by decide
      obtain rfl : replacement = c := read
      omega

theorem exists_ahead {bytes : Bytes} {text back : List Char} (ascii : ∀ c ∈ text, c.toNat < 0x80)
    (read : chars bytes = text ++ back) :
    ∃ after, bytes = encodeChars text ++ after ∧ chars after = back := by
  induction text generalizing bytes with
  | nil => exact ⟨bytes, rfl, read⟩
  | cons c text ih =>
    obtain ⟨small, others⟩ := List.forall_mem_cons.mp ascii
    cases bytes with
    | nil => simp at read
    | cons first rest =>
      rw [chars_cons, List.cons_append] at read
      obtain ⟨head, tail⟩ := List.cons.inj read
      obtain ⟨after, split, rfl⟩ := ih others tail
      refine ⟨after, ?_, rfl⟩
      rw [encode_of_read small head, split, encodeChars_cons, List.append_assoc]

theorem infix_of_read {bytes : Bytes} {text : List Char} (ascii : ∀ c ∈ text, c.toNat < 0x80)
    (read : text <:+: chars bytes) : encodeChars text <:+: bytes := by
  obtain ⟨front, back, whole⟩ := read
  rw [List.append_assoc] at whole
  obtain ⟨before, middle, rfl, read⟩ := exists_behind whole.symm
  obtain ⟨after, rfl, -⟩ := exists_ahead ascii read
  exact ⟨before, after, List.append_assoc ..⟩

theorem mem_of_mem_encodeChars {b : UInt8} {text : List Char} (ascii : b.toNat < 0x80)
    (listed : b ∈ encodeChars text) : Char.ofNat b.toNat ∈ text := by
  obtain ⟨c, there, written⟩ := List.mem_flatMap.mp listed
  rw [← (encode_of_mem ascii written).2, Char.ofNat_toNat]
  exact there

section Cutting

variable {b : UInt8} (ascii : b.toNat < 0x80)
include ascii

theorem toNat_ofNat_ascii : (Char.ofNat b.toNat).toNat = b.toNat := val_ofNat (by omega)

theorem forall_ne_of_plain {bytes : Bytes} (plain : ∀ a ∈ bytes, (a == b) = false) :
    ∀ c ∈ chars bytes, (c == Char.ofNat b.toNat) = false := by
  intro c listed
  rw [beq_eq_false_iff_ne]
  rintro rfl
  have code := toNat_ofNat_ascii ascii
  have small : ∀ c ∈ [Char.ofNat b.toNat], c.toNat < 0x80 := by
    rw [List.forall_mem_singleton]
    omega
  obtain ⟨front, back, whole⟩ := List.append_of_mem listed
  have there := infix_of_read small ⟨front, back, by rw [whole, List.append_assoc]; rfl⟩
  rw [encodeChars_cons, encode_of_small (by omega), code, UInt8.ofNat_toNat] at there
  have found : b ∈ bytes := there.subset List.mem_cons_self
  simpa using plain b found

/-- What is read between ASCII characters is what is read of the bytes between these bytes. -/
theorem splitAt_chars (bytes : Bytes) :
    splitAt (· == Char.ofNat b.toNat) (chars bytes) = (splitAt (· == b) bytes).map chars := by
  induction bytes using run_induction (· == b) with
  | alone bytes plain =>
    rw [splitAt_of_plain plain, splitAt_of_plain (forall_ne_of_plain ascii plain)]
    rfl
  | ahead front separator back plain same ih =>
    rw [eq_of_beq same, chars_append_ascii ascii,
      splitAt_append (· == Char.ofNat b.toNat) (beq_self_eq_true _),
      splitAt_append (· == b) (beq_self_eq_true _), splitAt_of_plain plain,
      splitAt_of_plain (forall_ne_of_plain ascii plain), ih]
    rfl

theorem takeWhile_chars (bytes : Bytes) :
    (chars bytes).takeWhile (· != Char.ofNat b.toNat) = chars (bytes.takeWhile (· != b)) := by
  rcases plain_or_separated (· == b) bytes with plain | ⟨front, separator, back, rfl, plain, same⟩
  · have kept : bytes.takeWhile (· != b) = bytes := by
      rw [List.takeWhile_eq_self_iff]
      intro a listed
      simpa using plain a listed
    rw [kept, List.takeWhile_eq_self_iff]
    intro c listed
    simpa using forall_ne_of_plain ascii plain c listed
  · rw [eq_of_beq same, chars_append_ascii ascii, List.takeWhile_append_of_pos,
      List.takeWhile_append_of_pos]
    · simp
    · intro a listed
      simpa using plain a listed
    · intro c listed
      simpa using forall_ne_of_plain ascii plain c listed

end Cutting
end ContestJudge.Utf8
