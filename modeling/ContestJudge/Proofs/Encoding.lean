import ContestJudge.Text.Utf8
import Mathlib.Data.List.Basic
import Mathlib.Data.List.TakeWhile

namespace ContestJudge.Utf8

inductive Lead.Asks (lead : Lead) : Bytes → Prop
  | intro (first : UInt8) (more : Bytes) (count : more.length + 1 = lead.tails)
      (fits : lead.low ≤ first.toNat ∧ first.toNat ≤ lead.high)
      (tails : ∀ b ∈ more, 0x80 ≤ b.toNat ∧ b.toNat ≤ 0xbf) : lead.Asks (first :: more)

def Lead.code (lead : Lead) (found : Bytes) : Nat :=
  found.foldl (fun code b => code * 64 + (b.toNat - 0x80)) lead.bits

theorem tails_append {lead : Lead} {found : Bytes} (asked : lead.Asks found) (rest : Bytes) :
    tails lead (found ++ rest) = found := by
  obtain ⟨first, more, count, fits, all⟩ := asked
  have whole : (more ++ rest).take (lead.tails - 1) = more := by
    rw [← count, Nat.add_sub_cancel, List.take_left]
  have kept : more.takeWhile (fun b => 0x80 ≤ b.toNat && b.toNat ≤ 0xbf) = more := by
    rw [List.takeWhile_eq_self_iff]
    intro b listed
    simpa using all b listed
  rw [List.cons_append, tails, if_pos fits, whole, kept]

theorem asks_of_tails {lead : Lead} {rest : Bytes} (some : 0 < lead.tails)
    (enough : (tails lead rest).length = lead.tails) :
    lead.Asks (tails lead rest) ∧ rest = tails lead rest ++ rest.drop lead.tails := by
  cases rest with
  | nil =>
    simp only [tails, List.length_nil] at enough
    omega
  | cons first more =>
    rw [tails] at enough ⊢
    split at enough
    · rename_i fits
      rw [if_pos fits]
      rw [List.length_cons] at enough
      generalize h : (more.take (lead.tails - 1)).takeWhile
        (fun b => 0x80 ≤ b.toNat && b.toNat ≤ 0xbf) = kept at enough ⊢
      have initial : kept <+: more.take (lead.tails - 1) := h ▸ List.takeWhile_prefix _
      have whole : kept = more.take (lead.tails - 1) := by
        apply initial.eq_of_length_le
        rw [List.length_take]
        omega
      refine ⟨⟨first, kept, enough, fits, ?_⟩, ?_⟩
      · intro b listed
        rw [← h] at listed
        simpa using List.mem_takeWhile_imp listed
      · obtain ⟨count, counted⟩ : ∃ count, lead.tails = count + 1 := ⟨lead.tails - 1, by omega⟩
        rw [whole, counted, Nat.add_sub_cancel, List.drop_succ_cons, List.cons_append,
          List.take_append_drop]
    · rw [List.length_nil] at enough
      omega

theorem next_of_asks (lead : Lead) {first : UInt8} {found : Bytes}
    (begun : ¬first.toNat < 0x80) (led : lead? first.toNat = some lead) (asked : lead.Asks found)
    (rest : Bytes) :
    next first (found ++ rest) = (some (Char.ofNat (lead.code found)), found.length) := by
  have count : found.length = lead.tails := by
    obtain ⟨_, more, count, -, -⟩ := asked
    rw [List.length_cons, count]
  rw [next, if_neg begun, led]
  simp only [tails_append asked, count, if_true]
  rfl

theorem toNat_ofNat {n : Nat} (small : n < 256) : (UInt8.ofNat n).toNat = n :=
  UInt8.toNat_ofNat_of_lt' small

theorem lead?_three {v : Nat} (above : 0x7ff < v) (below : v ≤ 0xffff)
    (valid : v < 0xd800 ∨ 0xdfff < v) : ∃ low high,
    lead? (v / 4096 + 224) = some ⟨2, low, high, v / 4096⟩ ∧
      low ≤ v / 64 % 64 + 128 ∧ v / 64 % 64 + 128 ≤ high := by
  unfold lead?
  rw [if_neg (by omega)]
  by_cases least : v / 4096 + 224 = 0xe0
  · exact ⟨0xa0, 0xbf, by rw [if_pos least, show v / 4096 = 0 by omega], by omega, by omega⟩
  rw [if_neg least]
  by_cases surrogate : v / 4096 + 224 = 0xed
  · exact ⟨0x80, 0x9f, by rw [if_pos surrogate, show v / 4096 = 0xd by omega], by omega, by omega⟩
  rw [if_neg surrogate]
  exact ⟨0x80, 0xbf, by rw [if_pos (by omega), Nat.add_sub_cancel], by omega, by omega⟩

theorem lead?_four {v : Nat} (above : 0xffff < v) (below : v < 0x110000) : ∃ low high,
    lead? (v / 262144 + 240) = some ⟨3, low, high, v / 262144⟩ ∧
      low ≤ v / 4096 % 64 + 128 ∧ v / 4096 % 64 + 128 ≤ high := by
  unfold lead?
  rw [if_neg (by omega), if_neg (by omega), if_neg (by omega), if_neg (by omega)]
  by_cases least : v / 262144 + 240 = 0xf0
  · exact ⟨0x90, 0xbf, by rw [if_pos least, show v / 262144 = 0 by omega], by omega, by omega⟩
  rw [if_neg least]
  by_cases middle : v / 262144 + 240 ≤ 0xf3
  · exact ⟨0x80, 0xbf, by rw [if_pos (by omega), Nat.add_sub_cancel], by omega, by omega⟩
  rw [if_neg (by omega)]
  have greatest : v / 262144 + 240 = 0xf4 := by omega
  exact ⟨0x80, 0x8f, by rw [if_pos greatest, show v / 262144 = 4 by omega], by omega, by omega⟩

/-- What is written of a character is read as that character. -/
theorem next_encode (c : Char) (rest : Bytes) : ∃ first found,
    String.utf8EncodeChar c = first :: found ∧
      next first (found ++ rest) = (some c, found.length) := by
  have valid : c.val.toNat < 0xd800 ∨ 0xdfff < c.val.toNat ∧ c.val.toNat < 0x110000 := c.valid
  have back : Char.ofNat c.val.toNat = c := Char.ofNat_toNat c
  unfold String.utf8EncodeChar
  generalize c.val.toNat = v at valid back
  subst back
  have last := toNat_ofNat (n := v % 64 + 128) (by omega)
  have third := toNat_ofNat (n := v / 64 % 64 + 128) (by omega)
  by_cases one : v ≤ 0x7f
  · refine ⟨_, [], if_pos one, ?_⟩
    rw [next, toNat_ofNat (by omega), if_pos (by omega)]
    rfl
  by_cases two : v ≤ 0x7ff
  · have first := toNat_ofNat (n := v / 64 % 32 + 192) (by omega)
    refine ⟨_, _, (if_neg one).trans (if_pos two), ?_⟩
    rw [next_of_asks ⟨1, 0x80, 0xbf, v / 64⟩ (by omega)
      (by rw [first, lead?, if_pos (by omega), show v / 64 % 32 + 192 - 0xc0 = v / 64 by omega])
      ⟨_, [], rfl, by simp only; omega, by simp⟩]
    rw [Lead.code, List.foldl_cons, List.foldl_nil, last,
      show v / 64 * 64 + (v % 64 + 128 - 0x80) = v by omega]
  by_cases three : v ≤ 0xffff
  · have first := toNat_ofNat (n := v / 4096 % 16 + 224) (by omega)
    obtain ⟨low, high, led, fits⟩ := lead?_three (by omega) three (by omega)
    refine ⟨_, _, (if_neg one).trans ((if_neg two).trans (if_pos three)), ?_⟩
    rw [next_of_asks ⟨2, low, high, v / 4096⟩ (by omega)
      (by rw [first, Nat.mod_eq_of_lt (by omega), led])
      ⟨_, [_], rfl, by rw [third]; exact fits, by simp; omega⟩]
    rw [Lead.code, List.foldl_cons, List.foldl_cons, List.foldl_nil, last, third,
      show (v / 4096 * 64 + (v / 64 % 64 + 128 - 0x80)) * 64 + (v % 64 + 128 - 0x80) = v by omega]
  · have first := toNat_ofNat (n := v / 262144 % 8 + 240) (by omega)
    have second := toNat_ofNat (n := v / 4096 % 64 + 128) (by omega)
    obtain ⟨low, high, led, fits⟩ := lead?_four (v := v) (by omega) (by omega)
    refine ⟨_, _, (if_neg one).trans ((if_neg two).trans (if_neg three)), ?_⟩
    rw [next_of_asks ⟨3, low, high, v / 262144⟩ (by omega)
      (by rw [first, Nat.mod_eq_of_lt (by omega), led])
      ⟨_, [_, _], rfl, by rw [second]; exact fits, by simp; omega⟩]
    rw [Lead.code, List.foldl_cons, List.foldl_cons, List.foldl_cons, List.foldl_nil, last, third,
      second, show ((v / 262144 * 64 + (v / 4096 % 64 + 128 - 0x80)) * 64 +
        (v / 64 % 64 + 128 - 0x80)) * 64 + (v % 64 + 128 - 0x80) = v by omega]

theorem lead?_cases {n : Nat} {lead : Lead} (led : lead? n = some lead) :
    (lead.tails = 1 ∧ 0xc2 ≤ n ∧ n ≤ 0xdf ∧ lead.bits = n - 0xc0 ∧
      0x80 ≤ lead.low ∧ lead.high ≤ 0xbf) ∨
    (lead.tails = 2 ∧ 0xe0 ≤ n ∧ n ≤ 0xef ∧ lead.bits = n - 0xe0 ∧
      0x80 ≤ lead.low ∧ lead.high ≤ 0xbf ∧ (n ≠ 0xe0 ∨ lead.low = 0xa0) ∧
      (n ≠ 0xed ∨ lead.high = 0x9f)) ∨
    (lead.tails = 3 ∧ 0xf0 ≤ n ∧ n ≤ 0xf4 ∧ lead.bits = n - 0xf0 ∧
      0x80 ≤ lead.low ∧ lead.high ≤ 0xbf ∧ (n ≠ 0xf0 ∨ lead.low = 0x90) ∧
      (n ≠ 0xf4 ∨ lead.high = 0x8f)) := by
  unfold lead? at led
  by_cases two : 0xc2 ≤ n ∧ n ≤ 0xdf
  · rw [if_pos two] at led
    cases led
    exact .inl ⟨rfl, two.1, two.2, rfl, Nat.le_refl _, Nat.le_refl _⟩
  rw [if_neg two] at led
  by_cases three : 0xe0 ≤ n ∧ n ≤ 0xef
  · right
    left
    split at led
    · cases led
      exact ⟨rfl, three.1, three.2, by simp only; omega, by decide, by decide, .inr rfl, by omega⟩
    split at led
    · cases led
      exact ⟨rfl, three.1, three.2, by simp only; omega, by decide, by decide, by omega, .inr rfl⟩
    rw [if_pos (by omega)] at led
    cases led
    exact ⟨rfl, three.1, three.2, rfl, Nat.le_refl _, Nat.le_refl _, by omega, by omega⟩
  rw [if_neg (by omega), if_neg (by omega), if_neg (by omega)] at led
  right
  right
  split at led
  · cases led
    exact ⟨rfl, by omega, by omega, by simp only; omega, by decide, by decide, .inr rfl, by omega⟩
  split at led
  · cases led
    exact ⟨rfl, by omega, by omega, rfl, Nat.le_refl _, Nat.le_refl _, by omega, by omega⟩
  split at led
  · cases led
    exact ⟨rfl, by omega, by omega, by simp only; omega, by decide, by decide, by omega, .inr rfl⟩
  · cases led

theorem val_ofNat {n : Nat} (valid : n < 0xd800 ∨ 0xdfff < n ∧ n < 0x110000) :
    (Char.ofNat n).val.toNat = n := by
  have scalar : n.isValidChar := valid
  rw [Char.ofNat, dif_pos scalar]
  rfl

theorem eq_ofNat {b : UInt8} {n : Nat} (same : b.toNat = n) : UInt8.ofNat n = b := by
  rw [← same, UInt8.ofNat_toNat]

theorem encode_code {first : UInt8} {lead : Lead} {found : Bytes}
    (led : lead? first.toNat = some lead) (asked : lead.Asks found) :
    String.utf8EncodeChar (Char.ofNat (lead.code found)) = first :: found := by
  obtain ⟨second, more, count, fits, all⟩ := asked
  rcases lead?_cases led with ⟨one, _⟩ | ⟨two, _⟩ | ⟨three, _⟩
  · obtain rfl : more = [] := List.eq_nil_of_length_eq_zero (by omega)
    have code : lead.code [second] = lead.bits * 64 + (second.toNat - 0x80) := rfl
    rw [String.utf8EncodeChar, val_ofNat (by omega)]
    rw [if_neg (by omega), if_pos (by omega), eq_ofNat (b := first) (by omega),
      eq_ofNat (b := second) (by omega)]
  · obtain ⟨third, rfl⟩ : ∃ third, more = [third] := List.length_eq_one_iff.mp (by omega)
    have tail := all third (by simp)
    have code : lead.code [second, third] =
      (lead.bits * 64 + (second.toNat - 0x80)) * 64 + (third.toNat - 0x80) := rfl
    rw [String.utf8EncodeChar, val_ofNat (by omega)]
    rw [if_neg (by omega), if_neg (by omega), if_pos (by omega), eq_ofNat (b := first) (by omega),
      eq_ofNat (b := second) (by omega), eq_ofNat (b := third) (by omega)]
  · obtain ⟨third, fourth, rfl⟩ : ∃ third fourth, more = [third, fourth] :=
      List.length_eq_two.mp (by omega)
    have tail := all third (by simp)
    have last := all fourth (by simp)
    have code : lead.code [second, third, fourth] = ((lead.bits * 64 + (second.toNat - 0x80)) * 64 +
      (third.toNat - 0x80)) * 64 + (fourth.toNat - 0x80) := rfl
    rw [String.utf8EncodeChar, val_ofNat (by omega)]
    rw [if_neg (by omega), if_neg (by omega), if_neg (by omega), eq_ofNat (b := first) (by omega),
      eq_ofNat (b := second) (by omega), eq_ofNat (b := third) (by omega),
      eq_ofNat (b := fourth) (by omega)]

/-- What is read as a character is how that character is written. -/
theorem encode_of_next {first : UInt8} {rest : Bytes} {c : Char} {extra : Nat}
    (read : next first rest = (some c, extra)) :
    first :: rest = String.utf8EncodeChar c ++ rest.drop extra := by
  unfold next at read
  split at read
  · rename_i single
    cases read
    rw [String.utf8EncodeChar, val_ofNat (by omega)]
    rw [if_pos (by omega), UInt8.ofNat_toNat]
    rfl
  · split at read
    · cases read
    · rename_i lead led
      simp only at read
      split at read
      · rename_i enough
        cases read
        have positive : 0 < lead.tails := by
          rcases lead?_cases led with ⟨one, _⟩ | ⟨two, _⟩ | ⟨three, _⟩ <;> omega
        obtain ⟨asked, split⟩ := asks_of_tails positive enough
        rw [enough, ← Lead.code, encode_code led asked, List.cons_append, ← split]
      · cases read

theorem encode_of_mem {b : UInt8} {c : Char} (small : b.toNat < 0x80)
    (listed : b ∈ String.utf8EncodeChar c) :
    String.utf8EncodeChar c = [b] ∧ c.toNat = b.toNat := by
  have code : c.toNat = c.val.toNat := rfl
  have last := toNat_ofNat (n := c.val.toNat % 64 + 128) (by omega)
  have third := toNat_ofNat (n := c.val.toNat / 64 % 64 + 128) (by omega)
  have second := toNat_ofNat (n := c.val.toNat / 4096 % 64 + 128) (by omega)
  rw [code]
  unfold String.utf8EncodeChar at listed ⊢
  generalize c.val.toNat = v at listed last third second
  by_cases one : v ≤ 0x7f
  · rw [if_pos one, List.mem_singleton] at listed
    rw [if_pos one, listed, toNat_ofNat (by omega)]
    exact ⟨rfl, rfl⟩
  exfalso
  rw [if_neg one] at listed
  by_cases two : v ≤ 0x7ff
  · have first := toNat_ofNat (n := v / 64 % 32 + 192) (by omega)
    rw [if_pos two, List.mem_pair] at listed
    rcases listed with rfl | rfl <;> omega
  rw [if_neg two] at listed
  by_cases three : v ≤ 0xffff
  · have first := toNat_ofNat (n := v / 4096 % 16 + 224) (by omega)
    rw [if_pos three, List.mem_cons, List.mem_pair] at listed
    rcases listed with rfl | rfl | rfl <;> omega
  · have first := toNat_ofNat (n := v / 262144 % 8 + 240) (by omega)
    rw [if_neg three, List.mem_cons, List.mem_cons, List.mem_pair] at listed
    rcases listed with rfl | rfl | rfl | rfl <;> omega

theorem encode_of_small {c : Char} (small : c.toNat < 0x80) :
    String.utf8EncodeChar c = [UInt8.ofNat c.toNat] := if_pos (Nat.le_of_lt_succ small)

def encodeChars (text : List Char) : Bytes := text.flatMap String.utf8EncodeChar

theorem encodeChars_cons (c : Char) (text : List Char) :
    encodeChars (c :: text) = String.utf8EncodeChar c ++ encodeChars text := rfl

theorem encodeChars_append (text more : List Char) :
    encodeChars (text ++ more) = encodeChars text ++ encodeChars more := List.flatMap_append

theorem pieces_encodeChars (text : List Char) (before : List (Option Char)) :
    pieces (encodeChars text) before = before.reverse ++ text.map some := by
  induction text generalizing before with
  | nil => simp [encodeChars, pieces]
  | cons c text ih =>
    obtain ⟨first, found, written, read⟩ := next_encode c (encodeChars text)
    rw [encodeChars_cons, written, List.cons_append, pieces, read]
    change pieces ((found ++ encodeChars text).drop found.length) (some c :: before) = _
    rw [List.drop_left, ih]
    simp

theorem decode?_encode (text : String) : decode? (encode text) = some text := by
  have all : pieces (encode text) [] = text.toList.map some := pieces_encodeChars text.toList []
  have whole (chars : List Char) : (chars.map some).mapM id = some chars := by
    induction chars with
    | nil => rfl
    | cons c chars ih =>
      rw [List.map_cons, List.mapM_cons, ih]
      rfl
  rw [decode?, all, whole, Option.map_some, String.ofList_toList]

end ContestJudge.Utf8
