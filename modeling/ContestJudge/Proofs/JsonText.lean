import ContestJudge.Json.Writer
import ContestJudge.Proofs.Numerals

namespace ContestJudge.Json

section Texts

theorem hexUnit?_control {unit : Nat} (control : unit < 0x20) :
    hexUnit? '0' '0' (Text.Hex.digit (unit / 16)) (Text.Hex.digit (unit % 16)) = some unit := by
  have all : ∀ unit < 0x20, hexUnit? '0' '0' (Text.Hex.digit (unit / 16))
      (Text.Hex.digit (unit % 16)) = some unit := by decide
  exact all unit control

theorem pushUnit_control (t : TextSoFar) {c : Char} (control : c.toNat < 0x20) :
    t.pushUnit c.toNat = t.push c := by
  have noHigh : ¬(0xd800 ≤ c.toNat ∧ c.toNat < 0xdc00) := by omega
  have noLow : ¬(0xdc00 ≤ c.toNat ∧ c.toNat < 0xe000) := by omega
  rw [TextSoFar.pushUnit, if_neg noHigh, if_neg noLow, Char.ofNat_toNat]

theorem readText_plain {c : Char} (unquoted : c ≠ '\"') (plain : ¬(c.toNat < 0x20 ∨ c = '\\'))
    (rest : List Char) (t : TextSoFar) : readText (c :: rest) t = readText rest (t.push c) := by
  rw [readText.eq_def]
  split
  · rename_i empty
    cases empty
  · rename_i quote
    cases quote
    exact absurd rfl unquoted
  · rename_i backslash
    cases backslash
    exact absurd (.inr rfl) plain
  · rename_i backslash
    cases backslash
    exact absurd (.inr rfl) plain
  · rename_i shown
    cases shown
    rw [if_neg plain]

theorem readText_escapeChar (c : Char) (rest : List Char) (t : TextSoFar) :
    readText (escapeChar c ++ rest) t = readText rest (t.push c) := by
  unfold escapeChar
  split
  · rfl
  · rfl
  · rfl
  · rfl
  · rfl
  · rfl
  · rfl
  · rename_i plain unquoted unescaped _ _ _ _ _
    split
    · rename_i control
      have small : (UInt8.ofNat c.toNat).toNat = c.toNat := by
        rw [UInt8.toNat_ofNat', Nat.mod_eq_of_lt (by omega)]
      simp only [Text.Hex.ofByte, small, List.cons_append, List.nil_append]
      rw [readText]
      simp only [hexUnit?_control control, pushUnit_control t control]
    · rename_i printed
      have kept : ¬(c.toNat < 0x20 ∨ c = '\\') := by
        rintro (control | backslash)
        · exact printed control
        · exact unescaped backslash
      exact readText_plain (by simpa using unquoted) kept rest t

theorem readText_escaped (chars : List Char) (rest : List Char) (t : TextSoFar) :
    readText (chars.flatMap escapeChar ++ '\"' :: rest) t =
      some ((chars.foldl TextSoFar.push t).finish, rest) := by
  induction chars generalizing t with
  | nil => rfl
  | cons c chars ih =>
    rw [List.flatMap_cons, List.append_assoc, readText_escapeChar, ih]
    rfl

theorem foldl_push (chars before : List Char) :
    chars.foldl TextSoFar.push ⟨before, none, true⟩ = ⟨chars.reverse ++ before, none, true⟩ := by
  induction chars generalizing before with
  | nil => rfl
  | cons c chars ih =>
    rw [List.foldl_cons]
    refine (ih (c :: before)).trans ?_
    simp

theorem readText_write (text : String) (rest : List Char) :
    readText (text.toList.flatMap escapeChar ++ '\"' :: rest) .start = some (some text, rest) := by
  rw [readText_escaped, TextSoFar.start, foldl_push]
  simp [TextSoFar.finish]

end Texts

/-- A document that has a text: its texts and names have values, and its numbers are of the
grammar. -/
inductive Writable : Json → Prop where
  | null : Writable .null
  | bool (value : Bool) : Writable (.bool value)
  | number {literal : NumberLiteral} (wellFormed : literal.WellFormed) : Writable (.number literal)
  | string (text : String) : Writable (.string (some text))
  | array {items : List Json} (each : ∀ item ∈ items, Writable item) : Writable (.array items)
  | record {members : List (String × Json)} (each : ∀ member ∈ members, Writable member.2) :
      Writable (.record members)

theorem writable_ofBinary64 (x : Binary64) : (ofBinary64 x).Writable := by
  cases x with
  | nan => exact .null
  | infinite negative => exact .null
  | finite negative steps _ => exact .number (NumberLayout.wellFormed_literal negative steps)

theorem writable_ofNat (n : Nat) : (ofNat n).Writable :=
  .number (NumberLiteral.wellFormed_digitsOf n)

theorem writable_ofStrings (texts : List String) : (ofStrings texts).Writable := by
  apply Writable.array
  intro item mem
  obtain ⟨text, -, rfl⟩ := List.mem_map.mp mem
  exact .string text

theorem writable_ofOption {α : Type} {write : α → Json} (each : ∀ a, (write a).Writable)
    (given : Option α) : (ofOption write given).Writable := by
  cases given with
  | none => exact .null
  | some a => exact each a

section Values

theorem skipBlanks_cons {c : Char} (shown : isBlank c = false) (rest : List Char) :
    skipBlanks (c :: rest) = c :: rest := by
  simp [skipBlanks, shown]

def numberHeads : List Char := ['-', '0', '1', '2', '3', '4', '5', '6', '7', '8', '9']

theorem exists_head_number {literal : NumberLiteral} (wellFormed : literal.WellFormed) :
    ∃ c rest, literal.write = c :: rest ∧ c ∈ numberHeads := by
  rw [write_eq]
  cases literal.negative with
  | true => exact ⟨_, _, rfl, by decide⟩
  | false =>
    have whole := wellFormed.whole
    cases digits : literal.whole with
    | nil => exact absurd digits whole.given
    | cons digit rest =>
      have small : digit < 10 := whole.small digit (digits ▸ List.mem_cons_self)
      have all : ∀ digit < 10, digitChar digit ∈ numberHeads := by decide
      exact ⟨_, _, rfl, all digit small⟩

theorem distinct_of_numeric {c : Char} (numeric : c ∈ numberHeads) : isBlank c = false ∧ c ≠ ']' ∧
    c ≠ 'n' ∧ c ≠ 't' ∧ c ≠ 'f' ∧ c ≠ '\"' ∧ c ≠ '[' ∧ c ≠ '\x7b' := by
  simp only [numberHeads, List.mem_cons, List.not_mem_nil, or_false] at numeric
  rcases numeric with rfl | rfl | rfl | rfl | rfl | rfl | rfl | rfl | rfl | rfl | rfl <;> decide

theorem exists_head {document : Json} (writable : document.Writable) :
    ∃ c rest, document.write = c :: rest ∧ isBlank c = false ∧ c ≠ ']' := by
  cases writable with
  | null => exact ⟨_, _, rfl, by decide, by decide⟩
  | bool value => cases value <;> exact ⟨_, _, rfl, by decide, by decide⟩
  | number wellFormed =>
    obtain ⟨c, rest, shown, first⟩ := exists_head_number wellFormed
    obtain ⟨plain, inner, -⟩ := distinct_of_numeric first
    exact ⟨c, rest, shown, plain, inner⟩
  | string text => exact ⟨_, _, rfl, by decide, by decide⟩
  | array each => exact ⟨_, _, rfl, by decide, by decide⟩
  | record each => exact ⟨_, _, rfl, by decide, by decide⟩

variable {fuel : Nat} {rest : List Char}

theorem readValue_numeric {c : Char} (numeric : c ∈ numberHeads) (text : List Char) :
    readValue (fuel + 1) (c :: text) =
      (readNumber? (c :: text)).map fun (literal, rest) => (.number literal, rest) := by
  obtain ⟨shown, -, notNull, notTrue, notFalse, notText, notArray, notObject⟩ :=
    distinct_of_numeric numeric
  rw [readValue, skipBlanks_cons shown]
  split <;> simp_all

theorem readValue_number {literal : NumberLiteral} (wellFormed : literal.WellFormed)
    (ends : EndsValue rest) :
    readValue (fuel + 1) (literal.write ++ rest) = some (.number literal, rest) := by
  have read := readNumber?_write wellFormed ends
  obtain ⟨c, tail, shown, numeric⟩ := exists_head_number wellFormed
  rw [shown, List.cons_append] at read ⊢
  rw [readValue_numeric numeric, read]
  rfl

/-- A document that is read back from its text wherever there is fuel for the text. -/
def IsReadBack (document : Json) : Prop :=
  ∀ fuel rest, document.write.length ≤ fuel → EndsValue rest →
    readValue fuel (document.write ++ rest) = some (document, rest)

theorem endsValue_cons {c : Char} (ends : c = ',' ∨ c = ']' ∨ c = '\x7d') (rest : List Char) :
    EndsValue (c :: rest) := by
  intro other first
  cases first
  exact ends

theorem readItems_write {items : List Json} (given : items ≠ [])
    (each : ∀ item ∈ items, item.IsReadBack) (enough : (writeItems items).length < fuel) :
    readItems fuel (writeItems items ++ ']' :: rest) = some (items, rest) := by
  induction items generalizing fuel with
  | nil => exact absurd rfl given
  | cons item items ih =>
    obtain ⟨fuel, rfl⟩ : ∃ less, fuel = less + 1 := ⟨fuel - 1, by omega⟩
    have own : item.IsReadBack := each item List.mem_cons_self
    have close : skipBlanks (']' :: rest) = ']' :: rest := skipBlanks_cons rfl rest
    cases items with
    | nil =>
      have fits : item.write.length ≤ fuel := by
        rw [writeItems] at enough
        omega
      have read := own fuel (']' :: rest) fits (endsValue_cons (by decide) rest)
      simp [readItems, writeItems, read, close]
    | cons next items =>
      have shown : writeItems (item :: next :: items) =
          item.write ++ ',' :: writeItems (next :: items) := rfl
      rw [shown, List.length_append, List.length_cons] at enough
      have read := own fuel (',' :: (writeItems (next :: items) ++ ']' :: rest)) (by omega)
        (endsValue_cons (by decide) _)
      have comma (text : List Char) : skipBlanks (',' :: text) = ',' :: text :=
        skipBlanks_cons rfl text
      have others : readItems fuel (writeItems (next :: items) ++ ']' :: rest) =
          some (next :: items, rest) :=
        ih (by simp) (fun other mem => each other (List.mem_cons_of_mem _ mem)) (by omega)
      simp [readItems, shown, read, comma, others]

def named (members : List (String × Json)) : List (WrittenText × Json) :=
  members.map fun (name, value) => (some name, value)

theorem readMembers_write {members : List (String × Json)} (given : members ≠ [])
    (each : ∀ member ∈ members, member.2.IsReadBack)
    (enough : (writeMembers (named members)).length < fuel) :
    readMembers fuel (writeMembers (named members) ++ '\x7d' :: rest) =
      some (named members, rest) := by
  induction members generalizing fuel with
  | nil => exact absurd rfl given
  | cons member members ih =>
    obtain ⟨fuel, rfl⟩ : ∃ less, fuel = less + 1 := ⟨fuel - 1, by omega⟩
    obtain ⟨name, value⟩ := member
    have own : value.IsReadBack := each (name, value) List.mem_cons_self
    have close : skipBlanks ('\x7d' :: rest) = '\x7d' :: rest := skipBlanks_cons rfl rest
    have quote (text : List Char) : skipBlanks ('\"' :: text) = '\"' :: text :=
      skipBlanks_cons rfl text
    have colon (text : List Char) : skipBlanks (':' :: text) = ':' :: text :=
      skipBlanks_cons rfl text
    have comma (text : List Char) : skipBlanks (',' :: text) = ',' :: text :=
      skipBlanks_cons rfl text
    cases members with
    | nil =>
      have shown : writeMembers (named [(name, value)]) =
          '\"' :: (name.toList.flatMap escapeChar ++ '\"' :: ':' :: value.write) := by
        simp [named, writeMembers, writeText]
      have fits : value.write.length ≤ fuel := by
        rw [shown] at enough
        simp only [List.length_cons, List.length_append] at enough
        omega
      have read := own fuel ('\x7d' :: rest) fits (endsValue_cons (by decide) rest)
      simp [readMembers, shown, readText_write, read, close, quote, colon]
      rfl
    | cons next members =>
      have shown : writeMembers (named ((name, value) :: next :: members)) =
          '\"' :: (name.toList.flatMap escapeChar ++ '\"' :: ':' :: (value.write ++
            ',' :: writeMembers (named (next :: members)))) := by
        simp [named, writeMembers, writeText]
      rw [shown] at enough
      simp only [List.length_cons, List.length_append] at enough
      have read := own fuel (',' :: (writeMembers (named (next :: members)) ++ '\x7d' :: rest))
        (by omega) (endsValue_cons (by decide) _)
      have others : readMembers fuel (writeMembers (named (next :: members)) ++ '\x7d' :: rest) =
          some (named (next :: members), rest) :=
        ih (by simp) (fun other mem => each other (List.mem_cons_of_mem _ mem)) (by omega)
      simp [readMembers, shown, readText_write, read, quote, colon, comma, others]
      rfl

theorem exists_head_items {items : List Json} (given : items ≠ [])
    (writable : ∀ item ∈ items, item.Writable) :
    ∃ c rest, writeItems items = c :: rest ∧ isBlank c = false ∧ c ≠ ']' := by
  cases items with
  | nil => exact absurd rfl given
  | cons item items =>
    obtain ⟨c, tail, shown, plain, inner⟩ := exists_head (writable item List.mem_cons_self)
    cases items with
    | nil => exact ⟨c, tail, shown, plain, inner⟩
    | cons next items =>
      refine ⟨c, tail ++ ',' :: writeItems (next :: items), ?_, plain, inner⟩
      have long : writeItems (item :: next :: items) =
          item.write ++ ',' :: writeItems (next :: items) := rfl
      rw [long, shown, List.cons_append]

theorem isReadBack_array {items : List Json} (writable : ∀ item ∈ items, item.Writable)
    (each : ∀ item ∈ items, item.IsReadBack) : IsReadBack (.array items) := by
  intro fuel rest enough _
  have shown : (Json.array items).write = '[' :: (writeItems items ++ [']']) := by
    simp [write]
  rw [shown] at enough ⊢
  simp only [List.length_cons, List.length_append, List.length_nil] at enough
  obtain ⟨fuel, rfl⟩ : ∃ less, fuel = less + 1 := ⟨fuel - 1, by omega⟩
  have bracket (text : List Char) : skipBlanks ('[' :: text) = '[' :: text :=
    skipBlanks_cons rfl text
  cases items with
  | nil => rfl
  | cons item items =>
    have read : readItems fuel (writeItems (item :: items) ++ ']' :: rest) =
        some (item :: items, rest) := readItems_write (by simp) each (by omega)
    obtain ⟨c, tail, begins, plain, inner⟩ := exists_head_items (by simp) writable
    rw [begins, List.cons_append] at read
    rw [begins]
    have first := skipBlanks_cons plain (tail ++ ']' :: rest)
    simp [readValue, bracket, first, inner, read]

theorem isReadBack_record {members : List (String × Json)}
    (each : ∀ member ∈ members, member.2.IsReadBack) : IsReadBack (.record members) := by
  intro fuel rest enough _
  have shown : (Json.record members).write =
      '\x7b' :: (writeMembers (named members) ++ ['\x7d']) := by
    simp [write, record, named]
  have same : Json.record members = .object (named members) := rfl
  rw [shown] at enough ⊢
  simp only [List.length_cons, List.length_append, List.length_nil] at enough
  obtain ⟨fuel, rfl⟩ : ∃ less, fuel = less + 1 := ⟨fuel - 1, by omega⟩
  have brace (text : List Char) : skipBlanks ('\x7b' :: text) = '\x7b' :: text :=
    skipBlanks_cons rfl text
  have quote (text : List Char) : skipBlanks ('\"' :: text) = '\"' :: text :=
    skipBlanks_cons rfl text
  cases members with
  | nil => rfl
  | cons member members =>
    have read : readMembers fuel (writeMembers (named (member :: members)) ++ '\x7d' :: rest) =
        some (named (member :: members), rest) := readMembers_write (by simp) each (by omega)
    obtain ⟨tail, begins⟩ : ∃ tail, writeMembers (named (member :: members)) = '\"' :: tail := by
      cases members <;> exact ⟨_, rfl⟩
    rw [begins, List.cons_append] at read
    rw [begins, same]
    simp [readValue, brace, quote, read]

theorem fuel_of_writable {document : Json} (writable : document.Writable)
    (enough : document.write.length ≤ fuel) : ∃ less, fuel = less + 1 := by
  obtain ⟨c, tail, shown, -, -⟩ := exists_head writable
  rw [shown, List.length_cons] at enough
  exact ⟨fuel - 1, by omega⟩

theorem isReadBack_of_writable {document : Json} (writable : document.Writable) :
    document.IsReadBack := by
  induction writable with
  | null =>
    intro fuel rest enough _
    obtain ⟨fuel, rfl⟩ := fuel_of_writable .null enough
    rfl
  | bool value =>
    intro fuel rest enough _
    obtain ⟨fuel, rfl⟩ := fuel_of_writable (.bool value) enough
    cases value <;> rfl
  | number wellFormed =>
    intro fuel rest enough ends
    obtain ⟨fuel, rfl⟩ := fuel_of_writable (.number wellFormed) enough
    exact readValue_number wellFormed ends
  | string text =>
    intro fuel rest enough _
    obtain ⟨fuel, rfl⟩ := fuel_of_writable (.string text) enough
    have quote (text : List Char) : skipBlanks ('\"' :: text) = '\"' :: text :=
      skipBlanks_cons rfl text
    simp [write, writeText, readValue, quote, readText_write]
  | array each ih => exact isReadBack_array each ih
  | record each ih => exact isReadBack_record ih

end Values

theorem parse?_render {document : Json} (writable : document.Writable) :
    parse? document.render = some document := by
  have read := isReadBack_of_writable writable (document.write.length + 1) [] (by omega) nofun
  have chars : document.render.toList = document.write := String.toList_ofList
  rw [List.append_nil] at read
  rw [parse?, chars, read]
  rfl

section Lines

theorem newline_not_mem_escapeChar (c : Char) : '\n' ∉ escapeChar c := by
  unfold escapeChar
  split
  · decide
  · decide
  · decide
  · decide
  · decide
  · decide
  · decide
  · rename_i unbroken _ _
    split
    · generalize UInt8.ofNat c.toNat = byte
      have digits : ∀ n < 16, '\n' ≠ Text.Hex.digit n := by decide
      have bounded := byte.toNat_lt
      have high := digits (byte.toNat / 16) (by omega)
      have low := digits (byte.toNat % 16) (by omega)
      simp [Text.Hex.ofByte, high, low]
    · intro mem
      exact unbroken (List.mem_singleton.mp mem).symm

theorem newline_not_mem_writeText (text : String) : '\n' ∉ writeText (some text) := by
  intro mem
  simp [writeText, newline_not_mem_escapeChar] at mem

theorem newline_not_mem_digits {digits : List Nat} (numeral : IsNumeral digits) :
    '\n' ∉ writeDigits digits := by
  intro mem
  obtain ⟨digit, listed, same⟩ := List.mem_map.mp mem
  have visible : ∀ digit < 10, digitChar digit ≠ '\n' := by decide
  exact visible digit (numeral.small digit listed) same

theorem newline_not_mem_fraction {digits : List Nat} (numeral : IsNumeral digits) :
    '\n' ∉ writeFraction (some digits) := by
  change '\n' ∉ '.' :: writeDigits digits
  simpa using newline_not_mem_digits numeral

theorem newline_not_mem_exponent {sign : ExponentSign} {digits : List Nat}
    (numeral : IsNumeral digits) : '\n' ∉ writeExponent (some (sign, digits)) := by
  change '\n' ∉ 'e' :: sign.write ++ writeDigits digits
  have signed : '\n' ∉ 'e' :: sign.write := by cases sign <;> decide
  rw [List.mem_append]
  exact not_or.mpr ⟨signed, newline_not_mem_digits numeral⟩

theorem newline_not_mem_number {literal : NumberLiteral} (wellFormed : literal.WellFormed) :
    '\n' ∉ literal.write := by
  have sign : '\n' ∉ if literal.negative then ['-'] else [] := by
    cases literal.negative <;> decide
  have whole := newline_not_mem_digits wellFormed.whole.toIsNumeral
  have fraction : '\n' ∉ writeFraction literal.fraction := by
    cases given : literal.fraction with
    | none => nofun
    | some digits => exact newline_not_mem_fraction (wellFormed.fraction digits given)
  have exponent : '\n' ∉ writeExponent literal.exponent := by
    cases given : literal.exponent with
    | none => nofun
    | some read => exact newline_not_mem_exponent (wellFormed.exponent read given)
  rw [write_eq, List.mem_append, List.mem_append, List.mem_append]
  exact not_or.mpr ⟨sign, not_or.mpr ⟨whole, not_or.mpr ⟨fraction, exponent⟩⟩⟩

theorem newline_not_mem_items {items : List Json} (each : ∀ item ∈ items, '\n' ∉ item.write) :
    '\n' ∉ writeItems items := by
  induction items with
  | nil => nofun
  | cons item items ih =>
    rw [List.forall_mem_cons] at each
    cases items with
    | nil => simpa [writeItems] using each.1
    | cons next items => simpa [writeItems, each.1] using ih each.2

theorem newline_not_mem_members {members : List (String × Json)}
    (each : ∀ member ∈ members, '\n' ∉ member.2.write) :
    '\n' ∉ writeMembers (named members) := by
  induction members with
  | nil => nofun
  | cons member members ih =>
    rw [List.forall_mem_cons] at each
    cases members with
    | nil => simpa [named, writeMembers, newline_not_mem_writeText] using each.1
    | cons next members =>
      simpa [named, writeMembers, newline_not_mem_writeText, each.1] using ih each.2

/-- The text of a document is one line. -/
theorem newline_not_mem_write {document : Json} (writable : document.Writable) :
    '\n' ∉ document.write := by
  induction writable with
  | null => decide
  | bool value => cases value <;> decide
  | number wellFormed => exact newline_not_mem_number wellFormed
  | string text => exact newline_not_mem_writeText text
  | array each ih => simpa [write] using newline_not_mem_items ih
  | record each ih => simpa [write, record, named] using newline_not_mem_members ih

end Lines

end ContestJudge.Json
