import ContestJudge.Proofs.LossyReading
import ContestJudge.Proofs.Verdict
import Mathlib.Data.List.DropRight
/-!
The exception that stderr names. It depends on the last line on which anything shows, and what it
takes from there is an identifier, which stands on the line before any colon.
-/

namespace ContestJudge

open Utf8 (chars)

namespace Text

variable {line : List Char}

theorem dropReturn_cases (line : List Char) :
    dropReturn line = line ∨ line = dropReturn line ++ ['\r'] := by
  unfold dropReturn
  split
  · rename_i ends
    exact .inr (List.dropLast_append_getLast? _ ends).symm
  · exact .inl rfl

theorem all_isBlank_dropReturn (line : List Char) :
    (dropReturn line).all Character.isBlank = line.all Character.isBlank := by
  rcases dropReturn_cases line with kept | ended
  · rw [kept]
  · have blank : Character.isBlank '\r' = true := by decide
    conv => rhs; rw [ended]
    simp [blank]

theorem trimChars_eq (text : List Char) :
    trimChars text = (text.dropWhile Character.isBlank).rdropWhile Character.isBlank := rfl

theorem trimChars_concat {c : Char} (blank : Character.isBlank c = true) (text : List Char) :
    trimChars (text ++ [c]) = trimChars text := by
  rw [trimChars_eq, trimChars_eq, List.dropWhile_append]
  split
  · rename_i none
    rw [List.dropWhile_cons_of_pos blank, List.isEmpty_iff.mp none]
    rfl
  · exact List.rdropWhile_concat_pos _ _ _ blank

theorem trimChars_infix (text : List Char) : trimChars text <:+: text :=
  (List.rdropWhile_prefix _ _).isInfix.trans (List.dropWhile_suffix _).isInfix

end Text

theorem lastComponent_suffix (name : List Char) : lastComponent name <:+ name :=
  List.rtakeWhile_suffix _ _

theorem exceptionOfLine?_dropReturn (line : List Char) :
    exceptionOfLine? (Text.dropReturn line) = exceptionOfLine? line := by
  rcases Text.dropReturn_cases line with kept | ended
  · rw [kept]
  have blank : Character.isBlank '\r' = true := by decide
  have same : Text.trimChars ((Text.dropReturn line).takeWhile (· != ':')) =
      Text.trimChars (line.takeWhile (· != ':')) := by
    conv => rhs; rw [ended, List.takeWhile_append]
    split
    · rename_i whole
      have all := (List.takeWhile_prefix (· != ':')).eq_of_length whole
      rw [all]
      exact (Text.trimChars_concat blank _).symm
    · rfl
  simp only [exceptionOfLine?, same]

def isUnseen (bytes : Bytes) : Bool := Text.isBlank (Utf8.decodeLossy bytes)

theorem isUnseen_eq (bytes : Bytes) : isUnseen bytes = (chars bytes).all Character.isBlank := by
  rw [isUnseen, Text.isBlank, Utf8.toList_decodeLossy]

theorem isUnseen_append (front back : Bytes) :
    isUnseen (front ++ 10 :: back) = (isUnseen front && isUnseen back) := by
  have blank : Character.isBlank (Char.ofNat (10 : UInt8).toNat) = true := by decide
  rw [isUnseen_eq, Utf8.chars_append_ascii (by decide), List.all_append, List.all_cons, blank,
    isUnseen_eq, isUnseen_eq, Bool.true_and]

theorem isUnseen_iff (bytes : Bytes) :
    isUnseen bytes ↔ ∀ line ∈ splitAt (· == 10) bytes, isUnseen line := by
  induction bytes using run_induction (· == (10 : UInt8)) with
  | alone bytes plain => simp [splitAt_of_plain plain]
  | ahead front separator back plain feed ih =>
    rw [eq_of_beq feed, splitAt_append (· == (10 : UInt8)) rfl, splitAt_of_plain plain,
      isUnseen_append, Bool.and_eq_true, ih]
    simp

structure LastSeen (stderr line : Bytes) : Prop where
  seen : isUnseen line = false
  stands : ∃ earlier later, splitAt (· == 10) stderr = earlier ++ line :: later ∧
    ∀ other ∈ later, isUnseen other

theorem not_mem_iff_plain {line : Bytes} : 10 ∉ line ↔ ∀ b ∈ line, (b == 10) = false := by
  simp only [beq_eq_false_iff_ne]
  exact ⟨fun none b listed same => none (same ▸ listed), fun apart listed => apart 10 listed rfl⟩

theorem lastSeen_of_surrounded {before line after : Bytes} (plain : 10 ∉ line)
    (seen : isUnseen line = false) (unseen : isUnseen after) :
    LastSeen (before ++ 10 :: (line ++ 10 :: after)) line := by
  refine ⟨seen, splitAt (· == 10) before, splitAt (· == 10) after, ?_, ?_⟩
  · rw [splitAt_append (· == (10 : UInt8)) rfl, splitAt_append (· == (10 : UInt8)) rfl,
      splitAt_of_plain (not_mem_iff_plain.mp plain)]
    rfl
  · exact (isUnseen_iff after).mp unseen

theorem lastSeen_self {line : Bytes} (plain : 10 ∉ line) (seen : isUnseen line = false) :
    LastSeen line line :=
  ⟨seen, [], [], splitAt_of_plain (not_mem_iff_plain.mp plain), nofun⟩

theorem LastSeen.plain {stderr line : Bytes} (last : LastSeen stderr line) : 10 ∉ line := by
  obtain ⟨earlier, later, split, -⟩ := last.stands
  have listed : line ∈ splitAt (· == 10) stderr := by
    rw [split]
    exact List.mem_append_right _ List.mem_cons_self
  exact not_mem_iff_plain.mpr (plain_of_mem_splitAt listed)

theorem find?_of_lastSeen {stderr line : Bytes} (last : LastSeen stderr line) :
    (splitAt (· == 10) stderr).reverse.find? (fun line => !isUnseen line) = some line := by
  obtain ⟨earlier, later, split, unseen⟩ := last.stands
  rw [List.find?_eq_some_iff_append]
  refine ⟨by rw [last.seen]; rfl, later.reverse, earlier.reverse, by simp [split], ?_⟩
  intro other listed
  rw [unseen other (List.mem_reverse.mp listed)]
  rfl

/-- On some line something shows last, or nothing shows at all. -/
theorem lastSeen_or_unseen (stderr : Bytes) : (∃ line, LastSeen stderr line) ∨ isUnseen stderr := by
  cases found : (splitAt (· == 10) stderr).reverse.find? (fun line => !isUnseen line) with
  | some line =>
    obtain ⟨seen, later, earlier, split, unseen⟩ := List.find?_eq_some_iff_append.mp found
    refine .inl ⟨line, by simpa using seen, earlier.reverse, later.reverse, ?_, ?_⟩
    · rw [← List.reverse_reverse (splitAt _ stderr), split]
      simp
    · intro other listed
      simpa using unseen other (List.mem_reverse.mp listed)
  | none =>
    right
    rw [isUnseen_iff]
    intro line listed
    simpa using List.find?_eq_none.mp found line (List.mem_reverse.mpr listed)

-- A line that ends in a carriage return before its line feed loses it, and any line loses it to the
-- trimming of its name: where the lines are cut, the carriage returns do not matter.
theorem find?_lines (text : List Char) :
    ((Text.lines text).reverse.find? fun line => !line.all Character.isBlank).bind
        exceptionOfLine? =
      ((splitAt (· == '\n') text).reverse.find? fun line => !line.all Character.isBlank).bind
        exceptionOfLine? := by
  have dropped (ended : List (List Char)) :
      ((ended.map Text.dropReturn).find? fun line => !line.all Character.isBlank).bind
          exceptionOfLine? =
        (ended.find? fun line => !line.all Character.isBlank).bind exceptionOfLine? := by
    have seen : (fun line : List Char => !line.all Character.isBlank) ∘ Text.dropReturn =
        fun line => !line.all Character.isBlank :=
      funext fun line => congrArg not (Text.all_isBlank_dropReturn line)
    rw [List.find?_map, seen, Option.bind_map]
    exact congrArg _ (funext exceptionOfLine?_dropReturn)
  obtain ⟨last, ended, split⟩ : ∃ last ended, (splitAt (· == '\n') text).reverse = last :: ended :=
    List.exists_cons_of_ne_nil (List.reverse_ne_nil_iff.mpr (splitAt_ne_nil text))
  rw [Text.lines, split]
  dsimp only
  split
  · rename_i none
    rw [List.isEmpty_iff.mp none, ← List.map_reverse, List.reverse_reverse, dropped]
    rfl
  · rw [List.reverse_concat, ← List.map_reverse, List.reverse_reverse, List.find?_cons,
      List.find?_cons]
    split
    · rfl
    · exact dropped ended

theorem exceptionName_eq (stderr : Bytes) : exceptionName stderr =
    ((splitAt (· == 10) stderr).reverse.find? fun line => !isUnseen line).bind
      fun line => exceptionOfLine? (chars line) := by
  have cut : splitAt (· == '\n') (chars stderr) = (splitAt (· == 10) stderr).map chars :=
    Utf8.splitAt_chars (b := 10) (by decide) stderr
  rw [exceptionName, Utf8.toList_decodeLossy, find?_lines, cut, ← List.map_reverse, List.find?_map,
    Option.bind_map]
  simp only [Function.comp_def, isUnseen_eq]

theorem exceptionName_of_lastSeen {stderr line : Bytes} (last : LastSeen stderr line) :
    exceptionName stderr = exceptionName line := by
  rw [exceptionName_eq, exceptionName_eq, find?_of_lastSeen last,
    find?_of_lastSeen (lastSeen_self last.plain last.seen)]

theorem exceptionName_of_plain {line : Bytes} (plain : 10 ∉ line) (seen : isUnseen line = false) :
    exceptionName line = exceptionOfLine? (chars line) := by
  rw [exceptionName_eq, find?_of_lastSeen (lastSeen_self plain seen), Option.bind_some]

theorem exceptionName_of_unseen {stderr : Bytes} (unseen : isUnseen stderr) :
    exceptionName stderr = none := by
  have none : (splitAt (· == 10) stderr).reverse.find? (fun line => !isUnseen line) = none := by
    rw [List.find?_eq_none]
    intro line listed
    simpa using (isUnseen_iff stderr).mp unseen line (List.mem_reverse.mp listed)
  rw [exceptionName_eq, none, Option.bind_none]

structure IsExceptionName (name : List Char) : Prop where
  some : name ≠ []
  plain : ∀ c ∈ name, c.isAlphanum ∨ c = '_'
  ending : "Error".toList <:+ name ∨ "Exception".toList <:+ name

theorem isNameChar_iff {c : Char} : isNameChar c ↔ c.isAlphanum ∨ c = '_' := by
  rw [isNameChar, Bool.or_eq_true, beq_iff_eq]

theorem lt_of_isNameChar {c : Char} (plain : isNameChar c) : c.toNat < 0x80 := by
  rcases isNameChar_iff.mp plain with other | rfl
  · rcases (Bool.or_eq_true ..).mp other with letter | digit
    · rcases (Bool.or_eq_true ..).mp letter with large | small
      · have most : c.toNat ≤ 90 := UInt32.le_iff_toNat_le.mp (of_decide_eq_true large).2
        omega
      · have most : c.toNat ≤ 122 :=
          UInt32.le_iff_toNat_le.mp (of_decide_eq_true ((Bool.and_eq_true ..).mp small).2)
        omega
    · have most : c.toNat ≤ 57 :=
        UInt32.le_iff_toNat_le.mp (of_decide_eq_true ((Bool.and_eq_true ..).mp digit).2)
      omega
  · decide

theorem exceptionOfLine?_eq_some_iff {line : List Char} {name : String} :
    exceptionOfLine? line = some name ↔ IsExceptionName name.toList ∧
      lastComponent (Text.trimChars (line.takeWhile (· != ':'))) = name.toList := by
  unfold exceptionOfLine?
  generalize lastComponent (Text.trimChars (line.takeWhile (· != ':'))) = short
  have identifier : (!short.isEmpty && short.all isNameChar &&
      ("Error".toList.isSuffixOf short || "Exception".toList.isSuffixOf short)) = true ↔
      IsExceptionName short := by
    simp only [Bool.and_eq_true, Bool.not_eq_true', List.isEmpty_eq_false_iff, List.all_eq_true,
      Bool.or_eq_true, List.isSuffixOf_iff_suffix, isNameChar_iff]
    constructor
    · rintro ⟨⟨there, plain⟩, ending⟩
      exact ⟨there, plain, ending⟩
    · rintro ⟨there, plain, ending⟩
      exact ⟨⟨there, plain⟩, ending⟩
  dsimp only
  split
  · rename_i holds
    have named := identifier.mp holds
    constructor
    · rintro ⟨⟩
      rw [String.toList_ofList]
      exact ⟨named, rfl⟩
    · rintro ⟨-, same⟩
      rw [same, String.ofList_toList]
  · rename_i fails
    constructor
    · nofun
    · rintro ⟨named, rfl⟩
      exact absurd (identifier.mpr named) fails

theorem IsExceptionName.ascii {name : List Char} (named : IsExceptionName name) :
    ∀ c ∈ name, c.toNat < 0x80 := by
  intro c listed
  exact lt_of_isNameChar (isNameChar_iff.mpr (named.plain c listed))

/-- A name that is found stands on the line, before its first colon. -/
theorem printed_of_exceptionName {line : Bytes} {name : String} (plain : 10 ∉ line)
    (found : exceptionName line = some name) :
    IsExceptionName name.toList ∧ Utf8.encode name <:+: line.takeWhile (· != 58) := by
  have seen : isUnseen line = false := by
    by_contra unseen
    rw [exceptionName_of_unseen ((Bool.not_eq_false _).mp unseen)] at found
    cases found
  rw [exceptionName_of_plain plain seen, exceptionOfLine?_eq_some_iff] at found
  obtain ⟨named, short⟩ := found
  have cut : (chars line).takeWhile (· != ':') = chars (line.takeWhile (· != 58)) :=
    Utf8.takeWhile_chars (b := 58) (by decide) line
  have within : name.toList <:+: chars (line.takeWhile (· != 58)) := by
    rw [← short, ← cut]
    exact (lastComponent_suffix _).isInfix.trans (Text.trimChars_infix _)
  exact ⟨named, Utf8.infix_of_read named.ascii within⟩

section Printed

variable {path name : List Char}

def IsQualifier (path : List Char) : Prop := path = [] ∨ ∃ front, path = front ++ ['.']

theorem IsQualifier.dropBlanks (qualifies : IsQualifier path) :
    IsQualifier (path.dropWhile Character.isBlank) := by
  rcases qualifies with rfl | ⟨front, rfl⟩
  · exact .inl rfl
  · rw [List.dropWhile_append]
    split
    · exact .inr ⟨[], rfl⟩
    · exact .inr ⟨_, rfl⟩

theorem IsExceptionName.shown (named : IsExceptionName name) :
    ∀ c ∈ name, Character.isBlank c = false ∧ c ≠ '.' ∧ c ≠ ':' ∧ c ≠ '\n' := by
  have all : ∀ code < 0x80, isNameChar (Char.ofNat code) →
      Character.isBlank (Char.ofNat code) = false ∧ Char.ofNat code ≠ '.' ∧
        Char.ofNat code ≠ ':' ∧ Char.ofNat code ≠ '\n' := by decide
  intro c listed
  have plain := isNameChar_iff.mpr (named.plain c listed)
  rw [← Char.ofNat_toNat c] at plain ⊢
  exact all c.toNat (lt_of_isNameChar (isNameChar_iff.mpr (named.plain c listed))) plain

theorem trimChars_qualified (path : List Char) (named : IsExceptionName name) :
    Text.trimChars (path ++ name) = path.dropWhile Character.isBlank ++ name := by
  obtain ⟨first, rest, whole⟩ := List.exists_cons_of_ne_nil named.some
  obtain ⟨front, last, ends⟩ : ∃ front last, name = front ++ [last] :=
    ⟨_, _, (List.dropLast_concat_getLast named.some).symm⟩
  have starts : name.dropWhile Character.isBlank = name := by
    have seen := (named.shown first (by simp [whole])).1
    rw [whole, List.dropWhile_cons_of_neg (by simp [seen])]
  have seen := (named.shown last (by simp [ends])).1
  have dropped : (path ++ name).dropWhile Character.isBlank =
      path.dropWhile Character.isBlank ++ name := by
    rw [List.dropWhile_append]
    split
    · rename_i none
      rw [List.isEmpty_iff.mp none, starts, List.nil_append]
    · rfl
  rw [Text.trimChars_eq, dropped, ends, ← List.append_assoc,
    List.rdropWhile_concat_neg _ _ _ (by simp [seen])]

theorem lastComponent_qualified (qualifies : IsQualifier path) (named : IsExceptionName name) :
    lastComponent (path ++ name) = name := by
  have within : name.reverse.takeWhile (· != '.') = name.reverse := by
    rw [List.takeWhile_eq_self_iff]
    intro c listed
    simpa using (named.shown c (List.mem_reverse.mp listed)).2.1
  have ended : path.reverse.takeWhile (· != '.') = [] := by
    rcases qualifies with rfl | ⟨front, rfl⟩
    · rfl
    · simp
  rw [lastComponent, List.reverse_append, List.takeWhile_append, within, ended]
  simp

theorem exceptionName_of_printed {path name message : String} (qualifies : IsQualifier path.toList)
    (named : IsExceptionName name.toList)
    (bare : ∀ c ∈ path.toList, c ≠ ':' ∧ c ≠ '\n') (single : '\n' ∉ message.toList) :
    exceptionName (Utf8.encode (path ++ name ++ ":" ++ message)) = some name := by
  have text : (path ++ name ++ ":" ++ message).toList =
      (path.toList ++ name.toList) ++ ':' :: message.toList := by simp
  have written : chars (Utf8.encode (path ++ name ++ ":" ++ message)) =
      (path.toList ++ name.toList) ++ ':' :: message.toList := by
    rw [← text]
    exact Utf8.chars_encodeChars _
  have plain : 10 ∉ Utf8.encode (path ++ name ++ ":" ++ message) := by
    intro listed
    have feed : '\n' ∈ (path ++ name ++ ":" ++ message).toList :=
      Utf8.mem_of_mem_encodeChars (b := 10) (by decide) listed
    rw [text, List.mem_append, List.mem_append, List.mem_cons] at feed
    rcases feed with (there | there) | there | there
    · exact (bare _ there).2 rfl
    · exact (named.shown _ there).2.2.2 rfl
    · exact absurd there (by decide)
    · exact single there
  have seen : isUnseen (Utf8.encode (path ++ name ++ ":" ++ message)) = false := by
    obtain ⟨first, rest, whole⟩ := List.exists_cons_of_ne_nil named.some
    have shown := (named.shown first (by simp [whole])).1
    rw [isUnseen_eq, written, whole]
    simp [shown]
  have ahead : ((path.toList ++ name.toList) ++ ':' :: message.toList).takeWhile (· != ':') =
      path.toList ++ name.toList := by
    rw [List.takeWhile_append_of_pos]
    · simp
    · intro c listed
      rcases List.mem_append.mp listed with there | there
      · simpa using (bare c there).1
      · simpa using (named.shown c there).2.2.1
  rw [exceptionName_of_plain plain seen, written, exceptionOfLine?_eq_some_iff, ahead,
    trimChars_qualified _ named, lastComponent_qualified qualifies.dropBlanks named]
  exact ⟨named, rfl⟩

end Printed

namespace CaseResult

variable (r : CaseResult) (report : ProcessReport)

theorem withEnd_feedback (stderr : Bytes) :
    (r.withEnd stderr report).feedback = r.feedback ∨
      report.signalName = some (r.withEnd stderr report).feedback ∨
      exceptionName stderr = some (r.withEnd stderr report).feedback := by
  cases signal : report.signalName with
  | some name => simp [withEnd, signal]
  | none =>
    cases exit : report.exitCode with
    | none => simp [withEnd, signal, exit]
    | some code =>
      by_cases success : code = 0
      · simp [withEnd, signal, exit, success]
      · cases found : exceptionName stderr <;> simp [withEnd, signal, exit, success, found]

theorem populate_feedback (stderr : Bytes) :
    (r.populate stderr report).feedback = r.feedback ∨
      report.signalName = some (r.populate stderr report).feedback ∨
      exceptionName stderr = some (r.populate stderr report).feedback := by
  have kept : ((r.withUsage report).withLimits report).feedback = r.feedback := by
    rw [withLimits, withUsage]
  rw [populate_eq]
  split
  · exact .inl kept
  · rw [← kept]
    exact withEnd_feedback _ report stderr

end CaseResult

/-- What stderr tells depends on the last line on which anything shows. It is nothing or an
identifier of that line, before its first colon, and nothing else of stderr gets into the feedback;
a line that prints an exception does give its name. -/
theorem exceptionName_by_last_line :
    (∀ before line after : Bytes, 10 ∉ line → isUnseen line = false → isUnseen after = true →
      exceptionName (before ++ 10 :: (line ++ 10 :: after)) = exceptionName line) ∧
    (∀ stderr : Bytes, (∀ line ∈ splitAt (· == 10) stderr, isUnseen line = true) →
      exceptionName stderr = none) ∧
    (∀ (stderr : Bytes) (name : String), exceptionName stderr = some name →
      ∃ line, LastSeen stderr line ∧ exceptionName line = some name) ∧
    (∀ (line : Bytes) (name : String), 10 ∉ line → exceptionName line = some name →
      IsExceptionName name.toList ∧ Utf8.encode name <:+: line.takeWhile (· != 58)) ∧
    (∀ path name message : String, IsQualifier path.toList → IsExceptionName name.toList →
      (∀ c ∈ path.toList, c ≠ ':' ∧ c ≠ '\n') → '\n' ∉ message.toList →
      exceptionName (Utf8.encode (path ++ name ++ ":" ++ message)) = some name) ∧
    (∀ (stderr : Bytes) (r : CaseResult) (report : ProcessReport),
      (r.populate stderr report).feedback = r.feedback ∨
        report.signalName = some (r.populate stderr report).feedback ∨
        exceptionName stderr = some (r.populate stderr report).feedback) := by
  refine ⟨?_, ?_, ?_, ?_, ?_, ?_⟩
  · intro before line after plain seen unseen
    exact exceptionName_of_lastSeen (lastSeen_of_surrounded plain seen unseen)
  · intro stderr unseen
    exact exceptionName_of_unseen ((isUnseen_iff stderr).mpr unseen)
  · intro stderr name found
    rcases lastSeen_or_unseen stderr with ⟨line, last⟩ | unseen
    · exact ⟨line, last, by rw [← exceptionName_of_lastSeen last, found]⟩
    · rw [exceptionName_of_unseen unseen] at found
      cases found
  · intro line name plain found
    exact printed_of_exceptionName plain found
  · intro path name message qualifies named bare single
    exact exceptionName_of_printed qualifies named bare single
  · intro stderr r report
    exact r.populate_feedback report stderr

namespace Sample

/-- A line of a traceback with the end of another system's lines. -/
def tracebackLine : Bytes :=
  Utf8.encode ("java.lang." ++ "ArithmeticException" ++ ":" ++ " / by zero\r")

/-- It is found behind a character that is cut short, and only its name is taken. -/
theorem exception_behind_cut_character :
    exceptionName ([0xe2, 0x82] ++ 10 :: (tracebackLine ++ 10 :: [13, 10, 32])) =
      some "ArithmeticException" ∧
    Utf8.encode "ArithmeticException" <:+: tracebackLine.takeWhile (· != 58) := by
  have plain : 10 ∉ tracebackLine := by decide +kernel
  have seen : isUnseen tracebackLine = false := by decide +kernel
  have unseen : isUnseen [13, 10, 32] = true := by decide +kernel
  have qualifies : IsQualifier "java.lang.".toList := .inr ⟨"java.lang".toList, by decide⟩
  have named : IsExceptionName "ArithmeticException".toList :=
    ⟨by decide, List.forall_iff_forall_mem.mp (by decide),
      .inr ⟨"Arithmetic".toList, by decide⟩⟩
  have bare : ∀ c ∈ "java.lang.".toList, c ≠ ':' ∧ c ≠ '\n' :=
    List.forall_iff_forall_mem.mp (by decide)
  obtain ⟨surrounded, -, -, printed, told, -⟩ := exceptionName_by_last_line
  have alone : exceptionName tracebackLine = some "ArithmeticException" :=
    told _ _ _ qualifies named bare (by decide)
  exact ⟨(surrounded _ _ _ plain seen unseen).trans alone, (printed _ _ plain alone).2⟩

end Sample
end ContestJudge
