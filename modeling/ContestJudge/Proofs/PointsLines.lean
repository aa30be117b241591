import ContestJudge.Proofs.DecimalLiterals
/-!
The points line of a whole text. A search for the word and a number at every start of a line finds
the first line that has them, and takes of it the longest number. Nothing else in the text counts.
-/

namespace ContestJudge

namespace Points

section Search

def afterFeeds : Bytes → List Bytes
  | [] => []
  | b :: rest => if b = 10 then rest :: afterFeeds rest else afterFeeds rest

def captureAt (bytes : Bytes) : Option Bytes :=
  if lead.isPrefixOf bytes then numeral.capture? (bytes.drop lead.length) else none

/-- What the pattern takes at the first place where it finds a number: at the start of a text or
behind a line feed. -/
def captured? (stderr : Bytes) : Option Bytes :=
  (stderr :: afterFeeds stderr).findSome? captureAt

def Bears (line : Bytes) : Prop := ∃ text ∈ numeral.language, lead ++ text <+: line

/-- Whether a text is the longest number behind the word on the first line that has one. -/
def IsFirst (stderr text : Bytes) : Prop :=
  ∃ earlier rest later, splitAt (· == 10) stderr = earlier ++ (lead ++ rest) :: later ∧
    (∀ line ∈ earlier, ¬Bears line) ∧ IsLongest rest text

theorem captureAt_eq (bytes : Bytes) : captureAt bytes =
    if lead.isPrefixOf bytes then spelled? (bytes.drop lead.length) else none := by
  rw [captureAt, capture?_numeral]

theorem captureAt_lead (rest : Bytes) : captureAt (lead ++ rest) = spelled? rest := by
  rw [captureAt_eq, if_pos (List.isPrefixOf_iff_prefix.mpr (List.prefix_append lead rest)),
    List.drop_left]

theorem captureAt_eq_some {bytes text : Bytes} :
    captureAt bytes = some text ↔ ∃ rest, bytes = lead ++ rest ∧ IsLongest rest text := by
  constructor
  · intro found
    have taken := found
    rw [captureAt_eq] at taken
    split at taken
    · rename_i leads
      obtain ⟨rest, rfl⟩ := List.isPrefixOf_iff_prefix.mp leads
      rw [captureAt_lead] at found
      exact ⟨rest, rfl, isLongest_iff.mpr found⟩
    · cases taken
  · rintro ⟨rest, rfl, longest⟩
    rw [captureAt_lead]
    exact isLongest_iff.mp longest

theorem captureAt_eq_none {bytes : Bytes} : captureAt bytes = none ↔ ¬Bears bytes := by
  constructor
  · rintro none ⟨text, described, rest, rfl⟩
    rw [List.append_assoc, captureAt_lead] at none
    obtain ⟨least, found, -⟩ := first?_takes_most
      ((numeral.mem_rests_iff _ _).mpr ⟨text, described, rfl⟩)
    rcases first?_of_spelled? (text ++ rest) with ⟨_, _, spelled, -, -⟩ | ⟨-, unfound⟩
    · rw [none] at spelled
      cases spelled
    · rw [found] at unfound
      cases unfound
  · intro bare
    cases found : captureAt bytes with
    | none => rfl
    | some text =>
      obtain ⟨rest, rfl, longest⟩ := captureAt_eq_some.mp found
      refine absurd ⟨text, longest.described, ?_⟩ bare
      exact (List.prefix_append_right_inj lead).mpr longest.starts

end Search

section Lines

theorem feed_not_mem_numeral {text : Bytes} (described : text ∈ numeral.language) : 10 ∉ text := by
  have digit : Pattern.digit.Avoids 10 := fun c decimal =>
    not_mem_encode decimal (by decide) (by decide)
  have sign (b : UInt8) (other : 10 ≠ b) : (Pattern.byte b).Avoids 10 := other
  have avoids : numeral.Avoids 10 :=
    ⟨⟨sign 45 (by decide), sign 43 (by decide)⟩, digit, sign 46 (by decide), digit, digit⟩
  exact Pattern.not_mem_of_avoids avoids described

theorem prefix_append_feed {text line more : Bytes} (plain : 10 ∉ text) :
    text <+: line ++ 10 :: more ↔ text <+: line := by
  constructor
  · intro starts
    rcases List.prefix_or_prefix_of_prefix starts (List.prefix_append line _) with within | ⟨rest, rfl⟩
    · exact within
    rw [List.prefix_append_right_inj] at starts
    cases rest with
    | nil => rw [List.append_nil]
    | cons b rest =>
      obtain ⟨rfl, -⟩ := List.cons_prefix_cons.mp starts
      exact absurd (List.mem_append_right _ List.mem_cons_self) plain
  · intro starts
    exact starts.trans (List.prefix_append _ _)

theorem isLongest_append_feed {rest more text : Bytes} :
    IsLongest (rest ++ 10 :: more) text ↔ IsLongest rest text := by
  have starts {word : Bytes} (described : word ∈ numeral.language) :
      word <+: rest ++ 10 :: more ↔ word <+: rest :=
    prefix_append_feed (feed_not_mem_numeral described)
  constructor
  · intro longest
    refine ⟨(starts longest.described).mp longest.starts, longest.described, ?_⟩
    intro other begins described
    exact longest.longest other ((starts described).mpr begins) described
  · intro longest
    refine ⟨(starts longest.described).mpr longest.starts, longest.described, ?_⟩
    intro other begins described
    exact longest.longest other ((starts described).mp begins) described

theorem captureAt_append_feed (line more : Bytes) :
    captureAt (line ++ 10 :: more) = captureAt line := by
  have leads : lead <+: line ++ 10 :: more ↔ lead <+: line := prefix_append_feed (by decide)
  ext text
  rw [captureAt_eq_some, captureAt_eq_some]
  constructor
  · rintro ⟨rest, split, longest⟩
    obtain ⟨rest', rfl⟩ := leads.mp ⟨rest, split.symm⟩
    rw [List.append_assoc] at split
    rw [← List.append_cancel_left split, isLongest_append_feed] at longest
    exact ⟨rest', rfl, longest⟩
  · rintro ⟨rest, rfl, longest⟩
    exact ⟨rest ++ 10 :: more, List.append_assoc .., isLongest_append_feed.mpr longest⟩

theorem afterFeeds_of_plain {line : Bytes} (plain : ∀ b ∈ line, (b == 10) = false) :
    afterFeeds line = [] := by
  induction line with
  | nil => rfl
  | cons b rest ih =>
    obtain ⟨other, more⟩ := List.forall_mem_cons.mp plain
    rw [afterFeeds, if_neg (by simpa using other), ih more]

theorem afterFeeds_append {line : Bytes} (plain : ∀ b ∈ line, (b == 10) = false) (more : Bytes) :
    afterFeeds (line ++ 10 :: more) = more :: afterFeeds more := by
  induction line with
  | nil => rfl
  | cons b rest ih =>
    obtain ⟨other, later⟩ := List.forall_mem_cons.mp plain
    rw [List.cons_append, afterFeeds, if_neg (by simpa using other), ih later]

theorem lines_append (front back : Bytes) : splitAt (· == 10) (front ++ 10 :: back) =
    splitAt (· == 10) front ++ splitAt (· == 10) back := splitAt_append (· == 10) rfl front back

theorem captured?_eq (stderr : Bytes) :
    captured? stderr = (splitAt (· == 10) stderr).findSome? captureAt := by
  induction stderr using run_induction (· == (10 : UInt8)) with
  | alone line plain => rw [captured?, afterFeeds_of_plain plain, splitAt_of_plain plain]
  | ahead line b more plain feed later =>
    obtain rfl : b = 10 := by simpa using feed
    rw [captured?] at later
    rw [captured?, afterFeeds_append plain, List.findSome?_cons, captureAt_append_feed, later,
      lines_append, splitAt_of_plain plain]
    rfl

theorem captured?_eq_some {stderr text : Bytes} :
    captured? stderr = some text ↔ IsFirst stderr text := by
  rw [captured?_eq, List.findSome?_eq_some_iff]
  simp only [captureAt_eq_none, captureAt_eq_some]
  constructor
  · rintro ⟨earlier, _, later, split, ⟨rest, rfl, longest⟩, bare⟩
    exact ⟨earlier, rest, later, split, bare, longest⟩
  · rintro ⟨earlier, rest, later, split, bare, longest⟩
    exact ⟨earlier, lead ++ rest, later, split, ⟨rest, rfl, longest⟩, bare⟩

theorem onLine?_eq (line : Bytes) : onLine? line = (captureAt line).bind number? := by
  rw [onLine?, captureAt_eq]
  split
  · cases spelled : spelled? (line.drop lead.length) with
    | some text =>
      obtain ⟨numeral, rfl, read⟩ := exists_numeral spelled
      rw [read, Option.bind_some, numeral.number?_text]
    | none => exact number?_of_unspelled spelled
  · rfl

theorem findSome?_bind {α β γ : Type} {f : α → Option β} {g : β → Option γ}
    (total : ∀ a b, f a = some b → g b ≠ none) (list : List α) :
    list.findSome? (fun a => (f a).bind g) = (list.findSome? f).bind g := by
  induction list with
  | nil => rfl
  | cons a rest ih =>
    rw [List.findSome?_cons, List.findSome?_cons]
    cases found : f a with
    | none => exact ih
    | some b =>
      obtain ⟨c, read⟩ := Option.ne_none_iff_exists'.mp (total a b found)
      simp only [Option.bind_some, read]

theorem find?_eq (stderr : Bytes) : find? stderr = (captured? stderr).bind number? := by
  have lines : onLine? = fun line => (captureAt line).bind number? := funext onLine?_eq
  rw [find?, captured?_eq, lines]
  apply findSome?_bind
  intro line text captured
  obtain ⟨rest, -, longest⟩ := captureAt_eq_some.mp captured
  obtain ⟨numeral, rfl, -⟩ := exists_numeral (isLongest_iff.mp longest)
  rw [numeral.number?_text]
  exact Option.some_ne_none _

theorem find?_of_isFirst {stderr text : Bytes} (first : IsFirst stderr text) :
    ∃ numeral : Numeral, numeral.text = text ∧ find? stderr = some numeral.number := by
  have captured := captured?_eq_some.mpr first
  obtain ⟨_, rest, _, _, _, longest⟩ := first
  obtain ⟨numeral, rfl, -⟩ := exists_numeral (isLongest_iff.mp longest)
  exact ⟨numeral, rfl, by rw [find?_eq, captured, Option.bind_some, numeral.number?_text]⟩

theorem find?_of_no_first {stderr : Bytes} (none : ∀ text, ¬IsFirst stderr text) :
    find? stderr = Option.none := by
  cases captured : captured? stderr with
  | none => rw [find?_eq, captured, Option.bind_none]
  | some text => exact absurd (captured?_eq_some.mp captured) (none text)

end Lines

section Share

def IsShare (value : Binary64) : Prop := Binary64.le 0 value ∧ value.le 1

instance (value : Binary64) : Decidable (IsShare value) :=
  inferInstanceAs (Decidable (_ ∧ _))

/-- What stands around a number and changes nothing: before its line complete lines without a number
behind the word, on its line bytes that do not go on with it, and anything from the next line feed
on. -/
structure Surrounds (text before tail after : Bytes) : Prop where
  ended : before = [] ∨ ∃ front, before = front ++ [10]
  bare : ∀ line ∈ splitAt (· == 10) before, ¬Bears line
  longest : IsLongest (text ++ tail) text
  within : 10 ∉ tail
  broken : after = [] ∨ ∃ back, after = 10 :: back

theorem splitAt_line {line after : Bytes} (plain : 10 ∉ line)
    (broken : after = [] ∨ ∃ back, after = 10 :: back) :
    ∃ later, splitAt (· == 10) (line ++ after) = line :: later := by
  have whole : ∀ b ∈ line, (b == 10) = false := by
    intro b listed
    rw [beq_eq_false_iff_ne]
    rintro rfl
    exact plain listed
  rcases broken with rfl | ⟨back, rfl⟩
  · rw [List.append_nil]
    exact ⟨[], splitAt_of_plain whole⟩
  · rw [lines_append, splitAt_of_plain whole]
    exact ⟨_, rfl⟩

theorem Surrounds.isFirst {text before tail after : Bytes}
    (surrounds : Surrounds text before tail after) :
    IsFirst (before ++ (lead ++ text ++ tail ++ after)) text := by
  have plain : 10 ∉ lead ++ text ++ tail := by
    rw [List.mem_append, List.mem_append]
    rintro ((word | number) | behind)
    · exact absurd word (by decide)
    · exact feed_not_mem_numeral surrounds.longest.described number
    · exact surrounds.within behind
  obtain ⟨later, line⟩ := splitAt_line plain surrounds.broken
  have bare := surrounds.bare
  rcases surrounds.ended with rfl | ⟨front, rfl⟩
  · refine ⟨[], text ++ tail, later, ?_, by simp, surrounds.longest⟩
    rw [List.nil_append, line, List.append_assoc, List.nil_append]
  · rw [lines_append] at bare
    refine ⟨splitAt (· == 10) front, text ++ tail, later, ?_, ?_, surrounds.longest⟩
    · rw [List.append_assoc, List.singleton_append, lines_append, line, List.append_assoc]
    · exact fun other listed => bare other (List.mem_append_left _ listed)

theorem isFirst_alone {bytes text : Bytes} (longest : IsLongest bytes text) :
    IsFirst (lead ++ text) text := by
  have itself : IsLongest (text ++ []) text := by
    rw [List.append_nil]
    exact ⟨List.prefix_refl text, longest.described, fun _ starts _ => starts.length_le⟩
  have unborne : ∀ line ∈ splitAt (· == 10) [], ¬Bears line := by
    intro line listed
    obtain rfl := List.mem_singleton.mp listed
    exact captureAt_eq_none.mp rfl
  have alone : Surrounds text [] [] [] := ⟨.inl rfl, unborne, itself, List.not_mem_nil, .inl rfl⟩
  simpa using alone.isFirst

theorem fraction_of_surrounds {text before tail after : Bytes}
    (surrounds : Surrounds text before tail after) :
    fraction (before ++ (lead ++ text ++ tail ++ after)) = fraction (lead ++ text) := by
  have first := isFirst_alone surrounds.longest
  have same : find? (before ++ (lead ++ text ++ tail ++ after)) = find? (lead ++ text) := by
    rw [find?_eq, find?_eq, captured?_eq_some.mpr surrounds.isFirst, captured?_eq_some.mpr first]
  obtain ⟨numeral, -, found⟩ := find?_of_isFirst first
  rw [fraction, fraction, same, found]

/-- What a text is worth: where no line has a number behind the word nothing, and else the value of
the first such number. Only numbers in digits of the ASCII range have one, and only those between zero
and one are a share of the points. -/
inductive Answer (stderr : Bytes) : Except InternalFault Binary64 → Prop
  | missing (none : ∀ text, ¬IsFirst stderr text) :
      Answer stderr (.error (.pointsMissing (Text.quoted (Utf8.decodeLossy stderr))))
  | unparsable {text : Bytes} (first : IsFirst stderr text) (foreign : ¬IsAscii text) :
      Answer stderr (.error .pointsUnparsable)
  | excessive {text : Bytes} {value : Binary64} (first : IsFirst stderr text) (ascii : IsAscii text)
      (reads : Reads text value) (excess : ¬IsShare value) :
      Answer stderr (.error (.pointsOutOfRange value))
  | share {text : Bytes} {value : Binary64} (first : IsFirst stderr text) (ascii : IsAscii text)
      (reads : Reads text value) (share : IsShare value) : Answer stderr (.ok value)

theorem fraction_of_value {stderr : Bytes} {number : Number} {value : Binary64}
    (found : find? stderr = some number) (valued : number.value? = some value) :
    (IsShare value → fraction stderr = .ok value) ∧
      (¬IsShare value → fraction stderr = .error (.pointsOutOfRange value)) := by
  rw [fraction, found]
  simp only [valued, Bool.and_eq_true]
  exact ⟨fun share => if_pos share, fun excess => if_neg excess⟩

theorem fraction_answers (stderr : Bytes) : Answer stderr (fraction stderr) := by
  by_cases none : ∀ text, ¬IsFirst stderr text
  · have missing : fraction stderr = .error (.pointsMissing (Text.quoted (Utf8.decodeLossy stderr))) := by
      rw [fraction, find?_of_no_first none]
    rw [missing]
    exact .missing none
  obtain ⟨text, first⟩ := not_forall_not.mp none
  obtain ⟨numeral, rfl, found⟩ := find?_of_isFirst first
  cases valued : numeral.number.value? with
  | none =>
    have unparsable : fraction stderr = .error .pointsUnparsable := by
      rw [fraction, found]
      simp only [valued]
    rw [unparsable]
    exact .unparsable first (numeral.value?_eq_none.mp valued)
  | some value =>
    have reads := Numeral.value?_eq_some.mp valued
    have ascii : IsAscii numeral.text := by
      by_contra foreign
      rw [numeral.value?_eq_none.mpr foreign] at valued
      cases valued
    obtain ⟨taken, refused⟩ := fraction_of_value found valued
    by_cases share : IsShare value
    · rw [taken share]
      exact .share first ascii reads share
    · rw [refused share]
      exact .excessive first ascii reads share

theorem fraction_of_answer {stderr : Bytes} {answer : Except InternalFault Binary64}
    (answers : Answer stderr answer) : fraction stderr = answer := by
  cases answers with
  | missing none => rw [fraction, find?_of_no_first none]
  | unparsable first foreign =>
    obtain ⟨numeral, rfl, found⟩ := find?_of_isFirst first
    rw [fraction, found]
    simp only [numeral.value?_eq_none.mpr foreign]
  | excessive first ascii reads excess =>
    obtain ⟨numeral, rfl, found⟩ := find?_of_isFirst first
    exact (fraction_of_value found (Numeral.value?_eq_some.mpr reads)).2 excess
  | share first ascii reads share =>
    obtain ⟨numeral, rfl, found⟩ := find?_of_isFirst first
    exact (fraction_of_value found (Numeral.value?_eq_some.mpr reads)).1 share

theorem fraction_eq_iff {stderr : Bytes} {answer : Except InternalFault Binary64} :
    fraction stderr = answer ↔ Answer stderr answer := by
  constructor
  · rintro rfl
    exact fraction_answers stderr
  · exact fraction_of_answer

def Awards (stderr : Bytes) (value : Binary64) : Prop :=
  ∃ text, IsFirst stderr text ∧ IsAscii text ∧ Reads text value ∧ IsShare value

theorem fraction_eq_ok_iff {stderr : Bytes} {value : Binary64} :
    fraction stderr = .ok value ↔ Awards stderr value := by
  rw [fraction_eq_iff]
  constructor
  · intro answers
    cases answers with
    | share first ascii reads share => exact ⟨_, first, ascii, reads, share⟩
  · rintro ⟨text, first, ascii, reads, share⟩
    exact .share first ascii reads share

/-- The grammar of points lines: the search by the pattern takes the longest number on the first line
that has one behind the word, that number alone decides the answer, and whatever stands around it
changes nothing. -/
theorem fraction_follows_grammar (stderr : Bytes) :
    (∀ text, captured? stderr = some text ↔ IsFirst stderr text) ∧
    (∀ value, fraction stderr = .ok value ↔ Awards stderr value) ∧
    (∀ answer, fraction stderr = answer ↔ Answer stderr answer) ∧
    ∀ text before tail after, stderr = before ++ (lead ++ text ++ tail ++ after) →
      Surrounds text before tail after → fraction stderr = fraction (lead ++ text) := by
  refine ⟨fun text => captured?_eq_some, fun value => fraction_eq_ok_iff,
    fun answer => fraction_eq_iff, ?_⟩
  rintro text before tail after rfl surrounds
  exact fraction_of_surrounds surrounds

end Share
end Points

namespace Sample

open Points

def quarter : DecimalLiteral := ⟨.bare, [0], some [2, 5], none⟩

theorem quarter_isProper : quarter.IsProper :=
  ⟨⟨by decide, by decide⟩, by simp [quarter], by simp [quarter]⟩

/-- A line before the number with the word elsewhere, a carriage return and a byte that is not UTF-8. -/
def noise : Bytes := Utf8.encode "guess\rpoints 7" ++ [255, 10]

def remark : Bytes := Utf8.encode " of 1\r"

theorem quarter_surrounded :
    Surrounds (Utf8.encode "0.25") noise remark (Utf8.encode "\npoints 1") where
  ended := .inr ⟨Utf8.encode "guess\rpoints 7" ++ [255], rfl⟩
  bare := by
    have lines : splitAt (· == 10) noise = [Utf8.encode "guess\rpoints 7" ++ [255], []] := rfl
    rw [lines, List.forall_mem_cons, List.forall_mem_singleton]
    exact ⟨captureAt_eq_none.mp rfl, captureAt_eq_none.mp rfl⟩
  longest := by
    have ends : quarter_isProper.numeral.EndsBefore remark :=
      ⟨rfl, fun empty => absurd empty (List.cons_ne_nil _ _)⟩
    exact isLongest_iff.mpr (quarter_isProper.numeral.read_text ends).2
  within := by decide
  broken := .inr ⟨Utf8.encode "points 1", rfl⟩

theorem quarter_reads : Reads (Utf8.encode "0.25") (.ofRatio false 1 4) :=
  ⟨quarter, quarter_isProper, rfl, rfl, by decide +kernel⟩

theorem quarter_isShare : IsShare (.ofRatio false 1 4) := by decide +kernel

theorem quarter_awarded_amid_noise :
    let stderr := noise ++ (lead ++ Utf8.encode "0.25" ++ remark ++ Utf8.encode "\npoints 1")
    fraction stderr = fraction (lead ++ Utf8.encode "0.25") ∧
      fraction stderr = .ok (.ofRatio false 1 4) := by
  intro stderr
  obtain ⟨-, awards, -, alone⟩ := fraction_follows_grammar stderr
  refine ⟨alone _ _ _ _ rfl quarter_surrounded,
    (awards _).mpr ⟨_, ?_, by decide, quarter_reads, quarter_isShare⟩⟩
  exact quarter_surrounded.isFirst

end Sample
end ContestJudge
