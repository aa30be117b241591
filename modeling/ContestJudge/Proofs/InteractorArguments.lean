import ContestJudge.Proofs.Filling
/-!
The arguments of an interactor. There is one for each word of the template, and it is the word with
the files put in at once, unless the path of a file lends a part to a name that is replaced later. A
path that does so is misread in some template.
-/

namespace ContestJudge

namespace Text

section Interference

variable {values : List (String × String)} {inner other value front back : List Char}

theorem replaceBehind_of_missing {name text : List Char} (missing : ¬ name <:+: text) :
    replaceBehind name value 0 text = text := by
  have free (before after : List Char) (occurs : text ++ [] = before ++ name ++ after) :
      text.length ≤ before.length := by
    rw [List.append_nil] at occurs
    exact absurd ⟨before, after, occurs.symm⟩ missing
  have same : replaceBehind name value 0 (text ++ []) = _ := replaceBehind_append_of_free free
  rwa [List.append_nil, replaceBehind, List.append_nil] at same

section Shortening

variable {name : List Char} (small : value.length < name.length)
include small

theorem length_replaceBehind_le (skipped : Nat) (text : List Char) :
    (replaceBehind name value skipped text).length ≤ text.length := by
  induction size : text.length using Nat.strongRecOn generalizing skipped text with
  | ind length ih
  subst size
  rw [replaceBehind_eq_drop]
  cases rest : text.drop skipped with
  | nil => exact Nat.zero_le _
  | cons c others =>
    have lengths : others.length + 1 ≤ text.length := by
      have dropped := congrArg List.length rest
      rw [List.length_drop, List.length_cons] at dropped
      omega
    by_cases starts : name <+: c :: others
    · obtain ⟨back, splits⟩ := starts
      have spelled : name ≠ [] := List.ne_nil_of_length_pos (Nat.zero_lt_of_lt small)
      have sizes := congrArg List.length splits
      rw [List.length_append, List.length_cons] at sizes
      have kept := ih back.length (by omega) 0 back rfl
      rw [← splits, replaceBehind_append_self spelled, List.length_append]
      omega
    · have kept := ih others.length (by omega) 0 others rfl
      rw [replaceBehind_cons_of_no_start starts, List.length_cons]
      omega

theorem length_replaceBehind_lt {text : List Char} (occurs : name <:+: text) :
    (replaceBehind name value 0 text).length < text.length := by
  obtain ⟨front, back, rfl⟩ := occurs
  have spelled : name ≠ [] := List.ne_nil_of_length_pos (Nat.zero_lt_of_lt small)
  induction front with
  | nil =>
    have kept := length_replaceBehind_le small 0 back
    rw [List.nil_append, replaceBehind_append_self spelled, List.length_append, List.length_append]
    omega
  | cons c front ih =>
    by_cases starts : name <+: c :: (front ++ name ++ back)
    · obtain ⟨rest, splits⟩ := starts
      have kept := length_replaceBehind_le small 0 rest
      have text : c :: front ++ name ++ back = name ++ rest := splits.symm
      rw [text, replaceBehind_append_self spelled, List.length_append, List.length_append]
      omega
    · have text : c :: front ++ name ++ back = c :: (front ++ name ++ back) := rfl
      rw [text, replaceBehind_cons_of_no_start starts]
      exact Nat.succ_lt_succ ih

end Shortening

theorem length_foldl_replaceAll_le {later : List (String × String)}
    (small : ∀ entry ∈ later, entry.2.toList.length < entry.1.toList.length) (text : String) :
    (later.foldl (fun text (name, value) => replaceAll name value text) text).toList.length ≤
      text.toList.length := by
  induction later generalizing text with
  | nil => exact Nat.le_refl _
  | cons entry later ih =>
    rw [List.forall_mem_cons] at small
    have first : (replaceAll entry.1 entry.2 text).toList.length ≤ text.toList.length := by
      rw [replaceAll, String.toList_ofList]
      exact length_replaceBehind_le small.1 0 text.toList
    exact Nat.le_trans (ih small.2 _) first

theorem length_foldl_replaceAll_lt {later : List (String × String)}
    (small : ∀ entry ∈ later, entry.2.toList.length < entry.1.toList.length) {text : String}
    (occurs : ∃ entry ∈ later, entry.1.toList <:+: text.toList) :
    (later.foldl (fun text (name, value) => replaceAll name value text) text).toList.length <
      text.toList.length := by
  induction later with
  | nil => simp at occurs
  | cons entry later ih =>
    rw [List.forall_mem_cons] at small
    rw [List.foldl_cons]
    change (later.foldl _ (replaceAll entry.1 entry.2 text)).toList.length < _
    by_cases here : entry.1.toList <:+: text.toList
    · refine Nat.lt_of_le_of_lt (length_foldl_replaceAll_le small.2 _) ?_
      rw [replaceAll, String.toList_ofList]
      exact length_replaceBehind_lt small.1 here
    · have same : replaceAll entry.1 entry.2 text = text := by
        rw [replaceAll, replaceBehind_of_missing here, String.ofList_toList]
      rw [same]
      refine ih small.2 ?_
      obtain ⟨other, listed, there⟩ := occurs
      rcases List.mem_cons.mp listed with rfl | listed
      · exact absurd there here
      · exact ⟨other, listed, there⟩

def IsCut (front : List Char) : Prop := front = [] ∨ ∃ rest, front = '\x7b' :: rest ∧
  '\x7b' ∉ rest ∧ '\x7d' ∉ rest

theorem length_le_of_isCut (cut : IsCut front) (opens : '\x7b' ∉ other)
    {after before rest : List Char}
    (splits : front ++ (braced inner ++ rest) = before ++ braced other ++ after) :
    front.length ≤ before.length := by
  rcases cut with rfl | ⟨tail, rfl, unopened, unclosed⟩
  · exact Nat.zero_le _
  by_contra within
  rw [Nat.not_le] at within
  -- The name would begin with the text, and the brace behind the cut would stand in it.
  have length : (braced other).length = other.length + 2 := by simp [braced]
  have brace : (('\x7b' :: tail) ++ (braced inner ++ rest))[before.length]? = some '\x7b' := by
    rw [splits]
    simp [braced]
  rw [List.getElem?_append_left within] at brace
  cases before with
  | cons first before =>
    exact unopened (List.mem_of_getElem? (i := before.length) (by simpa using brace))
  | nil =>
    by_cases short : ('\x7b' :: tail).length < (braced other).length
    · have next : (('\x7b' :: tail) ++ (braced inner ++ rest))[('\x7b' :: tail).length]? =
          some '\x7b' := by simp [braced]
      rw [splits, List.nil_append, List.getElem?_append_left short] at next
      have inside : (other ++ ['\x7d'])[tail.length]? = some '\x7b' := by simpa [braced] using next
      simpa [opens] using List.mem_of_getElem? inside
    · have closing : (('\x7b' :: tail) ++ (braced inner ++ rest))[other.length + 1]? =
          some '\x7d' := by
        rw [splits]
        simp [braced]
      rw [List.getElem?_append_left (by omega)] at closing
      exact unclosed (List.mem_of_getElem? (i := other.length) (by simpa using closing))

theorem prefix_of_append_eq {part rest name after : List Char}
    (same : part ++ rest = name ++ after) : name <+: part ++ name.drop part.length := by
  rcases List.append_eq_append_iff.mp same with ⟨more, rfl, -⟩ | ⟨more, rfl, -⟩
  · exact List.drop_left.symm ▸ List.prefix_refl _
  · exact (List.prefix_append name more).trans (List.prefix_append _ _)

/-- A value that is not apart from a name makes up the name together with characters of the name
around it. -/
theorem exists_surroundings (opens : '\x7b' ∉ inner) (closes : '\x7d' ∉ inner)
    (overlaps : ¬ Apart value (braced inner)) :
    ∃ front back, IsCut front ∧ '\x7b' ∉ back ∧ (∀ c ∈ front ++ back, c ∈ braced inner) ∧
      braced inner <:+: front ++ value ++ back := by
  have unopened (part : List Char) (some : part ≠ []) :
      '\x7b' ∉ (braced inner).drop part.length := by
    obtain ⟨c, rest, rfl⟩ := List.exists_cons_of_ne_nil some
    intro there
    have later : '\x7b' ∈ inner ++ ['\x7d'] := List.mem_of_mem_drop there
    simp [opens] at later
  simp only [Apart, not_forall, not_or, Nat.not_le] at overlaps
  obtain ⟨front, back, before, after, same, ends, begins⟩ := overlaps
  rw [List.append_assoc, List.append_assoc] at same
  rcases List.append_eq_append_iff.mp same with ⟨more, rfl, splits⟩ | ⟨cut, rfl, splits⟩
  · -- The name begins within the value.
    rcases List.append_eq_append_iff.mp splits with ⟨others, rfl, -⟩ | ⟨part, rfl, reaches⟩
    · simp only [List.length_append] at begins
      omega
    have some : part ≠ [] := by
      rintro rfl
      simp at begins
    refine ⟨[], (braced inner).drop part.length, .inl rfl, unopened part some,
      fun c there => List.mem_of_mem_drop (by simpa using there), ?_⟩
    rw [List.nil_append, List.append_assoc]
    exact (prefix_of_append_eq reaches.symm).isInfix.trans (List.suffix_append _ _).isInfix
  · -- The name begins before the value.
    rw [← List.append_assoc] at splits
    have whole := prefix_of_append_eq splits.symm
    have short : cut.length < (braced inner).length := by
      rw [List.length_append] at ends
      omega
    have some : cut ++ value ≠ [] := by
      intro none
      have length := congrArg List.length none
      rw [List.length_append] at begins
      simp only [List.length_append, List.length_nil] at length
      omega
    have beginning : cut <+: braced inner := by
      rw [List.append_assoc] at splits
      rcases List.append_eq_append_iff.mp splits with ⟨more, rfl, -⟩ | ⟨more, same, -⟩
      · rw [List.length_append] at short
        omega
      · exact ⟨more, same.symm⟩
    refine ⟨cut, (braced inner).drop (cut ++ value).length, ?_, unopened _ some, ?_, whole.isInfix⟩
    · cases cut with
      | nil => exact .inl rfl
      | cons c cut =>
        obtain ⟨rfl, behind⟩ := List.cons_prefix_cons.mp beginning
        rcases List.prefix_concat_iff.mp behind with rfl | inside
        · simp [braced] at short
        · exact .inr ⟨cut, rfl, mt (inside.subset ·) opens, mt (inside.subset ·) closes⟩
    · intro c there
      rcases List.mem_append.mp there with early | late
      · exact beginning.subset early
      · exact List.mem_of_mem_drop late

section Surrounded

variable (cut : IsCut front) (unopened : '\x7b' ∉ back) (opens : '\x7b' ∉ other)
include unopened

theorem length_le_of_unopened {before after : List Char}
    (splits : back ++ [] = before ++ braced other ++ after) : back.length ≤ before.length := by
  have there : '\x7b' ∈ before ++ braced other ++ after := by simp [braced]
  rw [← splits, List.append_nil] at there
  exact absurd there unopened

theorem replaceBehind_of_unopened : replaceBehind (braced other) value 0 back = back := by
  have free (before after : List Char) (splits : back ++ [] = before ++ braced other ++ after) :=
    length_le_of_unopened unopened splits
  have same : replaceBehind (braced other) value 0 (back ++ []) = _ :=
    replaceBehind_append_of_free free
  rwa [List.append_nil, replaceBehind, List.append_nil] at same

include cut opens

theorem replaceBehind_of_other (closes : '\x7d' ∉ inner) (closesOther : '\x7d' ∉ other)
    (opensInner : '\x7b' ∉ inner) (different : inner ≠ other) :
    replaceBehind (braced other) value 0 (front ++ (braced inner ++ back)) =
      front ++ (braced inner ++ back) := by
  have unlike := unlike_of_braced inner other opensInner closes closesOther different
  rw [replaceBehind_append_of_free fun before after splits => length_le_of_isCut cut opens splits,
    replaceBehind_append_of_free fun before after splits => unlike splits,
    replaceBehind_of_unopened unopened]

theorem replaceBehind_of_same :
    replaceBehind (braced other) value 0 (front ++ (braced other ++ back)) =
      front ++ (value ++ back) := by
  have spelled : braced other ≠ [] := List.cons_ne_nil _ _
  rw [replaceBehind_append_of_free fun before after splits => length_le_of_isCut cut opens splits,
    replaceBehind_append_self spelled, replaceBehind_of_unopened unopened]

end Surrounded

end Interference

end Text

namespace InteractorFiles

/-- No file lends a part to a name that is replaced later. -/
def Separate (files : InteractorFiles) : Prop :=
  files.replacements.Pairwise fun earlier later => Text.Apart earlier.2.toList later.1.toList

def argument (files : InteractorFiles) (word : String) : String :=
  Text.fill files.replacements word

section Names

variable (files : InteractorFiles)

theorem replacements_named : ∀ entry ∈ files.replacements, entry.1.toList ≠ [] := by
  simp [replacements]

theorem replacements_unlike : files.replacements.Pairwise fun earlier later =>
    Text.Unlike later.1.toList earlier.1.toList := by
  simp only [replacements, List.pairwise_cons, List.mem_cons, List.not_mem_nil, or_false,
    forall_eq_or_imp, forall_eq, false_imp_iff, implies_true, List.Pairwise.nil, and_true]
  refine ⟨⟨?_, ?_⟩, ?_⟩
  · exact Text.unlike_of_braced "output_file".toList "input_file".toList (by decide) (by decide)
      (by decide) (by decide)
  · exact Text.unlike_of_braced "answer_file".toList "input_file".toList (by decide) (by decide)
      (by decide) (by decide)
  · exact Text.unlike_of_braced "answer_file".toList "output_file".toList (by decide) (by decide)
      (by decide) (by decide)

variable {files} in
theorem expand_eq_argument (separate : files.Separate) (word : String) :
    files.expand word = files.argument word := by
  have together := Text.foldl_replaceAll [] files.replacements files.replacements_named separate
    files.replacements_unlike word
  rwa [Text.fill_nil] at together

end Names

section Necessity

def Misreads (files : InteractorFiles) (template : String) : Prop :=
  files.arguments template ≠ (Text.words template).map files.argument

variable {files : InteractorFiles} {front back : List Char}

theorem replacements_braced : ∀ entry ∈ files.replacements, ∃ inner : List Char,
    entry.1.toList = Text.braced inner ∧ '\x7b' ∉ inner ∧ '\x7d' ∉ inner ∧
      ∀ c ∈ entry.1.toList, Character.isBlank c = false := by
  simp only [replacements, List.forall_mem_cons, List.not_mem_nil, false_imp_iff, implies_true,
    and_true]
  refine ⟨⟨"input_file".toList, rfl, ?_⟩, ⟨"output_file".toList, rfl, ?_⟩,
    ⟨"answer_file".toList, rfl, ?_⟩⟩ <;> simp <;> decide

theorem begins?_replacements {entry : String × String} (listed : entry ∈ files.replacements)
    (rest : List Char) :
    Text.begins? files.replacements (entry.1.toList ++ rest) = some entry := by
  simp only [replacements, List.mem_cons, List.not_mem_nil, or_false] at listed
  rcases listed with rfl | rfl | rfl <;> simp [Text.begins?, replacements]

theorem argument_of_surrounded {entry : String × String} (listed : entry ∈ files.replacements)
    (cut : Text.IsCut front) (unopened : '\x7b' ∉ back) :
    files.argument (String.ofList (front ++ (entry.1.toList ++ back))) =
      String.ofList (front ++ (entry.2.toList ++ back)) := by
  obtain ⟨inner, name, -⟩ := replacements_braced entry listed
  have freeFront : ∀ other ∈ files.replacements, ∀ before after,
      front ++ (entry.1.toList ++ back) = before ++ other.1.toList ++ after →
      front.length ≤ before.length := by
    intro other listed before after splits
    obtain ⟨inside, same, opens, -⟩ := replacements_braced other listed
    rw [name, same] at splits
    exact Text.length_le_of_isCut cut opens splits
  have freeBack : ∀ other ∈ files.replacements, ∀ before after,
      back ++ [] = before ++ other.1.toList ++ after → back.length ≤ before.length := by
    intro other listed before after splits
    obtain ⟨inside, same, -⟩ := replacements_braced other listed
    rw [same] at splits
    exact Text.length_le_of_unopened unopened splits
  have kept : Text.fillBehind files.replacements 0 back = back := by
    have same := Text.fillBehind_append_of_free freeBack
    rwa [List.append_nil, Text.fillBehind, List.append_nil] at same
  rw [argument, Text.fill, String.toList_ofList, Text.fillBehind_append_of_free freeFront,
    Text.fillBehind_of_begins (replacements_named files entry listed) rfl
      (begins?_replacements listed back), kept]

theorem misreads_of_shorter {word : List Char} (some : word ≠ [])
    (seen : ∀ c ∈ word, Character.isBlank c = false)
    (shorter : (files.expand (String.ofList word)).toList.length <
      (files.argument (String.ofList word)).toList.length) :
    files.Misreads (String.ofList word) := by
  have alone : Text.words (String.ofList word) = [String.ofList word] := by
    rw [Text.words, String.toList_ofList, splitAt_of_plain seen]
    simp [some]
  rw [Misreads, arguments, alone]
  intro same
  rw [(List.cons.inj same).1] at shorter
  exact Nat.lt_irrefl _ shorter

theorem foldl_replaceAll_of_others {entry : String × String} {before : List (String × String)}
    (listed : ∀ other ∈ before, other ∈ files.replacements) (named : entry ∈ files.replacements)
    (distinct : ∀ other ∈ before, other.1 ≠ entry.1) (cut : Text.IsCut front)
    (unopened : '\x7b' ∉ back) :
    before.foldl (fun text (name, file) => Text.replaceAll name file text)
      (String.ofList (front ++ (entry.1.toList ++ back))) =
        String.ofList (front ++ (entry.1.toList ++ back)) := by
  induction before with
  | nil => rfl
  | cons other before ih =>
    rw [List.forall_mem_cons] at listed distinct
    obtain ⟨inner, name, opens, closes, -⟩ := replacements_braced entry named
    obtain ⟨inside, same, opensOther, closesOther, -⟩ := replacements_braced other listed.1
    have different : inner ≠ inside := by
      rintro rfl
      exact distinct.1 (String.toList_inj.mp (same.trans name.symm))
    have unchanged : Text.replaceAll other.1 other.2
        (String.ofList (front ++ (entry.1.toList ++ back))) =
          String.ofList (front ++ (entry.1.toList ++ back)) := by
      rw [Text.replaceAll, String.toList_ofList, name, same,
        Text.replaceBehind_of_other cut unopened opensOther closes closesOther opens different]
    rw [List.foldl_cons]
    change before.foldl _ (Text.replaceAll other.1 other.2 _) = _
    rw [unchanged]
    exact ih listed.2 distinct.2

/-- A file that lends a part to a later name is misread in some template, if all that is put in
later is shorter than its name. -/
theorem exists_misread_of_overlap {before after : List (String × String)}
    {entry later : String × String} (order : files.replacements = before ++ entry :: after)
    (small : ∀ other ∈ after, other.2.toList.length < other.1.toList.length)
    (listed : later ∈ after) (overlaps : ¬ Text.Apart entry.2.toList later.1.toList) :
    ∃ template, files.Misreads template := by
  have here : entry ∈ files.replacements := by simp [order]
  have there : later ∈ files.replacements := by simp [order, listed]
  have names : files.replacements.Pairwise fun earlier later => earlier.1 ≠ later.1 := by
    simp [replacements]
  have distinct (other : String × String) (first : other ∈ before) : other.1 ≠ entry.1 :=
    (List.pairwise_append.mp (order ▸ names)).2.2 other first entry List.mem_cons_self
  obtain ⟨inner, name, opens, closes, seenName⟩ := replacements_braced later there
  obtain ⟨inside, own, opensOwn, -, seenOwn⟩ := replacements_braced entry here
  rw [name] at overlaps
  obtain ⟨front, back, cut, unopened, within, occurs⟩ :=
    Text.exists_surroundings opens closes overlaps
  refine ⟨String.ofList (front ++ (entry.1.toList ++ back)), misreads_of_shorter ?_ ?_ ?_⟩
  · simp [own, Text.braced]
  · intro c mem
    have around : c ∈ front ++ back → Character.isBlank c = false := fun outside =>
      seenName c (name ▸ within c outside)
    simp only [List.mem_append] at mem around
    rcases mem with early | mid | late
    · exact around (.inl early)
    · exact seenOwn c mid
    · exact around (.inr late)
  · have filled : Text.replaceAll entry.1 entry.2
        (String.ofList (front ++ (entry.1.toList ++ back))) =
          String.ofList (front ++ (entry.2.toList ++ back)) := by
      rw [Text.replaceAll, String.toList_ofList, own,
        Text.replaceBehind_of_same cut unopened opensOwn]
    have first (other : String × String) (early : other ∈ before) : other ∈ files.replacements := by
      simp [order, early]
    rw [argument_of_surrounded here cut unopened, expand, order, List.foldl_append,
      foldl_replaceAll_of_others first here distinct cut unopened, List.foldl_cons]
    change (after.foldl _ (Text.replaceAll entry.1 entry.2 _)).toList.length < _
    rw [filled]
    refine Text.length_foldl_replaceAll_lt small ⟨later, listed, ?_⟩
    rw [name, String.toList_ofList, ← List.append_assoc]
    exact occurs

/-- That files are separate is not too much to ask for: a path that is not so is misread in some
template, even beside paths that lend nothing to any name. -/
theorem exists_misread (files : InteractorFiles) (mixed : ¬ files.Separate) :
    (∃ template, (⟨files.input, "/", "/"⟩ : InteractorFiles).Misreads template) ∨
      ∃ template, (⟨"/", files.output, "/"⟩ : InteractorFiles).Misreads template := by
  let behind : List (String × String) :=
    [("\x7boutput_file\x7d", "/"), ("\x7banswer_file\x7d", "/")]
  have small : ∀ other ∈ behind, other.2.toList.length < other.1.toList.length := by decide
  have first : (⟨files.input, "/", "/"⟩ : InteractorFiles).replacements =
      [] ++ ("\x7binput_file\x7d", files.input) :: behind := rfl
  have second : (⟨"/", files.output, "/"⟩ : InteractorFiles).replacements =
      [("\x7binput_file\x7d", "/")] ++ ("\x7boutput_file\x7d", files.output) ::
        [("\x7banswer_file\x7d", "/")] := rfl
  have parts : files.Separate ↔ (Text.Apart files.input.toList "\x7boutput_file\x7d".toList ∧
      Text.Apart files.input.toList "\x7banswer_file\x7d".toList) ∧
        Text.Apart files.output.toList "\x7banswer_file\x7d".toList := by
    simp [Separate, replacements]
  rw [parts, not_and_or, not_and_or] at mixed
  rcases mixed with (overlaps | overlaps) | overlaps
  · have listed : ("\x7boutput_file\x7d", "/") ∈ behind := List.mem_cons_self
    exact .inl (exists_misread_of_overlap first small listed overlaps)
  · have listed : ("\x7banswer_file\x7d", "/") ∈ behind :=
      List.mem_cons_of_mem _ List.mem_cons_self
    exact .inl (exists_misread_of_overlap first small listed overlaps)
  · have listed : ("\x7banswer_file\x7d", "/") ∈ [("\x7banswer_file\x7d", "/")] :=
      List.mem_singleton.mpr rfl
    exact .inr (exists_misread_of_overlap second (by decide) listed overlaps)

end Necessity

/-- There is one argument for each word of a template, and it is the word with the files put in at
once, unless the path of a file lends a part to a name that is replaced later. Only such a path is
misread. -/
theorem arguments_fill_words (files : InteractorFiles) :
    (∀ template, ∃ words, Text.Spaced template.toList words ∧
      (files.arguments template).length = words.length ∧
      (files.Separate → files.arguments template = words.map files.argument)) ∧
    (¬ files.Separate →
      (∃ template, (⟨files.input, "/", "/"⟩ : InteractorFiles).Misreads template) ∨
        ∃ template, (⟨"/", files.output, "/"⟩ : InteractorFiles).Misreads template) := by
  refine ⟨fun template => ?_, files.exists_misread⟩
  refine ⟨Text.words template, Text.spaced_words template, List.length_map .., ?_⟩
  intro separate
  exact List.map_congr_left fun word _ => expand_eq_argument separate word

end InteractorFiles

namespace Sample

def crowdedTemplate : String :=
  "--in=\x7binput_file\x7d\x7binput_file\x7d \t \x7b\x7banswer_file\x7d\x7d"

def blankInPath : InteractorFiles := ⟨"/data/my case.in", "/dev/null", "/tmp/answer"⟩

/-- A path with a blank stays whole wherever it is put. -/
theorem crowded_filled : blankInPath.Separate ∧
    ∃ words, Text.Spaced crowdedTemplate.toList words ∧
      blankInPath.arguments crowdedTemplate = words.map blankInPath.argument := by
  have separate : blankInPath.Separate := by
    simp only [InteractorFiles.Separate, InteractorFiles.replacements, List.pairwise_cons,
      List.forall_mem_cons, List.not_mem_nil, false_imp_iff, implies_true, and_true,
      List.Pairwise.nil]
    have slash (inner : List Char) (foreign : '/' ∉ Text.braced inner) :
        Text.Apart "/data/my case.in".toList (Text.braced inner) ∧
          Text.Apart "/dev/null".toList (Text.braced inner) :=
      ⟨Text.apart_of_unbraced inner (by decide) (by decide) (by decide) foreign,
        Text.apart_of_unbraced inner (by decide) (by decide) (by decide) foreign⟩
    have output := slash "output_file".toList (by decide)
    have answer := slash "answer_file".toList (by decide)
    exact ⟨⟨output.1, answer.1⟩, answer.2⟩
  obtain ⟨words, spaced, -, filled⟩ := (blankInPath.arguments_fill_words).1 crowdedTemplate
  exact ⟨separate, words, spaced, filled separate⟩

def nameInPath : InteractorFiles :=
  ⟨"/data/\x7banswer_file\x7d.in", "/dev/null", "/tmp/answer"⟩

/-- A name in a path is taken for a name in the template. -/
theorem name_in_path_replaced :
    nameInPath.arguments "\x7binput_file\x7d" = ["/data//tmp/answer.in"] ∧
    (Text.words "\x7binput_file\x7d").map nameInPath.argument =
      ["/data/\x7banswer_file\x7d.in"] := by decide +kernel

end Sample
end ContestJudge
