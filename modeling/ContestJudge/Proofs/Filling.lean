import ContestJudge.Judge.Arguments
import ContestJudge.Proofs.Splitting
import Mathlib.Data.List.Basic
/-!
Values put in place of names: one after the other, as a text is filled in, and all at once, in one
pass in which nothing that came from a value is looked at again. The two agree where no value lends
a part to a name that is replaced later.
-/

namespace ContestJudge

namespace Text

inductive Spaced : List Char → List String → Prop where
  | blank {blanks : List Char} (unseen : ∀ c ∈ blanks, Character.isBlank c = true) :
      Spaced blanks []
  | word {blanks rest : List Char} {word : String} {words : List String}
      (unseen : ∀ c ∈ blanks, Character.isBlank c = true) (some : word ≠ "")
      (seen : ∀ c ∈ word.toList, Character.isBlank c = false)
      (ends : ∀ c ∈ rest.head?, Character.isBlank c = true) (later : Spaced rest words) :
      Spaced (blanks ++ word.toList ++ rest) (word :: words)

def begins? (values : List (String × String)) (text : List Char) : Option (String × String) :=
  values.find? fun entry => entry.1.toList.isPrefixOf text

/-- Puts values in place of names in one pass from left to right, behind some characters that are
skipped. -/
def fillBehind (values : List (String × String)) : Nat → List Char → List Char
  | _, [] => []
  | skipped + 1, _ :: rest => fillBehind values skipped rest
  | 0, c :: rest =>
    match begins? values (c :: rest) with
    | some (name, value) =>
      value.toList ++ fillBehind values (name.toList.length - 1) rest
    | none => c :: fillBehind values 0 rest

/-- A text with values in place of the names in it. What a value says is not looked at. -/
def fill (values : List (String × String)) (text : String) : String :=
  String.ofList (fillBehind values 0 text.toList)

/-- Wherever a value stands, no part of it belongs to a name. -/
def Apart (value name : List Char) : Prop :=
  ∀ ⦃front back before after : List Char⦄, front ++ value ++ back = before ++ name ++ after →
    before.length + name.length ≤ front.length ∨ front.length + value.length ≤ before.length

/-- Whatever follows a name, another name does not begin within it. -/
def Unlike (name other : List Char) : Prop :=
  ∀ ⦃rest before after : List Char⦄, name ++ rest = before ++ other ++ after →
    name.length ≤ before.length

section Words

theorem Spaced.cons_blank {c : Char} {text : List Char} {words : List String}
    (blank : Character.isBlank c = true) (spaced : Spaced text words) :
    Spaced (c :: text) words := by
  cases spaced with
  | blank unseen => exact .blank (List.forall_mem_cons.mpr ⟨blank, unseen⟩)
  | word unseen some seen ends later =>
    exact .word (List.forall_mem_cons.mpr ⟨blank, unseen⟩) some seen ends later

theorem spaced_words (template : String) : Spaced template.toList (words template) := by
  unfold words
  generalize template.toList = text
  induction text using run_induction Character.isBlank with
  | alone text plain =>
    rw [splitAt_of_plain plain]
    cases text with
    | nil => exact .blank nofun
    | cons c rest =>
      have spaced : Spaced ([] ++ (String.ofList (c :: rest)).toList ++ [])
          [String.ofList (c :: rest)] :=
        .word nofun (by simp) (by simpa using plain) nofun (.blank nofun)
      simpa using spaced
  | ahead front separator back plain separates ih =>
    have later := ih.cons_blank separates
    rw [splitAt_append Character.isBlank separates, splitAt_of_plain plain]
    cases front with
    | nil => exact later
    | cons c rest =>
      have ends : ∀ c ∈ (separator :: back).head?, Character.isBlank c = true := by
        simpa using separates
      have spaced : Spaced ([] ++ (String.ofList (c :: rest)).toList ++ separator :: back) _ :=
        .word nofun (by simp) (by simpa using plain) ends later
      simpa using spaced

end Words

section Filling

variable {values : List (String × String)} {name value : List Char}

theorem fillBehind_eq_drop (skipped : Nat) (text : List Char) :
    fillBehind values skipped text = fillBehind values 0 (text.drop skipped) := by
  induction skipped generalizing text with
  | zero => rfl
  | succ skipped ih =>
    cases text with
    | nil => rfl
    | cons c rest => exact ih rest

theorem begins?_append (values others : List (String × String)) (text : List Char) :
    begins? (values ++ others) text = (begins? values text).or (begins? others text) :=
  List.find?_append

theorem exists_of_begins {text : List Char} {entry : String × String}
    (begins : begins? values text = some entry) :
    entry ∈ values ∧ ∃ rest, text = entry.1.toList ++ rest := by
  unfold begins? at begins
  have starts := List.find?_some begins
  obtain ⟨rest, splits⟩ := List.isPrefixOf_iff_prefix.mp starts
  exact ⟨List.mem_of_find?_eq_some begins, rest, splits.symm⟩

theorem fillBehind_of_begins {text rest : List Char} {name value : String}
    (spelled : name.toList ≠ []) (splits : text = name.toList ++ rest)
    (begins : begins? values text = some (name, value)) :
    fillBehind values 0 text = value.toList ++ fillBehind values 0 rest := by
  obtain ⟨c, others, same⟩ := List.exists_cons_of_ne_nil spelled
  rw [same, List.cons_append] at splits
  rw [splits] at begins ⊢
  simp only [fillBehind, begins]
  rw [fillBehind_eq_drop, same]
  simp

theorem fillBehind_of_plain {c : Char} {rest : List Char}
    (plain : begins? values (c :: rest) = none) :
    fillBehind values 0 (c :: rest) = c :: fillBehind values 0 rest := by
  simp only [fillBehind, plain]

theorem fillBehind_append_of_free {text rest : List Char}
    (free : ∀ entry ∈ values, ∀ before after,
      text ++ rest = before ++ entry.1.toList ++ after → text.length ≤ before.length) :
    fillBehind values 0 (text ++ rest) = text ++ fillBehind values 0 rest := by
  induction text with
  | nil => rfl
  | cons c text ih =>
    have plain : begins? values (c :: (text ++ rest)) = none := by
      rw [begins?, List.find?_eq_none]
      intro entry listed starts
      obtain ⟨after, starts⟩ := List.isPrefixOf_iff_prefix.mp starts
      have late := free entry listed [] after starts.symm
      simp at late
    rw [List.cons_append, fillBehind_of_plain plain, ih, List.cons_append]
    intro entry listed before after splits
    have late := free entry listed (c :: before) after (congrArg (c :: ·) splits)
    simpa using late

section OneName

/-- To replace a name is to fill a text with its value alone. -/
theorem replaceBehind_eq_fillBehind (skipped : Nat) (text : List Char) :
    replaceBehind name value skipped text =
      fillBehind [(String.ofList name, String.ofList value)] skipped text := by
  induction text generalizing skipped with
  | nil => cases skipped <;> rfl
  | cons c rest ih =>
    cases skipped with
    | succ skipped => exact ih skipped
    | zero =>
      by_cases starts : name.isPrefixOf (c :: rest) <;>
        simp [replaceBehind, fillBehind, begins?, starts, ih]

theorem replaceBehind_eq_drop (skipped : Nat) (text : List Char) :
    replaceBehind name value skipped text = replaceBehind name value 0 (text.drop skipped) := by
  rw [replaceBehind_eq_fillBehind, fillBehind_eq_drop, replaceBehind_eq_fillBehind]

theorem replaceBehind_append_self (spelled : name ≠ []) (rest : List Char) :
    replaceBehind name value 0 (name ++ rest) = value ++ replaceBehind name value 0 rest := by
  have begins : begins? [(String.ofList name, String.ofList value)] (name ++ rest) =
      some (String.ofList name, String.ofList value) := by
    simp [begins?]
  have named : (String.ofList name).toList ≠ [] := by simpa using spelled
  have splits : name ++ rest = (String.ofList name).toList ++ rest := by
    rw [String.toList_ofList]
  rw [replaceBehind_eq_fillBehind, fillBehind_of_begins named splits begins, String.toList_ofList,
    replaceBehind_eq_fillBehind]

theorem replaceBehind_cons_of_no_start {c : Char} {rest : List Char}
    (other : ¬ name <+: c :: rest) :
    replaceBehind name value 0 (c :: rest) = c :: replaceBehind name value 0 rest := by
  have plain : begins? [(String.ofList name, String.ofList value)] (c :: rest) = none := by
    simpa [begins?] using other
  rw [replaceBehind_eq_fillBehind, fillBehind_of_plain plain, replaceBehind_eq_fillBehind]

theorem replaceBehind_append_of_free {text rest : List Char}
    (free : ∀ before after, text ++ rest = before ++ name ++ after → text.length ≤ before.length) :
    replaceBehind name value 0 (text ++ rest) = text ++ replaceBehind name value 0 rest := by
  rw [replaceBehind_eq_fillBehind, replaceBehind_eq_fillBehind]
  apply fillBehind_append_of_free
  simpa using free

end OneName

/-- What a filled text starts with stood there before, or reaches into a value. -/
theorem prefix_or_reaches {start text : List Char} (named : ∀ entry ∈ values, entry.1.toList ≠ [])
    (starts : start <+: fillBehind values 0 text) :
    start <+: text ∨ ∃ entry ∈ values, ∃ front rest,
      fillBehind values 0 text = front ++ entry.2.toList ++ rest ∧ front.length < start.length := by
  induction start generalizing text with
  | nil => exact .inl List.nil_prefix
  | cons a start ih =>
    cases text with
    | nil => exact .inl starts
    | cons c text =>
      cases begins : begins? values (c :: text) with
      | some entry =>
        obtain ⟨listed, rest, splits⟩ := exists_of_begins begins
        have fills := fillBehind_of_begins (named entry listed) splits begins
        exact .inr ⟨entry, listed, [], _, fills, Nat.zero_lt_succ _⟩
      | none =>
        rw [fillBehind_of_plain begins] at starts ⊢
        obtain ⟨rfl, begun⟩ := List.cons_prefix_cons.mp starts
        rcases ih begun with there | ⟨entry, listed, front, rest, fills, reaches⟩
        · exact .inl (List.cons_prefix_cons.mpr ⟨rfl, there⟩)
        · refine .inr ⟨entry, listed, a :: front, rest, ?_, Nat.succ_lt_succ reaches⟩
          rw [fills]
          rfl

/-- One more name is replaced afterwards as well as at once, if no value and no other name lends a
part to it. -/
theorem replaceBehind_fillBehind {last given : String} (spelled : last.toList ≠ [])
    (named : ∀ entry ∈ values, entry.1.toList ≠ [])
    (apart : ∀ entry ∈ values, Apart entry.2.toList last.toList)
    (unlike : ∀ entry ∈ values, Unlike last.toList entry.1.toList) (text : List Char) :
    replaceBehind last.toList given.toList 0 (fillBehind values 0 text) =
      fillBehind (values ++ [(last, given)]) 0 text := by
  induction size : text.length using Nat.strongRecOn generalizing text with
  | ind length ih
  subst size
  cases text with
  | nil => rfl
  | cons c rest =>
    cases begins : begins? values (c :: rest) with
    | some entry =>
      -- A name that was filled in before: nothing of its value is replaced.
      obtain ⟨listed, later, splits⟩ := exists_of_begins begins
      have shorter : later.length < (c :: rest).length := by
        have lengths := congrArg List.length splits
        have positive := List.length_pos_iff.mpr (named entry listed)
        rw [List.length_append] at lengths
        omega
      have again : begins? (values ++ [(last, given)]) (c :: rest) = some entry := by
        rw [begins?_append, begins]
        rfl
      have free (before after : List Char)
          (occurs : entry.2.toList ++ fillBehind values 0 later = before ++ last.toList ++ after) :
          entry.2.toList.length ≤ before.length := by
        rw [← List.nil_append (entry.2.toList)] at occurs
        rcases apart entry listed occurs with early | late
        · have positive := List.length_pos_iff.mpr spelled
          rw [List.length_nil] at early
          omega
        · rwa [List.length_nil, Nat.zero_add] at late
      rw [fillBehind_of_begins (named entry listed) splits begins,
        fillBehind_of_begins (named entry listed) splits again,
        replaceBehind_append_of_free free, ih _ shorter later rfl]
    | none =>
      have still : begins? (values ++ [(last, given)]) (c :: rest) =
          begins? [(last, given)] (c :: rest) := by
        rw [begins?_append, begins]
        rfl
      by_cases starts : last.toList <+: c :: rest
      · -- The name itself stands here, and no other name begins in it.
        obtain ⟨later, splits⟩ := starts
        have shorter : later.length < (c :: rest).length := by
          have lengths := congrArg List.length splits
          have positive := List.length_pos_iff.mpr spelled
          rw [List.length_append] at lengths
          omega
        have found : begins? (values ++ [(last, given)]) (c :: rest) = some (last, given) := by
          rw [still, begins?, List.find?_cons_of_pos]
          exact List.isPrefixOf_iff_prefix.mpr ⟨later, splits⟩
        rw [fillBehind_of_begins spelled splits.symm found, ← splits,
          fillBehind_append_of_free fun entry listed before after occurs =>
            unlike entry listed occurs,
          replaceBehind_append_self spelled, ih _ shorter later rfl]
      · -- A character of its own: the name does not begin with it once values stand behind it.
        have unfound : begins? (values ++ [(last, given)]) (c :: rest) = none := by
          rw [still, begins?, List.find?_eq_none]
          rintro entry listed
          obtain rfl := List.mem_singleton.mp listed
          exact mt List.isPrefixOf_iff_prefix.mp starts
        have unfilled : ¬ last.toList <+: c :: fillBehind values 0 rest := by
          rintro ⟨after, occurs⟩
          obtain ⟨a, others, same⟩ := List.exists_cons_of_ne_nil spelled
          have begun : a :: others <+: c :: fillBehind values 0 rest := ⟨after, same ▸ occurs⟩
          obtain ⟨rfl, behind⟩ := List.cons_prefix_cons.mp begun
          rcases prefix_or_reaches named behind with
            there | ⟨entry, listed, front, back, fills, reaches⟩
          · exact starts (same ▸ List.cons_prefix_cons.mpr ⟨rfl, there⟩)
          · have overlaps :
                (a :: front) ++ entry.2.toList ++ back = [] ++ last.toList ++ after := by
              rw [List.nil_append, occurs, fills]
              rfl
            rcases apart entry listed overlaps with early | late
            · rw [same] at early
              simp only [List.length_nil, List.length_cons] at early
              omega
            · simp only [List.length_nil, List.length_cons] at late
              omega
        rw [fillBehind_of_plain begins, fillBehind_of_plain unfound,
          replaceBehind_cons_of_no_start unfilled, ih _ (Nat.lt_succ_self _) rest rfl]

theorem fill_nil (text : String) : fill [] text = text := by
  have same (text : List Char) : fillBehind [] 0 text = text := by
    induction text with
    | nil => rfl
    | cons c rest ih => rw [fillBehind_of_plain rfl, ih]
  rw [fill, same, String.ofList_toList]

/-- Values that are put in one after the other are put in at once, if none of them lends a part to a
later name. -/
theorem foldl_replaceAll (done todo : List (String × String))
    (named : ∀ entry ∈ done ++ todo, entry.1.toList ≠ [])
    (apart : (done ++ todo).Pairwise fun earlier later => Apart earlier.2.toList later.1.toList)
    (unlike : (done ++ todo).Pairwise fun earlier later => Unlike later.1.toList earlier.1.toList)
    (text : String) :
    todo.foldl (fun text (name, value) => replaceAll name value text) (fill done text) =
      fill (done ++ todo) text := by
  induction todo generalizing done with
  | nil => rw [List.append_nil, List.foldl_nil]
  | cons entry todo ih =>
    have before {related : String × String → String × String → Prop}
        (pairwise : (done ++ entry :: todo).Pairwise related) :
        ∀ earlier ∈ done, related earlier entry := fun earlier listed =>
      (List.pairwise_append.mp pairwise).2.2 earlier listed entry List.mem_cons_self
    have steps : replaceAll entry.1 entry.2 (fill done text) = fill (done ++ [entry]) text := by
      rw [replaceAll, fill, String.toList_ofList, fill]
      congr 1
      exact replaceBehind_fillBehind (named entry (by simp))
        (fun earlier listed => named earlier (List.mem_append_left _ listed)) (before apart)
        (before unlike) text.toList
    have regroups : done ++ entry :: todo = (done ++ [entry]) ++ todo := by simp
    rw [regroups] at named apart unlike ⊢
    rw [List.foldl_cons]
    change todo.foldl _ (replaceAll entry.1 entry.2 (fill done text)) = _
    rw [steps]
    exact ih (done ++ [entry]) named apart unlike

end Filling

section Braces

def braced (inner : List Char) : List Char := '\x7b' :: (inner ++ ['\x7d'])

variable {inner value : List Char}

theorem takeWhile_of_closed (closes : '\x7d' ∉ inner) (rest : List Char) :
    (inner ++ '\x7d' :: rest).takeWhile (· ≠ '\x7d') = inner := by
  have unclosed : ∀ c ∈ inner, decide (c ≠ '\x7d') = true := by
    intro c there
    exact decide_eq_true fun same => closes (same ▸ there)
  rw [List.takeWhile_append_of_pos unclosed]
  simp

theorem unlike_of_braced (inner other : List Char) (opens : '\x7b' ∉ inner)
    (closes : '\x7d' ∉ inner) (closesOther : '\x7d' ∉ other) (different : inner ≠ other) :
    Unlike (braced inner) (braced other) := by
  intro rest before after splits
  cases before with
  | nil =>
    simp only [braced, List.nil_append, List.cons_append, List.append_assoc, List.cons.injEq,
      true_and] at splits
    have same := congrArg (List.takeWhile (· ≠ '\x7d')) splits
    rw [takeWhile_of_closed closes, takeWhile_of_closed closesOther] at same
    exact absurd same different
  | cons first before =>
    by_contra within
    have brace : ((first :: before) ++ braced other ++ after)[(first :: before).length]? =
        some '\x7b' := by simp [braced]
    rw [← splits, List.getElem?_append_left (Nat.not_le.mp within)] at brace
    have inside : (inner ++ ['\x7d'])[before.length]? = some '\x7b' := by simpa [braced] using brace
    simpa [opens] using List.mem_of_getElem? inside

theorem mem_of_getElem?_middle {front middle back : List Char} {i : Nat} {c : Char}
    (low : front.length ≤ i) (high : i < front.length + middle.length)
    (found : (front ++ middle ++ back)[i]? = some c) : c ∈ middle := by
  rw [List.append_assoc, List.getElem?_append_right low,
    List.getElem?_append_left (by omega)] at found
  exact List.mem_of_getElem? found

/-- A value without braces in which something stands that a name does not have is apart from it. -/
theorem apart_of_unbraced (inner : List Char) (opens : '\x7b' ∉ value) (closes : '\x7d' ∉ value)
    {c : Char} (there : c ∈ value) (foreign : c ∉ braced inner) : Apart value (braced inner) := by
  intro front back before after splits
  by_contra overlaps
  rw [not_or, Nat.not_le, Nat.not_le] at overlaps
  obtain ⟨ends, begins⟩ := overlaps
  have length : (braced inner).length = inner.length + 2 := by simp [braced]
  by_cases opened : front.length ≤ before.length
  · have brace : (before ++ braced inner ++ after)[before.length]? = some '\x7b' := by
      simp [braced]
    rw [← splits] at brace
    exact opens (mem_of_getElem?_middle opened begins brace)
  by_cases closed : before.length + (braced inner).length ≤ front.length + value.length
  · have brace : (before ++ braced inner ++ after)[before.length + (inner.length + 1)]? =
        some '\x7d' := by
      simp [braced, Nat.add_assoc]
    rw [← splits] at brace
    exact closes (mem_of_getElem?_middle (by omega) (by omega) brace)
  · obtain ⟨i, found⟩ := List.getElem?_of_mem there
    have bound := (List.getElem?_eq_some_iff.mp found).1
    have here : (front ++ value ++ back)[front.length + i]? = some c := by
      rw [List.append_assoc, List.getElem?_append_right (Nat.le_add_right _ _),
        Nat.add_sub_cancel_left, List.getElem?_append_left bound, found]
    rw [splits] at here
    exact foreign (mem_of_getElem?_middle (by omega) (by omega) here)

end Braces

end Text
end ContestJudge
