import ContestJudge.Proofs.Splitting
import Mathlib.Data.List.DropRight
import Mathlib.Data.List.Induction
/-!
The tokens of a byte string and the blanks around them. Outputs have the same tokens exactly if
they are the same once their blanks are evened out; a token that is broken or changed shows.
-/

namespace ContestJudge

def AllBlank (run : Bytes) : Prop := ∀ b ∈ run, isBlankByte b

instance decidableAllBlank : DecidablePred AllBlank :=
  fun run => List.decidableBAll (isBlankByte · = true) run

/-- One space for each run of blank bytes: the last byte of a run stands for all of it. -/
def spaceRuns : Bytes → Bytes
  | [] => []
  | b :: rest =>
    if isBlankByte b then
      if rest.head?.any isBlankByte then spaceRuns rest else 32 :: spaceRuns rest
    else b :: spaceRuns rest

/-- A byte string without blank bytes at its ends, and with one space for each run of them in
between. -/
def evenlySpaced (data : Bytes) : Bytes :=
  spaceRuns ((data.dropWhile isBlankByte).rdropWhile isBlankByte)

example : evenlySpaced [32, 49, 9, 13, 10, 50, 32, 51, 10] = [49, 32, 50, 32, 51] := by decide

section Tokens

variable {b c : UInt8}

@[simp] theorem tokens_nil : tokens [] = [] := rfl

theorem tokens_append_blank (blank : isBlankByte b) (front back : Bytes) :
    tokens (front ++ b :: back) = tokens front ++ tokens back := by
  simp [tokens, splitAt_append isBlankByte blank]

@[simp] theorem tokens_cons_blank (blank : isBlankByte b) (rest : Bytes) :
    tokens (b :: rest) = tokens rest := tokens_append_blank blank [] rest

theorem tokens_singleton (plain : isBlankByte b = false) : tokens [b] = [[b]] := by
  have single : splitAt isBlankByte [b] = [[b]] := splitAt_of_plain (by simpa using plain)
  simp [tokens, single]

/-- A byte that is not blank is a token of its own before a blank one, and otherwise goes to the
token behind it. -/
theorem tokens_cons_plain (plain : isBlankByte b = false) (rest : Bytes) :
    tokens (b :: rest) =
      if rest.head?.all isBlankByte then [b] :: tokens rest
      else (tokens rest).modifyHead (b :: ·) := by
  cases rest with
  | nil => simp [tokens_singleton plain]
  | cons c rest =>
    cases next : isBlankByte c with
    | true =>
      have apart : tokens ([b] ++ c :: rest) = tokens [b] ++ tokens rest :=
        tokens_append_blank next [b] rest
      simpa [next, tokens_singleton plain] using apart
    | false =>
      have some : splitAt isBlankByte rest ≠ [] := splitAt_ne_nil rest
      obtain ⟨run, runs, found⟩ := List.exists_cons_of_ne_nil some
      simp [next, tokens, splitAt_cons_of_plain, plain, found]

theorem tokens_ne_nil (plain : isBlankByte b = false) (rest : Bytes) :
    tokens (b :: rest) ≠ [] := by
  induction rest generalizing b with
  | nil => simp [tokens_singleton plain]
  | cons c rest ih =>
    rw [tokens_cons_plain plain]
    cases next : isBlankByte c with
    | true => simp [next]
    | false => simp [next, ih next]

theorem length_tokens_cons (plain : isBlankByte b = false) (rest : Bytes) :
    (tokens (b :: rest)).length =
      (if rest.head?.all isBlankByte then 1 else 0) + (tokens rest).length := by
  rw [tokens_cons_plain plain]
  split
  · simp [Nat.add_comm]
  · simp

end Tokens

section Damage

variable {b c : UInt8}

theorem flatten_tokens (data : Bytes) :
    (tokens data).flatten = data.filter fun b => !isBlankByte b := by
  induction data with
  | nil => rfl
  | cons b rest ih =>
    cases blank : isBlankByte b with
    | true => simp [blank, ih]
    | false =>
      rw [tokens_cons_plain blank]
      cases rest with
      | nil => simp [blank]
      | cons c rest =>
        cases next : isBlankByte c with
        | true => simp [blank, next, ← ih]
        | false =>
          obtain ⟨first, others, found⟩ := List.exists_cons_of_ne_nil (tokens_ne_nil next rest)
          simp [blank, next, ← ih, found]

theorem tokens_ne_of_changed (plain : isBlankByte b = false) (apart : c ≠ b) (front back : Bytes) :
    tokens (front ++ b :: back) ≠ tokens (front ++ c :: back) := by
  intro same
  have visible := congrArg List.flatten same
  simp only [flatten_tokens, List.filter_append, List.append_cancel_left_eq] at visible
  cases blank : isBlankByte c with
  | true =>
    have lengths := congrArg List.length visible
    simp [plain, blank] at lengths
  | false =>
    simp only [List.filter_cons, plain, blank, Bool.not_false, if_true, List.cons.injEq] at visible
    exact apart visible.1.symm

theorem length_tokens_join (plain : isBlankByte b = false) (next : isBlankByte c = false)
    (front back : Bytes) : (tokens (front ++ [b])).length + (tokens (c :: back)).length =
      (tokens (front ++ b :: c :: back)).length + 1 := by
  induction front with
  | nil => simp [tokens_singleton plain, length_tokens_cons plain, next, Nat.add_comm]
  | cons a front ih =>
    cases blank : isBlankByte a with
    | true => simpa [blank] using ih
    | false =>
      have same : (front ++ [b]).head? = (front ++ b :: c :: back).head? := by cases front <;> rfl
      simp only [List.cons_append, length_tokens_cons blank, same]
      omega

end Damage

section Runs

variable {run : Bytes}

theorem tokens_append_run (blank : AllBlank run) (there : run ≠ []) (front back : Bytes) :
    tokens (front ++ run ++ back) = tokens front ++ tokens back := by
  induction run generalizing front with
  | nil => exact absurd rfl there
  | cons b run ih =>
    have blanks : isBlankByte b ∧ AllBlank run := List.forall_mem_cons.mp blank
    cases run with
    | nil => simp [tokens_append_blank blanks.1]
    | cons c run =>
      have later := ih blanks.2 (List.cons_ne_nil c run) (front ++ [b])
      simpa [tokens_append_blank blanks.1] using later

theorem tokens_ne_of_split {b c : UInt8} (plain : isBlankByte b = false)
    (next : isBlankByte c = false) (blank : AllBlank run) (there : run ≠ []) (front back : Bytes) :
    tokens (front ++ b :: c :: back) ≠ tokens (front ++ b :: (run ++ c :: back)) := by
  intro same
  have apart := tokens_append_run blank there (front ++ [b]) (c :: back)
  have joined := length_tokens_join plain next front back
  have split : front ++ [b] ++ run ++ c :: back = front ++ b :: (run ++ c :: back) := by simp
  rw [same, ← split, apart, List.length_append] at joined
  omega

theorem tokens_blank_append (blank : AllBlank run) (data : Bytes) :
    tokens (run ++ data) = tokens data := by
  by_cases none : run = []
  · simp [none]
  · simpa using tokens_append_run blank none [] data

theorem tokens_append_blanks (blank : AllBlank run) (data : Bytes) :
    tokens (data ++ run) = tokens data := by
  by_cases none : run = []
  · simp [none]
  · simpa using tokens_append_run blank none data []

theorem rdropWhile_append_blanks (blank : AllBlank run) (data : Bytes) :
    (data ++ run).rdropWhile isBlankByte = data.rdropWhile isBlankByte := by
  induction run using List.reverseRecOn with
  | nil => simp
  | append_singleton run b ih =>
    have blanks : isBlankByte b := blank b (by simp)
    rw [← List.append_assoc, List.rdropWhile_concat_pos _ _ _ blanks]
    exact ih fun a listed => blank a (by simp [listed])

end Runs

section Spacing

theorem tokens_dropWhile (data : Bytes) : tokens (data.dropWhile isBlankByte) = tokens data := by
  induction data with
  | nil => rfl
  | cons b rest ih => cases blank : isBlankByte b <;> simp [blank, ih]

theorem tokens_rdropWhile (data : Bytes) : tokens (data.rdropWhile isBlankByte) = tokens data := by
  induction data using List.reverseRecOn with
  | nil => rfl
  | append_singleton front b ih =>
    cases blank : isBlankByte b with
    | false => simp [blank]
    | true => simp [blank, ih, tokens_append_blank blank front []]

theorem head?_spaceRuns (data : Bytes) :
    (spaceRuns data).head?.all isBlankByte = data.head?.all isBlankByte := by
  have space : isBlankByte 32 := rfl
  induction data with
  | nil => rfl
  | cons b rest ih =>
    rw [spaceRuns]
    cases blank : isBlankByte b with
    | false => simp [blank]
    | true =>
      cases rest with
      | nil => simp [space, blank]
      | cons c rest => cases next : isBlankByte c <;> simp_all

theorem tokens_spaceRuns (data : Bytes) : tokens (spaceRuns data) = tokens data := by
  have space : isBlankByte 32 := rfl
  induction data with
  | nil => rfl
  | cons b rest ih =>
    cases blank : isBlankByte b with
    | false => simp [spaceRuns, blank, tokens_cons_plain, head?_spaceRuns, ih]
    | true =>
      simp only [spaceRuns, blank, if_true]
      split <;> simp [blank, space, ih]

theorem tokens_evenlySpaced (data : Bytes) : tokens (evenlySpaced data) = tokens data := by
  rw [evenlySpaced, tokens_spaceRuns, tokens_rdropWhile, tokens_dropWhile]

theorem head?_dropWhile (data : Bytes) :
    (data.dropWhile isBlankByte).head?.any isBlankByte = false := by
  induction data with
  | nil => rfl
  | cons b rest ih => cases blank : isBlankByte b <;> simp [blank, ih]

theorem getLast?_rdropWhile {data : Bytes} {last : UInt8}
    (found : (data.rdropWhile isBlankByte).getLast? = some last) : isBlankByte last = false := by
  have there : data.rdropWhile isBlankByte ≠ [] := by
    intro none
    simp [none] at found
  rw [List.getLast?_eq_some_getLast there, Option.some.injEq] at found
  simpa [found] using List.rdropWhile_last_not isBlankByte data there

theorem intercalate_tokens_cons {b : UInt8} (plain : isBlankByte b = false) {rest : Bytes}
    (more : tokens rest ≠ []) : [32].intercalate (tokens (b :: rest)) =
      b :: ((if rest.head?.any isBlankByte then [32] else []) ++ [32].intercalate (tokens rest)) := by
  obtain ⟨first, others, found⟩ := List.exists_cons_of_ne_nil more
  cases rest with
  | nil => simp at more
  | cons c rest =>
    cases next : isBlankByte c with
    | true =>
      rw [tokens_cons_plain plain, if_pos (by simpa using next),
        List.intercalate_cons_of_ne_nil more]
      simp [next]
    | false => cases others <;> simp [tokens_cons_plain plain, next, found]

theorem spaceRuns_eq {data : Bytes}
    (ends : ∀ last, data.getLast? = some last → isBlankByte last = false) :
    spaceRuns data =
      (if data.head?.any isBlankByte then [32] else []) ++ [32].intercalate (tokens data) := by
  induction data with
  | nil => rfl
  | cons b rest ih =>
    cases rest with
    | nil =>
      have plain : isBlankByte b = false := ends b rfl
      simp [spaceRuns, plain, tokens_singleton]
    | cons c rest =>
      have ends' : ∀ last, (c :: rest).getLast? = some last → isBlankByte last = false := ends
      rw [spaceRuns, ih ends']
      cases blank : isBlankByte b with
      | true => cases next : isBlankByte c <;> simp [blank, next]
      | false =>
        -- The last byte is not blank, so there is a token behind this one.
        have more : tokens (c :: rest) ≠ [] := by
          intro none
          have visible := flatten_tokens (c :: rest)
          rw [none, List.flatten_nil, eq_comm, List.filter_eq_nil_iff] at visible
          have last := List.getLast_mem (List.cons_ne_nil c rest)
          simpa [ends' _ (List.getLast?_eq_some_getLast _)] using visible _ last
        simp [blank, intercalate_tokens_cons blank more]

theorem evenlySpaced_eq (data : Bytes) : evenlySpaced data = [32].intercalate (tokens data) := by
  let front := data.dropWhile isBlankByte
  let trimmed := front.rdropWhile isBlankByte
  have starts : trimmed.head?.any isBlankByte = false := by
    obtain ⟨rest, whole⟩ := List.rdropWhile_prefix isBlankByte front
    cases found : trimmed with
    | nil => rfl
    | cons b others =>
      have first : front = b :: (others ++ rest) := by
        rw [← whole, ← List.cons_append, ← found]
      have plain := head?_dropWhile data
      rw [show data.dropWhile isBlankByte = front from rfl, first] at plain
      simpa using plain
  have same : tokens trimmed = tokens data := by
    simp [trimmed, front, tokens_rdropWhile, tokens_dropWhile]
  calc evenlySpaced data = spaceRuns trimmed := rfl
    _ = (if trimmed.head?.any isBlankByte then [32] else []) ++ [32].intercalate (tokens trimmed) :=
      spaceRuns_eq fun _ => getLast?_rdropWhile
    _ = [32].intercalate (tokens data) := by simp [starts, same]

/-- Outputs have the same tokens exactly if they are the same once evenly spaced. -/
theorem tokens_eq_iff (data other : Bytes) :
    tokens data = tokens other ↔ evenlySpaced data = evenlySpaced other := by
  constructor
  · intro same
    rw [evenlySpaced_eq, evenlySpaced_eq, same]
  · intro same
    rw [← tokens_evenlySpaced data, same, tokens_evenlySpaced]

end Spacing
end ContestJudge
