import ContestJudge.Adapter.Points
import ContestJudge.Proofs.Encoding
import Mathlib.Computability.Language
/-!
Patterns of bytes, read in two ways: as the language of the texts that they describe, and as a
search that tries the ways to match in an order of preference and falls back where it gets stuck.
The search leaves over exactly what stands behind a word of the language.
-/

abbrev ByteLanguage := Language UInt8

namespace ContestJudge

open scoped Computability

/-- What can be left over after a step was made any number of times. Going on comes before stopping,
and a step that takes nothing is not repeated. -/
def repeated (step : Bytes → List Bytes) (bytes : Bytes) : List Bytes :=
  ((step bytes).flatMap fun rest =>
    if rest.length < bytes.length then repeated step rest else []) ++ [bytes]
termination_by bytes.length

inductive Pattern where
  | byte (b : UInt8)
  /-- A decimal digit of some script. -/
  | digit
  | either (p q : Pattern)
  | maybe (p : Pattern)
  | many (p : Pattern)
  | follow (p q : Pattern)

namespace Pattern

def language : Pattern → ByteLanguage
  | byte b => {text | text = [b]}
  | digit => {text | ∃ c, Character.isDecimalDigit c ∧ text = String.utf8EncodeChar c}
  | either p q => p.language + q.language
  | maybe p => p.language + 1
  | many p => p.language∗
  | follow p q => p.language * q.language

/-- What is left over after each way to match at the start, the preferred way first: the first of
two patterns, and more rather than less. -/
def rests : Pattern → Bytes → List Bytes
  | byte b, bytes => if bytes.head? = some b then [bytes.tail] else []
  | digit, bytes => (Points.digit? bytes).toList.map Prod.snd
  | either p q, bytes => p.rests bytes ++ q.rests bytes
  | maybe p, bytes => p.rests bytes ++ [bytes]
  | many p, bytes => repeated p.rests bytes
  | follow p q, bytes => (p.rests bytes).flatMap q.rests

def first? (p : Pattern) (bytes : Bytes) : Option Bytes := (p.rests bytes).head?

def capture? (p : Pattern) (bytes : Bytes) : Option Bytes :=
  (p.first? bytes).map fun rest => bytes.take (bytes.length - rest.length)

end Pattern

namespace Points

theorem digit?_encode {c : Char} (decimal : Character.isDecimalDigit c) (rest : Bytes) :
    digit? (String.utf8EncodeChar c ++ rest) = some (c, rest) := by
  obtain ⟨first, found, written, read⟩ := Utf8.next_encode c rest
  rw [written, List.cons_append, digit?, read]
  simp only [decimal, if_true, List.drop_left]

theorem digit?_eq_some_iff {bytes rest : Bytes} {c : Char} : digit? bytes = some (c, rest) ↔
    Character.isDecimalDigit c ∧ bytes = String.utf8EncodeChar c ++ rest := by
  constructor
  · intro read
    cases bytes with
    | nil => cases read
    | cons first tail =>
      rw [digit?] at read
      split at read
      · rename_i char extra found
        split at read
        · rename_i decimal
          cases read
          exact ⟨decimal, Utf8.encode_of_next found⟩
        · cases read
      · cases read
  · rintro ⟨decimal, rfl⟩
    exact digit?_encode decimal rest

end Points

namespace Pattern

theorem repeated_iff {language : ByteLanguage} {step : Bytes → List Bytes}
    (steps : ∀ bytes rest, rest ∈ step bytes ↔ ∃ text ∈ language, bytes = text ++ rest)
    {bytes rest : Bytes} :
    rest ∈ repeated step bytes ↔ ∃ text ∈ language∗, bytes = text ++ rest := by
  constructor
  · intro left
    induction bytes using repeated.induct with
    | case1 bytes ih =>
      rw [repeated, List.mem_append, List.mem_flatMap, List.mem_singleton] at left
      rcases left with ⟨next, stepped, later⟩ | rfl
      · split at later
        · rename_i shorter
          obtain ⟨word, spoken, rfl⟩ := (steps bytes next).mp stepped
          obtain ⟨text, spelled, rfl⟩ := ih next shorter later
          obtain ⟨words, rfl, all⟩ := Language.mem_kstar.mp spelled
          refine ⟨word ++ words.flatten, ?_, (List.append_assoc ..).symm⟩
          exact Language.mem_kstar.mpr ⟨word :: words, rfl, List.forall_mem_cons.mpr ⟨spoken, all⟩⟩
        · cases later
      · exact ⟨[], Language.nil_mem_kstar _, rfl⟩
  · rintro ⟨text, spelled, rfl⟩
    obtain ⟨words, rfl, all⟩ := Language.mem_kstar_iff_exists_nonempty.mp spelled
    clear spelled
    induction words with
    | nil =>
      rw [repeated, List.mem_append]
      exact .inr (List.mem_singleton.mpr rfl)
    | cons word words ih =>
      rw [List.forall_mem_cons] at all
      have length := List.length_pos_iff.mpr all.1.2
      rw [repeated, List.mem_append, List.mem_flatMap]
      left
      refine ⟨words.flatten ++ rest, ?_, ?_⟩
      · rw [steps]
        exact ⟨word, all.1.1, by rw [List.flatten_cons, List.append_assoc]⟩
      · rw [if_pos]
        · exact ih all.2
        · simp only [List.flatten_cons, List.length_append]
          omega

/-- The search finds every word at the start of a text, and nothing else. -/
theorem mem_rests_iff (p : Pattern) (bytes rest : Bytes) :
    rest ∈ p.rests bytes ↔ ∃ text ∈ p.language, bytes = text ++ rest := by
  induction p generalizing bytes rest with
  | byte b =>
    have described : (∃ text ∈ (byte b).language, bytes = text ++ rest) ↔ bytes = b :: rest := by
      constructor
      · rintro ⟨_, rfl, split⟩
        exact split
      · intro split
        exact ⟨[b], rfl, split⟩
    rw [described, rests]
    cases bytes with
    | nil => simp
    | cons first tail =>
      by_cases same : first = b
      · simp [same, eq_comm]
      · simp [same]
  | digit =>
    simp only [rests, language, List.mem_map, Option.mem_toList, Prod.exists,
      Points.digit?_eq_some_iff, exists_eq_right]
    constructor
    · rintro ⟨c, decimal, rfl⟩
      exact ⟨_, ⟨c, decimal, rfl⟩, rfl⟩
    · rintro ⟨_, ⟨c, decimal, rfl⟩, rfl⟩
      exact ⟨c, decimal, rfl⟩
  | either p q ihp ihq =>
    simp only [rests, language, List.mem_append, ihp, ihq, Language.mem_add, or_and_right,
      exists_or]
  | maybe p ih =>
    simp only [rests, language, List.mem_append, ih, Language.mem_add, Language.mem_one,
      or_and_right, exists_or, exists_eq_left, List.nil_append, List.mem_singleton, eq_comm]
  | many p ih => exact repeated_iff ih
  | follow p q ihp ihq =>
    simp only [rests, language, List.mem_flatMap, ihp, ihq, Language.mem_mul]
    constructor
    · rintro ⟨_, ⟨text, spoken, rfl⟩, more, added, rfl⟩
      exact ⟨text ++ more, ⟨text, spoken, more, added, rfl⟩, (List.append_assoc ..).symm⟩
    · rintro ⟨_, ⟨text, spoken, more, added, rfl⟩, rfl⟩
      exact ⟨more ++ rest, ⟨text, spoken, List.append_assoc ..⟩, more, added, rfl⟩

def Avoids (b : UInt8) : Pattern → Prop
  | byte a => b ≠ a
  | digit => ∀ c, Character.isDecimalDigit c → b ∉ String.utf8EncodeChar c
  | either p q => p.Avoids b ∧ q.Avoids b
  | maybe p => p.Avoids b
  | many p => p.Avoids b
  | follow p q => p.Avoids b ∧ q.Avoids b

theorem not_mem_of_avoids {p : Pattern} {b : UInt8} (avoids : p.Avoids b) {text : Bytes}
    (described : text ∈ p.language) : b ∉ text := by
  induction p generalizing text with
  | byte a =>
    cases described
    rwa [List.mem_singleton]
  | digit =>
    obtain ⟨c, decimal, rfl⟩ := described
    exact avoids c decimal
  | either p q ihp ihq =>
    rcases described with first | second
    · exact ihp avoids.1 first
    · exact ihq avoids.2 second
  | maybe p ih =>
    rcases described with given | none
    · exact ih avoids given
    · cases none
      exact List.not_mem_nil
  | many p ih =>
    obtain ⟨words, rfl, all⟩ := Language.mem_kstar.mp described
    rw [List.mem_flatten]
    rintro ⟨word, listed, found⟩
    exact ih avoids (all word listed) found
  | follow p q ihp ihq =>
    obtain ⟨front, first, back, second, rfl⟩ := Language.mem_mul.mp described
    rw [List.mem_append]
    rintro (found | found)
    · exact ihp avoids.1 first found
    · exact ihq avoids.2 second found

theorem rests_byte_cons (b first : UInt8) (tail : Bytes) :
    (byte b).rests (first :: tail) = if first = b then [tail] else [] := by
  simp only [rests, List.head?_cons, Option.some.injEq, List.tail_cons]

theorem first?_follow (p q : Pattern) (bytes : Bytes) :
    (p.follow q).first? bytes = (p.rests bytes).findSome? q.first? := List.head?_flatMap

end Pattern
end ContestJudge
