import ContestJudge.Host.Octets
/-!
Patterns of the shell: a star stands for any text, a question mark for one character and brackets
for one character of a class. Quoted characters stand for themselves.
-/

namespace ContestJudge.Host.Shell

structure Glyph where
  char : Char
  isQuoted : Bool
  /-- The character came out of an expansion, so that it can separate fields. -/
  isExpanded : Bool
  deriving DecidableEq

namespace Pattern

def isActive (g : Glyph) (c : Char) : Bool := g.char == c && !g.isQuoted

def hasWildcard (pattern : List Glyph) : Bool :=
  pattern.any fun g => isActive g '*' || isActive g '?' || isActive g '['

def ranges : Nat → List (Char × Char) → List Glyph → Option (List (Char × Char) × List Glyph)
  | 0, _, _ => none
  | _, _, [] => none
  | fuel + 1, found, g :: rest =>
    if isActive g ']' && !found.isEmpty then some (found, rest)
    else match rest with
      | dash :: last :: rest =>
        if isActive dash '-' && !isActive last ']' then
          ranges fuel ((g.char, last.char) :: found) rest
        else ranges fuel ((g.char, g.char) :: found) (dash :: last :: rest)
      | rest => ranges fuel ((g.char, g.char) :: found) rest

def bracket? (pattern : List Glyph) : Option ((Char → Bool) × List Glyph) :=
  let isNegated := pattern.head?.any fun g => isActive g '!' || isActive g '^'
  let members := if isNegated then pattern.drop 1 else pattern
  (ranges (members.length + 1) [] members).map fun (found, rest) =>
    (fun c => (found.any fun (low, high) => low ≤ c && c ≤ high) != isNegated, rest)

def matchesIn : Nat → List Glyph → Octets → Bool
  | 0, _, _ => false
  | _, [], text => text.isEmpty
  | fuel + 1, g :: rest, text =>
    if isActive g '*' then
      matchesIn fuel rest text ||
        (match text with
          | [] => false
          | _ :: text => matchesIn fuel (g :: rest) text)
    else match text with
      | [] => false
      | c :: text =>
        if isActive g '?' then matchesIn fuel rest text
        else match if isActive g '[' then bracket? rest else none with
          | some (holds, rest) => holds c && matchesIn fuel rest text
          | none => g.char == c && matchesIn fuel rest text

def covers (pattern : List Glyph) (text : Octets) : Bool :=
  matchesIn (pattern.length + text.length + 1) pattern text

/-- A text without its shortest or longest beginning that matches a pattern. -/
def cutStart (longest : Bool) (pattern : List Glyph) (text : Octets) : Octets :=
  let sizes := List.range (text.length + 1)
  match (if longest then sizes.reverse else sizes).find? fun n => covers pattern (text.take n) with
  | some n => text.drop n
  | none => text

def cutEnd (longest : Bool) (pattern : List Glyph) (text : Octets) : Octets :=
  let sizes := List.range (text.length + 1)
  match (if longest then sizes else sizes.reverse).find? fun n => covers pattern (text.drop n) with
  | some n => text.take n
  | none => text

end Pattern
end ContestJudge.Host.Shell
