import ContestJudge.Host.Shell.Pattern

namespace ContestJudge.Host.Shell

inductive Part where
  | glyph (g : Glyph)
  /-- The field is there even if it is empty. -/
  | anchor
  /-- One field ends here, and another one begins. -/
  | cut
  /-- The field is not there if nothing else is in it. -/
  | vanish

/-- A field in progress, in reverse, and the finished fields, the last one first. -/
structure Splitter where
  current : List Glyph
  isOpen : Bool
  vanishes : Bool
  /-- Blanks ended the last field, and no other separator has come since. -/
  afterBlanks : Bool
  fields : List (List Glyph)

namespace Splitter

def start : Splitter := ⟨[], false, false, false, []⟩

def close (s : Splitter) : Splitter :=
  ⟨[], false, false, false, s.current.reverse :: s.fields⟩

def isBlank (c : Char) : Bool := c == ' ' || c == '\t' || c == '\n'

def separator (s : Splitter) (c : Char) : Splitter :=
  if s.isOpen then { s.close with afterBlanks := isBlank c }
  else if isBlank c then s
  else if s.afterBlanks then { s with afterBlanks := false }
  else s.close

def step (separators : Octets) (s : Splitter) : Part → Splitter
  | .glyph g =>
    if g.isExpanded && !g.isQuoted && separators.contains g.char then s.separator g.char
    else { s with current := g :: s.current, isOpen := true, vanishes := false }
  | .anchor => { s with isOpen := true }
  | .cut => if s.isOpen then s.close else s
  | .vanish => { s with vanishes := s.current.isEmpty }

end Splitter

def fieldsOf (separators : Octets) (parts : List Part) : List (List Glyph) :=
  let s := parts.foldl (Splitter.step separators) .start
  (if s.isOpen && !s.vanishes then s.close else s).fields.reverse

def textOf (parts : List Part) : Octets :=
  parts.filterMap fun
    | .glyph g => some g.char
    | .cut => some ' '
    | _ => none

def glyphsOf (parts : List Part) : List Glyph :=
  parts.filterMap fun
    | .glyph g => some g
    | _ => none

end ContestJudge.Host.Shell
