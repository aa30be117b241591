/-!
Bytes and the UTF-8 text in them. Lossy reading puts one replacement character for each longest
piece that begins a character and does not finish it.
-/

namespace ContestJudge

abbrev Bytes := List UInt8

namespace Utf8

def encode (text : String) : Bytes := text.toList.flatMap String.utf8EncodeChar

structure Lead where
  tails : Nat
  /-- The least and the greatest first tail. -/
  low : Nat
  high : Nat
  /-- The bits of the character in the first byte. -/
  bits : Nat

def lead? (b : Nat) : Option Lead :=
  if 0xc2 ≤ b ∧ b ≤ 0xdf then some ⟨1, 0x80, 0xbf, b - 0xc0⟩
  else if b = 0xe0 then some ⟨2, 0xa0, 0xbf, 0⟩
  else if b = 0xed then some ⟨2, 0x80, 0x9f, 0xd⟩
  else if 0xe1 ≤ b ∧ b ≤ 0xef then some ⟨2, 0x80, 0xbf, b - 0xe0⟩
  else if b = 0xf0 then some ⟨3, 0x90, 0xbf, 0⟩
  else if 0xf1 ≤ b ∧ b ≤ 0xf3 then some ⟨3, 0x80, 0xbf, b - 0xf0⟩
  else if b = 0xf4 then some ⟨3, 0x80, 0x8f, 4⟩
  else none

def tails (lead : Lead) : Bytes → Bytes
  | [] => []
  | first :: rest =>
    if lead.low ≤ first.toNat ∧ first.toNat ≤ lead.high then
      first :: (rest.take (lead.tails - 1)).takeWhile fun b => 0x80 ≤ b.toNat && b.toNat ≤ 0xbf
    else []

/-- The character that starts with a byte, none where it is not UTF-8, and how many bytes after
the first it or its broken beginning takes. -/
def next (first : UInt8) (rest : Bytes) : Option Char × Nat :=
  if first.toNat < 0x80 then (some (Char.ofNat first.toNat), 0)
  else match lead? first.toNat with
    | none => (none, 0)
    | some lead =>
      let found := tails lead rest
      if found.length = lead.tails then
        (some (Char.ofNat (found.foldl (fun code b => code * 64 + (b.toNat - 0x80)) lead.bits)),
          found.length)
      else (none, found.length)

def replacement : Char := Char.ofNat 0xfffd

/-- The characters of a byte string, each with whether it was there or replaces a broken piece. -/
def pieces (bytes : Bytes) (before : List (Option Char)) : List (Option Char) :=
  match bytes with
  | [] => before.reverse
  | first :: rest =>
    let (char, extra) := next first rest
    pieces (rest.drop extra) (char :: before)
termination_by bytes.length
decreasing_by simp only [List.length_drop, List.length_cons]; omega

def decodeLossy (bytes : Bytes) : String :=
  String.ofList ((pieces bytes []).map (·.getD replacement))

def decode? (bytes : Bytes) : Option String :=
  ((pieces bytes []).mapM id).map String.ofList

end Utf8
end ContestJudge
