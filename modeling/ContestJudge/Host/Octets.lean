import ContestJudge.Text.Utf8
/-!
Bytes as characters with numbers below 256, so that text programs can handle any bytes.
-/

namespace ContestJudge

abbrev Octets := List Char

namespace Octets

def ofBytes (data : Bytes) : Octets := data.map fun b => Char.ofNat b.toNat

def toBytes (text : Octets) : Bytes := text.map fun c => UInt8.ofNat c.toNat

def ofString (text : String) : Octets := ofBytes (Utf8.encode text)

def toString (text : Octets) : String := Utf8.decodeLossy (toBytes text)

def natural? (text : Octets) : Option Nat :=
  if !text.isEmpty && text.all Char.isDigit then
    some (text.foldl (fun n c => n * 10 + (c.toNat - '0'.toNat)) 0)
  else none

def integer? : Octets → Option Int
  | '-' :: digits => (natural? digits).map fun n => -(n : Int)
  | '+' :: digits => (natural? digits).map fun n => (n : Int)
  | digits => (natural? digits).map fun n => (n : Int)

end Octets
end ContestJudge
