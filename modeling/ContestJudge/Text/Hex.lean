import ContestJudge.Text.Utf8

namespace ContestJudge.Text.Hex

def digit (n : Nat) : Char := if n < 10 then Char.ofNat (48 + n) else Char.ofNat (87 + n)

def value? (c : Char) : Option Nat :=
  if '0' ≤ c && c ≤ '9' then some (c.toNat - 48)
  else if 'a' ≤ c && c ≤ 'f' then some (c.toNat - 87)
  else if 'A' ≤ c && c ≤ 'F' then some (c.toNat - 55)
  else none

def number? (digits : List Char) : Option Nat :=
  digits.foldl (fun n c => n.bind fun n => (value? c).map (n * 16 + ·)) (some 0)

def ofNat (n : Nat) : List Char := Nat.toDigits 16 n

def ofByte (b : UInt8) : List Char := [digit (b.toNat / 16), digit (b.toNat % 16)]

def ofBytes (data : Bytes) : List Char := data.flatMap ofByte

def ofWord (w : UInt64) : List Char :=
  ofBytes ((List.range 8).reverse.map fun i => (w >>> (8 * i).toUInt64).toUInt8)

def toBytes? : List Char → Option Bytes
  | [] => some []
  | [_] => none
  | a :: b :: rest => do
    let high ← value? a
    let low ← value? b
    return UInt8.ofNat (high * 16 + low) :: (← toBytes? rest)

end ContestJudge.Text.Hex
