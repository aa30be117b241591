import ContestJudge.Host.Octets

namespace ContestJudge.Host.Printing

def octalDigits (limit : Nat) (text : Octets) : Octets :=
  (text.take limit).takeWhile fun c => '0' ≤ c && c ≤ '7'

def octalValue (digits : Octets) : Nat :=
  digits.foldl (fun n c => n * 8 + (c.toNat - '0'.toNat)) 0

def octet (n : Nat) : Char := Char.ofNat (n % 256)

def letterEscape? : Char → Option Char
  | 'a' => some '\x07'
  | 'b' => some '\x08'
  | 'f' => some '\x0c'
  | 'n' => some '\n'
  | 'r' => some '\r'
  | 't' => some '\t'
  | 'v' => some '\x0b'
  | '\x5c' => some '\x5c'
  | _ => none

/-- A text with its escapes undone, and whether one of them stops all printing. Numbers are octal
behind a zero. -/
def unescape : Nat → Octets → Octets → Octets × Bool
  | 0, found, _ => (found.reverse, false)
  | _, found, [] => (found.reverse, false)
  | fuel + 1, found, '\x5c' :: c :: rest =>
    if c = 'c' then (found.reverse, true)
    else if c = '0' then
      let digits := octalDigits 3 rest
      unescape fuel (octet (octalValue digits) :: found) (rest.drop digits.length)
    else match letterEscape? c with
      | some character => unescape fuel (character :: found) rest
      | none => unescape fuel (c :: '\x5c' :: found) rest
  | fuel + 1, found, c :: rest => unescape fuel (c :: found) rest

/-- The line that a list of words makes, its escapes undone. A first word that says so leaves out
the end of the line. -/
def echoLine (args : List Octets) : Octets :=
  let isOpen := args.head? = some "-n".toList
  let text := List.intercalate [' '] (if isOpen then args.drop 1 else args)
  let (shown, stops) := unescape (text.length + 1) [] text
  if stops || isOpen then shown else shown ++ ['\n']

structure Conversion where
  leftAligned : Bool
  zeroFilled : Bool
  plusSign : Bool
  width : Option Nat
  /-- Taken from an argument. -/
  widthGiven : Bool
  precision : Option Nat
  kind : Char

def conversion? (text : Octets) : Option (Conversion × Octets) :=
  let flags := text.takeWhile fun c => ['-', '0', '+', ' ', '#'].contains c
  let text := text.drop flags.length
  let widthGiven := text.head? == some '*'
  let digits := text.takeWhile Char.isDigit
  let text := text.drop (if widthGiven then 1 else digits.length)
  let (precision, text) := match text with
    | '.' :: rest =>
      let digits := rest.takeWhile Char.isDigit
      (some ((Octets.natural? digits).getD 0), rest.drop digits.length)
    | text => (none, text)
  match text with
  | kind :: rest =>
    some (⟨flags.contains '-', flags.contains '0', flags.contains '+', Octets.natural? digits,
      widthGiven, precision, kind⟩, rest)
  | [] => none

def fill (c : Conversion) (text : Octets) : Octets :=
  let missing := c.width.getD 0 - text.length
  if c.leftAligned then text ++ List.replicate missing ' ' else List.replicate missing ' ' ++ text

def fillNumber (c : Conversion) (sign digits : Octets) : Octets :=
  let digits := List.replicate (c.precision.getD 1 - digits.length) '0' ++ digits
  if c.zeroFilled && !c.leftAligned && c.precision.isNone then
    sign ++ List.replicate (c.width.getD 0 - (sign.length + digits.length)) '0' ++ digits
  else fill c (sign ++ digits)

def leadingInteger (text : Octets) : Int × Bool :=
  match text with
  | [] => (0, true)
  | '\x22' :: c :: _ => (c.toNat, true)
  | '\x27' :: c :: _ => (c.toNat, true)
  | text =>
    let trimmed := text.dropWhile (· == ' ')
    let (negative, digits) : Bool × Octets := match trimmed with
      | '-' :: rest => (true, rest)
      | '+' :: rest => (false, rest)
      | rest => (false, rest)
    let (base, digits) : Nat × Octets := match digits with
      | '0' :: 'x' :: rest => (16, rest)
      | '0' :: rest => if rest.isEmpty then (10, ['0']) else (8, rest)
      | rest => (10, rest)
    let value (c : Char) : Nat := if c.isDigit then c.toNat - '0'.toNat
      else if c.isAlpha then c.toLower.toNat - 'a'.toNat + 10 else 99
    let read := digits.takeWhile fun c => value c < base
    let n : Int := (read.foldl (fun n c => n * base + value c) 0 : Nat)
    (if negative then -n else n, !read.isEmpty && read.length == digits.length)

/-- What one conversion prints of an argument, and whether that stops all printing; with the
arguments that are not numbers. -/
def convert (c : Conversion) (arg : Octets) : Octets × Bool × List Octets :=
  let number (show_ : Int → Octets) : Octets × Bool × List Octets :=
    let (n, isWhole) := leadingInteger arg
    (show_ n, false, if isWhole then [] else [arg])
  let unsigned (n : Int) : Nat := (n % 18446744073709551616).toNat
  match c.kind with
  | 's' => (fill c (c.precision.elim arg arg.take), false, [])
  | 'b' =>
    let (text, stops) := unescape (arg.length + 1) [] arg
    (fill c text, stops, [])
  | 'c' => (fill c (arg.take 1), false, [])
  | 'o' => number fun n => fillNumber c [] (Nat.toDigits 8 (unsigned n))
  | 'x' => number fun n => fillNumber c [] (Nat.toDigits 16 (unsigned n))
  | 'X' => number fun n => fillNumber c [] ((Nat.toDigits 16 (unsigned n)).map Char.toUpper)
  | 'u' => number fun n => fillNumber c [] (Nat.toDigits 10 (unsigned n))
  | _ => number fun n =>
    fillNumber c (if n < 0 then ['-'] else if c.plusSign then ['+'] else [])
      (Nat.toDigits 10 n.natAbs)

structure Printed where
  /-- In reverse. -/
  text : Octets
  args : List Octets
  stops : Bool
  /-- Arguments that should have been numbers. -/
  faulty : List Octets
  /-- A conversion that there is not. -/
  unknown : Option Octets

def formatOnce : Nat → Octets → Printed → Printed
  | 0, _, p => p
  | _, [], p => p
  | fuel + 1, '\x5c' :: c :: rest, p =>
    let digits := octalDigits 3 (c :: rest)
    if !digits.isEmpty then
      formatOnce fuel ((c :: rest).drop digits.length)
        { p with text := octet (octalValue digits) :: p.text }
    else match letterEscape? c with
      | some character => formatOnce fuel rest { p with text := character :: p.text }
      | none => formatOnce fuel rest { p with text := c :: '\x5c' :: p.text }
  | fuel + 1, '%' :: '%' :: rest, p => formatOnce fuel rest { p with text := '%' :: p.text }
  | fuel + 1, '%' :: rest, p =>
    match conversion? rest with
    | none => { p with stops := true, unknown := some ('%' :: rest) }
    | some (c, after) =>
      if c.kind ∉ ['s', 'b', 'c', 'd', 'i', 'o', 'u', 'x', 'X'] then
        { p with stops := true, unknown := some ('%' :: rest.take (rest.length - after.length)) }
      else
        let (c, args) := if c.widthGiven then
            ({ c with width := some (leadingInteger (p.args.headD [])).1.toNat }, p.args.drop 1)
          else (c, p.args)
        let (shown, stops, faulty) := convert c (args.headD [])
        let printed := { p with
          text := shown.reverse ++ p.text
          args := args.drop 1
          stops := stops
          faulty := p.faulty ++ faulty }
        if stops then printed else formatOnce fuel after printed
  | fuel + 1, c :: rest, p => formatOnce fuel rest { p with text := c :: p.text }

def formatAll : Nat → Octets → Printed → Printed
  | 0, _, p => p
  | fuel + 1, format, p =>
    let printed := formatOnce (format.length + 1) format p
    if printed.stops || printed.args.isEmpty || printed.args.length = p.args.length then printed
    else formatAll fuel format printed

def format (format : Octets) (args : List Octets) : Printed :=
  formatAll (args.length + 1) format ⟨[], args, false, [], none⟩

end ContestJudge.Host.Printing
