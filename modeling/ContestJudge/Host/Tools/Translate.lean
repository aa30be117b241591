import ContestJudge.Host.Tools.Files
import ContestJudge.Host.Tools.Printing

namespace ContestJudge.Host.Tools

def classMembers? (name : Octets) : Option Octets :=
  let all := (List.range 256).map Printing.octet
  match String.ofList name with
  | "upper" => some (all.filter Char.isUpper)
  | "lower" => some (all.filter Char.isLower)
  | "alpha" => some (all.filter Char.isAlpha)
  | "digit" => some (all.filter Char.isDigit)
  | "alnum" => some (all.filter Char.isAlphanum)
  | "space" => some ['\t', '\n', '\x0b', '\x0c', '\r', ' ']
  | "blank" => some ['\t', ' ']
  | "punct" => some (all.filter fun c =>
      '!' ≤ c && c ≤ '~' && !c.isAlphanum)
  | _ => none

def classIn? (text : Octets) : Option (Octets × Octets) :=
  match text with
  | '[' :: ':' :: rest =>
    let name := rest.takeWhile Char.isAlpha
    match rest.drop name.length with
    | ':' :: ']' :: rest => (classMembers? name).map (·, rest)
    | _ => none
  | _ => none

def oneOf (text : Octets) : Option (Char × Octets) :=
  match text with
  | [] => none
  | ['\x5c'] => some ('\x5c', [])
  | '\x5c' :: c :: rest =>
    let digits := Printing.octalDigits 3 (c :: rest)
    if digits.isEmpty then some ((Printing.letterEscape? c).getD c, rest)
    else some (Printing.octet (Printing.octalValue digits), (c :: rest).drop digits.length)
  | c :: rest => some (c, rest)

def membersOf : Nat → Octets → Octets
  | 0, _ => []
  | fuel + 1, text =>
    match classIn? text with
    | some (members, rest) => members ++ membersOf fuel rest
    | none =>
      match oneOf text with
      | none => []
      | some (first, '-' :: rest) =>
        match oneOf rest with
        | none => [first, '-']
        | some (last, rest) =>
          (List.range (last.toNat + 1 - first.toNat)).map (fun i => Printing.octet (first.toNat + i))
            ++ membersOf fuel rest
      | some (c, rest) => c :: membersOf fuel rest

structure Exchange where
  isDropped : Char → Bool
  replace : Char → Char
  isJoined : Char → Bool

def Exchange.ofLists (options first second : Octets) : Exchange :=
  let listed := membersOf (first.length + 1) first
  let targets := membersOf (second.length + 1) second
  let isIn (c : Char) : Bool := listed.contains c != (options.contains 'c' || options.contains 'C')
  let drops := options.contains 'd'
  let replaces := !drops && !targets.isEmpty
  let target (c : Char) : Char :=
    if options.contains 'c' then targets.getLastD c
    else match listed.reverse.findIdx? (· == c) with
      | some fromEnd => (targets[listed.length - 1 - fromEnd]?).getD (targets.getLastD c)
      | none => c
  { isDropped c := drops && isIn c
    replace c := if replaces && isIn c then target c else c
    isJoined c := options.contains 's' &&
      (if second.isEmpty then isIn c else targets.contains c) }

def Exchange.apply (t : Exchange) : Octets → Octets → Octets
  | found, [] => found
  | found, c :: rest =>
    if t.isDropped c then t.apply found rest
    else
      let shown := t.replace c
      if t.isJoined shown && found.head? == some shown then t.apply found rest
      else t.apply (shown :: found) rest

def translate (image : Image) : Task :=
  let options := ((argsOf image).takeWhile fun word => word.head? = some '-' && word.length > 1)
  let lists := (argsOf image).drop options.length
  Routine.toTask do
    match lists with
    | [] =>
      complain image (Octets.ofString "tr: missing operand")
      return 1
    | first :: others =>
      let exchange := Exchange.ofLists options.flatten first (others.headD [])
      let data ← Routine.readAll image.streams.input patience []
      Routine.put image.streams.output (exchange.apply [] (Octets.ofBytes data)).reverse
      return 0

end ContestJudge.Host.Tools
