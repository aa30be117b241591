import ContestJudge.Host.Task
import ContestJudge.Text.Words

namespace ContestJudge.Host.Tools

def patience : Nat := 1000000000

def blockSize : Nat := 65536

def argsOf (image : Image) : List Octets := image.argv.drop 1

def complain (image : Image) (message : Octets) : Routine Unit :=
  Routine.put image.streams.diagnostics (message ++ ['\n'])

def quoted (text : Octets) : Octets := '\x27' :: text ++ ['\x27']

/-- Opens each file in turn, and runs something on it. The code is the given one if a file could
not be opened. -/
def overFiles (image : Image) (name : String) (failure : Nat) (use : Octets → Nat → Routine Unit) :
    List Octets → Nat → Routine Nat
  | [], code => return code
  | path :: rest, code => do
    if path = ['-'] then
      use path image.streams.input
      overFiles image name failure use rest code
    else match ← Routine.openFile path .read with
      | .ok descriptor =>
        use path descriptor
        Routine.close descriptor
        overFiles image name failure use rest code
      | .error cause =>
        complain image (Octets.ofString (name ++ ": ") ++ path
          ++ Octets.ofString (": " ++ cause.message))
        overFiles image name failure use rest failure

def copyBytes (source target : Nat) : Nat → Nat → Routine Unit
  | 0, _ => return ()
  | fuel + 1, limit => do
    if limit = 0 then return ()
    let data ← Routine.read source (min limit blockSize)
    if data.isEmpty then return ()
    match ← Routine.write target data with
    | some _ => return ()
    | none => copyBytes source target fuel (limit - data.length)

def copyAll (source target : Nat) : Nat → Routine Unit
  | 0 => return ()
  | fuel + 1 => do
    let data ← Routine.read source blockSize
    if data.isEmpty then return ()
    match ← Routine.write target data with
    | some _ => return ()
    | none => copyAll source target fuel

def filesOr (words : List Octets) : List Octets := if words.isEmpty then [['-']] else words

def cat (image : Image) : Task :=
  Routine.toTask (overFiles image "cat" 1
    (fun _ descriptor => copyAll descriptor image.streams.output patience)
    (filesOr ((argsOf image).filter fun word => word = ['-'] || word.head? ≠ some '-')) 0)

def firstLines : Nat → Bytes → Bytes
  | 0, _ => []
  | _, [] => []
  | n + 1, b :: rest => b :: (if b = 10 then firstLines n rest else firstLines (n + 1) rest)

def copyLines (source target : Nat) : Nat → Nat → Routine Unit
  | 0, _ => return ()
  | fuel + 1, count => do
    if count = 0 then return ()
    let data ← Routine.read source blockSize
    if data.isEmpty then return ()
    let kept := firstLines count data
    match ← Routine.write target kept with
    | some _ => return ()
    | none => copyLines source target fuel (count - kept.count 10)

inductive Amount where
  | bytes (n : Nat)
  | lines (n : Nat)

def amountOf (usual : Amount) : List Octets → Amount × List Octets
  | ['-', 'c'] :: n :: rest => amountOf (.bytes ((Octets.natural? n).getD 0)) rest
  | ['-', 'n'] :: n :: rest => amountOf (.lines ((Octets.natural? n).getD 0)) rest
  | ('-' :: 'c' :: n) :: rest => amountOf (.bytes ((Octets.natural? n).getD 0)) rest
  | ('-' :: 'n' :: n) :: rest => amountOf (.lines ((Octets.natural? n).getD 0)) rest
  | ('-' :: c :: n) :: rest => amountOf (.lines ((Octets.natural? (c :: n)).getD 0)) rest
  | words => (usual, words)

def head (image : Image) : Task :=
  let (amount, files) := amountOf (.lines 10) (argsOf image)
  Routine.toTask (overFiles image "head" 1
    (fun _ descriptor =>
      match amount with
      | .bytes n => copyBytes descriptor image.streams.output patience n
      | .lines n => copyLines descriptor image.streams.output patience n)
    (filesOr files) 0)

def lastLines (n : Nat) (data : Bytes) : Bytes :=
  let reversed := data.reverse
  let ended := reversed.head? == some 10
  let body := if ended then reversed.drop 1 else reversed
  let kept := (firstLines n body).reverse
  let kept := if kept.head? == some 10 then kept.drop 1 else kept
  if n = 0 then [] else if ended then kept ++ [10] else kept

def tail (image : Image) : Task :=
  let (amount, files) := amountOf (.lines 10) (argsOf image)
  Routine.toTask (overFiles image "tail" 1
    (fun _ descriptor => do
      let data ← Routine.readAll descriptor patience []
      let kept := match amount with
        | .bytes n => data.drop (data.length - n)
        | .lines n => lastLines n data
      let _ ← Routine.write image.streams.output kept)
    (filesOr files) 0)

def listEach (image : Image) : List Octets → Nat → Routine Nat
  | [], code => return code
  | path :: rest, code => do
    match ← Routine.ask (.listing path) with
    | .names names =>
      let shown := (names.map Octets.ofString).filter (·.head? ≠ some '.')
      let sorted := shown.mergeSort fun a b => !(b < a)
      Routine.put image.streams.output (sorted.flatMap (· ++ ['\n']))
      listEach image rest code
    | .refused (.file .notDirectory) =>
      Routine.put image.streams.output (path ++ ['\n'])
      listEach image rest code
    | .refused cause =>
      complain image (Octets.ofString "ls: cannot access " ++ quoted path
        ++ Octets.ofString (": " ++ cause.message))
      listEach image rest 2
    | _ => listEach image rest code

def ls (image : Image) : Task :=
  let words := (argsOf image).filter (·.head? ≠ some '-')
  Routine.toTask (listEach image (if words.isEmpty then [['.']] else words) 0)

def linesOf (data : Bytes) : List Octets := Text.lines (Octets.ofBytes data)

def sort (image : Image) : Task :=
  let words := argsOf image
  let options := (words.filter fun word => word.head? = some '-' && word.length > 1).flatten
  let files := words.filter fun word => word.head? ≠ some '-' || word.length = 1
  let value (line : Octets) : Int :=
    let trimmed := line.dropWhile (· == ' ')
    let digits (text : Octets) : Int := ((Octets.natural? (text.takeWhile Char.isDigit)).getD 0 : Nat)
    match trimmed with
    | '-' :: rest => -digits rest
    | text => digits text
  let before (a b : Octets) : Bool :=
    if options.contains 'n' && value a != value b then value a < value b else !(b < a)
  Routine.toTask do
    let data ← (filesOr files).foldlM (fun (data : Bytes) path => do
      if path = ['-'] then return data ++ (← Routine.readAll image.streams.input patience [])
      match ← Routine.openFile path .read with
      | .ok descriptor => return data ++ (← Routine.readAll descriptor patience [])
      | .error _ => return data) []
    let sorted := (linesOf data).mergeSort fun a b =>
      if options.contains 'r' then before b a else before a b
    Routine.put image.streams.output (sorted.flatMap (· ++ ['\n']))
    return 0

def wordCount (text : Octets) : Nat :=
  (splitAt (fun c => c == ' ' || c == '\t' || c == '\n') text).countP fun word => !word.isEmpty

def openOperand (image : Image) (path : Octets) : Routine (Except Refusal Nat) :=
  if path.isEmpty || path = ['-'] then return .ok image.streams.input else Routine.openFile path .read

/-- The size of a file that is to be counted, or none of one that is no plain file. Nothing is known
of a file that cannot be opened. -/
def sizeToCount (image : Image) (path : Octets) : Routine (List (Option Nat)) := do
  match ← openOperand image path with
  | .error _ => return []
  | .ok descriptor =>
    match ← Routine.ask (.size descriptor) with
    | .number size => return [some size]
    | _ => return [none]

/-- The width of the counts of some files: that of their common size, and seven at least where one is
no plain file. -/
def countWidth (sizes : List (Option Nat)) : Nat :=
  max (toString ((sizes.filterMap id).foldl (· + ·) 0)).length (if sizes.contains none then 7 else 1)

def countLine (width : Nat) (counts : List Nat) (name : Octets) : Octets :=
  let shown := counts.map fun n =>
    let digits := Nat.toDigits 10 n
    List.replicate (width - digits.length) ' ' ++ digits
  List.intercalate [' '] shown ++ (if name.isEmpty then [] else ' ' :: name) ++ ['\n']

def countEach (image : Image) (width : Nat) (countsOf : Bytes → List Nat) :
    List Octets → Nat → List Nat → Routine (Nat × List Nat)
  | [], code, total => return (code, total)
  | path :: rest, code, total => do
    match ← openOperand image path with
    | .error cause =>
      complain image (Octets.ofString "wc: " ++ path ++ Octets.ofString (": " ++ cause.message))
      countEach image width countsOf rest 1 total
    | .ok descriptor =>
      let counts := countsOf (← Routine.readAll descriptor patience [])
      Routine.put image.streams.output (countLine width counts path)
      countEach image width countsOf rest code (List.zipWith (· + ·) total counts)

def wc (image : Image) : Task :=
  let words := argsOf image
  let isOption (word : Octets) := word.head? = some '-' && word.length > 1
  let options := (words.filter isOption).flatten
  let files := words.filter fun word => !isOption word
  let wants (c : Char) := options.isEmpty || options.contains c
  let countsOf (data : Bytes) : List Nat :=
    (if wants 'l' then [data.count 10] else [])
      ++ (if wants 'w' then [wordCount (Octets.ofBytes data)] else [])
      ++ (if wants 'c' then [data.length] else [])
  let zeros := (countsOf []).map fun _ => 0
  Routine.toTask do
    let sizes ← (filesOr files).foldlM (fun found path => do
      return found ++ (← sizeToCount image path)) []
    let width := if files.length ≤ 1 && zeros.length = 1 then 1 else countWidth sizes
    let (code, total) ← countEach image width countsOf (if files.isEmpty then [[]] else files) 0 zeros
    if files.length > 1 then Routine.put image.streams.output (countLine width total "total".toList)
    return code

end ContestJudge.Host.Tools
