import ContestJudge.Text.Character
import ContestJudge.Text.Utf8

namespace ContestJudge

/-- Space, tab, line feed, form feed and carriage return. -/
def isBlankByte (b : UInt8) : Bool :=
  b == 32 || b == 9 || b == 10 || b == 12 || b == 13

/-- The runs of elements between separators, the run in progress given in reverse. -/
def splitRuns {α : Type} (separates : α → Bool) : List α → List α → List (List α) → List (List α)
  | [], run, found => (run.reverse :: found).reverse
  | a :: rest, run, found =>
    if separates a then splitRuns separates rest [] (run.reverse :: found)
    else splitRuns separates rest (a :: run) found

def splitAt {α : Type} (separates : α → Bool) (list : List α) : List (List α) :=
  splitRuns separates list [] []

def tokens (data : Bytes) : List Bytes :=
  (splitAt isBlankByte data).filter fun token => !token.isEmpty

def trimTrailingBlanks (data : Bytes) : Bytes :=
  (data.reverse.dropWhile isBlankByte).reverse

namespace Text

def trimChars (text : List Char) : List Char :=
  ((text.dropWhile Character.isBlank).reverse.dropWhile Character.isBlank).reverse

def trim (text : String) : String := String.ofList (trimChars text.toList)

def isBlank (text : String) : Bool := text.toList.all Character.isBlank

def words (text : String) : List String :=
  ((splitAt Character.isBlank text.toList).filter fun word => !word.isEmpty).map String.ofList

def dropReturn (line : List Char) : List Char :=
  if line.getLast? = some '\r' then line.dropLast else line

/-- The lines of a text. A line ends in a line feed, before which one carriage return is dropped;
an empty rest after the last line feed is no line, and a last line without line feed keeps its
carriage return. -/
def lines (text : List Char) : List (List Char) :=
  match (splitAt (· == '\n') text).reverse with
  | [] => []
  | last :: ended =>
    let ended := ended.reverse.map dropReturn
    if last.isEmpty then ended else ended ++ [last]

end Text
end ContestJudge
