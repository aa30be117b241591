import ContestJudge.Json.Value
import ContestJudge.Text.Hex

namespace ContestJudge.Json

def escapeChar (c : Char) : List Char :=
  match c with
  | '\"' => ['\\', '\"']
  | '\\' => ['\\', '\\']
  | '\x08' => ['\\', 'b']
  | '\x0c' => ['\\', 'f']
  | '\n' => ['\\', 'n']
  | '\r' => ['\\', 'r']
  | '\t' => ['\\', 't']
  | c =>
    if c.toNat < 0x20 then
      '\\' :: 'u' :: '0' :: '0' :: Text.Hex.ofByte (UInt8.ofNat c.toNat)
    else [c]

def writeText (text : WrittenText) : List Char :=
  '\"' :: (text.getD "").toList.flatMap escapeChar ++ ['\"']

mutual

def write : Json → List Char
  | null => "null".toList
  | bool true => "true".toList
  | bool false => "false".toList
  | number literal => literal.write
  | string value => writeText value
  | array items => '[' :: writeItems items ++ [']']
  | object members => '\x7b' :: writeMembers members ++ ['\x7d']

def writeItems : List Json → List Char
  | [] => []
  | [item] => item.write
  | item :: rest => item.write ++ ',' :: writeItems rest

def writeMembers : List (WrittenText × Json) → List Char
  | [] => []
  | [(name, value)] => writeText name ++ ':' :: value.write
  | (name, value) :: rest => writeText name ++ ':' :: value.write ++ ',' :: writeMembers rest

end

def render (document : Json) : String := String.ofList document.write

end ContestJudge.Json
