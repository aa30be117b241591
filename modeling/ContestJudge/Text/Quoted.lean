import ContestJudge.Text.Character
import ContestJudge.Text.Hex

namespace ContestJudge.Text

def quoteChar (c : Char) : List Char :=
  match c with
  | '\x00' => ['\\', '0']
  | '\t' => ['\\', 't']
  | '\n' => ['\\', 'n']
  | '\r' => ['\\', 'r']
  | '\"' => ['\\', '\"']
  | '\\' => ['\\', '\\']
  | c =>
    if Character.extendsGrapheme c || !Character.isPrintable c then
      "\\u\x7b".toList ++ Hex.ofNat c.toNat ++ "\x7d".toList
    else [c]

def quoted (text : String) : String :=
  String.ofList ('\"' :: text.toList.flatMap quoteChar ++ ['\"'])

end ContestJudge.Text
