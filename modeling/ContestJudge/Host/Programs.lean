import ContestJudge.Host.Machine
import ContestJudge.Host.Script.Program
import ContestJudge.Host.Shell.Program
import ContestJudge.Host.Tools.Calculation
import ContestJudge.Host.Tools.Plain
import ContestJudge.Host.Tools.Translate

namespace ContestJudge.Host

def Tools.test (image : Image) : Task :=
  let shell := Shell.start image (image.argv.headD []) []
  let words := image.argv.drop 1
  let check (words : List Octets) := Shell.test "test" words shell fun (code, _) => .exit (code % 256)
  if image.argv.headD [] ≠ ['['] then check words
  else if words.getLast? = some [']'] then check words.dropLast
  else Routine.toTask do
    complain image (Octets.ofString "[: missing \x27]\x27")
    return 2

def programs : Programs
  | "sh" => some Shell.program
  | "dash" => some Shell.program
  | "python3" => some Script.program
  | "cat" => some Tools.cat
  | "head" => some Tools.head
  | "tail" => some Tools.tail
  | "ls" => some Tools.ls
  | "sort" => some Tools.sort
  | "wc" => some Tools.wc
  | "echo" => some Tools.echo
  | "printf" => some Tools.printf
  | "sleep" => some Tools.sleep
  | "seq" => some Tools.seq
  | "yes" => some Tools.yes
  | "env" => some Tools.env
  | "pwd" => some Tools.pwd
  | "tr" => some Tools.translate
  | "expr" => some Tools.Calculation.program
  | "test" => some Tools.test
  | "[" => some Tools.test
  | "true" => some fun _ => .exit 0
  | "false" => some fun _ => .exit 1
  | _ => none

end ContestJudge.Host
