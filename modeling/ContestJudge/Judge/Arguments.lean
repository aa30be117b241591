import ContestJudge.Text.Words
/-!
The arguments of an interactor from a template. The template is split into words first, so that a
path stays one argument.
-/

namespace ContestJudge

namespace Text

def replaceBehind (pattern replacement : List Char) : Nat → List Char → List Char
  | _, [] => []
  | skipped + 1, _ :: rest => replaceBehind pattern replacement skipped rest
  | 0, c :: rest =>
    if pattern.isPrefixOf (c :: rest) then
      replacement ++ replaceBehind pattern replacement (pattern.length - 1) rest
    else c :: replaceBehind pattern replacement 0 rest

def replaceAll (pattern replacement text : String) : String :=
  String.ofList (replaceBehind pattern.toList replacement.toList 0 text.toList)

end Text

structure InteractorFiles where
  input : String
  output : String
  answer : String
  deriving DecidableEq

namespace InteractorFiles

def replacements (files : InteractorFiles) : List (String × String) :=
  [("\x7binput_file\x7d", files.input), ("\x7boutput_file\x7d", files.output),
    ("\x7banswer_file\x7d", files.answer)]

/-- One word of a template with the files in place of their names, one name after the other. -/
def expand (files : InteractorFiles) (word : String) : String :=
  files.replacements.foldl (fun text (name, file) => Text.replaceAll name file text) word

def arguments (files : InteractorFiles) (template : String) : List String :=
  (Text.words template).map files.expand

end InteractorFiles
end ContestJudge
