import ContestJudge.Files.Path
import ContestJudge.Text.Words

namespace ContestJudge

structure Language where
  name : String
  /-- The name of a source that comes without one. -/
  sourceName : Bytes → String
  /-- The command that builds sources in a directory with some flags, where one is needed. -/
  compileCommand : String → List String → List String → Option (List String)
  runCommand : String → List String → List String
  /-- Variables of the running program, which may be asked not to buffer output. -/
  env : Bool → List (String × String)
  limitsAddressSpace : Bool

namespace Language

def endsIn (name ending : String) : Bool := ending.toList.isSuffixOf name.toList

def python : Language where
  name := "python"
  sourceName _ := "solution.py"
  compileCommand _ _ _ := none
  runCommand directory sources :=
    let script := (sources.find? (endsIn · ".py")).getD "solution.py"
    ["python3", "-B", "-S", Path.join directory script]
  env unbuffered := if unbuffered then [("PYTHONUNBUFFERED", "1")] else []
  limitsAddressSpace := true

namespace Cpp

def isUnit (name : String) : Bool := [".cpp", ".cc", ".cxx", ".c++"].any (endsIn name)

def program (directory : String) : String := Path.join directory "solution"

end Cpp

/-- All units are built into one program. Other sources are found beside them. -/
def cpp : Language where
  name := "cpp"
  sourceName _ := "solution.cpp"
  compileCommand directory sources flags :=
    some (["g++", "-std=c++17", "-O2", "-pipe"] ++ flags ++ ["-o", Cpp.program directory] ++
      (sources.filter Cpp.isUnit).map (Path.join directory))
  runCommand directory _ := [Cpp.program directory]
  env _ := []
  limitsAddressSpace := true

namespace Java

def after? (beginning : String) (line : List Char) : Option (List Char) :=
  if beginning.toList.isPrefixOf line then some (line.drop beginning.length) else none

def declared? (line : List Char) : Option String := do
  let line := Text.trimChars line
  let rest ← (after? "public final class " line).orElse fun _ => after? "public class " line
  let name := rest.takeWhile fun c => !(Character.isBlank c || c == '\x7b')
  if name.isEmpty then none else some (String.ofList name)

/-- The first class that is declared public, or the usual one. -/
def className (content : Bytes) : String :=
  ((Text.lines (Utf8.decodeLossy content).toList).findSome? declared?).getD "Main"

def classOfSource? (name : String) : Option String :=
  if endsIn name ".java" then some (name.dropEnd ".java".length).toString else none

end Java

/-- Sources are named for the class that they declare; the class of the first source runs. -/
def java : Language where
  name := "java"
  sourceName content := Java.className content ++ ".java"
  compileCommand directory sources flags :=
    some (["javac", "-encoding", "UTF-8"] ++ flags ++
      (sources.filter (endsIn · ".java")).map (Path.join directory))
  runCommand directory sources :=
    ["java", "-Xss64m", "-XX:+UseSerialGC", "-cp", directory,
      (sources.findSome? Java.classOfSource?).getD "Main"]
  env _ := [("JAVA_TOOL_OPTIONS", "-Dfile.encoding=UTF-8")]
  limitsAddressSpace := false

def known : List (List String × Language) :=
  [(["python", "py", "python3"], python), (["cpp", "c++", "cxx", "cc"], cpp), (["java"], java)]

def find? (name : String) : Option Language :=
  (known.find? fun entry => entry.1.contains name).map (·.2)

end Language
end ContestJudge
