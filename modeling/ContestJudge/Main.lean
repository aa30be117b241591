import ContestJudge.Command.Respond
/-!
The program: it puts the files of a request on the machine, has the request answered and prints the
answer.
-/

namespace ContestJudge.Main

/-- Puts files as they are on disk into a store. A file that cannot be read is not there. -/
def gather (paths : List String) (files : FileStore) : IO FileStore := do
  let mut files := files
  for path in paths do
    if let .ok content ← (IO.FS.readBinFile path).toBaseIO then
      files := files.install path content.toList true
  return files

def print (transcript : Transcript) : IO UInt32 := do
  for line in transcript.output do IO.println line
  for line in transcript.complaints do IO.eprintln line
  return UInt32.ofNat transcript.code

def run (arguments : List String) : IO UInt32 := do
  let bindings := [("PATH", (← IO.getEnv "PATH").getD "")]
  let request := Request.ofArguments arguments
  let files ← gather (request.named bindings) .empty
  let files ← gather (request.mentioned files) files
  print (request.respond bindings files)

end ContestJudge.Main

def main (arguments : List String) : IO UInt32 := ContestJudge.Main.run arguments
