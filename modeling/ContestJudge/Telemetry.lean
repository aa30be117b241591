import ContestJudge.Report
import ContestJudge.Text.Words
import ContestJudge.Verdict
/-!
From a process report to a verdict: limit breaches first, then the death by a signal, then the exit
code, which names the exception on the last line of stderr where there is one.
-/

namespace ContestJudge

def isNameChar (c : Char) : Bool := c.isAlphanum || c == '_'

def lastComponent (name : List Char) : List Char :=
  ((name.reverse.takeWhile (· != '.'))).reverse

/-- The exception class named by a line: what stands before the first colon, without its path. -/
def exceptionOfLine? (line : List Char) : Option String :=
  let short := lastComponent (Text.trimChars (line.takeWhile (· != ':')))
  let ends (ending : String) := ending.toList.isSuffixOf short
  if !short.isEmpty && short.all isNameChar && (ends "Error" || ends "Exception") then
    some (String.ofList short)
  else none

def exceptionName (stderr : Bytes) : Option String :=
  let lines := Text.lines (Utf8.decodeLossy stderr).toList
  (lines.reverse.find? fun line => !line.all Character.isBlank).bind exceptionOfLine?

namespace CaseResult

def withUsage (r : CaseResult) (report : ProcessReport) : CaseResult :=
  { r with
    executionTime := report.cpuTime.toSeconds
    wallTime := report.wallTime.toSeconds
    maxMemory := report.maxMemory }

def withLimits (r : CaseResult) (report : ProcessReport) : CaseResult :=
  { r with
    flags := ((r.flags.insertIf report.isTle .timeLimit).insertIf report.isMle .memoryLimit).insertIf
      report.isOle .outputLimit }

def withEnd (r : CaseResult) (stderr : Bytes) (report : ProcessReport) : CaseResult :=
  match report.signalName, report.exitCode with
  | some name, _ => { r with flags := r.flags.insert .runtimeError, feedback := name }
  | none, some code =>
    if code = 0 then r
    else
      { r with
        flags := r.flags.insert .invalidReturn
        feedback := (exceptionName stderr).getD r.feedback }
  | none, none => r

/-- Takes a report into the result. An exit or a signal counts only while nothing else failed. -/
def populate (r : CaseResult) (stderr : Bytes) (report : ProcessReport) : CaseResult :=
  let limited := (r.withUsage report).withLimits report
  if limited.failed then limited else limited.withEnd stderr report

end CaseResult
end ContestJudge
