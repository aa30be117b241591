import ContestJudge.Checker.Basic
import ContestJudge.Report
import ContestJudge.Text.Words
/-!
Protocol adapters turn the end of an interactor into a judgement. An interactor that breaks a
limit, dies or ends with an unexpected code is a fault of the judge.
-/

namespace ContestJudge

def defaultArgsTemplate : String :=
  "\x7binput_file\x7d \x7boutput_file\x7d \x7banswer_file\x7d"

structure InteractorOutcome where
  report : ProcessReport
  maxPoints : Binary64
  timeLimit : Duration
  /-- KiB. -/
  memoryLimit : Nat
  /-- The stderr of the interactor, where the problem shows it. -/
  feedback : Option String
  /-- The name of the helper in messages. -/
  name : String
  stderr : Bytes

namespace InteractorOutcome

def shownStderr (o : InteractorOutcome) : String := Text.trim (Utf8.decodeLossy o.stderr)

def misbehaviour (o : InteractorOutcome) : Misbehaviour :=
  if o.report.isTle then .timedOut o.timeLimit.toSeconds
  else if o.report.isMle then .outOfMemory o.memoryLimit
  else match o.report.signalName with
    | some signal => .killed signal
    | none => .exited (o.report.exitCode.getD (-1))

def helperFault (o : InteractorOutcome) : Fault :=
  .internal (.helper o.name o.misbehaviour o.shownStderr)

def passed (o : InteractorOutcome) : Award :=
  (Award.ofPoints true o.maxPoints).withFeedback o.feedback

def failed (o : InteractorOutcome) : Award :=
  (Award.ofPoints false 0).withFeedback o.feedback

def isBroken (o : InteractorOutcome) : Bool :=
  o.report.isTle || o.report.isMle || o.report.signal.isSome

end InteractorOutcome

structure Adapter where
  name : String
  judge : InteractorOutcome → Except Fault Award
  argsTemplate : String

end ContestJudge
