import ContestJudge.Checker.Basic
import ContestJudge.Text.Words

namespace ContestJudge.Checker

def tokensMatch (expected actual : Bytes) : Bool := tokens expected == tokens actual

def standard : Checker :=
  ⟨"standard", false, fun ctx =>
    .answer (.ok (.ofBool (tokensMatch ctx.judgeOutput ctx.submissionOutput)))⟩

def presentationError : Award :=
  (Award.ofPoints false 0).withFeedback (some "Presentation Error, check your whitespace")

def judgeIdentical (expected actual : Bytes) (binaryData : Bool) : Judgement :=
  let expected := trimTrailingBlanks expected
  let actual := trimTrailingBlanks actual
  if expected = actual then .pass
  else if !binaryData && tokensMatch expected actual then .graded presentationError
  else .fail

def identical : Checker :=
  ⟨"identical", false, fun ctx =>
    .answer (.ok (judgeIdentical ctx.judgeOutput ctx.submissionOutput ctx.binaryData))⟩

end ContestJudge.Checker
