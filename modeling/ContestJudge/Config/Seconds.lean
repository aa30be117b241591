import ContestJudge.Duration
import ContestJudge.Fault

namespace ContestJudge

def configuredTime (value : Binary64) (field : String) : Except Fault Duration :=
  match Duration.ofSeconds? value with
  | some time => .ok time
  | none => .error (.config (.secondsOutOfRange field value))

end ContestJudge
