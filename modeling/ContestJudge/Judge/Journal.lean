import ContestJudge.Build.Source
import ContestJudge.Checker.Basic
import ContestJudge.Sandbox.Basic

namespace ContestJudge

structure LaunchOrder where
  binary : Binary
  spec : LaunchSpec
  files : FileStore

def LaunchOrder.ends (order : LaunchOrder) : List PipeEnd := order.spec.pipeEnds

inductive Act where
  /-- Asked for a build. -/
  | requested (request : CompileRequest)
  | pipeOpened (pipe : Nat)
  /-- Let go of a pipe end that was still its own. -/
  | endClosed (e : PipeEnd)
  | launched (process : Handle) (order : LaunchOrder)
  /-- Failed to launch, and lost the pipe ends that were to go along. -/
  | notLaunched (order : LaunchOrder)
  | waited (process : Handle)
  | communicated (process : Handle)
  | stderrRead (process : Handle)
  | killed (process : Handle)
  | outputMarked (process : Handle)
  | released (process : Handle)
  /-- Asked a checker. -/
  | consulted (checker : String) (context : CheckContext)
  /-- Gave the judge input to the checker that was asked last. -/
  | inputShown (data : Bytes)

end ContestJudge
