import ContestJudge.Sandbox.Basic

namespace ContestJudge

/-- One source. A source without a name gets the usual one of its language. -/
structure SourceFile where
  name : Option String
  content : Bytes
  deriving DecidableEq

structure CompileRequest where
  sources : List SourceFile
  flags : List String
  language : String
  timeLimit : Duration
  /-- Whether the runtime is asked not to buffer output. -/
  unbuffered : Bool
  deriving DecidableEq

end ContestJudge
