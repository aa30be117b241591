import ContestJudge.Duration
import ContestJudge.Json.Value
import ContestJudge.Signal

namespace ContestJudge

structure ProcessReport where
  exitCode : Option Int
  signal : Option Int
  cpuTime : Duration
  wallTime : Duration
  /-- Peak memory in KiB. -/
  maxMemory : Nat
  cpuLimitExceeded : Bool
  /-- Killed at the wall clock limit. -/
  wallLimitExceeded : Bool
  memoryLimitExceeded : Bool
  outputLimitExceeded : Bool
  timeLimit : Duration
  /-- KiB; zero is no limit. -/
  memoryLimit : Nat
  deriving DecidableEq, Inhabited

namespace ProcessReport

/-- Over the time limit: on the processor, on the wall clock, or by signal. -/
def isTle (r : ProcessReport) : Bool :=
  r.cpuLimitExceeded || r.wallLimitExceeded || r.signal == some Signal.cpuLimit

def isMle (r : ProcessReport) : Bool := r.memoryLimitExceeded

def isOle (r : ProcessReport) : Bool :=
  r.outputLimitExceeded || r.signal == some Signal.fileSizeLimit

def signalName (r : ProcessReport) : Option String := r.signal.map Signal.name

def succeeded (r : ProcessReport) : Bool := r.exitCode == some 0 && r.signal.isNone

def durationJson (d : Duration) : Json :=
  .record [("secs", .ofNat d.seconds), ("nanos", .ofNat d.subsecond)]

def toJson (r : ProcessReport) : Json :=
  .record [
    ("exit_code", .ofOption .ofInt r.exitCode),
    ("signal", .ofOption .ofInt r.signal),
    ("cpu_time", durationJson r.cpuTime),
    ("wall_time", durationJson r.wallTime),
    ("max_memory", .ofNat r.maxMemory),
    ("cpu_limit_exceeded", .bool r.cpuLimitExceeded),
    ("wall_limit_exceeded", .bool r.wallLimitExceeded),
    ("memory_limit_exceeded", .bool r.memoryLimitExceeded),
    ("output_limit_exceeded", .bool r.outputLimitExceeded),
    ("time_limit", durationJson r.timeLimit),
    ("memory_limit", .ofNat r.memoryLimit)]

end ProcessReport
end ContestJudge
