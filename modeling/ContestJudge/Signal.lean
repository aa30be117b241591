namespace ContestJudge.Signal

/-- The names of the signals from 1 on, without their common beginning. -/
def names : List String :=
  ["HUP", "INT", "QUIT", "ILL", "TRAP", "ABRT", "BUS", "FPE", "KILL", "USR1", "SEGV", "USR2",
    "PIPE", "ALRM", "TERM", "STKFLT", "CHLD", "CONT", "STOP", "TSTP", "TTIN", "TTOU", "URG",
    "XCPU", "XFSZ", "VTALRM", "PROF", "WINCH", "IO", "PWR", "SYS"]

def kill : Int := 9
def brokenPipe : Int := 13
def resume : Int := 18
def cpuLimit : Int := 24
def fileSizeLimit : Int := 25

def name (signal : Int) : String :=
  match if signal < 1 then none else names[(signal - 1).toNat]? with
  | some name => "SIG" ++ name
  | none => s!"signal {signal}"

/-- The number of a signal given by number or by name, with or without the common beginning. -/
def number? (text : String) : Option Nat :=
  let short := if text.startsWith "SIG" then (text.drop 3).toString else text
  match names.findIdx? (· == short) with
  | some index => some (index + 1)
  | none => text.toNat?

end ContestJudge.Signal
