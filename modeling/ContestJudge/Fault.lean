import ContestJudge.Number.Layout
/-!
Why grading stops. A fault is a kind and a cause; the wording of every cause is in one place.
Limit breaches and crashes of graded programs are no faults but part of a report.
-/

namespace ContestJudge

inductive FileFault where
  | notFound
  | denied
  | notDirectory
  | isDirectory
  | nameTooLong
  | noSpace
  | exists
  | nulInName
  | nulInArgument
  | notText
  /-- The program named by a script or by its format cannot be run. -/
  | badFormat
  | argumentsTooLong
  /-- The programs that a script names lead to more and more scripts. -/
  | tooManyLinks
  deriving DecidableEq, Repr

def FileFault.message : FileFault → String
  | .notFound => "No such file or directory (os error 2)"
  | .denied => "Permission denied (os error 13)"
  | .notDirectory => "Not a directory (os error 20)"
  | .isDirectory => "Is a directory (os error 21)"
  | .nameTooLong => "File name too long (os error 36)"
  | .noSpace => "No space left on device (os error 28)"
  | .exists => "File exists (os error 17)"
  | .nulInName => "file name contained an unexpected NUL byte"
  | .nulInArgument => "nul byte found in provided data"
  | .notText => "stream did not contain valid UTF-8"
  | .badFormat => "Exec format error (os error 8)"
  | .argumentsTooLong => "Argument list too long (os error 7)"
  | .tooManyLinks => "Too many levels of symbolic links (os error 40)"

inductive ConfigFault where
  | secondsOutOfRange (field : String) (value : Binary64)
  | wallFactorOutOfRange (factor : Binary64)
  | interactorTimeOverflow
  | noInteractiveSection (problem : String)
  | unknownChecker (name : String)
  | manifestUnreadable (path : String) (cause : FileFault)
  | manifestMalformed
  | timeLimitNotPositive (value : Binary64)
  | caseConfigMalformed
  | environmentUnreadable (path : String) (cause : FileFault)
  | environmentMalformed
  | emptyCommand (language : String)
  /-- A cause that a collaborator words itself. -/
  | reported (text : String)
  deriving DecidableEq

def ConfigFault.message : ConfigFault → String
  | .secondsOutOfRange field value => s!"{field} of {value.inMessage} seconds is out of range"
  | .wallFactorOutOfRange factor => s!"wall time factor {factor.inMessage} is out of range"
  | .interactorTimeOverflow => "interactor time limit overflows"
  | .noInteractiveSection problem => s!"problem {problem} has no interactive section"
  | .unknownChecker name => s!"unknown checker: {name}"
  | .manifestUnreadable path cause => s!"Failed to read manifest {path}: {cause.message}"
  | .manifestMalformed => "Failed to parse manifest JSON"
  | .timeLimitNotPositive value => s!"time_limit must be positive, got {value.inMessage}"
  | .caseConfigMalformed => "Invalid case config"
  | .environmentUnreadable path cause =>
    s!"Failed to read judge environment {path}: {cause.message}"
  | .environmentMalformed => "Failed to parse judge environment JSON"
  | .emptyCommand language => s!"{language} binary has an empty command"
  | .reported text => text

inductive Misbehaviour where
  | timedOut (limit : Binary64)
  | outOfMemory (limit : Nat)
  | killed (signal : String)
  | exited (code : Int)
  deriving DecidableEq

def Misbehaviour.message : Misbehaviour → String
  | .timedOut limit => s!"timed out (> {limit.inMessage} seconds)"
  | .outOfMemory limit => s!"ran out of memory (> {limit} KB)"
  | .killed signal => s!"killed by {signal}"
  | .exited code => s!"exited with nonzero code {code}"

inductive InternalFault where
  | unknownAdapter (name : String)
  /-- A helper that gave no judgement, with its trimmed stderr. -/
  | helper (name : String) (what : Misbehaviour) (stderr : String)
  | failedAssertion (name : String) (message : String)
  /-- No points line, with the quoted stderr. -/
  | pointsMissing (quoted : String)
  | pointsUnparsable
  | pointsOutOfRange (fraction : Binary64)
  | sourceUnreadable (path : String) (cause : FileFault)
  | noWorkspace (cause : FileFault)
  | sourceUnwritable (name : String) (cause : FileFault)
  | compilerNotStarted (reason : String)
  | compilerUnreadable (reason : String)
  | compilerNotReaped (reason : String)
  /-- A process that has no report as it was never waited for. -/
  | unreported (pid : Nat)
  | interactorNeverLaunched
  | endHandedOut (name : String)
  /-- A cause that a collaborator words itself. -/
  | reported (text : String)
  deriving DecidableEq

def InternalFault.message : InternalFault → String
  | .unknownAdapter name => s!"{name} is not a valid contrib module"
  | .helper name what stderr =>
    if stderr.isEmpty then s!"{name} {what.message}"
    else s!"{name} {what.message} with stderr {stderr}"
  | .failedAssertion name message => s!"{name} failed assertion with message {message}"
  | .pointsMissing quoted => s!"invalid stderr for partial points: {quoted}"
  | .pointsUnparsable => "unparsable partial points"
  | .pointsOutOfRange fraction => s!"invalid partial points: {fraction.inMessage}"
  | .sourceUnreadable path cause => s!"failed to read interactor source {path}: {cause.message}"
  | .noWorkspace cause => s!"failed to create build directory: {cause.message}"
  | .sourceUnwritable name cause => s!"failed to write {name}: {cause.message}"
  | .compilerNotStarted reason => s!"failed to start compiler: {reason}"
  | .compilerUnreadable reason => s!"failed to read compiler output: {reason}"
  | .compilerNotReaped reason => s!"failed to wait for compiler: {reason}"
  | .unreported pid => s!"process {pid} has no report; it was never waited for"
  | .interactorNeverLaunched => "interactor was never launched"
  | .endHandedOut name => s!"{name} pipe end was already handed out"
  | .reported text => text

inductive ProcessFault where
  | notStarted (program : String) (cause : FileFault)
  /-- A cause that a collaborator words itself. -/
  | reported (text : String)
  deriving DecidableEq

def ProcessFault.message : ProcessFault → String
  | .notStarted program cause => s!"Failed to start {program}: {cause.message}"
  | .reported text => text

inductive DataFault where
  | file (cause : FileFault)
  /-- A cause that a collaborator words itself. -/
  | reported (text : String)
  deriving DecidableEq

def DataFault.message : DataFault → String
  | .file cause => cause.message
  | .reported text => text

inductive Fault where
  | data (cause : DataFault)
  | config (cause : ConfigFault)
  | process (cause : ProcessFault)
  /-- The contestant's submission did not build. -/
  | compile (diagnostics : String)
  /-- The judge's own interactor did not build. -/
  | interactorCompile (diagnostics : String)
  | internal (cause : InternalFault)
  | checker (message : String)
  deriving DecidableEq

namespace Fault

def ofFile (cause : FileFault) : Fault := .data (.file cause)

def message : Fault → String
  | .data cause => "IO error: " ++ cause.message
  | .config cause => "Configuration error: " ++ cause.message
  | .process cause => "Process error: " ++ cause.message
  | .compile diagnostics => "Compile error: " ++ diagnostics
  | .interactorCompile _ => "Internal error: interactor failed compiling"
  | .internal cause => "Internal error: " ++ cause.message
  | .checker message => "Checker error: " ++ message

def isInternal : Fault → Bool
  | .interactorCompile _ => true
  | .internal _ => true
  | .checker _ => true
  | _ => false

end Fault
end ContestJudge
