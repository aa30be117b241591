import ContestJudge.Adapter.Basic
import ContestJudge.Adapter.Points
import ContestJudge.Registry

namespace ContestJudge

namespace Adapter

def judgeDefault (o : InteractorOutcome) : Except Fault Award :=
  if o.isBroken then .error o.helperFault
  else if o.report.exitCode = some 0 then .ok o.passed
  else if o.report.exitCode = some 1 then .ok o.failed
  else .error o.helperFault

def default : Adapter := ⟨"default", judgeDefault, defaultArgsTemplate⟩

def judgeTestlib (o : InteractorOutcome) : Except Fault Award :=
  if o.isBroken then .error o.helperFault
  else if o.report.exitCode = some 0 then .ok o.passed
  else if o.report.exitCode = some 1 ∨ o.report.exitCode = some 2 then .ok o.failed
  else if o.report.exitCode = some 7 then
    match Points.fraction o.stderr with
    | .ok fraction => .ok { o.passed with points := o.maxPoints * fraction }
    | .error cause => .error (.internal cause)
  else if o.report.exitCode = some 3 then
    .error (.internal (.failedAssertion o.name o.shownStderr))
  else .error o.helperFault

/-- Exit code 0 accepts, 1 and 2 reject, 7 awards the share on the points line, and 3 says that
the interactor itself found a fault of the judge. -/
def testlib : Adapter := ⟨"testlib", judgeTestlib, defaultArgsTemplate⟩

end Adapter

abbrev AdapterRegistry := Registry Adapter

namespace AdapterRegistry

def add (registry : AdapterRegistry) (adapter : Adapter) : AdapterRegistry :=
  registry.register adapter.name adapter

def builtin : AdapterRegistry := (add Registry.empty .default).add .testlib

/-- The adapter of a name; an unknown name is a fault of the judge. -/
def find (registry : AdapterRegistry) (name : String) : Except Fault Adapter :=
  match registry.get? name with
  | some adapter => .ok adapter
  | none => .error (.internal (.unknownAdapter name))

end AdapterRegistry
end ContestJudge
