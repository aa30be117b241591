import ContestJudge.Checker.Builtin
import ContestJudge.Registry

namespace ContestJudge

abbrev CheckerRegistry := Registry Checker

namespace CheckerRegistry

def add (registry : CheckerRegistry) (checker : Checker) : CheckerRegistry :=
  registry.register checker.name checker

def builtin : CheckerRegistry := (add Registry.empty .standard).add .identical

/-- The checker of a name; an unknown name is a fault of the configuration. -/
def find (registry : CheckerRegistry) (name : String) : Except Fault Checker :=
  match registry.get? name with
  | some checker => .ok checker
  | none => .error (.config (.unknownChecker name))

end CheckerRegistry
end ContestJudge
