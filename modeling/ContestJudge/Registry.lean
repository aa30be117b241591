namespace ContestJudge

structure Registry (α : Type) where
  entries : List (String × α)

namespace Registry

variable {α : Type}

def empty : Registry α := ⟨[]⟩

def register (registry : Registry α) (name : String) (thing : α) : Registry α :=
  ⟨registry.entries.filter (·.1 ≠ name) ++ [(name, thing)]⟩

def get? (registry : Registry α) (name : String) : Option α :=
  (registry.entries.find? (·.1 = name)).map (·.2)

def names (registry : Registry α) : List String :=
  (registry.entries.map (·.1)).mergeSort fun a b => decide (a ≤ b)

end Registry
end ContestJudge
