import ContestJudge.Proofs.Work
/-!
Histories: what was done and answered, in order. A law says what an event may be after those before
it; a history that grows by one event after another keeps it if each new event does.
-/

namespace ContestJudge

def Lawful {ε : Type} (law : List ε → ε → Prop) (history : List ε) : Prop :=
  ∀ past event future, history = past ++ event :: future → law past event

section Laws

variable {ε : Type} {law : List ε → ε → Prop} {history : List ε}

theorem lawful_nil : Lawful law [] := by
  intro past event future same
  simp at same

theorem Lawful.concat {last : ε} (lawful : Lawful law history) (allowed : law history last) :
    Lawful law (history ++ [last]) := by
  intro past event future same
  rcases List.eq_nil_or_concat future with rfl | ⟨rest, final, rfl⟩
  · obtain ⟨rfl, ended⟩ := List.append_inj' same rfl
    cases ended
    exact allowed
  · have longer : history ++ [last] = (past ++ event :: rest) ++ [final] := by
      simp [same]
    exact lawful past event rest (List.append_inj' longer rfl).1

end Laws
end ContestJudge
