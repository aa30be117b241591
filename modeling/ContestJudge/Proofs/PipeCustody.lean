import ContestJudge.Proofs.PipeCourse

namespace ContestJudge

namespace Act

theorem order?_of_isWatch {act : Act} (looks : act.IsWatch) : act.order? = none := by
  cases act <;> first | rfl | exact looks.elim

end Act

section Watching

variable {watch : List Act} (watches : ∀ act ∈ watch, act.IsWatch)
include watches

theorem orders_of_watch : orders watch = [] := by
  rw [orders, List.filterMap_eq_nil_iff]
  exact fun act listed => Act.order?_of_isWatch (watches act listed)

theorem orders_around_watch (opening closing : List Act) :
    orders (opening ++ watch ++ closing) = orders opening ++ orders closing := by
  have unordered := orders_of_watch watches
  simp only [orders, List.filterMap_append] at unordered ⊢
  rw [unordered, List.append_nil]

end Watching

section Courses

variable {toSubmission toInteractor : Nat} {order other : LaunchOrder}
  (distinct : toInteractor ≠ toSubmission)
  (wired : order.Wired ⟨toSubmission, .read⟩ ⟨toInteractor, .write⟩)
  (unlike : other.Wired ⟨toInteractor, .read⟩ ⟨toSubmission, .write⟩)

end Courses

namespace InteractiveGrader

variable {σ : Type} {g : InteractiveGrader σ} {c : TestCase} {material : FileStore × CaseData}

end InteractiveGrader

namespace Sample

end Sample
end ContestJudge
