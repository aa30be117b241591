import ContestJudge.Number.Binary64
/-!
The order of binary64 numbers. Away from NaN it is the order of their ranks, and the greater of two
numbers is what its name says.
-/

namespace ContestJudge.Binary64

/-- The place of a number in the order; the two zeros share one. -/
def rank : Binary64 → Int
  | .nan => 0
  | .infinite negative => signedSteps negative outOfRange
  | .finite negative steps _ => signedSteps negative steps

theorem rank_finite_bounds (negative : Bool) (steps : Nat) (representable : Representable steps) :
    -(outOfRange : Int) < (finite negative steps representable).rank ∧
      (finite negative steps representable).rank < outOfRange := by
  have inRange : steps < outOfRange := representable.2
  cases negative <;> simp only [rank, signedSteps, if_true, Bool.false_eq_true, if_false] <;> omega

theorem outOfRange_pos : 0 < outOfRange := by
  unfold outOfRange
  generalize 1074 + 1024 = bits
  exact Nat.two_pow_pos bits

theorem stepsPerUnit_pos : 0 < stepsPerUnit := by
  unfold stepsPerUnit
  generalize 1074 = bits
  exact Nat.two_pow_pos bits

theorem le_iff (x y : Binary64) :
    x.le y ↔ x.isNan = false ∧ y.isNan = false ∧ x.rank ≤ y.rank := by
  have wide := outOfRange_pos
  cases x with
  | nan => simp [le, isNan]
  | infinite negative =>
    cases y with
    | nan => cases negative <;> simp [le, isNan]
    | infinite other =>
      cases negative <;> cases other <;>
        simp only [le, isNan, rank, signedSteps, if_true, Bool.false_eq_true, if_false,
          true_and, true_iff, false_iff] <;> omega
    | finite other steps representable =>
      have bounds := rank_finite_bounds other steps representable
      cases negative <;>
        simp only [le, isNan, rank, signedSteps, if_true, Bool.false_eq_true, if_false,
          true_and, true_iff, false_iff] at bounds ⊢ <;> omega
  | finite negative steps representable =>
    have bounds := rank_finite_bounds negative steps representable
    cases y with
    | nan => simp [le, isNan]
    | infinite other =>
      cases other <;>
        simp only [le, isNan, rank, signedSteps, if_true, Bool.false_eq_true, if_false,
          true_and, true_iff, false_iff] at bounds ⊢ <;> omega
    | finite other steps' representable' => simp [le, isNan, rank]

variable {x y z : Binary64}

theorem isNan_left_of_le (ordered : x.le y) : x.isNan = false := ((le_iff x y).mp ordered).1

theorem isNan_right_of_le (ordered : x.le y) : y.isNan = false := ((le_iff x y).mp ordered).2.1

theorem le_refl (number : x.isNan = false) : x.le x :=
  (le_iff x x).mpr ⟨number, number, Int.le_refl _⟩

theorem le_trans (first : x.le y) (second : y.le z) : x.le z := by
  rw [le_iff] at first second ⊢
  exact ⟨first.1, second.2.1, Int.le_trans first.2.2 second.2.2⟩

theorem lt_of_not_le (left : x.isNan = false) (right : y.isNan = false) (above : ¬x.le y) :
    y.lt x := by
  have ordered : y.le x := by
    rw [le_iff] at above ⊢
    refine ⟨right, left, (Int.le_total x.rank y.rank).resolve_left fun below => ?_⟩
    exact above ⟨left, right, below⟩
  simp only [lt, ordered, above, Bool.not_false, Bool.and_self]

theorem le_of_lt (below : x.lt y) : x.le y := by
  rw [lt, Bool.and_eq_true] at below
  exact below.1

theorem not_le_of_lt (below : x.lt y) : ¬y.le x := by
  rw [lt, Bool.and_eq_true, Bool.not_eq_true'] at below
  exact Bool.eq_false_iff.mp below.2

theorem le_of_not_lt (left : x.isNan = false) (right : y.isNan = false) (above : ¬x.lt y) :
    y.le x := by
  by_cases ordered : y.le x
  · exact ordered
  · exact absurd (lt_of_not_le right left ordered) above

theorem isNan_ofSteps (negative : Bool) (n d : Nat) : (ofSteps negative n d).isNan = false := by
  unfold ofSteps
  split <;> rfl

theorem isNan_ofNat (n : Nat) : (ofNat n).isNan = false := by
  rw [ofNat, ofRatio, isNan_ofSteps]

theorem exists_of_isZero (zero : x.isZero) : ∃ negative h, x = .finite negative 0 h := by
  rcases x with _ | _ | ⟨negative, _ | steps, h⟩
  · cases zero
  · cases zero
  · exact ⟨negative, h, rfl⟩
  · cases zero

theorem le_of_isZero (left : x.isZero) (right : y.isZero) : x.le y := by
  obtain ⟨m, _, rfl⟩ := exists_of_isZero left
  obtain ⟨n, _, rfl⟩ := exists_of_isZero right
  cases m <;> cases n <;> rfl

section Greater

variable (left : x.isNan = false) (right : y.isNan = false)
include left right

theorem max_of_numbers :
    x.max y = if x.lt y || (x.isZero && y.isZero && x.isNegative) then y else x := by
  simp only [max, left, right, Bool.false_eq_true, if_false]

theorem left_le_max : x.le (x.max y) := by
  rw [max_of_numbers left right]
  split
  · rename_i greater
    rcases (Bool.or_eq_true ..).mp greater with below | zeros
    · exact le_of_lt below
    · simp only [Bool.and_eq_true] at zeros
      exact le_of_isZero zeros.1.1 zeros.1.2
  · exact le_refl left

theorem right_le_max : y.le (x.max y) := by
  rw [max_of_numbers left right]
  split
  · exact le_refl right
  · rename_i least
    refine le_of_not_lt left right fun below => least ?_
    rw [below, Bool.true_or]

end Greater

theorem max_le (left : x.le z) (right : y.le z) : (x.max y).le z := by
  rw [max_of_numbers (isNan_left_of_le left) (isNan_left_of_le right)]
  split
  · exact right
  · exact left

theorem zero_eq : (0 : Binary64) = .finite false 0 (by decide +kernel) := by
  decide +kernel

theorem lt_of_finite {m n : Bool} {a b : Nat} {ha : Representable a} {hb : Representable b} :
    lt (.finite m a ha) (.finite n b hb) = decide (signedSteps m a < signedSteps n b) := by
  rw [lt, le, le, ← decide_not, ← Bool.decide_and]
  exact decide_eq_decide.mpr (by omega)

/-- Whatever is not above zero counts as zero: a negative zero and NaN too. -/
theorem max_zero (x : Binary64) : x.max 0 = if lt 0 x then x else 0 := by
  rw [zero_eq]
  rcases x with _ | negative | ⟨negative, steps, h⟩
  · rfl
  · cases negative <;> rfl
  cases steps with
  | zero => cases negative <;> rfl
  | succ steps =>
    rw [max_of_numbers rfl rfl, lt_of_finite, lt_of_finite]
    have above : 0 < signedSteps false (steps + 1) := Int.natCast_pos.mpr (Nat.succ_pos steps)
    have below : signedSteps true (steps + 1) < 0 := Int.neg_neg_of_pos above
    have zero : signedSteps false 0 = 0 := rfl
    cases negative with
    | false =>
      have nonzero : isZero (.finite false (steps + 1) h) = false := rfl
      simp only [zero, above, Int.lt_asymm above, nonzero, decide_true, decide_false,
        Bool.false_and, Bool.or_false, Bool.false_eq_true, if_false, if_true]
    | true =>
      simp only [zero, below, Int.lt_asymm below, decide_true, decide_false, Bool.true_or,
        Bool.false_eq_true, if_false, if_true]

end ContestJudge.Binary64
