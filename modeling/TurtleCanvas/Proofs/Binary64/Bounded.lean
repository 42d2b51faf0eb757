import TurtleCanvas.Proofs.Argument
import TurtleCanvas.Proofs.Binary64.Order

/-!
# Doubles within a bound

Sums and products of doubles that are within bounds are within the sum and the product of these, as
long as these are doubles themselves: rounding does not cross a double.

* `Binary64.Within` says that a double is at most a bound in magnitude, where it is finite;
* `Binary64.Within.add`, `Binary64.Within.mul` and `Binary64.Within.div` say what the bounds of a
  sum, of a product and of a quotient are;
* `Binary64.within_turning` says that a cosine and a sine are within one.
-/

namespace TurtleCanvas

namespace Binary64

/-- The double is at most a bound in magnitude, unless it is an infinity or a NaN. -/
def Within (b : ℚ) (x : Float) : Prop := isFinite x = true → |value x| ≤ b

variable {a b q : ℚ} {x y : Float}

namespace Within

theorem mono (h : Within a x) (hab : a ≤ b) : Within b x := fun hx => (h hx).trans hab

theorem of_isFinite_eq_false (h : isFinite x = false) : Within b x :=
  fun hx => nomatch h.symm.trans hx

/-- A sum is finite only if its parts are. -/
theorem add (hx : Within a x) (hy : Within b y) (hab : Representable (a + b)) :
    Within (a + b) (x + y) := by
  intro h
  have hfinite : isFinite x = true ∧ isFinite y = true := by
    by_contra hnot
    rw [not_and_or, Bool.not_eq_true, Bool.not_eq_true] at hnot
    exact nomatch (isFinite_add hnot).symm.trans h
  have hsum : |value x + value y| ≤ a + b :=
    (abs_add_le _ _).trans (add_le_add (hx hfinite.1) (hy hfinite.2))
  exact ((beside_add hfinite.1 hfinite.2).abs_value_le hab hsum).2

/-- A product is finite only if its factors are. -/
theorem mul (hx : Within a x) (hy : Within b y) (hab : Representable (a * b)) :
    Within (a * b) (x * y) := by
  intro h
  have hfinite : isFinite x = true ∧ isFinite y = true := by
    by_contra hnot
    rw [not_and_or, Bool.not_eq_true, Bool.not_eq_true] at hnot
    exact nomatch (isFinite_mul hnot).symm.trans h
  have hproduct : |value x * value y| ≤ a * b := by
    rw [abs_mul]
    exact mul_le_mul (hx hfinite.1) (hy hfinite.2) (abs_nonneg _)
      ((abs_nonneg _).trans (hx hfinite.1))
  exact ((beside_mul hfinite.1 hfinite.2).abs_value_le hab hproduct).2

/-- A quotient by a double that is at least one is no greater than what is divided. -/
theorem div (hx : Within a x) (ha : Representable a) (hy : AtLeast 1 y) : Within a (x / y) := by
  intro h
  have hfinite : isFinite x = true := by
    by_contra hnot
    exact nomatch (isFinite_div (Bool.eq_false_iff.2 hnot)).symm.trans h
  rcases hy with ⟨hyfinite, hone⟩ | ⟨hinf, hnan, -⟩
  · have hpos : 0 < value y := one_pos.trans_le hone
    have hquotient : |value x / value y| ≤ a := by
      rw [abs_div, abs_of_pos hpos]
      exact (div_le_self (abs_nonneg _) hone).trans (hx hfinite)
    exact ((beside_div hfinite hyfinite hpos.ne').abs_value_le ha hquotient).2
  · rw [(div_infinite hfinite hinf hnan).2, abs_zero]
    exact (abs_nonneg _).trans (hx hfinite)

end Within

theorem within_of_value_eq (h : value x = q) (hq : |q| ≤ b) : Within b x := fun _ => h ▸ hq

/-! ### Cosines and sines -/

theorem within_withinOne (f : Float → Float) (x : Float) : Within 1 (Argument.withinOne f x) := by
  rw [Argument.withinOne]
  split_ifs with hbeyond
  · exact Within.of_isFinite_eq_false rfl
  · intro hfinite
    rw [not_or, compareInt_of_isFinite hfinite, compareInt_of_isFinite hfinite, Option.some.injEq,
      Option.some.injEq, compare_gt_iff_gt, compare_lt_iff_lt, not_lt, not_lt] at hbeyond
    exact abs_le.2 ⟨by exact_mod_cast hbeyond.2, by exact_mod_cast hbeyond.1⟩

/-- The cosine or the sine of an angle is within one. -/
theorem within_turning (f : Float → Float) (x : Float) :
    Within 1 (Argument.keepingNaN (Argument.withinOne f) x) := by
  rw [Argument.keepingNaN]
  split_ifs with hnan
  · exact Within.of_isFinite_eq_false (isFinite_of_isNaN hnan)
  · exact within_withinOne f x

end Binary64

end TurtleCanvas
