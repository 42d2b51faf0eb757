import Mathlib.Analysis.SpecialFunctions.Trigonometric.Basic
import TurtleCanvas.Proofs.Exact

/-!
# The circle functions of the reals

* `Exact.instTrigReal` is sine and cosine of angles in degrees, and `Exact.instLawfulTrigReal` and
  `Exact.instPythagoreanTrigReal` say that they have what is asked of them.
-/

namespace TurtleCanvas

namespace Exact

/-- Sine and cosine of angles in degrees. -/
noncomputable instance instTrigReal : Trig ℝ where
  pi := Real.pi
  cos x := Real.cos (x * (Real.pi / 180))
  sin x := Real.sin (x * (Real.pi / 180))

theorem radians_add_turn (x : ℝ) :
    (x + 360) * (Real.pi / 180) = x * (Real.pi / 180) + 2 * Real.pi := by ring

instance instLawfulTrigReal : LawfulTrig ℝ where
  cos_even x := by
    show Real.cos (-x * (Real.pi / 180)) = Real.cos (x * (Real.pi / 180))
    rw [neg_mul, Real.cos_neg]
  sin_odd x := by
    show Real.sin (-x * (Real.pi / 180)) = -Real.sin (x * (Real.pi / 180))
    rw [neg_mul, Real.sin_neg]
  cos_periodic x := by
    show Real.cos ((x + 360) * (Real.pi / 180)) = Real.cos (x * (Real.pi / 180))
    rw [radians_add_turn, Real.cos_add_two_pi]
  sin_periodic x := by
    show Real.sin ((x + 360) * (Real.pi / 180)) = Real.sin (x * (Real.pi / 180))
    rw [radians_add_turn, Real.sin_add_two_pi]

instance instPythagoreanTrigReal : PythagoreanTrig ℝ where
  cos_sq_add_sin_sq x := Real.cos_sq_add_sin_sq (x * (Real.pi / 180))

theorem cos_right_angle : (Trig.cos 90 : ℝ) = 0 := by
  show Real.cos (90 * (Real.pi / 180)) = 0
  rw [show 90 * (Real.pi / 180) = Real.pi / 2 by ring, Real.cos_pi_div_two]

theorem sin_right_angle : (Trig.sin 90 : ℝ) = 1 := by
  show Real.sin (90 * (Real.pi / 180)) = 1
  rw [show 90 * (Real.pi / 180) = Real.pi / 2 by ring, Real.sin_pi_div_two]

end Exact

end TurtleCanvas
