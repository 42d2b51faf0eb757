import Mathlib.Algebra.Group.EvenFunction
import Mathlib.Algebra.Ring.Periodic
import TurtleCanvas.Heading
import TurtleCanvas.Proofs.Action
import TurtleCanvas.Proofs.Rounding
import TurtleCanvas.Proofs.Turtle.Trace

/-!
# Exact arithmetic

An ordered field with a floor is an arithmetic for coordinates in which nothing is rounded.  Sine
and cosine are any two functions, of which no more is asked than the laws that a result needs.

* `Trig` is a field's constant and functions of the circle, `LawfulTrig` their symmetries and
  `PythagoreanTrig` that they are the coordinates of points at a distance of one;
* `Exact.instScalar` is the exact arithmetic of a field;
* `folded` is the angle between 0 and 360 that is whole turns away from an angle, and
  `Exact.foldHeading_eq` says that this is the heading of the angle;
* `Exact.arc` is an arc with its chords, and `Exact.arc_of_chords` says that turtles draw it.
-/

namespace TurtleCanvas

/-- The constant and the functions of the circle, of angles in degrees. -/
class Trig (K : Type) where
  pi : K
  cos : K → K
  sin : K → K

/-- Cosine is even, sine is odd, and both have the period of a whole turn. -/
class LawfulTrig (K : Type) [Ring K] [Trig K] : Prop where
  cos_even : Function.Even (Trig.cos : K → K)
  sin_odd : Function.Odd (Trig.sin : K → K)
  cos_periodic : Function.Periodic (Trig.cos : K → K) 360
  sin_periodic : Function.Periodic (Trig.sin : K → K) 360

/-- Cosine and sine are the coordinates of a point at a distance of one. -/
class PythagoreanTrig (K : Type) [Ring K] [Trig K] : Prop where
  cos_sq_add_sin_sq (a : K) : Trig.cos a ^ 2 + Trig.sin a ^ 2 = 1

variable {K : Type} [Field K] [LinearOrder K] [IsStrictOrderedRing K] [FloorRing K]

/-! ### Angles -/

/-- The angle between 0 and 360 that is whole turns away from an angle. -/
def folded (a : K) : K := a - 360 * ⌊a / 360⌋

theorem folded_nonneg (a : K) : 0 ≤ folded a := by
  have h := Int.floor_le (a / 360)
  rw [le_div_iff₀ (by norm_num)] at h
  rw [folded]
  linarith

theorem folded_lt (a : K) : folded a < 360 := by
  have h := Int.lt_floor_add_one (a / 360)
  rw [div_lt_iff₀ (by norm_num)] at h
  rw [folded]
  linarith

/-- An angle between 0 and 360 that is whole turns away is the folded angle. -/
theorem eq_folded {a b : K} (h0 : 0 ≤ b) (h360 : b < 360) {n : ℤ} (h : a = b + 360 * n) :
    b = folded a := by
  have hfloor : ⌊a / 360⌋ = n := by
    rw [Int.floor_eq_iff, le_div_iff₀ (by norm_num), div_lt_iff₀ (by norm_num), h]
    constructor <;> linarith
  rw [folded, hfloor, h]
  ring

theorem folded_of_mem {a : K} (h0 : 0 ≤ a) (h360 : a < 360) : folded a = a :=
  (eq_folded (n := 0) h0 h360 (by simp)).symm

theorem folded_folded_add (a b : K) : folded (folded a + b) = folded (a + b) := by
  refine eq_folded (folded_nonneg _) (folded_lt _) (n := ⌊a / 360⌋ + ⌊(folded a + b) / 360⌋) ?_
  simp only [folded]
  push_cast
  ring

omit [IsStrictOrderedRing K] in
theorem cos_folded [Trig K] [LawfulTrig K] (a : K) : Trig.cos (folded a) = Trig.cos a := by
  rw [folded, mul_comm]
  exact LawfulTrig.cos_periodic.sub_int_mul_eq _

omit [IsStrictOrderedRing K] in
theorem sin_folded [Trig K] [LawfulTrig K] (a : K) : Trig.sin (folded a) = Trig.sin a := by
  rw [folded, mul_comm]
  exact LawfulTrig.sin_periodic.sub_int_mul_eq _

/-! ### The arithmetic -/

namespace Exact

/-- The whole part. -/
def trunc (a : K) : ℤ := if 0 ≤ a then ⌊a⌋ else ⌈a⌉

/-- The exact arithmetic of a field. -/
scoped instance instScalar [Trig K] : Scalar K where
  int n := n
  real n := n
  pi := Trig.pi
  isFinite _ := .ok true
  add a b := .ok (a + b)
  sub a b := .ok (a - b)
  mul a b := .ok (a * b)
  div a b := if b = 0 then .error .realDivisionByZero else .ok (a / b)
  neg a := .ok (-a)
  lt a b := .ok (decide (a < b))
  le a b := .ok (decide (a ≤ b))
  isZero a := decide (a = 0)
  isOne a := decide (a = 1)
  round a := .ok (roundHalfEven a)
  trunc a := .ok (trunc a)
  toReal a := .ok a
  rem a b := if b = 0 then .error .realDivisionByZero else .ok (a - b * trunc (a / b))
  cos a := .ok (Trig.cos a)
  sin a := .ok (Trig.sin a)

variable [Trig K]

instance : LawfulReal K where
  toReal_toReal _ := rfl
  toReal_real _ := rfl
  toReal_add _ _ := rfl
  toReal_rem _ := rfl

omit [Trig K] in
theorem trunc_bounds (a : K) : a - 1 < trunc a ∧ (trunc a : K) < a + 1 := by
  unfold trunc
  split_ifs
  · exact ⟨Int.sub_one_lt_floor a, (Int.floor_le a).trans_lt (lt_add_one a)⟩
  · exact ⟨(sub_one_lt a).trans_le (Int.le_ceil a), Int.ceil_lt_add_one a⟩

omit [Trig K] in
/-- What the truncated quotient leaves, moved up by a turn if it is negative, is the folded angle. -/
theorem folded_eq_of_trunc (a : K) :
    folded a = if a - 360 * trunc (a / 360) < 0 then a - 360 * trunc (a / 360) + 360
      else a - 360 * trunc (a / 360) := by
  obtain ⟨hlow, hhigh⟩ := trunc_bounds (a / 360)
  -- Truncation moves the quotient by less than one, and so the angle by less than a turn.
  have hlow' : a - 360 < 360 * trunc (a / 360) := by
    have := mul_lt_mul_of_pos_left hlow (by norm_num : (0 : K) < 360)
    linarith [mul_div_cancel₀ a (by norm_num : (360 : K) ≠ 0)]
  have hhigh' : 360 * (trunc (a / 360) : K) < a + 360 := by
    have := mul_lt_mul_of_pos_left hhigh (by norm_num : (0 : K) < 360)
    linarith [mul_div_cancel₀ a (by norm_num : (360 : K) ≠ 0)]
  split_ifs with h
  · refine (eq_folded (n := trunc (a / 360) - 1) ?_ ?_ ?_).symm
    · linarith
    · linarith
    · push_cast; ring
  · refine (eq_folded (n := trunc (a / 360)) (not_lt.1 h) ?_ ?_).symm
    · linarith
    · ring

/-- **The heading of an angle** is the angle folded into the range from 0 to 360. -/
theorem foldHeading_eq (a : K) : foldHeading a = .ok (folded a) := by
  have hrem : Scalar.rem a (Scalar.real 360) = .ok (a - 360 * trunc (a / 360)) := by
    show (if ((360 : ℤ) : K) = 0 then Except.error Fault.realDivisionByZero
      else Except.ok (a - ((360 : ℤ) : K) * trunc (a / ((360 : ℤ) : K)))) = _
    rw [if_neg (by norm_num)]
    norm_num
  -- Exactly, a sum is never rounded up to a full turn.
  have hfull : ¬ (360 : K) ≤ folded a := not_le.2 (folded_lt a)
  rw [folded_eq_of_trunc] at hfull ⊢
  rw [foldHeading]
  show (Scalar.rem a (Scalar.real 360) >>= _) = _
  rw [hrem, Except.ok_bind]
  generalize a - 360 * (trunc (a / 360) : K) = r at hfull ⊢
  simp only [Scalar.lt, Scalar.le, Scalar.add, Scalar.isZero, Scalar.real, Except.ok_bind,
    Int.cast_zero, Int.cast_ofNat, decide_eq_true_eq, pure_bind]
  rcases eq_or_ne r 0 with rfl | hr
  · rw [if_pos rfl, ite_self, if_neg (lt_irrefl _)]
    rfl
  · rw [if_neg hr]
    by_cases hneg : r < 0
    · rw [if_pos hneg] at hfull
      rw [if_pos hneg, if_pos hneg, if_neg hfull]
      rfl
    · rw [if_neg hneg] at hfull
      rw [if_neg hneg, if_neg hneg, if_neg hfull]
      rfl

/-! ### Turtles in exact arithmetic -/

omit [IsStrictOrderedRing K] in
theorem isReal (t : Turtle K) : t.IsReal := ⟨rfl, rfl, rfl⟩

omit [IsStrictOrderedRing K] in
theorem ahead_eq (t : Turtle K) (distance : K) :
    t.ahead distance =
      .ok (t.x + distance * Trig.cos t.heading, t.y + distance * Trig.sin t.heading) := rfl

theorem turned_eq (t : Turtle K) (angle : K) :
    t.turned angle = .ok (folded (t.heading + angle)) := foldHeading_eq _

/-- An arc of a radius and an extent that is drawn with a number of chords, which share the arc's part
of the circumference. -/
def arc (radius extent : K) (n : ℕ) : Arc K :=
  ⟨n, Trig.pi * (radius + radius) * extent / (360 * n), extent / n⟩

omit [LinearOrder K] [IsStrictOrderedRing K] [FloorRing K] in
theorem arc_chord (radius extent : K) (n : ℕ) :
    (arc radius extent n).chord = 2 * Trig.pi * radius * extent / (360 * n) := by
  show Trig.pi * (radius + radius) * extent / (360 * n) = _
  ring

/-- The arc that a turtle draws, of at least one chord. -/
theorem arc_of_chords {t : Turtle K} {steps : Option (Except Fault ℤ)} {n : ℕ}
    (hsteps : t.arcChords steps = .ok n) (hn : 1 ≤ n) (radius extent : K) :
    t.arc radius extent steps = .ok (arc radius extent n) := by
  have hn0 : (n : K) ≠ 0 := by exact_mod_cast Nat.one_le_iff_ne_zero.1 hn
  have hdiv : ∀ a b : K, b ≠ 0 → Scalar.div a b = .ok (a / b) := fun a b hb => if_neg hb
  have hchord : Turtle.chordLength radius extent n =
      .ok (arc radius extent n).chord := by
    rw [arc_chord]
    show Scalar.div (((2 : ℤ) : K) * Trig.pi * radius * extent)
      (((360 : ℤ) : K) * ((n : ℤ) : K)) = _
    push_cast
    exact hdiv _ _ (mul_ne_zero (by norm_num) hn0)
  have hangle : Scalar.div extent (Scalar.int n : K) = .ok (extent / n) := by
    show Scalar.div extent ((n : ℤ) : K) = _
    push_cast
    exact hdiv _ _ hn0
  rw [Turtle.arc, hsteps, Except.ok_bind, hchord, Except.ok_bind, hangle]
  rfl

end Exact

end TurtleCanvas
