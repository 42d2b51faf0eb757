import TurtleCanvas.Proofs.Exact.Arc
import TurtleCanvas.Proofs.Exact.WellFormed

/-!
# Arcs lie on circles

In exact arithmetic a chord with its turn is the same motion of the plane each time.  Unless its turn
is a whole number of turns this motion is a rotation about a point, so that the ends of all chords lie
on a circle around this point, and an arc of whole turns closes.

* `CircleTrig` is what is asked of cosine and sine, and `rotated` is a rotation about the origin;
* `exists_rotated_eq_add` is where the centre comes from: for any vector there is a point that a
  rotation moves by it, unless the rotation is by whole turns;
* `Arc.vertex_eq` tells the ends of the chords by the centre, and `Arc.vertex_of_turns` says where
  they are if there is none;
* `Turtle.circle_on_circle` says that an arc lies on a circle and closes after whole turns.
-/

namespace TurtleCanvas

open scoped Exact

/-- The laws of cosine and sine as functions of the circle. -/
class CircleTrig (K : Type) [Ring K] [Trig K] : Prop extends PythagoreanTrig K where
  cos_add (a b : K) : Trig.cos (a + b) = Trig.cos a * Trig.cos b - Trig.sin a * Trig.sin b
  sin_add (a b : K) : Trig.sin (a + b) = Trig.sin a * Trig.cos b + Trig.cos a * Trig.sin b
  cos_periodic : Function.Periodic (Trig.cos : K → K) 360
  sin_periodic : Function.Periodic (Trig.sin : K → K) 360
  /-- No angle but whole turns has the cosine of the angle zero. -/
  exists_turns {a : K} : Trig.cos a = 1 → ∃ n : ℤ, a = 360 * n

section

variable {K : Type} [Field K] [Trig K] [CircleTrig K]

/-! ### Rotations -/

theorem cos_zero : (Trig.cos 0 : K) = 1 := by
  have hcos := CircleTrig.cos_add (0 : K) 0
  have hsin := CircleTrig.sin_add (0 : K) 0
  have hone := PythagoreanTrig.cos_sq_add_sin_sq (0 : K)
  rw [add_zero] at hcos hsin
  linear_combination -Trig.cos 0 * hcos - Trig.sin 0 * hsin + (1 - Trig.cos 0) * hone

theorem sin_zero : (Trig.sin 0 : K) = 0 := by
  have hsin := CircleTrig.sin_add (0 : K) 0
  rw [add_zero, cos_zero] at hsin
  linear_combination -hsin

/-- The symmetries of cosine and sine follow from their values at sums. -/
instance instLawfulTrigOfCircle : LawfulTrig K where
  cos_even a := by
    have hcos := CircleTrig.cos_add a (-a)
    have hsin := CircleTrig.sin_add a (-a)
    rw [add_neg_cancel, cos_zero] at hcos
    rw [add_neg_cancel, sin_zero] at hsin
    linear_combination -Trig.cos a * hcos - Trig.sin a * hsin -
      Trig.cos (-a) * PythagoreanTrig.cos_sq_add_sin_sq a
  sin_odd a := by
    have hcos := CircleTrig.cos_add a (-a)
    have hsin := CircleTrig.sin_add a (-a)
    rw [add_neg_cancel, cos_zero] at hcos
    rw [add_neg_cancel, sin_zero] at hsin
    linear_combination Trig.sin a * hcos - Trig.cos a * hsin -
      Trig.sin (-a) * PythagoreanTrig.cos_sq_add_sin_sq a
  cos_periodic := CircleTrig.cos_periodic
  sin_periodic := CircleTrig.sin_periodic

/-- A vector turned by an angle about the origin. -/
def rotated (a : K) (v : K × K) : K × K :=
  (Trig.cos a * v.1 - Trig.sin a * v.2, Trig.sin a * v.1 + Trig.cos a * v.2)

theorem rotated_zero (v : K × K) : rotated 0 v = v := by
  simp [rotated, cos_zero, sin_zero]

/-- Rotations compose. -/
theorem rotated_add (a b : K) (v : K × K) : rotated (a + b) v = rotated a (rotated b v) := by
  refine Prod.ext ?_ ?_
  · simp only [rotated, CircleTrig.cos_add, CircleTrig.sin_add]; ring
  · simp only [rotated, CircleTrig.cos_add, CircleTrig.sin_add]; ring

omit [CircleTrig K] in
theorem rotated_add_vector (a : K) (v w : K × K) :
    rotated a (v + w) = rotated a v + rotated a w := by
  refine Prod.ext ?_ ?_
  · simp only [rotated, Prod.fst_add, Prod.snd_add]; ring
  · simp only [rotated, Prod.fst_add, Prod.snd_add]; ring

/-- A rotation by whole turns moves nothing. -/
theorem rotated_turns (n : ℤ) (v : K × K) : rotated (360 * (n : K)) v = v := by
  have hcos : Trig.cos (360 * n : K) = 1 := by
    have h := LawfulTrig.cos_periodic.int_mul n (0 : K)
    rwa [zero_add, cos_zero, mul_comm] at h
  have hsin : Trig.sin (360 * n : K) = 0 := by
    have h := LawfulTrig.sin_periodic.int_mul n (0 : K)
    rwa [zero_add, sin_zero, mul_comm] at h
  simp [rotated, hcos, hsin]

/-- A rotation keeps the distance from its centre. -/
theorem distSq_rotated (a : K) (c v : K × K) : distSq (c + rotated a v) c = distSq (c + v) c := by
  simp only [distSq, rotated, Prod.fst_add, Prod.snd_add, add_sub_cancel_left]
  linear_combination (v.1 ^ 2 + v.2 ^ 2) * PythagoreanTrig.cos_sq_add_sin_sq a

/-- For any vector there is a point that a rotation moves by it, unless the rotation is by whole
turns. -/
theorem exists_rotated_eq_add {a : K} [NeZero (2 : K)] (h : ∀ n : ℤ, a ≠ 360 * n) (d : K × K) :
    ∃ w, rotated a w = w + d := by
  have hcos : 1 - Trig.cos a ≠ 0 := by
    intro hzero
    obtain ⟨n, hn⟩ := CircleTrig.exists_turns (sub_eq_zero.1 hzero).symm
    exact h n hn
  have hone := PythagoreanTrig.cos_sq_add_sin_sq a
  have htwo : (2 : K) ≠ 0 := two_ne_zero
  refine ⟨(((Trig.cos a - 1) * d.1 + Trig.sin a * d.2) / (2 * (1 - Trig.cos a)),
    (-Trig.sin a * d.1 + (Trig.cos a - 1) * d.2) / (2 * (1 - Trig.cos a))), Prod.ext ?_ ?_⟩
  · simp only [rotated, Prod.fst_add]
    field_simp
    linear_combination d.1 * hone
  · simp only [rotated, Prod.snd_add]
    field_simp
    linear_combination d.2 * hone

end

/-- The reals have such functions. -/
instance Exact.instCircleTrigReal : CircleTrig ℝ where
  cos_add a b := by
    show Real.cos ((a + b) * (Real.pi / 180)) = _
    rw [add_mul, Real.cos_add]
    rfl
  sin_add a b := by
    show Real.sin ((a + b) * (Real.pi / 180)) = _
    rw [add_mul, Real.sin_add]
    rfl
  cos_periodic := LawfulTrig.cos_periodic
  sin_periodic := LawfulTrig.sin_periodic
  exists_turns {a} h := by
    obtain ⟨n, hn⟩ := (Real.cos_eq_one_iff _).1 h
    refine ⟨n, ?_⟩
    have hpi := Real.pi_ne_zero
    field_simp at hn
    linarith

section

variable {K : Type} [Field K] [LinearOrder K] [FloorRing K] [Trig K]

/-! ### The ends of the chords -/

theorem rotated_folded [LawfulTrig K] (a : K) (v : K × K) : rotated (folded a) v = rotated a v := by
  rw [rotated, cos_folded, sin_folded, rotated]

namespace Arc

theorem vertex_succ (a : Arc K) (t : Turtle K) (k : ℕ) :
    a.vertex t (k + 1) = a.vertex t k + rotated (a.heading t k) (a.chord, 0) := by
  refine Prod.ext ?_ ?_
  · simp only [vertex, rotated, Prod.fst_add]; ring
  · simp only [vertex, rotated, Prod.snd_add]; ring

variable [CircleTrig K]

/-- The direction of a chord is that of the first chord, turned by the turns before it. -/
theorem rotated_heading (a : Arc K) (t : Turtle K) (k : ℕ) (v : K × K) :
    rotated (a.heading t k) v = rotated (k * a.angle) (rotated t.heading v) := by
  rw [← rotated_add, add_comm]
  cases k with
  | zero => rw [heading, Nat.cast_zero, zero_mul, add_zero]
  | succ k => rw [heading, rotated_folded]

/-- The ends of the chords are the first one, turned about the centre by the turns before them. -/
theorem vertex_eq {a : Arc K} {t : Turtle K} {w : K × K}
    (hw : rotated a.angle w = w + rotated t.heading (a.chord, 0)) (k : ℕ) :
    a.vertex t k = t.position - w + rotated (k * a.angle) w := by
  induction k with
  | zero => rw [Nat.cast_zero, zero_mul, rotated_zero, sub_add_cancel]; rfl
  | succ k ih =>
    calc a.vertex t (k + 1)
        = t.position - w + rotated (k * a.angle) w
            + rotated (k * a.angle) (rotated t.heading (a.chord, 0)) := by
          rw [vertex_succ, ih, rotated_heading]
      _ = t.position - w + rotated (k * a.angle) (rotated a.angle w) := by
          rw [add_assoc, ← rotated_add_vector, ← hw]
      _ = t.position - w + rotated ((k + 1 : ℕ) * a.angle) w := by
          rw [← rotated_add, Nat.cast_succ, add_one_mul]

/-- With whole turns after its chords an arc is straight. -/
theorem vertex_of_turns {a : Arc K} {n : ℤ} (h : a.angle = 360 * n) (t : Turtle K) (k : ℕ) :
    a.vertex t k = t.position + rotated t.heading (k * a.chord, 0) := by
  induction k with
  | zero => simp [vertex, rotated]
  | succ k ih =>
    have hturns : (k : K) * a.angle = 360 * (k * n : ℤ) := by rw [h]; push_cast; ring
    have hlength : (((k + 1 : ℕ) : K) * a.chord, (0 : K)) = (k * a.chord, 0) + (a.chord, 0) := by
      rw [Prod.mk_add_mk, add_zero, Nat.cast_succ, add_one_mul]
    rw [vertex_succ, rotated_heading, hturns, rotated_turns, ih, hlength, rotated_add_vector,
      add_assoc]

/-- An arc of whole turns about a centre leads back to where it started. -/
theorem turtleAfter_of_turns [IsStrictOrderedRing K] {a : Arc K} {t : Turtle K} (ht : t.WellFormed)
    {w : K × K} (hw : rotated a.angle w = w + rotated t.heading (a.chord, 0)) {k : ℕ} {m : ℤ}
    (hm : k * a.angle = 360 * m) : a.turtleAfter t k = t := by
  have hvertex : a.vertex t k = t.position := by
    rw [vertex_eq hw, hm, rotated_turns, sub_add_cancel]
  have hheading : a.heading t k = t.heading := by
    rw [heading_eq_folded a ht.nonneg ht.lt_full, hm]
    exact (eq_folded ht.nonneg ht.lt_full rfl).symm
  rw [turtleAfter, hvertex, hheading]
  rfl

end Arc

/-! ### Arcs on circles -/

namespace Turtle

variable [CircleTrig K] [IsStrictOrderedRing K]

/-- **Arcs lie on circles, and whole turns close.**  Unless the turns after the chords of an arc are
whole ones, there is a centre about which the turtle has turned by the same angle after each chord;
so it stays at the same distance from the centre, and an arc of whole turns leads it back to where it
stood, with the heading that it had. -/
theorem circle_on_circle {s : Scene K (Recorder K)} (hs : s.turtle.WellFormed) {radius extent : K}
    (hradius : radius ≠ 0) (hextent : extent ≠ 0) (steps : Option ℤ)
    (hturn : ∀ m : ℤ, extent / s.turtle.chordCount steps ≠ 360 * m) :
    let a := Exact.arc radius extent (s.turtle.chordCount steps)
    a.IsRun s (circle radius extent (steps.map .ok)) ∧
      (∃ c : K × K,
        (∀ k ≤ a.count, (a.sceneAfter s k).turtle.position =
          c + rotated (k * extent / a.count) (s.turtle.position - c)) ∧
        ∀ k ≤ a.count,
          distSq (a.sceneAfter s k).turtle.position c = distSq s.turtle.position c) ∧
      ∀ m : ℤ, extent = 360 * m → (a.sceneAfter s a.count).turtle = s.turtle := by
  intro a
  have hn0 : (a.count : K) ≠ 0 := by
    exact_mod_cast Nat.one_le_iff_ne_zero.1 (one_le_chordCount hs.one_le steps)
  have hrun := isRun_circle hextent hradius (arc_eq hs.one_le radius extent steps)
  obtain ⟨w, hw⟩ := exists_rotated_eq_add hturn (rotated s.turtle.heading (a.chord, 0))
  have hposition : ∀ k, (a.sceneAfter s k).turtle.position =
      s.turtle.position - w + rotated (k * extent / a.count) w := by
    intro k
    rw [mul_div_assoc]
    exact Arc.vertex_eq hw k
  refine ⟨hrun, ⟨s.turtle.position - w, fun k _ => ?_, fun k _ => ?_⟩, fun m hm => ?_⟩
  · rw [sub_sub_cancel]
    exact hposition k
  · rw [hposition, distSq_rotated, sub_add_cancel]
  · exact Arc.turtleAfter_of_turns hs hw ((mul_div_cancel₀ extent hn0).trans hm)

/-- Two turns that are drawn with seven chords, which make a star, lead back to where they started. -/
theorem circle_on_circle_star :
    let s : Scene ℝ (Recorder ℝ) := ⟨⟨3, 4, 90, true, 1, Colour.black, 30⟩, ⟨[]⟩, none, 0, []⟩
    s.turtle.WellFormed ∧ (10 : ℝ) ≠ 0 ∧ (720 : ℝ) ≠ 0 ∧
      (∀ m : ℤ, (720 : ℝ) / s.turtle.chordCount (some 7) ≠ 360 * m) ∧
      ∃ s', circle 10 720 (some (.ok 7)) s = .ok () s' ∧ s'.turtle = s.turtle := by
  intro s
  have hs : s.turtle.WellFormed := ⟨by norm_num [s], by norm_num [s], by decide⟩
  have hradius : (10 : ℝ) ≠ 0 := by norm_num
  have hextent : (720 : ℝ) ≠ 0 := by norm_num
  have hturn : ∀ m : ℤ, (720 : ℝ) / s.turtle.chordCount (some 7) ≠ 360 * m := by
    intro m hm
    have hcount : s.turtle.chordCount (some 7) = 7 := rfl
    rw [hcount, Nat.cast_ofNat, div_eq_iff (by norm_num)] at hm
    have hm' : (720 : ℤ) = 360 * m * 7 := by
      have hcast : (720 : ℝ) = ((360 * m * 7 : ℤ) : ℝ) := by push_cast; exact hm
      exact_mod_cast hcast
    omega
  obtain ⟨hrun, -, hclosed⟩ := circle_on_circle hs hradius hextent (some 7) hturn
  exact ⟨hs, hradius, hextent, hturn, _, hrun.returned (fun _ h => nomatch h),
    hclosed 2 (by norm_num)⟩

end Turtle

end

end TurtleCanvas
