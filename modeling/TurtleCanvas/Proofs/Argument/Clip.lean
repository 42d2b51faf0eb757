import TurtleCanvas.Clip
import TurtleCanvas.Proofs.Argument.Near

/-!
# Clipping in double arithmetic

What is left of an interval of parameters by an inequality is an interval again, if anything is: a
quotient that is not a parameter is never kept, since it is compared with the parameters that there
are.  A quotient that is kept is a rounded one, so that the inequality may be missed, but by no more
than the error of a parameter times its slope.  A coordinate of the point at a parameter is then
rounded twice more, once for the way along the segment, and once for the sum.

* `Argument.IsInterval` says that two doubles are the ends of an interval of parameters, and
  `IsInterval.larger` and `IsInterval.smaller` what the greater and the lesser of an end and a
  rounded number are;
* `Segment.NearlySatisfies` says by how much inequalities may be missed, and `Segment.narrowsNear`
  that narrowing misses them by no more;
* `Segment.exists_clip_of_bounds` says that clipping ends, and what its result has of the points at
  such parameters.
-/

namespace TurtleCanvas

open Argument (real reads_real)
open Binary64 (value Beside Representable unitError representable_zero representable_one)

namespace Argument

/-- Two doubles are the ends of an interval of parameters. -/
structure IsInterval (x y : Float) : Prop where
  isFinite_left : Binary64.isFinite x = true
  isFinite_right : Binary64.isFinite y = true
  nonneg : 0 ≤ value x
  le : value x ≤ value y
  le_one : value y ≤ 1

theorem lt_real (x y : Float) : Scalar.lt (real x) (real y) = .ok (decide (x < y)) := by
  show Except.ok (Number.lt (.real x) (.real y)) = _
  rw [Number.lt, Number.compare]
  split_ifs with h _ _ <;> simp [h]

variable {x y t : Float} {r : ℚ}

/-- The greater of the left end and a rounded number that is not above the right end. -/
theorem IsInterval.larger (h : IsInterval x y) (ht : Beside r t) (hnot : ¬ y < t) :
    ∃ z, Scalar.larger (real x) (real t) = .ok (real z) ∧ IsInterval z y ∧ value x ≤ value z ∧
      r ≤ value z + unitError := by
  rw [Scalar.larger, lt_real, Except.ok_bind]
  by_cases hlt : x < t
  · obtain ⟨hfinite, hlow, hhigh⟩ :=
      Binary64.isFinite_of_lt_of_not_lt h.isFinite_left h.isFinite_right hlt hnot
    have h0 : 0 ≤ value t := h.nonneg.trans hlow.le
    have herror := ht.abs_value_sub_le_of_unit hfinite h0 (hhigh.trans h.le_one)
    rw [decide_eq_true hlt, if_pos rfl]
    exact ⟨t, rfl, ⟨hfinite, h.isFinite_right, h0, hhigh, h.le_one⟩, hlow.le,
      by linarith [(abs_le.1 herror).1]⟩
  · rw [decide_eq_false hlt, if_neg Bool.false_ne_true]
    refine ⟨x, rfl, h, le_rfl, ?_⟩
    have herror : (0 : ℚ) ≤ unitError := by rw [unitError]; positivity
    rcases le_or_gt r 0 with hr | hr
    · linarith [h.nonneg]
    · rcases ht.atLeast 0 representable_zero hr.le with ⟨hfinite, h0⟩ | ⟨hinf, hnan, hsign⟩
      · have hle : value t ≤ value x :=
          not_lt.1 (mt (Binary64.lt_iff_of_isFinite h.isFinite_left hfinite).2 hlt)
        have herror := ht.abs_value_sub_le_of_unit hfinite h0 (hle.trans (h.le.trans h.le_one))
        linarith [(abs_le.1 herror).1]
      · exact absurd ((Binary64.lt_infinite_iff h.isFinite_left hinf hnan).1.2 hsign) hlt

/-- The lesser of the right end and a rounded number that is not below the left end. -/
theorem IsInterval.smaller (h : IsInterval x y) (ht : Beside r t) (hnot : ¬ t < x) :
    ∃ z, Scalar.smaller (real y) (real t) = .ok (real z) ∧ IsInterval x z ∧ value z ≤ value y ∧
      value z ≤ r + unitError := by
  rw [Scalar.smaller, lt_real, Except.ok_bind]
  by_cases hlt : t < y
  · obtain ⟨hfinite, hlow, hhigh⟩ :=
      Binary64.isFinite_of_gt_of_not_gt h.isFinite_right h.isFinite_left hlt hnot
    have h1 : value t ≤ 1 := hhigh.le.trans h.le_one
    have herror := ht.abs_value_sub_le_of_unit hfinite (h.nonneg.trans hlow) h1
    rw [decide_eq_true hlt, if_pos rfl]
    exact ⟨t, rfl, ⟨h.isFinite_left, hfinite, h.nonneg, hlow, h1⟩, hhigh.le,
      by linarith [(abs_le.1 herror).2]⟩
  · rw [decide_eq_false hlt, if_neg Bool.false_ne_true]
    refine ⟨y, rfl, h, le_rfl, ?_⟩
    have herror : (0 : ℚ) ≤ unitError := by rw [unitError]; positivity
    rcases le_or_gt 1 r with hr | hr
    · linarith [h.le_one]
    · rcases ht.atMost 1 representable_one hr.le with ⟨hfinite, h1⟩ | ⟨hinf, hnan, hsign⟩
      · have hle : value y ≤ value t :=
          not_lt.1 (mt (Binary64.lt_iff_of_isFinite hfinite h.isFinite_right).2 hlt)
        have herror := ht.abs_value_sub_le_of_unit hfinite (h.nonneg.trans (h.le.trans hle)) h1
        linarith [(abs_le.1 herror).2]
      · exact absurd ((Binary64.lt_infinite_iff h.isFinite_left hinf hnan).2.2 hsign) hnot

end Argument

open Argument (IsInterval lt_real)

namespace Segment

/-- Two arguments are the numbers of an inequality. -/
def HasValues (e : Argument × Argument) (b : ℚ × ℚ) : Prop := e.1.HasValue b.1 ∧ e.2.HasValue b.2

/-- A parameter misses none of the inequalities `p * t ≤ q` by more than the error of a parameter. -/
def NearlySatisfies (bounds : List (ℚ × ℚ)) (t : ℚ) : Prop :=
  ∀ b ∈ bounds, b.1 * t ≤ b.2 + |b.1| * unitError

variable {P Q : Argument} {p q : ℚ}

/-- An inequality that the parameter does not enter into. -/
theorem narrow_cons_of_zero (hP : P.HasValue 0) (hQ : Q.HasValue q)
    (rest : List (Argument × Argument)) (t0 t1 : Argument) :
    narrow ((P, Q) :: rest) t0 t1 = if q < 0 then .ok none else narrow rest t0 t1 := by
  rw [narrow, if_pos hP.isZero, hQ.lt_int_eq, Except.ok_bind, Int.cast_zero]
  simp only [decide_eq_true_eq]
  rfl

/-- An inequality that bounds the parameter by a rounded quotient. -/
theorem exists_narrow_cons (hP : P.HasValue p) (hQ : Q.HasValue q) (hp : p ≠ 0)
    (rest : List (Argument × Argument)) (x y : Float) : ∃ t, Beside (q / p) t ∧
      narrow ((P, Q) :: rest) (real x) (real y) =
        if p < 0 then
          if y < t then .ok none
          else Scalar.larger (real x) (real t) >>= fun t0 => narrow rest t0 (real y)
        else if t < x then .ok none
        else Scalar.smaller (real y) (real t) >>= fun t1 => narrow rest (real x) t1 := by
  obtain ⟨t, ht, hbeside⟩ := hQ.exists_div hP hp
  refine ⟨t, hbeside, ?_⟩
  rw [narrow, hP.isZero_eq, decide_eq_false hp, if_neg Bool.false_ne_true, ht, Except.ok_bind,
    hP.lt_int_eq, Except.ok_bind, Int.cast_zero, lt_real, lt_real]
  simp only [Except.ok_bind, decide_eq_true_eq]
  rfl

/-- Narrowing leaves an interval of an interval, if any, and the parameters in it nearly satisfy the
inequalities. -/
def NarrowsNear (bounds : List (Argument × Argument)) (exact : List (ℚ × ℚ)) (x y : Float) : Prop :=
  ∃ r, narrow bounds (real x) (real y) = .ok r ∧ ∀ t ∈ r, ∃ u v, t = (real u, real v) ∧
    IsInterval u v ∧ value x ≤ value u ∧ value v ≤ value y ∧
    ∀ w, value u ≤ w → w ≤ value v → NearlySatisfies exact w

variable {bounds rest : List (Argument × Argument)} {exact : List (ℚ × ℚ)} {x y : Float}

theorem narrowsNear_of_none (h : narrow bounds (real x) (real y) = .ok none) :
    NarrowsNear bounds exact x y := ⟨none, h, nofun⟩

/-- What is left of a part of an interval by the rest of the inequalities is left of the interval, if
parameters in that part miss the first inequality by no more than they may. -/
theorem NarrowsNear.cons {x' y' : Float} (h : NarrowsNear rest exact x' y')
    (hx : value x ≤ value x') (hy : value y' ≤ value y)
    (hnear : ∀ w, value x' ≤ w → w ≤ value y' → p * w ≤ q + |p| * unitError)
    (hnarrow : narrow ((P, Q) :: rest) (real x) (real y) = narrow rest (real x') (real y')) :
    NarrowsNear ((P, Q) :: rest) ((p, q) :: exact) x y := by
  obtain ⟨r, hr, hleft⟩ := h
  refine ⟨r, hnarrow.trans hr, ?_⟩
  intro t ht
  obtain ⟨u, v, huv, hinterval, hxu, hvy, hrest⟩ := hleft t ht
  refine ⟨u, v, huv, hinterval, hx.trans hxu, hvy.trans hy, ?_⟩
  intro w hu hv
  exact List.forall_mem_cons.2 ⟨hnear w (hxu.trans hu) (hv.trans hvy), hrest w hu hv⟩

/-- **Narrowing is nearly exact.** -/
theorem narrowsNear (hbounds : List.Forall₂ HasValues bounds exact) (hxy : IsInterval x y) :
    NarrowsNear bounds exact x y := by
  induction hbounds generalizing x y with
  | nil =>
    refine ⟨some (real x, real y), rfl, ?_⟩
    rintro t ⟨⟩
    refine ⟨x, y, rfl, hxy, le_rfl, le_rfl, ?_⟩
    intro w _ _ b hb
    exact nomatch hb
  | @cons e b rest exact he _ ih =>
    obtain ⟨P, Q⟩ := e
    obtain ⟨p, q⟩ := b
    obtain ⟨hP, hQ⟩ : P.HasValue p ∧ Q.HasValue q := he
    rcases eq_or_ne p 0 with rfl | hp
    · have hnarrow := narrow_cons_of_zero hP hQ rest (real x) (real y)
      by_cases hq : q < 0
      · rw [if_pos hq] at hnarrow
        exact narrowsNear_of_none hnarrow
      · rw [if_neg hq] at hnarrow
        refine (ih hxy).cons le_rfl le_rfl ?_ hnarrow
        intro w _ _
        rw [zero_mul, abs_zero, zero_mul, add_zero]
        exact not_lt.1 hq
    obtain ⟨t, ht, hnarrow⟩ := exists_narrow_cons hP hQ hp rest x y
    rcases hp.lt_or_gt with hp | hp
    · rw [if_pos hp] at hnarrow
      by_cases hbeyond : y < t
      · rw [if_pos hbeyond] at hnarrow
        exact narrowsNear_of_none hnarrow
      · obtain ⟨z, hz, hinterval, hxz, herror⟩ := hxy.larger ht hbeyond
        rw [if_neg hbeyond, hz] at hnarrow
        refine (ih hinterval).cons hxz le_rfl ?_ hnarrow
        intro w hw _
        have hquotient : q / p ≤ w + unitError := by linarith
        rw [div_le_iff_of_neg hp] at hquotient
        rw [abs_of_neg hp]
        linarith
    · rw [if_neg hp.not_gt] at hnarrow
      by_cases hbeyond : t < x
      · rw [if_pos hbeyond] at hnarrow
        exact narrowsNear_of_none hnarrow
      · obtain ⟨z, hz, hinterval, hzy, herror⟩ := hxy.smaller ht hbeyond
        rw [if_neg hbeyond, hz] at hnarrow
        refine (ih hinterval).cons le_rfl hzy ?_ hnarrow
        intro w _ hw
        have hquotient : w - unitError ≤ q / p := by linarith
        rw [le_div_iff₀ hp] at hquotient
        rw [abs_of_pos hp]
        linarith

theorem isInterval_unit : IsInterval (Argument.realOf 0) (Argument.realOf 1) := by
  obtain ⟨h0, hvalue0⟩ := Binary64.realOf_spec (n := 0) (Binary64.representable_int (by decide))
  obtain ⟨h1, hvalue1⟩ := Binary64.realOf_spec (n := 1) (Binary64.representable_int (by decide))
  rw [Int.cast_zero] at hvalue0
  rw [Int.cast_one] at hvalue1
  exact ⟨h0, h1, hvalue0.ge, hvalue0.le.trans (zero_le_one.trans hvalue1.ge), hvalue1.le⟩

/-- **What clipping keeps lies between points of the segment at parameters that nearly satisfy the
inequalities**, and so has whatever the points at such parameters have. -/
theorem exists_clip_of_bounds {s : Segment Argument} {box : Box Argument} {dx dy : Argument}
    {G : Argument × Argument → Prop} (hfinite : s.isFinite = .ok true)
    (hdx : Scalar.sub s.x1 s.x0 = .ok dx) (hdy : Scalar.sub s.y1 s.y0 = .ok dy)
    (hbounds : s.bounds box dx dy = .ok bounds) (hexact : List.Forall₂ HasValues bounds exact)
    (hpoint : ∀ t : Float, Binary64.isFinite t = true → 0 ≤ value t → value t ≤ 1 →
      NearlySatisfies exact (value t) → ∃ p, s.pointAt dx dy (real t) = .ok p ∧ G p) :
    ∃ kept?, s.clip box = .ok kept? ∧
      ∀ kept ∈ kept?, G (kept.x0, kept.y0) ∧ G (kept.x1, kept.y1) := by
  obtain ⟨r, hr, hleft⟩ := narrowsNear hexact isInterval_unit
  have hnarrow : narrow bounds (Scalar.real 0) (Scalar.real 1) = .ok r := hr
  simp only [clip, hfinite, hdx, hdy, hbounds, hnarrow, Except.ok_bind, if_true]
  cases r with
  | none => exact ⟨none, rfl, nofun⟩
  | some t =>
    obtain ⟨u, v, rfl, huv, -, -, hnear⟩ := hleft t rfl
    obtain ⟨p, hp, hgood⟩ := hpoint u huv.isFinite_left huv.nonneg (huv.le.trans huv.le_one)
      (hnear _ le_rfl huv.le)
    obtain ⟨q, hq, hgood'⟩ := hpoint v huv.isFinite_right (huv.nonneg.trans huv.le) huv.le_one
      (hnear _ huv.le le_rfl)
    refine ⟨some ⟨p.1, p.2, q.1, q.2⟩, ?_, ?_⟩
    · simp only [hp, hq, Except.ok_bind]
      rfl
    · rintro kept ⟨⟩
      exact ⟨hgood, hgood'⟩

end Segment

end TurtleCanvas
