import TurtleCanvas.Clip
import TurtleCanvas.Proofs.Exact

/-!
# Clipping in exact arithmetic

* `Segment.sides` are the inequalities of a segment and a rectangle, and `Exact.clip_eq` says that
  clipping is narrowing by these;
* `Exact.exists_clip` says that clipping never fails;
* `Exact.clip_of_inside` says that a segment whose ends are in the rectangle is not moved.
-/

namespace TurtleCanvas

/-- The inequalities that say that a point of a segment is on the inner side of each side of a
rectangle. -/
def Segment.sides {K : Type} [Field K] (s : Segment K) (box : Box K) : List (K × K) :=
  [(-(s.x1 - s.x0), s.x0 - box.xmin), (s.x1 - s.x0, box.xmax - s.x0),
    (-(s.y1 - s.y0), s.y0 - box.ymin), (s.y1 - s.y0, box.ymax - s.y0)]

namespace Exact

variable {K : Type} [Field K] [LinearOrder K] [FloorRing K] [Trig K]

theorem div_of_ne {a b : K} (h : b ≠ 0) : (Scalar.div a b : Except Fault K) = .ok (a / b) := if_neg h

theorem larger_eq (a b : K) : Scalar.larger a b = .ok (if a < b then b else a) := by
  show (if decide (a < b) = true then Except.ok b else Except.ok a) = _
  by_cases h : a < b
  · simp [h]
  · simp [h]

theorem smaller_eq (a b : K) : Scalar.smaller a b = .ok (if b < a then b else a) := by
  show (if decide (b < a) = true then Except.ok b else Except.ok a) = _
  by_cases h : b < a
  · simp [h]
  · simp [h]

/-- One inequality `p * t ≤ q`. -/
theorem narrow_cons (p q : K) (rest : List (K × K)) (t0 t1 : K) :
    Segment.narrow ((p, q) :: rest) t0 t1 =
      if p = 0 then if q < 0 then .ok none else Segment.narrow rest t0 t1
      else if p < 0 then
        if t1 < q / p then .ok none
        else Segment.narrow rest (if t0 < q / p then q / p else t0) t1
      else if q / p < t0 then .ok none
      else Segment.narrow rest t0 (if q / p < t1 then q / p else t1) := by
  rw [Segment.narrow]
  by_cases hp : p = 0
  · simp only [Scalar.isZero, Scalar.lt, Scalar.int, hp, Int.cast_zero, decide_true, if_true,
      Except.ok_bind, decide_eq_true_eq]
    rfl
  · simp only [Scalar.isZero, Scalar.lt, Scalar.int, hp, Int.cast_zero, decide_false,
      Bool.false_eq_true, if_false, div_of_ne hp, larger_eq, smaller_eq, Except.ok_bind,
      decide_eq_true_eq]
    rfl

/-- Clipping to inequalities never fails. -/
theorem exists_narrow (bounds : List (K × K)) (t0 t1 : K) :
    ∃ kept, Segment.narrow bounds t0 t1 = .ok kept := by
  induction bounds generalizing t0 t1 with
  | nil => exact ⟨_, rfl⟩
  | cons b rest ih =>
    obtain ⟨p, q⟩ := b
    rw [narrow_cons]
    split_ifs
    all_goals first | exact ⟨_, rfl⟩ | exact ih _ _

theorem clip_eq (s : Segment K) (box : Box K) : s.clip box =
    Except.map (Option.map fun t => ⟨s.x0 + t.1 * (s.x1 - s.x0), s.y0 + t.1 * (s.y1 - s.y0),
        s.x0 + t.2 * (s.x1 - s.x0), s.y0 + t.2 * (s.y1 - s.y0)⟩)
      (Segment.narrow (s.sides box) 0 1) := by
  have hzero : (Scalar.real 0 : K) = 0 := Int.cast_zero
  have hone : (Scalar.real 1 : K) = 1 := Int.cast_one
  rw [Segment.clip, hzero, hone]
  show (Segment.narrow (s.sides box) 0 1 >>= _) = _
  rcases Segment.narrow _ (0 : K) 1 with e | _ | t
  · rfl
  · rfl
  · rfl

/-- **Clipping never fails.** -/
theorem exists_clip (s : Segment K) (box : Box K) : ∃ kept, s.clip box = .ok kept := by
  obtain ⟨kept, h⟩ := exists_narrow (s.sides box) 0 1
  rw [clip_eq, h]
  exact ⟨_, rfl⟩

variable [IsStrictOrderedRing K]

/-- Nothing is cut off by inequalities that both ends satisfy. -/
theorem narrow_of_inside {bounds : List (K × K)} (h : ∀ b ∈ bounds, 0 ≤ b.2 ∧ b.1 ≤ b.2) :
    Segment.narrow bounds (0 : K) 1 = .ok (some (0, 1)) := by
  induction bounds with
  | nil => rfl
  | cons b rest ih =>
    obtain ⟨p, q⟩ := b
    obtain ⟨⟨hq, hpq⟩, hrest⟩ := List.forall_mem_cons.1 h
    have hq : 0 ≤ q := hq
    have hpq : p ≤ q := hpq
    rw [narrow_cons]
    rcases lt_trichotomy p 0 with hp | rfl | hp
    · -- The parameter where the side is met is not after the first end.
      have ht : q / p ≤ 0 := div_nonpos_of_nonneg_of_nonpos hq hp.le
      rw [if_neg hp.ne, if_pos hp, if_neg (by linarith), if_neg (not_lt.2 ht)]
      exact ih hrest
    · rw [if_pos rfl, if_neg (not_lt.2 hq)]
      exact ih hrest
    · -- The parameter where the side is met is not before the second end.
      have ht : 1 ≤ q / p := (one_le_div hp).2 hpq
      rw [if_neg hp.ne', if_neg hp.le.not_gt, if_neg (by linarith), if_neg (not_lt.2 ht)]
      exact ih hrest

/-- **A segment inside the rectangle is not moved.** -/
theorem clip_of_inside {s : Segment K} {box : Box K}
    (hx0 : box.xmin ≤ s.x0 ∧ s.x0 ≤ box.xmax) (hx1 : box.xmin ≤ s.x1 ∧ s.x1 ≤ box.xmax)
    (hy0 : box.ymin ≤ s.y0 ∧ s.y0 ≤ box.ymax) (hy1 : box.ymin ≤ s.y1 ∧ s.y1 ≤ box.ymax) :
    s.clip box = .ok (some s) := by
  rw [clip_eq, narrow_of_inside]
  · show Except.ok (some (Segment.mk _ _ _ _)) = _
    simp
  · simp only [Segment.sides, List.forall_mem_cons, List.not_mem_nil, false_imp_iff, implies_true,
      and_true]
    refine ⟨⟨?_, ?_⟩, ⟨?_, ?_⟩, ⟨?_, ?_⟩, ?_, ?_⟩
    all_goals linarith [hx0.1, hx0.2, hx1.1, hx1.2, hy0.1, hy0.2, hy1.1, hy1.2]

end Exact

end TurtleCanvas
