import Mathlib.Analysis.Convex.Segment
import TurtleCanvas.Proofs.Exact.Clip
import TurtleCanvas.Proofs.Exact.Plane
import TurtleCanvas.Proofs.Exact.Real

/-!
# Clipping is exact

In exact arithmetic clipping leaves of a segment just its points in the rectangle.  The parameters
that satisfy the inequalities looked at so far make up an interval, and it is this interval that is
narrowed from inequality to inequality.

* `Segment.points` and `Box.points` are a segment and a rectangle as sets of points;
* `Segment.survivors` are the parameters of an interval that satisfy a list of inequalities, and
  `Exact.narrow_spec` says that narrowing finds them;
* `Exact.clip_spec` says which part of a segment is kept, and that an end of it which is not an end of
  the segment lies on a side of the rectangle;
* `Segment.IsPartInside` is what is asked of the part that is kept, and `Exact.clip_exact` says that
  clipping gives it.
-/

namespace TurtleCanvas

/-! ### Sets of points -/

namespace Segment

section

variable {K : Type} [Field K]

/-- The point at a parameter, which is 0 at the first end and 1 at the second. -/
def pointOf (s : Segment K) : K →ᵃ[K] K × K := AffineMap.lineMap s.start s.stop

/-- The part of a segment between two parameters. -/
def between (s : Segment K) (a b : K) : Segment K :=
  ⟨(s.pointOf a).1, (s.pointOf a).2, (s.pointOf b).1, (s.pointOf b).2⟩

theorem pointOf_eq (s : Segment K) (t : K) :
    s.pointOf t = (s.x0 + t * (s.x1 - s.x0), s.y0 + t * (s.y1 - s.y0)) := by
  rw [pointOf, AffineMap.lineMap_apply, vsub_eq_sub, vadd_eq_add, add_comm]
  rfl

theorem pointOf_zero (s : Segment K) : s.pointOf 0 = s.start := AffineMap.lineMap_apply_zero _ _

theorem pointOf_one (s : Segment K) : s.pointOf 1 = s.stop := AffineMap.lineMap_apply_one _ _

end

variable {K : Type} [Field K] [LinearOrder K]

/-- The points of a segment, its ends included. -/
def points (s : Segment K) : Set (K × K) := segment K s.start s.stop

variable [IsStrictOrderedRing K]

theorem points_eq_image (s : Segment K) : s.points = s.pointOf '' Set.Icc 0 1 :=
  segment_eq_image_lineMap K s.start s.stop

theorem points_between (s : Segment K) {a b : K} (h : a ≤ b) :
    (s.between a b).points = s.pointOf '' Set.Icc a b := by
  rw [← segment_eq_Icc h, image_segment]
  rfl

end Segment

namespace Box

variable {K : Type} [LinearOrder K]

/-- The points of a rectangle, its sides included.  There are none when its sides are the wrong way
round. -/
def points (box : Box K) : Set (K × K) := Set.Icc (box.xmin, box.ymin) (box.xmax, box.ymax)

theorem mem_points_iff {box : Box K} {p : K × K} : p ∈ box.points ↔
    (box.xmin ≤ p.1 ∧ p.1 ≤ box.xmax) ∧ box.ymin ≤ p.2 ∧ p.2 ≤ box.ymax := by
  rw [points, Set.mem_Icc, Prod.le_def, Prod.le_def]
  tauto

/-- A point lies on the line of a side of a rectangle. -/
def OnSide (box : Box K) (p : K × K) : Prop :=
  p.1 = box.xmin ∨ p.1 = box.xmax ∨ p.2 = box.ymin ∨ p.2 = box.ymax

end Box

namespace Segment

variable {K : Type} [Field K] [LinearOrder K]

/-- The part of a segment in a rectangle: in the segment's direction, and with all of the points that
lie in the rectangle, but no others. -/
structure IsPartInside (kept s : Segment K) (box : Box K) : Prop where
  inOrder : ∃ a b : K, 0 ≤ a ∧ a ≤ b ∧ b ≤ 1 ∧ kept.start = AffineMap.lineMap s.start s.stop a ∧
    kept.stop = AffineMap.lineMap s.start s.stop b
  points_eq : kept.points = s.points ∩ box.points

/-! ### Inequalities -/

/-- A parameter satisfies all of the inequalities `p * t ≤ q`. -/
def Satisfies (bounds : List (K × K)) (t : K) : Prop := ∀ b ∈ bounds, b.1 * t ≤ b.2

/-- The parameters from `t0` to `t1` that satisfy the inequalities. -/
def survivors (bounds : List (K × K)) (t0 t1 : K) : Set K :=
  {t | t ∈ Set.Icc t0 t1 ∧ Satisfies bounds t}

/-- The parameters from `a` to `b` are those of the interval that satisfy the inequalities, and one
of these holds with equality at each end that is not an end of the interval. -/
structure Narrowed (bounds : List (K × K)) (t0 t1 a b : K) : Prop where
  le : a ≤ b
  survivors_eq : survivors bounds t0 t1 = Set.Icc a b
  first : a = t0 ∨ ∃ c ∈ bounds, c.1 * a = c.2
  last : b = t1 ∨ ∃ c ∈ bounds, c.1 * b = c.2

theorem satisfies_cons_iff {p q t : K} {rest : List (K × K)} :
    Satisfies ((p, q) :: rest) t ↔ p * t ≤ q ∧ Satisfies rest t := List.forall_mem_cons

theorem mem_survivors_iff {bounds : List (K × K)} {t0 t1 t : K} :
    t ∈ survivors bounds t0 t1 ↔ (t0 ≤ t ∧ t ≤ t1) ∧ Satisfies bounds t := Iff.rfl

theorem survivors_nil (t0 t1 : K) : survivors [] t0 t1 = Set.Icc t0 t1 := by
  ext t
  simp [mem_survivors_iff, Satisfies]

theorem survivors_eq_empty {bounds : List (K × K)} {t0 t1 : K} (h : t1 < t0) :
    survivors bounds t0 t1 = ∅ :=
  Set.eq_empty_of_forall_notMem fun _ ht => (ht.1.1.trans ht.1.2).not_gt h

/-- An inequality that the parameter does not enter into, and that holds. -/
theorem survivors_cons_zero {q : K} (hq : 0 ≤ q) (rest : List (K × K)) (t0 t1 : K) :
    survivors ((0, q) :: rest) t0 t1 = survivors rest t0 t1 := by
  ext t
  rw [mem_survivors_iff, satisfies_cons_iff, zero_mul, and_iff_right hq, mem_survivors_iff]

/-- An inequality that the parameter does not enter into, and that does not hold. -/
theorem survivors_cons_zero_of_neg {q : K} (hq : q < 0) (rest : List (K × K)) (t0 t1 : K) :
    survivors ((0, q) :: rest) t0 t1 = ∅ := by
  refine Set.eq_empty_of_forall_notMem fun t ht => ?_
  rw [mem_survivors_iff, satisfies_cons_iff, zero_mul] at ht
  exact ht.2.1.not_gt hq

/-- What is left after an inequality more. -/
theorem Narrowed.cons {p q : K} {rest : List (K × K)} {t0 t1 u0 u1 a b : K}
    (h : Narrowed rest u0 u1 a b)
    (hsurvivors : survivors ((p, q) :: rest) t0 t1 = survivors rest u0 u1)
    (hfirst : u0 = t0 ∨ p * u0 = q) (hlast : u1 = t1 ∨ p * u1 = q) :
    Narrowed ((p, q) :: rest) t0 t1 a b := by
  refine ⟨h.le, hsurvivors.trans h.survivors_eq, ?_, ?_⟩
  · rcases h.first with rfl | ⟨c, hc, hequal⟩
    · exact hfirst.imp_right fun hequal => ⟨(p, q), List.mem_cons_self, hequal⟩
    · exact .inr ⟨c, List.mem_cons_of_mem _ hc, hequal⟩
  · rcases h.last with rfl | ⟨c, hc, hequal⟩
    · exact hlast.imp_right fun hequal => ⟨(p, q), List.mem_cons_self, hequal⟩
    · exact .inr ⟨c, List.mem_cons_of_mem _ hc, hequal⟩

variable [IsStrictOrderedRing K]

/-- An inequality that bounds the parameter from below. -/
theorem survivors_cons_of_neg {p : K} (hp : p < 0) (q : K) (rest : List (K × K)) (t0 t1 : K) :
    survivors ((p, q) :: rest) t0 t1 = survivors rest (max t0 (q / p)) t1 := by
  ext t
  rw [mem_survivors_iff, satisfies_cons_iff, mem_survivors_iff, max_le_iff,
    ← div_le_iff_of_neg' hp]
  tauto

/-- An inequality that bounds the parameter from above. -/
theorem survivors_cons_of_pos {p : K} (hp : 0 < p) (q : K) (rest : List (K × K)) (t0 t1 : K) :
    survivors ((p, q) :: rest) t0 t1 = survivors rest t0 (min (q / p) t1) := by
  ext t
  rw [mem_survivors_iff, satisfies_cons_iff, mem_survivors_iff, le_min_iff, ← le_div_iff₀' hp]
  tauto

/-- The point at a parameter lies in a rectangle when the parameter satisfies the inequalities. -/
theorem satisfies_sides_iff {s : Segment K} {box : Box K} {t : K} :
    Satisfies (s.sides box) t ↔ s.pointOf t ∈ box.points := by
  rw [Box.mem_points_iff, pointOf_eq, Satisfies]
  simp only [sides, List.forall_mem_cons, List.not_mem_nil, false_imp_iff, implies_true, and_true,
    neg_mul, mul_comm t]
  constructor
  · rintro ⟨hleft, hright, hupper, hlower⟩
    refine ⟨⟨?_, ?_⟩, ?_, ?_⟩ <;> linarith
  · rintro ⟨⟨hleft, hright⟩, hupper, hlower⟩
    refine ⟨?_, ?_, ?_, ?_⟩ <;> linarith

/-- Where one of the inequalities holds with equality, the point lies on a side. -/
theorem onSide_of_mem_sides {s : Segment K} {box : Box K} {t : K}
    (h : ∃ c ∈ s.sides box, c.1 * t = c.2) : box.OnSide (s.pointOf t) := by
  rw [Box.OnSide, pointOf_eq]
  simp only [sides, List.exists_mem_cons_iff, List.not_mem_nil, false_and, exists_false, or_false]
    at h
  rcases h with h | h | h | h
  · exact .inl (by linarith)
  · exact .inr (.inl (by linarith))
  · exact .inr (.inr (.inl (by linarith)))
  · exact .inr (.inr (.inr (by linarith)))

/-- The parameters that survive are those of the points in the rectangle. -/
theorem image_survivors (s : Segment K) (box : Box K) :
    s.pointOf '' survivors (s.sides box) 0 1 = s.points ∩ box.points := by
  rw [points_eq_image, ← Set.image_inter_preimage]
  congr 1
  ext t
  exact and_congr_right fun _ => satisfies_sides_iff

end Segment

namespace Exact

open Segment

variable {K : Type} [Field K] [LinearOrder K] [IsStrictOrderedRing K] [FloorRing K] [Trig K]

/-! ### Clipping -/

/-- **Narrowing finds the parameters that satisfy the inequalities**, and gives nothing just when
there are none. -/
theorem narrow_spec (bounds : List (K × K)) {t0 t1 : K} (h : t0 ≤ t1) :
    (narrow bounds t0 t1 = .ok none ∧ survivors bounds t0 t1 = ∅) ∨
      ∃ a b, narrow bounds t0 t1 = .ok (some (a, b)) ∧ Narrowed bounds t0 t1 a b := by
  induction bounds generalizing t0 t1 with
  | nil => exact .inr ⟨t0, t1, rfl, h, survivors_nil t0 t1, .inl rfl, .inl rfl⟩
  | cons bound rest ih =>
    obtain ⟨p, q⟩ := bound
    rw [narrow_cons]
    rcases lt_trichotomy p 0 with hp | rfl | hp
    · have hsurvivors := survivors_cons_of_neg hp q rest t0 t1
      rw [if_neg hp.ne, if_pos hp, ← max_def_lt]
      by_cases hbeyond : t1 < q / p
      · rw [if_pos hbeyond]
        exact .inl ⟨rfl, hsurvivors.trans (survivors_eq_empty (lt_max_of_lt_right hbeyond))⟩
      · rw [if_neg hbeyond, hsurvivors]
        refine (ih (max_le h (not_lt.1 hbeyond))).imp_right ?_
        rintro ⟨a, b, hnarrow, hab⟩
        refine ⟨a, b, hnarrow, hab.cons hsurvivors ?_ (.inl rfl)⟩
        exact (max_choice t0 (q / p)).imp_right fun hmax => by rw [hmax, mul_div_cancel₀ q hp.ne]
    · rw [if_pos rfl]
      by_cases hq : q < 0
      · rw [if_pos hq]
        exact .inl ⟨rfl, survivors_cons_zero_of_neg hq rest t0 t1⟩
      · have hsurvivors := survivors_cons_zero (not_lt.1 hq) rest t0 t1
        rw [if_neg hq, hsurvivors]
        refine (ih h).imp_right ?_
        rintro ⟨a, b, hnarrow, hab⟩
        exact ⟨a, b, hnarrow, hab.cons hsurvivors (.inl rfl) (.inl rfl)⟩
    · have hsurvivors := survivors_cons_of_pos hp q rest t0 t1
      rw [if_neg hp.ne', if_neg hp.not_gt, ← min_def_lt]
      by_cases hbeyond : q / p < t0
      · rw [if_pos hbeyond]
        exact .inl ⟨rfl, hsurvivors.trans (survivors_eq_empty (min_lt_of_left_lt hbeyond))⟩
      · rw [if_neg hbeyond, hsurvivors]
        refine (ih (le_min (not_lt.1 hbeyond) h)).imp_right ?_
        rintro ⟨a, b, hnarrow, hab⟩
        refine ⟨a, b, hnarrow, hab.cons hsurvivors (.inl rfl) ?_⟩
        exact (min_choice (q / p) t1).symm.imp_right fun hmin => by
          rw [hmin, mul_div_cancel₀ q hp.ne']

/-- What clipping keeps of a segment. -/
theorem clip_spec (s : Segment K) (box : Box K) :
    (s.clip box = .ok none ∧ s.points ∩ box.points = ∅) ∨
      ∃ a b, s.clip box = .ok (some (s.between a b)) ∧ 0 ≤ a ∧ a ≤ b ∧ b ≤ 1 ∧
        (s.between a b).points = s.points ∩ box.points ∧
        (a = 0 ∨ box.OnSide (s.pointOf a)) ∧ (b = 1 ∨ box.OnSide (s.pointOf b)) := by
  have hclip := clip_eq s box
  rw [← image_survivors]
  rcases narrow_spec (s.sides box) (zero_le_one (α := K)) with
    ⟨hnarrow, hempty⟩ | ⟨a, b, hnarrow, hab⟩
  · rw [hnarrow] at hclip
    exact .inl ⟨hclip, by rw [hempty, Set.image_empty]⟩
  · have hends : ∀ t ∈ Set.Icc a b, t ∈ Set.Icc (0 : K) 1 := fun t ht =>
      (hab.survivors_eq.symm ▸ ht : t ∈ survivors (s.sides box) 0 1).1
    rw [hnarrow] at hclip
    refine .inr ⟨a, b, hclip.trans ?_, (hends a (Set.left_mem_Icc.2 hab.le)).1, hab.le,
      (hends b (Set.right_mem_Icc.2 hab.le)).2, ?_, hab.first.imp_right onSide_of_mem_sides,
      hab.last.imp_right onSide_of_mem_sides⟩
    · rw [between, pointOf_eq, pointOf_eq]
      rfl
    · rw [points_between s hab.le, hab.survivors_eq]

/-- The ends of what is kept of a segment are in the rectangle. -/
theorem mem_points_of_clip {s kept : Segment K} {box : Box K} (h : s.clip box = .ok (some kept)) :
    kept.start ∈ box.points ∧ kept.stop ∈ box.points := by
  rcases clip_spec s box with ⟨hclip, -⟩ | ⟨a, b, hclip, -, -, -, hpoints, -, -⟩
  · rw [hclip] at h
    exact absurd h (by simp)
  · rw [hclip] at h
    obtain rfl := Option.some.inj (Except.ok.inj h)
    have hstart : (s.between a b).start ∈ (s.between a b).points := left_mem_segment K _ _
    have hstop : (s.between a b).stop ∈ (s.between a b).points := right_mem_segment K _ _
    rw [hpoints] at hstart hstop
    exact ⟨hstart.2, hstop.2⟩

/-- What is kept of a segment reaches to every point of it in the rectangle. -/
theorem exists_clip_of_mem {s : Segment K} {box : Box K} {t : K} (ht : t ∈ Set.Icc (0 : K) 1)
    (hbox : s.pointOf t ∈ box.points) : ∃ a b, s.clip box = .ok (some (s.between a b)) ∧
      (0 ≤ a ∧ a ≤ t) ∧ t ≤ b ∧ b ≤ 1 := by
  have hsurvives : t ∈ survivors (s.sides box) 0 1 := ⟨ht, satisfies_sides_iff.2 hbox⟩
  have hclip := clip_eq s box
  rcases narrow_spec (s.sides box) (zero_le_one (α := K)) with
    ⟨-, hempty⟩ | ⟨a, b, hnarrow, hab⟩
  · exact absurd (hempty ▸ hsurvives) (Set.notMem_empty t)
  · have hends : ∀ u ∈ Set.Icc a b, u ∈ Set.Icc (0 : K) 1 := fun u hu =>
      (hab.survivors_eq.symm ▸ hu : u ∈ survivors (s.sides box) 0 1).1
    rw [hnarrow] at hclip
    rw [hab.survivors_eq] at hsurvives
    refine ⟨a, b, hclip.trans ?_, ⟨(hends a (Set.left_mem_Icc.2 hab.le)).1, hsurvives.1⟩,
      hsurvives.2, (hends b (Set.right_mem_Icc.2 hab.le)).2⟩
    rw [between, pointOf_eq, pointOf_eq]
    rfl

/-- **Clipping is exact.**  It always ends, with nothing just when no point of the segment lies in the
rectangle, and else with the part of the segment that does. -/
theorem clip_exact (s : Segment K) (box : Box K) : ∃ kept?, s.clip box = .ok kept? ∧
    (kept? = none ↔ ∀ p ∈ s.points, p ∉ box.points) ∧
    ∀ kept, kept? = some kept → kept.IsPartInside s box := by
  rcases clip_spec s box with ⟨hclip, hempty⟩ | ⟨a, b, hclip, ha, hab, hb, hpoints, -, -⟩
  · refine ⟨none, hclip, iff_of_true rfl fun p hp hbox => ?_, fun _ h => nomatch h⟩
    exact (hempty ▸ (⟨hp, hbox⟩ : p ∈ s.points ∩ box.points) : p ∈ (∅ : Set (K × K)))
  · refine ⟨some (s.between a b), hclip, ?_, ?_⟩
    · -- The first end that is kept lies in the rectangle.
      have hstart : (s.between a b).start ∈ s.points ∩ box.points :=
        hpoints ▸ left_mem_segment K _ _
      exact iff_of_false (Option.some_ne_none _) fun h => h _ hstart.1 hstart.2
    · rintro kept hkept
      obtain rfl := Option.some.inj hkept
      exact ⟨⟨a, b, ha, hab, hb, rfl, rfl⟩, hpoints⟩

/-- A segment that only touches a corner of a rectangle is clipped to that corner, and one that passes
the corner by is not kept. -/
theorem clip_exact_corner :
    (∃ kept, (⟨-1, 1, 1, -1⟩ : Segment ℝ).clip ⟨0, 0, 2, 2⟩ = .ok (some kept) ∧
      kept.IsPartInside ⟨-1, 1, 1, -1⟩ ⟨0, 0, 2, 2⟩) ∧
    (⟨-2, 1, 1, -2⟩ : Segment ℝ).clip ⟨0, 0, 2, 2⟩ = .ok none := by
  constructor
  · obtain ⟨kept?, hclip, hnone, hpart⟩ := clip_exact (⟨-1, 1, 1, -1⟩ : Segment ℝ) ⟨0, 0, 2, 2⟩
    cases kept? with
    | some kept => exact ⟨kept, hclip, hpart kept rfl⟩
    | none =>
      refine absurd ?_ (hnone.1 rfl (0, 0) ?_)
      · simp [Box.mem_points_iff]
      · exact ⟨1 / 2, 1 / 2, by norm_num, by norm_num, by norm_num, by
          ext <;> norm_num [start, stop]⟩
  · obtain ⟨kept?, hclip, hnone, -⟩ := clip_exact (⟨-2, 1, 1, -2⟩ : Segment ℝ) ⟨0, 0, 2, 2⟩
    rw [hclip, hnone.2]
    rintro p ⟨u, v, -, -, huv, rfl⟩ hbox
    rw [Box.mem_points_iff] at hbox
    obtain ⟨⟨hleft, -⟩, hupper, -⟩ := hbox
    simp [start, stop] at hleft hupper
    linarith

end Exact

end TurtleCanvas
