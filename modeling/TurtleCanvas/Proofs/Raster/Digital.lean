import Mathlib.Algebra.Order.Field.Rat
import Mathlib.Algebra.Order.Ring.Abs
import Mathlib.Tactic.FieldSimp
import Mathlib.Tactic.LinearCombination
import TurtleCanvas.Proofs.Raster.Line

/-!
# Digital lines

A line one pixel thick has one pixel for each step along its longer axis, the one that is nearest to
the ideal line between its ends.

* `Raster.IsStepAlong` says this of one coordinate in terms of the other, `Raster.IsStep` of a pixel;
* `Raster.abs_movesAcross_sub_le` bounds the error of the stepping by half a pixel;
* `Raster.isStep_pixelAlong` says that each pixel along a line, in any direction, is near to it.
-/

namespace TurtleCanvas

namespace Raster

/-- The moves across are at most half a move away from the line. -/
theorem abs_movesAcross_sub_le {major : ℕ} (hpos : 0 < major) (minor k : ℕ) :
    |(movesAcross major minor k : ℚ) - k * (minor / major)| ≤ 1 / 2 := by
  obtain ⟨hlow, hhigh⟩ := movesAcross_spec minor hpos k
  have hmajor : (0 : ℚ) < major := by exact_mod_cast hpos
  have hlow' : 2 * ((major : ℚ) * movesAcross major minor k) ≤ 2 * (minor * k) + major := by
    exact_mod_cast hlow.le
  have hhigh' : 2 * ((minor : ℚ) * k) + major ≤
      2 * (major * movesAcross major minor k) + 2 * major := by exact_mod_cast hhigh
  have hscale : (movesAcross major minor k : ℚ) - k * (minor / major) =
      (major * movesAcross major minor k - minor * k) / major := by
    field_simp
  rw [hscale, abs_le, le_div_iff₀ hmajor, div_le_iff₀ hmajor]
  constructor <;> linarith

/-! ### Steps along an axis -/

/-- A coordinate `u` is `k` steps from `a` towards `a'`, and the coordinate `v` is at most half a
pixel from the ideal line from `(a, b)` to `(a', b')` there. -/
structure IsStepAlong (a b a' b' : ℤ) (k : ℕ) (u v : ℤ) : Prop where
  along : u = a + k * (a' - a).sign
  near : |(v : ℚ) - (b + (u - a) * ((b' - b) / (a' - a)))| ≤ 1 / 2

/-- Counted moves across are a step along an axis, in each direction of both. -/
theorem isStepAlong_moves {a b a' b' s t : ℤ} {major minor k : ℕ} (hs : s = 1 ∨ s = -1)
    (ht : t = 1 ∨ t = -1) (ha : a' - a = s * major) (hb : b' - b = t * minor) (hk : k ≤ major)
    (hle : minor ≤ major) :
    IsStepAlong a b a' b' k (a + k * s) (b + movesAcross major minor k * t) := by
  rcases Nat.eq_zero_or_pos major with rfl | hpos
  · -- A line of one pixel has no direction.
    obtain rfl : k = 0 := by omega
    rw [movesAcross_zero]
    exact ⟨by simp, by simp⟩
  have hsign : (a' - a).sign = s := by
    rw [ha, Int.sign_mul, Int.sign_eq_one_of_pos (by omega : (0 : ℤ) < major), mul_one]
    rcases hs with rfl | rfl <;> rfl
  have hmajor : (major : ℚ) ≠ 0 := by exact_mod_cast hpos.ne'
  have ha' : (a' : ℚ) - a = s * major := by exact_mod_cast ha
  have hb' : (b' : ℚ) - b = t * minor := by exact_mod_cast hb
  have hs' : (s : ℚ) ≠ 0 := by rcases hs with rfl | rfl <;> norm_num
  refine ⟨by rw [hsign], ?_⟩
  have herror : ((b + movesAcross major minor k * t : ℤ) : ℚ) -
      (b + ((a + k * s : ℤ) - a) * ((b' - b) / (a' - a))) =
      t * (movesAcross major minor k - k * (minor / major)) := by
    rw [ha', hb']
    push_cast
    field_simp
    ring
  have ht' : |(t : ℚ)| = 1 := by rcases ht with rfl | rfl <;> norm_num
  rw [herror, abs_mul, ht', one_mul]
  exact abs_movesAcross_sub_le hpos minor k

/-- A step of a line is a step of the line back, counted from the other end. -/
theorem IsStepAlong.swap {a b a' b' u v : ℤ} {k : ℕ} (h : IsStepAlong a b a' b' k u v)
    (hk : k ≤ (a' - a).natAbs) (hle : (b' - b).natAbs ≤ (a' - a).natAbs) :
    IsStepAlong a' b' a b ((a' - a).natAbs - k) u v := by
  obtain ⟨halong, hnear⟩ := h
  have hlength : ((a' - a).natAbs : ℤ) * (a' - a).sign = a' - a := by
    rw [mul_comm, Int.sign_mul_natAbs]
  have hback : (a - a').sign = -(a' - a).sign := by rw [← Int.sign_neg, neg_sub]
  refine ⟨?_, ?_⟩
  · rw [hback, Nat.cast_sub hk, halong]
    linear_combination hlength
  · have hline : (b' : ℚ) + (u - a') * ((b - b') / (a - a')) =
        b + (u - a) * ((b' - b) / (a' - a)) := by
      by_cases hflat : a' = a
      · -- A line of one pixel ends where it begins.
        obtain rfl := hflat
        obtain rfl : b' = b := by omega
        simp
      · have hne : (a' : ℚ) - a ≠ 0 := sub_ne_zero.2 (by exact_mod_cast hflat)
        have hne' : (a : ℚ) - a' ≠ 0 := sub_ne_zero.2 (by exact_mod_cast Ne.symm hflat)
        field_simp
        ring
    rwa [hline]

/-! ### Steps of a line -/

/-- A pixel lies `k` steps along the longer axis of the line from `p` to `q`, and at most half a
pixel from the ideal line along the shorter one. -/
def IsStep (p q : Point) (k : ℕ) (r : Point) : Prop :=
  if (q.y - p.y).natAbs ≤ (q.x - p.x).natAbs then IsStepAlong p.x p.y q.x q.y k r.x r.y
  else IsStepAlong p.y p.x q.y q.x k r.y r.x

theorem IsStep.swap {p q r : Point} {k : ℕ} (h : IsStep p q k r) (hk : k ≤ longer p q) :
    IsStep q p (longer p q - k) r := by
  have hx : (p.x - q.x).natAbs = (q.x - p.x).natAbs := by omega
  have hy : (p.y - q.y).natAbs = (q.y - p.y).natAbs := by omega
  unfold IsStep at h ⊢
  rw [hx, hy]
  split_ifs at h ⊢ with hflat
  · have hlonger : longer p q = (q.x - p.x).natAbs := max_eq_left hflat
    rw [hlonger] at hk ⊢
    exact h.swap hk hflat
  · have hsteep := (not_le.1 hflat).le
    have hlonger : longer p q = (q.y - p.y).natAbs := max_eq_right hsteep
    rw [hlonger] at hk ⊢
    exact h.swap hk hsteep

theorem isStep_pixelAfter {p q : Point} (h : p.x ≤ q.x) {k : ℕ} (hk : k ≤ longer p q) :
    IsStep p q k (pixelAfter p q k) := by
  have hcolumns : q.x - p.x = 1 * (q.x - p.x).natAbs := by omega
  have hrows : q.y - p.y = rowward p q * (q.y - p.y).natAbs := by
    unfold rowward
    split_ifs <;> omega
  unfold IsStep pixelAfter
  by_cases hflat : (q.y - p.y).natAbs ≤ (q.x - p.x).natAbs
  · have hlonger : longer p q = (q.x - p.x).natAbs := max_eq_left hflat
    have hshorter : shorter p q = (q.y - p.y).natAbs := min_eq_right hflat
    rw [if_pos hflat, if_neg (by omega), hlonger, hshorter]
    rw [hlonger] at hk
    have hstep := isStepAlong_moves (.inl rfl) (rowward_eq p q) hcolumns hrows hk hflat
    rwa [mul_one] at hstep
  · have hsteep := (not_le.1 hflat).le
    have hlonger : longer p q = (q.y - p.y).natAbs := max_eq_right hsteep
    have hshorter : shorter p q = (q.x - p.x).natAbs := min_eq_left hsteep
    rw [if_neg hflat, if_pos (by omega), hlonger, hshorter]
    rw [hlonger] at hk
    have hstep := isStepAlong_moves (rowward_eq p q) (.inl rfl) hrows hcolumns hk hsteep
    rwa [mul_one] at hstep

/-- **Each pixel along a line is near to it**, one for each step. -/
theorem isStep_pixelAlong (p q : Point) {k : ℕ} (hk : k ≤ longer p q) :
    IsStep p q k (pixelAlong p q k) := by
  unfold pixelAlong
  split_ifs with h
  · exact isStep_pixelAfter h hk
  · -- A line to the left is the way back of one to the right.
    have hback := (isStep_pixelAfter (k := longer p q - k) (not_le.1 h).le
      (by rw [longer_comm q p]; exact Nat.sub_le _ _)).swap
      (by rw [longer_comm q p]; exact Nat.sub_le _ _)
    rwa [longer_comm q p, Nat.sub_sub_self hk] at hback

/-- Different steps lead to different pixels. -/
theorem IsStep.unique {p q r : Point} {j k : ℕ} (hj : IsStep p q j r) (hk : IsStep p q k r)
    (hj' : j ≤ longer p q) (hk' : k ≤ longer p q) : j = k := by
  have hcancel : ∀ {a a' : ℤ}, j ≤ (a' - a).natAbs → k ≤ (a' - a).natAbs →
      a + j * (a' - a).sign = a + k * (a' - a).sign → j = k := by
    intro a a' hj hk h
    rcases eq_or_ne (a' - a) 0 with hzero | hne
    · omega
    · exact_mod_cast mul_right_cancel₀ (mt Int.sign_eq_zero_iff_zero.1 hne) (add_left_cancel h)
  unfold IsStep at hj hk
  split_ifs at hj hk with hflat
  · have hlonger : longer p q = (q.x - p.x).natAbs := max_eq_left hflat
    exact hcancel (hlonger ▸ hj') (hlonger ▸ hk') (hj.along.symm.trans hk.along)
  · have hlonger : longer p q = (q.y - p.y).natAbs := max_eq_right (not_le.1 hflat).le
    exact hcancel (hlonger ▸ hj') (hlonger ▸ hk') (hj.along.symm.trans hk.along)

end Raster

end TurtleCanvas
