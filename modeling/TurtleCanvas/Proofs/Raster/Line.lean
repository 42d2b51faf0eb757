import Mathlib.Data.List.Chain
import Mathlib.Tactic.Linarith
import Mathlib.Tactic.Ring
import TurtleCanvas.Raster.Line

/-!
# The pixels of a thin line

The stepping along a line comes to a closed form: after `k` steps along the longer axis it has moved
across as many times as the rounded height of the line there says.

* `Raster.movesAcross` is that number, and `Raster.movesAcross_spec` its bounds;
* `Raster.walk_eq` says that the stepping with a summed-up error counts to it;
* `Raster.segmentPixels_eq` is the list of pixels of a line, whose first and last are its ends
  (`Raster.pixelAfter_zero`, `Raster.pixelAfter_longer`), whose neighbours in the list are neighbours
  in the picture (`Raster.adjacent_pixelAfter`), and which stays in the rectangle of its ends
  (`Raster.between_pixelAfter`);
* `Raster.pixelAlong` are the pixels of a line in any direction, `Raster.pixelAlong_swap` says that
  they are those of the line back, and `Raster.mem_segmentPixels_iff` that they are what is drawn.
-/

namespace TurtleCanvas

/-- One pixel is one step of a king away from another one. -/
def Point.Adjacent (p q : Point) : Prop := max (p.x - q.x).natAbs (p.y - q.y).natAbs = 1

theorem Point.Adjacent.symm {p q : Point} (h : p.Adjacent q) : q.Adjacent p := by
  unfold Adjacent at h ⊢
  omega

theorem Span.covers_map_ofPoint_iff {points : List Point} {x y : ℤ} :
    Covers (points.map ofPoint) x y ↔ ⟨x, y⟩ ∈ points := by
  simp only [Covers, List.mem_map, exists_exists_and_eq_and, holds_ofPoint]
  constructor
  · rintro ⟨⟨i, j⟩, hmem, rfl, rfl⟩
    exact hmem
  · exact fun h => ⟨_, h, rfl, rfl⟩

namespace Raster

theorem side_eq_inRange_iff {v last : ℤ} : side v last = .inRange ↔ 0 ≤ v ∧ v ≤ last := by
  unfold side
  split_ifs
  · exact iff_of_false nofun (by omega)
  · exact iff_of_false nofun (by omega)
  · exact iff_of_true rfl (by omega)

/-! ### Moves across -/

/-- The number of moves across after `k` steps along, on a line of `major` steps along and `minor`
moves across. -/
def movesAcross (major minor k : ℕ) : ℕ := (2 * (minor * k) + major - 1) / (2 * major)

variable {major minor : ℕ}

/-- The moves across are the height of the line rounded to the nearest whole number. -/
theorem movesAcross_spec (minor : ℕ) (hpos : 0 < major) (k : ℕ) :
    2 * (major * movesAcross major minor k) < 2 * (minor * k) + major ∧
      2 * (minor * k) + major ≤ 2 * (major * movesAcross major minor k) + 2 * major := by
  have hlow := Nat.div_mul_le_self (2 * (minor * k) + major - 1) (2 * major)
  have hhigh := Nat.lt_div_mul_add (a := 2 * (minor * k) + major - 1) (b := 2 * major) (by omega)
  have hcomm : (2 * (minor * k) + major - 1) / (2 * major) * (2 * major) =
      2 * (major * movesAcross major minor k) := by
    rw [movesAcross]
    ring
  omega

/-- The bounds tell the number of moves across. -/
theorem eq_movesAcross (hpos : 0 < major) {k a : ℕ}
    (hlow : 2 * (major * a) < 2 * (minor * k) + major)
    (hhigh : 2 * (minor * k) + major ≤ 2 * (major * a) + 2 * major) :
    a = movesAcross major minor k := by
  obtain ⟨hlow', hhigh'⟩ := movesAcross_spec minor hpos k
  -- Two numbers whose multiples lie in one range of that length are the same.
  have hle : major * a < major * (movesAcross major minor k + 1) := by rw [Nat.mul_add]; omega
  have hge : major * movesAcross major minor k < major * (a + 1) := by rw [Nat.mul_add]; omega
  have := Nat.lt_of_mul_lt_mul_left hle
  have := Nat.lt_of_mul_lt_mul_left hge
  omega

theorem movesAcross_zero (major minor : ℕ) : movesAcross major minor 0 = 0 := by
  rcases Nat.eq_zero_or_pos major with rfl | hpos
  · simp [movesAcross]
  · exact (eq_movesAcross hpos (by omega) (by omega)).symm

/-- In the end the line has moved across all the way. -/
theorem movesAcross_last (hle : minor ≤ major) : movesAcross major minor major = minor := by
  rcases Nat.eq_zero_or_pos major with rfl | hpos
  · rw [movesAcross_zero]
    omega
  · have hcomm := Nat.mul_comm major minor
    exact (eq_movesAcross hpos (by omega) (by omega)).symm

/-- Each step along moves across at most once, and does so when the error is negative. -/
theorem movesAcross_succ (hpos : 0 < major) (hle : minor ≤ major) (k : ℕ) :
    movesAcross major minor (k + 1) = movesAcross major minor k +
      if 2 * (major * movesAcross major minor k) + major < 2 * (minor * (k + 1)) then 1 else 0 := by
  obtain ⟨hlow, hhigh⟩ := movesAcross_spec minor hpos k
  have hsucc : minor * (k + 1) = minor * k + minor := Nat.mul_succ _ _
  have hmove : major * (movesAcross major minor k + 1) =
      major * movesAcross major minor k + major := Nat.mul_succ _ _
  split_ifs with h
  · exact (eq_movesAcross hpos (by omega) (by omega)).symm
  · rw [Nat.add_zero (movesAcross major minor k)]
    exact (eq_movesAcross hpos (by omega) (by omega)).symm

theorem movesAcross_mono (hpos : 0 < major) (hle : minor ≤ major) :
    Monotone (movesAcross major minor) :=
  monotone_nat_of_le_succ fun k => by
    rw [movesAcross_succ hpos hle]
    exact Nat.le_add_right _ _

theorem movesAcross_le (hle : minor ≤ major) {k : ℕ} (hk : k ≤ major) :
    movesAcross major minor k ≤ minor := by
  rcases Nat.eq_zero_or_pos major with rfl | hpos
  · obtain rfl : k = 0 := by omega
    rw [movesAcross_zero]
    omega
  · exact (movesAcross_mono hpos hle hk).trans (movesAcross_last hle).le

/-! ### Stepping -/

/-- The pixel after `k` steps along and the moves across that go with them. -/
def reached (along across p : Point) (major minor k : ℕ) : Point :=
  ⟨p.x + k * along.x + movesAcross major minor k * across.x,
    p.y + k * along.y + movesAcross major minor k * across.y⟩

/-- **The stepping counts the moves across**: when the error before step `k + 1` is what is left of
them after `k` steps, the next pixels are those of the next steps. -/
theorem walk_eq (along across p : Point) (hpos : 0 < major) (hle : minor ≤ major) (n k : ℕ) :
    walk along across (2 * minor) (2 * major) n (reached along across p major minor k)
        (major - 2 * (minor * (k + 1) : ℕ) + 2 * (major * movesAcross major minor k : ℕ)) =
      (List.range' k n).map (reached along across p major minor) := by
  induction n generalizing k with
  | zero => rfl
  | succ n ih =>
    have hsucc := movesAcross_succ hpos hle k
    have hfall : minor * (k + 1 + 1) = minor * (k + 1) + minor := Nat.mul_succ _ _
    rw [walk, List.range'_succ, List.map_cons, ← ih (k + 1)]
    split_ifs with herr
    · rw [if_pos (by omega)] at hsucc
      have hrise : major * movesAcross major minor (k + 1) =
          major * movesAcross major minor k + major := by rw [hsucc]; exact Nat.mul_succ _ _
      congr 2
      · simp only [reached, Point.add, hsucc, Point.mk.injEq]
        push_cast
        exact ⟨by ring, by ring⟩
      · push_cast [hrise, hfall]
        ring
    · rw [if_neg (by omega), Nat.add_zero] at hsucc
      congr 2
      · simp only [reached, Point.add, hsucc, Point.mk.injEq]
        push_cast
        exact ⟨by ring, by ring⟩
      · push_cast [hsucc, hfall]
        ring

/-! ### The pixels of a line -/

/-- The number of steps of a line along its longer axis. -/
def longer (p q : Point) : ℕ := max (q.x - p.x).natAbs (q.y - p.y).natAbs

/-- The number of moves of a line across that. -/
def shorter (p q : Point) : ℕ := min (q.x - p.x).natAbs (q.y - p.y).natAbs

/-- One row up or down, towards the end of a line. -/
def rowward (p q : Point) : Int := if q.y - p.y < 0 then -1 else 1

/-- The pixel of a line to the right after `k` steps along the longer axis. -/
def pixelAfter (p q : Point) (k : ℕ) : Point :=
  if q.x - p.x < (q.y - p.y).natAbs then
    ⟨p.x + movesAcross (longer p q) (shorter p q) k, p.y + k * rowward p q⟩
  else ⟨p.x + k, p.y + movesAcross (longer p q) (shorter p q) k * rowward p q⟩

theorem shorter_le_longer (p q : Point) : shorter p q ≤ longer p q := min_le_max

theorem segmentPixels_swap {p q : Point} (h : q.x < p.x) :
    segmentPixels p q = segmentPixels q p := by
  simp only [segmentPixels, if_pos h, if_neg (not_lt.2 h.le)]

/-- The stepping of a line begins at its first end, with its half as the error. -/
theorem walk_start (along across p : Point) (hle : minor ≤ major) :
    walk along across (2 * minor) (2 * major) (major + 1) p (major - 2 * minor) =
      (List.range (major + 1)).map (reached along across p major minor) := by
  have hstart : reached along across p major minor 0 = p := by
    simp [reached, movesAcross_zero]
  rcases Nat.eq_zero_or_pos major with rfl | hpos
  · obtain rfl : minor = 0 := by omega
    simp [walk, hstart]
  · have h := walk_eq along across p hpos hle (major + 1) 0
    rw [hstart, movesAcross_zero, Nat.zero_add, Nat.mul_one, Nat.mul_zero] at h
    rw [List.range_eq_range', ← h]
    simp

/-- **The pixels of a line to the right**, one for each step along the longer axis. -/
theorem segmentPixels_eq {p q : Point} (h : p.x ≤ q.x) :
    segmentPixels p q = (List.range (longer p q + 1)).map (pixelAfter p q) := by
  have hle := shorter_le_longer p q
  by_cases hsteep : q.x - p.x < (q.y - p.y).natAbs
  · have hlonger : longer p q = (q.y - p.y).natAbs := by unfold longer; omega
    have hshorter : shorter p q = (q.x - p.x).natAbs := by unfold shorter; omega
    have hpixel : pixelAfter p q =
        reached ⟨0, rowward p q⟩ ⟨1, 0⟩ p (longer p q) (shorter p q) := by
      funext k
      rw [pixelAfter, if_pos hsteep]
      simp [reached]
    rw [hpixel, ← walk_start _ _ _ hle, hlonger, hshorter]
    simp only [segmentPixels, if_neg (not_lt.2 h), hsteep, if_true, rowward]
  · have hlonger : longer p q = (q.x - p.x).natAbs := by unfold longer; omega
    have hshorter : shorter p q = (q.y - p.y).natAbs := by unfold shorter; omega
    have hpixel : pixelAfter p q =
        reached ⟨1, 0⟩ ⟨0, rowward p q⟩ p (longer p q) (shorter p q) := by
      funext k
      rw [pixelAfter, if_neg hsteep]
      simp [reached]
    rw [hpixel, ← walk_start _ _ _ hle, hlonger, hshorter]
    simp only [segmentPixels, if_neg (not_lt.2 h), hsteep, if_false, rowward]

theorem pixelAfter_zero (p q : Point) : pixelAfter p q 0 = p := by
  simp [pixelAfter, movesAcross_zero]

theorem segmentPixels_self (p : Point) : segmentPixels p p = [p] := by
  rw [segmentPixels_eq le_rfl]
  simp [longer, pixelAfter_zero]

/-- The last pixel of a line is its other end. -/
theorem pixelAfter_longer {p q : Point} (h : p.x ≤ q.x) : pixelAfter p q (longer p q) = q := by
  rw [pixelAfter, movesAcross_last (shorter_le_longer p q)]
  unfold longer shorter rowward
  split_ifs
  all_goals
    rw [Point.mk.injEq]
    omega

theorem rowward_eq (p q : Point) : rowward p q = 1 ∨ rowward p q = -1 := by
  unfold rowward
  split_ifs
  · exact .inr rfl
  · exact .inl rfl

/-- Pixels that follow each other on a line are neighbours. -/
theorem adjacent_pixelAfter (p q : Point) {k : ℕ} (hk : k < longer p q) :
    (pixelAfter p q k).Adjacent (pixelAfter p q (k + 1)) := by
  have hsucc := movesAcross_succ (by omega) (shorter_le_longer p q) k
  unfold pixelAfter Point.Adjacent
  rw [hsucc]
  rcases rowward_eq p q with hrow | hrow
  · rw [hrow]
    split_ifs <;> simp
  · rw [hrow]
    split_ifs <;> simp

/-- A line stays in the rectangle of its ends. -/
theorem between_pixelAfter {p q : Point} (h : p.x ≤ q.x) {k : ℕ} (hk : k ≤ longer p q) :
    (p.x ≤ (pixelAfter p q k).x ∧ (pixelAfter p q k).x ≤ q.x) ∧
      min p.y q.y ≤ (pixelAfter p q k).y ∧ (pixelAfter p q k).y ≤ max p.y q.y := by
  have hacross := movesAcross_le (shorter_le_longer p q) hk
  unfold pixelAfter
  generalize movesAcross (longer p q) (shorter p q) k = a at hacross ⊢
  unfold longer at hk
  unfold shorter at hacross
  unfold rowward
  split_ifs
  all_goals dsimp only; omega

/-! ### Lines in any direction -/

/-- The pixel of a line after `k` steps along the longer axis.  A line to the left is drawn from its
other end. -/
def pixelAlong (p q : Point) (k : ℕ) : Point :=
  if p.x ≤ q.x then pixelAfter p q k else pixelAfter q p (longer p q - k)

theorem longer_comm (p q : Point) : longer p q = longer q p := by
  unfold longer
  omega

/-- The way back has the same pixels. -/
theorem pixelAlong_swap (p q : Point) {k : ℕ} (hk : k ≤ longer p q) :
    pixelAlong q p (longer p q - k) = pixelAlong p q k := by
  rcases lt_trichotomy p.x q.x with hlt | heq | hgt
  · rw [pixelAlong, if_neg (by omega), pixelAlong, if_pos hlt.le, longer_comm q p,
      Nat.sub_sub_self hk]
  · -- On a vertical line there are no moves across.
    have hflat : ∀ j, j ≤ longer p q → movesAcross (longer p q) 0 j = 0 := fun j hj =>
      Nat.le_zero.1 (movesAcross_le (Nat.zero_le _) hj)
    have hshorter : shorter p q = 0 ∧ shorter q p = 0 := by
      unfold shorter
      omega
    rw [pixelAlong, if_pos heq.ge, pixelAlong, if_pos heq.le, pixelAfter, pixelAfter, hshorter.1,
      hshorter.2, longer_comm q p, hflat _ (Nat.sub_le _ _), hflat k hk]
    unfold longer at hk ⊢
    unfold rowward
    split_ifs
    all_goals
      rw [Point.mk.injEq]
      omega
  · rw [pixelAlong, if_pos hgt.le, pixelAlong, if_neg (by omega)]

theorem pixelAlong_zero (p q : Point) : pixelAlong p q 0 = p := by
  unfold pixelAlong
  split_ifs with h
  · exact pixelAfter_zero p q
  · rw [Nat.sub_zero, longer_comm]
    exact pixelAfter_longer (not_le.1 h).le

theorem pixelAlong_longer (p q : Point) : pixelAlong p q (longer p q) = q := by
  have h := pixelAlong_swap q p (Nat.zero_le _)
  rwa [Nat.sub_zero, pixelAlong_zero, longer_comm] at h

theorem adjacent_pixelAlong (p q : Point) {k : ℕ} (hk : k < longer p q) :
    (pixelAlong p q k).Adjacent (pixelAlong p q (k + 1)) := by
  unfold pixelAlong
  split_ifs
  · exact adjacent_pixelAfter p q hk
  · have hback : longer p q - (k + 1) + 1 = longer p q - k := by omega
    rw [← hback]
    have hcomm := longer_comm q p
    exact (adjacent_pixelAfter q p (by omega)).symm

theorem between_pixelAlong (p q : Point) {k : ℕ} (hk : k ≤ longer p q) :
    (min p.x q.x ≤ (pixelAlong p q k).x ∧ (pixelAlong p q k).x ≤ max p.x q.x) ∧
      min p.y q.y ≤ (pixelAlong p q k).y ∧ (pixelAlong p q k).y ≤ max p.y q.y := by
  unfold pixelAlong
  split_ifs with h
  · obtain ⟨⟨hleft, hright⟩, hrows⟩ := between_pixelAfter h hk
    exact ⟨⟨(min_le_left _ _).trans hleft, hright.trans (le_max_right _ _)⟩, hrows⟩
  · have hback : longer p q - k ≤ longer q p := by
      rw [longer_comm]
      exact Nat.sub_le _ _
    obtain ⟨⟨hleft, hright⟩, hrows⟩ := between_pixelAfter (not_le.1 h).le hback
    rw [min_comm q.y, max_comm q.y] at hrows
    exact ⟨⟨(min_le_right _ _).trans hleft, hright.trans (le_max_left _ _)⟩, hrows⟩

/-- **What is drawn of a line** are the pixels along it. -/
theorem mem_segmentPixels_iff {p q r : Point} :
    r ∈ segmentPixels p q ↔ ∃ k ≤ longer p q, pixelAlong p q k = r := by
  rcases le_or_gt p.x q.x with h | h
  · rw [segmentPixels_eq h]
    simp only [List.mem_map, List.mem_range, Nat.lt_succ_iff, pixelAlong, if_pos h]
  · rw [segmentPixels_swap h, segmentPixels_eq h.le, longer_comm q p]
    simp only [List.mem_map, List.mem_range, Nat.lt_succ_iff, pixelAlong, if_neg (not_le.2 h)]
    constructor
    · rintro ⟨k, hk, rfl⟩
      exact ⟨longer p q - k, Nat.sub_le _ _, by rw [Nat.sub_sub_self hk]⟩
    · rintro ⟨k, -, rfl⟩
      exact ⟨longer p q - k, Nat.sub_le _ _, rfl⟩

/-- A line and the line back are drawn with the same pixels. -/
theorem mem_segmentPixels_comm {p q r : Point} : r ∈ segmentPixels p q ↔ r ∈ segmentPixels q p := by
  have hback : ∀ p q : Point, r ∈ segmentPixels p q → r ∈ segmentPixels q p := by
    intro p q hr
    obtain ⟨k, hk, rfl⟩ := mem_segmentPixels_iff.1 hr
    refine mem_segmentPixels_iff.2 ⟨longer p q - k, ?_, pixelAlong_swap p q hk⟩
    rw [longer_comm q p]
    exact Nat.sub_le _ _
  exact ⟨hback p q, hback q p⟩

end Raster

end TurtleCanvas
