import Mathlib.Algebra.Order.Floor.Semifield
import TurtleCanvas.Frame.Compose
import TurtleCanvas.Platform
import TurtleCanvas.Proofs.Exact.Real
import TurtleCanvas.Proofs.Picture
import TurtleCanvas.Proofs.Picture.Image

/-!
# Zooming shows each pixel in its place

In exact arithmetic the old place of a new pixel is known beforehand: it is where its middle falls
when the new axis is laid over the old one.  Along each axis these places never go back, and a whole
scale gives each old place a block of new ones.

* `Zoom.scaled` is the size that a size is scaled to, and `Zoom.Fits` says that there can be an image
  of a size;
* `Zoom.source` is the old place of a new one, and `Zoom.sources_eq` says that these are what is
  worked out;
* `Picture.zoom_of_fits` is the zoomed picture, and `Picture.zoom_of_not_fits` says that there is none
  of a size that does not fit;
* `Picture.ShowsZoomed` is what is asked of a zoomed picture, and `Picture.compose_zoomed` says that
  it holds of every frame without a caption, and when there is one.
-/

namespace TurtleCanvas

open scoped Exact

variable {K : Type} [Field K] [LinearOrder K] [FloorRing K]

namespace Zoom

/-! ### Sizes -/

/-- The size that a size is scaled to: cut to a whole number, at least 1. -/
def scaled (n : ℕ) (scale : K) : ℕ := (max 1 (Exact.trunc (n * scale))).toNat

/-- There can be an image of a size: its sides can be counted, and its pixels fit into memory. -/
def Fits [Memory] (width height : ℕ) : Prop :=
  (width ≤ Image.maxWidth ∧ height < 2 ^ 31) ∧ 4 * (width * height) ≤ Memory.room

instance [Memory] (width height : ℕ) : Decidable (Fits width height) :=
  inferInstanceAs (Decidable (_ ∧ _))

theorem scaled_pos (n : ℕ) (scale : K) : 0 < scaled n scale := by
  rw [scaled]
  omega

theorem scaled_natCast [IsStrictOrderedRing K] {n k : ℕ} (hn : 0 < n) (hk : 0 < k) :
    scaled n (k : K) = k * n := by
  have hpos : 0 < k * n := Nat.mul_pos hk hn
  have htrunc : Exact.trunc ((n : K) * k) = (k * n : ℕ) := by
    rw [← Nat.cast_mul, Exact.trunc, if_pos (Nat.cast_nonneg _), Int.floor_natCast, mul_comm]
  rw [scaled, htrunc]
  omega

theorem scaled_one [IsStrictOrderedRing K] {n : ℕ} (hn : 0 < n) : scaled n (1 : K) = n := by
  have h := scaled_natCast (K := K) hn Nat.one_pos
  rwa [Nat.cast_one, Nat.one_mul] at h

theorem size_eq [Trig K] (n : ℕ) (scale : K) : size n scale = .ok (scaled n scale) := by
  show Except.ok (max 1 (Exact.trunc (((n : ℤ) : K) * scale))).toNat = _
  rw [Int.cast_natCast, scaled]

/-- There can be an image of a size just when the size passes all checks. -/
theorem fits_iff [Memory] {width height : ℕ} : Fits width height ↔
    Image.checkSide width = .ok () ∧ Image.checkSide height = .ok () ∧
      Image.checkRoom width height = .ok () := by
  have hmax : Image.maxWidth < 2 ^ 31 := by decide
  rw [Image.checkSide_eq_ok_iff, Image.checkSide_eq_ok_iff, Image.checkRoom_eq_ok_iff, Fits]
  omega

/-! ### Old places of new pixels -/

/-- The old place of a new one, of `count` along an axis of `n` old ones: the whole part of
`(i + 1 / 2) * n / count`. -/
def source (n count i : ℕ) : ℕ := (2 * i + 1) * n / (2 * count)

theorem source_mono (n count : ℕ) : Monotone (source n count) := by
  intro i j hij
  exact Nat.div_le_div_right (Nat.mul_le_mul_right n (by omega))

theorem source_lt {n count i : ℕ} (hn : 0 < n) (hi : i < count) : source n count i < n := by
  refine Nat.div_lt_of_lt_mul ?_
  exact Nat.mul_lt_mul_of_pos_right (by omega) hn

/-- With a whole number of new places for each old one, as many have each old one in turn. -/
theorem source_mul {n k : ℕ} (hn : 0 < n) (i : ℕ) : source n (k * n) i = i / k := by
  have hhalf : (2 * i + 1) / 2 = i := by omega
  rw [source, ← Nat.mul_assoc, Nat.mul_div_mul_right _ _ hn, ← Nat.div_div_eq_div_mul, hhalf]

theorem source_mul_eq_iff {n k x i : ℕ} (hn : 0 < n) (hk : 0 < k) :
    source n (k * n) i = x ↔ k * x ≤ i ∧ i < k * x + k := by
  rw [source_mul hn, Nat.div_eq_iff hk, Nat.mul_comm]
  omega

theorem source_self {n : ℕ} (hn : 0 < n) (i : ℕ) : source n n i = i := by
  have h := source_mul (k := 1) hn i
  rwa [Nat.one_mul, Nat.div_one] at h

variable [IsStrictOrderedRing K]

/-- The old place is the one that the middle of the new one falls on. -/
theorem source_eq_floor (n count i : ℕ) :
    source n count i = ⌊((i : K) + 1 / 2) * n / count⌋₊ := by
  have hratio : ((i : K) + 1 / 2) * n / count =
      (((2 * i + 1) * n : ℕ) : K) / ((2 * count : ℕ) : K) := by
    push_cast
    rw [show (i : K) + 1 / 2 = (2 * i + 1) / 2 by ring, div_mul_eq_mul_div, div_div]
  rw [hratio, Nat.floor_div_eq_div, source]

/-- Half a step from the start and a number of steps on lies the middle of a new place. -/
theorem toNat_trunc_middle (n count i : ℕ) :
    (Exact.trunc ((n : K) / count / 2 + i * ((n : K) / count))).toNat = source n count i := by
  have hmiddle : (n : K) / count / 2 + i * ((n : K) / count) = ((i : K) + 1 / 2) * n / count := by
    ring
  rw [hmiddle, Exact.trunc, if_pos (by positivity), Int.floor_toNat, source_eq_floor (K := K)]

variable [Trig K]

omit [IsStrictOrderedRing K] in
theorem walk_eq (step : K) (count : ℕ) (position : K) :
    walk step count position =
      .ok ((List.range count).map fun i : ℕ => (Exact.trunc (position + i * step)).toNat) := by
  induction count generalizing position with
  | zero => rfl
  | succ count ih =>
    show (walk step count (position + step) >>= fun rest =>
      Except.ok ((Exact.trunc position).toNat :: rest)) = _
    rw [ih, Except.ok_bind, List.range_succ_eq_map, List.map_cons, List.map_map]
    congr 2
    · rw [Nat.cast_zero, zero_mul, add_zero]
    · refine List.map_congr_left fun i _ => ?_
      rw [Function.comp_apply, Nat.cast_succ, add_one_mul, add_assoc, add_comm step]

/-- **The old places of new pixels** are those under their middles. -/
theorem sources_eq (n : ℕ) {count : ℕ} (hcount : 0 < count) :
    sources K n count = .ok ((List.range count).map (source n count)) := by
  have hne : (count : K) ≠ 0 := by exact_mod_cast hcount.ne'
  have hstep : (Scalar.div (Scalar.int n) (Scalar.int count) : Except Fault K) =
      .ok ((n : K) / count) := by
    show (if ((count : ℤ) : K) = 0 then _ else Except.ok (((n : ℤ) : K) / ((count : ℤ) : K))) = _
    rw [Int.cast_natCast, Int.cast_natCast, if_neg hne]
  have hhalf : (Scalar.div ((n : K) / count) (Scalar.real 2) : Except Fault K) =
      .ok ((n : K) / count / 2) := by
    show (if ((2 : ℤ) : K) = 0 then _ else Except.ok ((n : K) / count / ((2 : ℤ) : K))) = _
    rw [Int.cast_ofNat, if_neg two_ne_zero]
  rw [sources, hstep, Except.ok_bind, hhalf, Except.ok_bind, walk_eq]
  simp only [toNat_trunc_middle]

end Zoom

/-! ### Zoomed pictures -/

namespace Picture

theorem pixel_resample (p : Picture) {columns rows : Array ℕ} {i j : ℕ} (hi : i < columns.size)
    (hj : j < rows.size) :
    (p.resample columns rows).pixel i j = p.sample (columns.getD i 0) (rows.getD j 0) := by
  have hlt : index columns.size i j < rows.size * columns.size := index_lt hi hj
  have hcolumn : index columns.size i j % columns.size = i := Nat.mul_add_mod_of_lt hi
  have hrow : index columns.size i j / columns.size = j := by
    rw [index, Nat.mul_comm, Nat.mul_add_div (by omega), Nat.div_eq_of_lt hi, Nat.add_zero]
  simp only [pixel, resample, Array.getD_eq_getD_getElem?, Array.getElem?_ofFn, hlt, dif_pos,
    Option.getD_some, hcolumn, hrow]

variable [Trig K]

theorem isOne_iff {scale : K} : Scalar.isOne scale = true ↔ scale = 1 := decide_eq_true_iff

theorem zoom_of_one [Memory] (p : Picture) : p.zoom (1 : K) = .ok p := by
  rw [zoom, if_pos (isOne_iff.2 rfl)]
  rfl

theorem zoom_of_not_fits [Memory] (p : Picture) {scale : K} (hscale : scale ≠ 1)
    (h : ¬ Zoom.Fits (Zoom.scaled p.width scale) (Zoom.scaled p.height scale)) :
    ∃ e, p.zoom scale = .error e := by
  cases hzoom : p.zoom scale with
  | error e => exact ⟨e, rfl⟩
  | ok q =>
    rw [zoom, if_neg (mt isOne_iff.1 hscale), Zoom.size_eq, Except.ok_bind, Zoom.size_eq,
      Except.ok_bind] at hzoom
    obtain ⟨_, hwidth, hzoom⟩ := Except.bind_eq_ok_iff.1 hzoom
    obtain ⟨_, hheight, hzoom⟩ := Except.bind_eq_ok_iff.1 hzoom
    obtain ⟨_, hroom, -⟩ := Except.bind_eq_ok_iff.1 hzoom
    exact absurd (Zoom.fits_iff.2 ⟨hwidth, hheight, hroom⟩) h

theorem zoom_of_fits [Memory] [IsStrictOrderedRing K] (p : Picture) {scale : K} (hscale : scale ≠ 1)
    (h : Zoom.Fits (Zoom.scaled p.width scale) (Zoom.scaled p.height scale)) :
    p.zoom scale = .ok (p.resample
      ((List.range (Zoom.scaled p.width scale)).map
        (Zoom.source p.width (Zoom.scaled p.width scale))).toArray
      ((List.range (Zoom.scaled p.height scale)).map
        (Zoom.source p.height (Zoom.scaled p.height scale))).toArray) := by
  obtain ⟨hwidth, hheight, hroom⟩ := Zoom.fits_iff.1 h
  rw [zoom, if_neg (mt isOne_iff.1 hscale), Zoom.size_eq, Except.ok_bind, Zoom.size_eq,
    Except.ok_bind, hwidth, Except.ok_bind, hheight, Except.ok_bind, hroom, Except.ok_bind,
    Zoom.sources_eq _ (Zoom.scaled_pos _ _), Except.ok_bind,
    Zoom.sources_eq _ (Zoom.scaled_pos _ _), Except.ok_bind]
  rfl

/-- The new pixels of a zoomed picture are copies of the old ones under their middles. -/
theorem exists_zoom [Memory] [IsStrictOrderedRing K] {p : Picture} (hw : 0 < p.width) (hh : 0 < p.height)
    {scale : K}
    (h : scale = 1 ∨ Zoom.Fits (Zoom.scaled p.width scale) (Zoom.scaled p.height scale)) :
    ∃ q, p.zoom scale = .ok q ∧ q.width = Zoom.scaled p.width scale ∧
      q.height = Zoom.scaled p.height scale ∧ ∀ i j, i < q.width → j < q.height →
        q.pixel i j =
          p.pixel (Zoom.source p.width q.width i) (Zoom.source p.height q.height j) := by
  rcases eq_or_ne scale 1 with rfl | hscale
  · refine ⟨p, p.zoom_of_one, (Zoom.scaled_one hw).symm, (Zoom.scaled_one hh).symm, ?_⟩
    intro i j _ _
    rw [Zoom.source_self hw, Zoom.source_self hh]
  · refine ⟨_, p.zoom_of_fits hscale (h.resolve_left hscale), by simp [resample],
      by simp [resample], ?_⟩
    intro i j hi hj
    have hi' : i < Zoom.scaled p.width scale := by simpa [resample] using hi
    have hj' : j < Zoom.scaled p.height scale := by simpa [resample] using hj
    have hplaces : ∀ {n count i : ℕ}, i < count →
        ((List.range count).map (Zoom.source n count)).toArray.getD i 0 =
          Zoom.source n count i := by
      intro n count i h
      simp [Array.getD_eq_getD_getElem?, h]
    rw [pixel_resample p hi hj, hplaces hi', hplaces hj', sample,
      if_pos ⟨Zoom.source_lt hw hi', Zoom.source_lt hh hj'⟩]
    simp [resample]

/-- Each old pixel has become a block of as many new ones in each column and each row. -/
structure ShowsBlocks (p q : Picture) (k : ℕ) : Prop where
  width : q.width = k * p.width
  height : q.height = k * p.height
  /-- The new pixels that are copies of an old one are those of its block. -/
  column : ∀ x i, Zoom.source p.width q.width i = x ↔ k * x ≤ i ∧ i < k * x + k
  row : ∀ y j, Zoom.source p.height q.height j = y ↔ k * y ≤ j ∧ j < k * y + k
  block : ∀ x y i j, x < p.width → y < p.height → (k * x ≤ i ∧ i < k * x + k) →
    (k * y ≤ j ∧ j < k * y + k) → q.pixel i j = p.pixel x y
  /-- The first pixels of the blocks make up the old picture. -/
  sample : ∀ x y, x < p.width → y < p.height → q.pixel (k * x) (k * y) = p.pixel x y

/-- What is asked of a picture that another one is zoomed to. -/
structure ShowsZoomed (p q : Picture) (scale : K) : Prop where
  width : q.width = Zoom.scaled p.width scale
  height : q.height = Zoom.scaled p.height scale
  /-- Every new pixel is a copy of the old one under its middle. -/
  pixel : ∀ i j, i < q.width → j < q.height →
    q.pixel i j = p.pixel (Zoom.source p.width q.width i) (Zoom.source p.height q.height j)
  column_lt : ∀ i, i < q.width → Zoom.source p.width q.width i < p.width
  row_lt : ∀ j, j < q.height → Zoom.source p.height q.height j < p.height
  column_mono : Monotone (Zoom.source p.width q.width)
  row_mono : Monotone (Zoom.source p.height q.height)
  /-- A picture of the same size is the same picture. -/
  same : q.width = p.width → q.height = p.height → q = p
  /-- A whole scale makes blocks. -/
  blocks : ∀ k : ℕ, 1 ≤ k → scale = k → p.ShowsBlocks q k

variable [IsStrictOrderedRing K] {p q : Picture}

theorem showsBlocks (hw : 0 < p.width) (hh : 0 < p.height) {k : ℕ} (hk : 0 < k)
    (hwidth : q.width = k * p.width) (hheight : q.height = k * p.height)
    (hpixel : ∀ i j, i < q.width → j < q.height → q.pixel i j =
      p.pixel (Zoom.source p.width q.width i) (Zoom.source p.height q.height j)) :
    p.ShowsBlocks q k := by
  have hcolumn : ∀ x i, Zoom.source p.width q.width i = x ↔ k * x ≤ i ∧ i < k * x + k := by
    intro x i
    rw [hwidth]
    exact Zoom.source_mul_eq_iff hw hk
  have hrow : ∀ y j, Zoom.source p.height q.height j = y ↔ k * y ≤ j ∧ j < k * y + k := by
    intro y j
    rw [hheight]
    exact Zoom.source_mul_eq_iff hh hk
  have hblock : ∀ x y i j, x < p.width → y < p.height → (k * x ≤ i ∧ i < k * x + k) →
      (k * y ≤ j ∧ j < k * y + k) → q.pixel i j = p.pixel x y := by
    intro x y i j hx hy hi hj
    have hx' : k * x + k ≤ k * p.width := Nat.mul_le_mul_left k hx
    have hy' : k * y + k ≤ k * p.height := Nat.mul_le_mul_left k hy
    rw [hpixel i j (by omega) (by omega), (hcolumn x i).2 hi, (hrow y j).2 hj]
  exact ⟨hwidth, hheight, hcolumn, hrow, hblock, fun x y hx hy =>
    hblock x y _ _ hx hy ⟨le_rfl, by omega⟩ ⟨le_rfl, by omega⟩⟩

omit [IsStrictOrderedRing K] in
/-- A frame without a caption is made from the image of a picture. -/
theorem compose_none_eq [Memory] [Lettering] (p : Picture) (place : Argument) (scale : K) :
    p.compose .none place scale = (p.toImage >>= fun image => image.zoom scale) := rfl

/-- **Zooming shows each pixel in its place.**  A frame without a caption has the scaled size, and its
pixels are copies of those under their middles, in order; in the size of the picture it is the picture,
and a whole scale makes a block of each pixel.  There is no frame of a picture that no image can be
made of, and none of a size of which there can be no image. -/
theorem compose_zoomed [Memory] [Lettering] {p : Picture} (hw : 0 < p.width) (hh : 0 < p.height)
    (place : Argument) (scale : K) :
    ((p.FitsImage ∧
        (scale = 1 ∨ Zoom.Fits (Zoom.scaled p.width scale) (Zoom.scaled p.height scale))) →
      ∃ q, p.compose .none place scale = .ok q ∧ p.ShowsZoomed q scale) ∧
    (¬ (p.FitsImage ∧
        (scale = 1 ∨ Zoom.Fits (Zoom.scaled p.width scale) (Zoom.scaled p.height scale))) →
      ∃ e, p.compose .none place scale = .error e) := by
  rw [compose_none_eq]
  constructor
  · rintro ⟨himage, h⟩
    rw [toImage_of_fits himage, Except.ok_bind]
    obtain ⟨q, hzoom, hwidth, hheight, hpixel⟩ := exists_zoom hw hh h
    refine ⟨q, hzoom, hwidth, hheight, hpixel, fun i hi => Zoom.source_lt hw hi,
      fun j hj => Zoom.source_lt hh hj, Zoom.source_mono _ _, Zoom.source_mono _ _, ?_, ?_⟩
    · intro hw' hh'
      refine ext_pixel hw' hh' fun x y hx hy => ?_
      rw [hpixel x y hx hy, hw', hh', Zoom.source_self hw, Zoom.source_self hh]
    · rintro k hk rfl
      exact showsBlocks hw hh hk (hwidth.trans (Zoom.scaled_natCast hw hk))
        (hheight.trans (Zoom.scaled_natCast hh hk)) hpixel
  · intro h
    by_cases himage : p.FitsImage
    · obtain ⟨hscale, hfits⟩ := not_or.1 fun hzoom => h ⟨himage, hzoom⟩
      rw [toImage_of_fits himage, Except.ok_bind]
      exact p.zoom_of_not_fits hscale hfits
    · obtain ⟨e, he⟩ := exists_toImage_error himage
      exact ⟨e, by rw [he]; rfl⟩

/-- Three pixels in a row that are zoomed by a half are four, with the one in the middle twice. -/
theorem compose_zoomed_half :
    let p := ((filled 3 1 ⟨255, 255, 255⟩).set 1 0 ⟨255, 0, 0⟩).set 2 0 ⟨0, 0, 0⟩
    0 < p.width ∧ 0 < p.height ∧ p.FitsImage ∧
      Zoom.Fits (Zoom.scaled p.width (3 / 2 : ℝ)) (Zoom.scaled p.height (3 / 2 : ℝ)) ∧
      ∃ q, p.compose .none captionPlace (3 / 2 : ℝ) = .ok q ∧ q.width = 4 ∧ q.height = 1 ∧
        q.pixel 0 0 = ⟨255, 255, 255⟩ ∧ q.pixel 1 0 = ⟨255, 0, 0⟩ ∧ q.pixel 2 0 = ⟨255, 0, 0⟩ ∧
        q.pixel 3 0 = ⟨0, 0, 0⟩ := by
  intro p
  have htrunc : Exact.trunc (((3 : ℕ) : ℝ) * (3 / 2)) = 4 := by norm_num [Exact.trunc]
  have hwidth : Zoom.scaled 3 (3 / 2 : ℝ) = 4 := by
    rw [Zoom.scaled, htrunc]
    rfl
  have hheight : Zoom.scaled 1 (3 / 2 : ℝ) = 1 := by
    norm_num [Zoom.scaled, Exact.trunc]
  have hw : 0 < p.width := by decide
  have hh : 0 < p.height := by decide
  have hfits : Zoom.Fits (Zoom.scaled p.width (3 / 2 : ℝ)) (Zoom.scaled p.height (3 / 2 : ℝ)) := by
    show Zoom.Fits (Zoom.scaled 3 (3 / 2 : ℝ)) (Zoom.scaled 1 (3 / 2 : ℝ))
    rw [hwidth, hheight]
    decide
  have himage : p.FitsImage := by decide
  obtain ⟨q, hq, hzoomed⟩ :=
    (compose_zoomed hw hh captionPlace (3 / 2 : ℝ)).1 ⟨himage, .inr hfits⟩
  have hqw : q.width = 4 := hzoomed.width.trans hwidth
  have hqh : q.height = 1 := hzoomed.height.trans hheight
  refine ⟨hw, hh, himage, hfits, q, hq, hqw, hqh, ?_, ?_, ?_, ?_⟩
  all_goals
    rw [hzoomed.pixel _ _ (by omega) (by omega), hqw, hqh]
    decide

/-- On no machine one pixel can be zoomed to `2 ^ 31` pixels in each column and each row. -/
theorem not_compose_vast : ¬ ∃ (_ : Memory) (_ : Lettering) (q : Picture),
    (filled 1 1 ⟨255, 255, 255⟩).compose .none captionPlace ((2 ^ 31 : ℕ) : ℝ) = .ok q := by
  rintro ⟨_, _, q, hq⟩
  have hsize : Zoom.scaled 1 ((2 ^ 31 : ℕ) : ℝ) = 2 ^ 31 :=
    (Zoom.scaled_natCast Nat.one_pos (by decide)).trans (Nat.mul_one _)
  have hfits : ¬ Zoom.Fits (Zoom.scaled 1 ((2 ^ 31 : ℕ) : ℝ)) (Zoom.scaled 1 ((2 ^ 31 : ℕ) : ℝ)) := by
    rw [hsize]
    exact fun h => absurd h.1.2 (lt_irrefl _)
  obtain ⟨e, he⟩ := zoom_of_not_fits (filled 1 1 ⟨255, 255, 255⟩) (by norm_num) hfits
  rw [compose_none_eq] at hq
  obtain ⟨image, himage, hzoom⟩ := Except.bind_eq_ok_iff.1 hq
  obtain rfl := (toImage_eq_ok_iff.1 himage).2
  exact nomatch he.symm.trans hzoom

end Picture

end TurtleCanvas
