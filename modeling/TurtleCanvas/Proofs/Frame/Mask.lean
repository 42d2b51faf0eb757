import Mathlib.Tactic.SplitIfs
import TurtleCanvas.Platform
import TurtleCanvas.Proofs.Frame.Compose
import TurtleCanvas.Proofs.Picture

/-!
# Captions drawn through masks

A mask darkens each pixel of a picture once, by its coverage there, and moves none.  So a caption can
be drawn on every picture, and where its mask covers a bright pixel it leaves a trace.

* `Mask.coverage` is how much a mask covers at a place, and `Picture.pixel_shade` what it leaves of a
  pixel;
* `Picture.drawCaption_text` says that every text is drawn, through its mask if it has one;
* `Lettering.draws_text` says that every text can be the caption of every picture.
-/

namespace TurtleCanvas

/-- A pixel under black of the given coverage. -/
def Pixel.shaded (c : Pixel) (coverage : Nat) : Pixel :=
  ⟨darken coverage c.red, darken coverage c.green, darken coverage c.blue⟩

/-- How much a mask covers at a place, counted from its upper left corner. -/
def Mask.coverage (m : Mask) (x y : Int) : Nat :=
  if 0 ≤ x ∧ 0 ≤ y then (m.rows.getD y.toNat []).getD x.toNat 0 else 0

theorem darken_zero (b : UInt8) : darken 0 b = b := by
  have hb := b.toNat_lt
  have hsum : (b.toNat * 255 + 128 + (b.toNat * 255 + 128) / 256) / 256 = b.toNat := by omega
  show UInt8.ofNat ((b.toNat * 255 + 128 + (b.toNat * 255 + 128) / 256) / 256) = b
  rw [hsum, UInt8.ofNat_toNat]

theorem Pixel.shaded_zero (c : Pixel) : c.shaded 0 = c := by
  simp only [shaded, darken_zero]

namespace Picture

/-! ### Sizes -/

@[simp] theorem width_shadePixel (p : Picture) (x y : Int) (coverage : Nat) :
    (p.shadePixel x y coverage).width = p.width := by
  unfold shadePixel
  split_ifs
  · rfl
  · rfl

@[simp] theorem height_shadePixel (p : Picture) (x y : Int) (coverage : Nat) :
    (p.shadePixel x y coverage).height = p.height := by
  unfold shadePixel
  split_ifs
  · rfl
  · rfl

theorem size_shadeRow (y : Int) (p : Picture) (x : Int) (row : List Nat) :
    (p.shadeRow y x row).width = p.width ∧ (p.shadeRow y x row).height = p.height := by
  induction row generalizing p x with
  | nil => exact ⟨rfl, rfl⟩
  | cons coverage rest ih =>
    rw [shadeRow, ← width_shadePixel p x y coverage, ← height_shadePixel p x y coverage]
    exact ih (p.shadePixel x y coverage) (x + 1)

theorem size_shadeRows (x : Int) (p : Picture) (y : Int) (rows : List (List Nat)) :
    (p.shadeRows x y rows).width = p.width ∧ (p.shadeRows x y rows).height = p.height := by
  induction rows generalizing p y with
  | nil => exact ⟨rfl, rfl⟩
  | cons row rest ih =>
    obtain ⟨hw, hh⟩ := size_shadeRow y p x row
    rw [shadeRows, ← hw, ← hh]
    exact ih (p.shadeRow y x row) (y + 1)

/-! ### Pixels -/

theorem pixel_shadePixel {p : Picture} {i j : Nat} (hi : i < p.width) (hj : j < p.height)
    (x y : Int) (coverage : Nat) : (p.shadePixel x y coverage).pixel i j =
      if x = i ∧ y = j then (p.pixel i j).shaded coverage else p.pixel i j := by
  unfold shadePixel
  by_cases hinside : p.Inside x y
  · obtain ⟨⟨hx, hx'⟩, hy, hy'⟩ := hinside
    rw [if_pos ⟨⟨hx, hx'⟩, hy, hy'⟩, pixel_set _ hi hj (by omega)]
    by_cases hsame : x = i ∧ y = j
    · obtain ⟨rfl, rfl⟩ := hsame
      rw [if_pos ⟨by omega, by omega⟩, if_pos ⟨rfl, rfl⟩]
      rfl
    · rw [if_neg (by omega), if_neg hsame]
  · rw [if_neg hinside, if_neg]
    rintro ⟨rfl, rfl⟩
    exact hinside ⟨⟨by omega, by omega⟩, by omega, by omega⟩

theorem pixel_shadeRow {p : Picture} {i j : Nat} (hi : i < p.width) (hj : j < p.height)
    (x y : Int) (row : List Nat) : (p.shadeRow y x row).pixel i j =
      if x ≤ i ∧ y = j then (p.pixel i j).shaded (row.getD (i - x).toNat 0)
      else p.pixel i j := by
  induction row generalizing p x with
  | nil => simp [shadeRow, Pixel.shaded_zero]
  | cons coverage rest ih =>
    rw [shadeRow, ih (by rwa [width_shadePixel]) (by rwa [height_shadePixel]),
      pixel_shadePixel hi hj]
    by_cases hy : y = j
    · rcases Int.lt_trichotomy x i with hlt | rfl | hgt
      · -- The pixel lies further on in the row.
        have hnext : ((i : Int) - x).toNat = ((i : Int) - (x + 1)).toNat + 1 := by omega
        have hne : x ≠ i := by omega
        have hle : x ≤ i := by omega
        have hrest : x + 1 ≤ i := by omega
        simp [hy, hne, hle, hrest, hnext]
      · have hrest : ¬ (i : Int) + 1 ≤ i := by omega
        simp [hy, hrest]
      · have hne : x ≠ i := by omega
        have hle : ¬ x ≤ i := by omega
        have hrest : ¬ x + 1 ≤ i := by omega
        simp [hne, hle, hrest]
    · simp [hy]

theorem pixel_shadeRows {p : Picture} {i j : Nat} (hi : i < p.width) (hj : j < p.height)
    (x y : Int) (rows : List (List Nat)) : (p.shadeRows x y rows).pixel i j =
      if x ≤ i ∧ y ≤ j then
        (p.pixel i j).shaded ((rows.getD (j - y).toNat []).getD (i - x).toNat 0)
      else p.pixel i j := by
  induction rows generalizing p y with
  | nil => simp [shadeRows, Pixel.shaded_zero]
  | cons row rest ih =>
    obtain ⟨hw, hh⟩ := size_shadeRow y p x row
    rw [shadeRows, ih (by omega) (by omega), pixel_shadeRow hi hj]
    by_cases hx : x ≤ i
    · rcases Int.lt_trichotomy y j with hlt | rfl | hgt
      · -- The pixel lies further down.
        have hnext : ((j : Int) - y).toNat = ((j : Int) - (y + 1)).toNat + 1 := by omega
        have hne : y ≠ j := by omega
        have hle : y ≤ j := by omega
        have hrest : y + 1 ≤ j := by omega
        simp [hx, hne, hle, hrest, hnext]
      · have hrest : ¬ (j : Int) + 1 ≤ j := by omega
        simp [hx, hrest]
      · have hne : y ≠ j := by omega
        have hle : ¬ y ≤ j := by omega
        have hrest : ¬ y + 1 ≤ j := by omega
        simp [hne, hle, hrest]
    · simp [hx]

/-- **A mask darkens each pixel once**, by its coverage there. -/
theorem pixel_shade {p : Picture} {i j : Nat} (hi : i < p.width) (hj : j < p.height) (x y : Int)
    (mask : Mask) :
    (p.shade x y mask).pixel i j = (p.pixel i j).shaded (mask.coverage (i - x) (j - y)) := by
  rw [shade, pixel_shadeRows hi hj, Mask.coverage]
  split_ifs with h h' h'
  · rfl
  · omega
  · omega
  · exact (Pixel.shaded_zero _).symm

/-! ### Captions -/

theorem toPart_int {n : Int} (h : (Binary64.ofInt? n).map partOf = some 0) :
    (Argument.int n).toPart = .ok 0 := by
  obtain ⟨x, hx, hpart⟩ := Option.map_eq_some_iff.1 h
  refine Except.bind_eq_ok_iff.2 ⟨.int n, rfl, Except.bind_eq_ok_iff.2 ⟨x, ?_, ?_⟩⟩
  · rw [Number.toReal, hx]
  · rw [hpart]
    rfl

/-- A caption stands on a whole pixel. -/
theorem toPlace_captionPlace : captionPlace.toPlace = .ok ⟨240, 450, 0, 0⟩ := by
  have hx : (Argument.int 240).toPart = .ok 0 := toPart_int (by decide +kernel)
  have hy : (Argument.int 450).toPart = .ok 0 := toPart_int (by decide +kernel)
  refine Except.bind_eq_ok_iff.2 ⟨[.int 240, .int 450], rfl, ?_⟩
  simp only [Except.bind_eq_ok_iff]
  exact ⟨240, rfl, 450, rfl, 0, hx, 0, hy, rfl⟩

/-- **Every text is drawn**, through its mask if it has one. -/
theorem drawCaption_text (p : Picture) (s : String) :
    p.drawCaption captionPlace (.text s) = .ok (match Mask.ofCaption? s with
      | some mask => p.shade 240 452 mask
      | none => p) := by
  have hplace : ∀ mask, p.shadeAt ⟨240, 450, 0, 0⟩ mask = p.shade 240 452 mask := fun mask => by
    have hcut : mask.cut 0 0 = mask := by simp [Mask.cut]
    exact congrArg (p.shade 240 452) hcut
  rw [drawCaption, toPlace_captionPlace, Except.ok_bind, if_neg (by decide)]
  cases Mask.ofCaption? s with
  | none => rfl
  | some mask => exact congrArg Except.ok (hplace mask)

/-- In its own size a picture with a caption is the picture drawn through the mask. -/
theorem IsCaptioned.eq_shade {α : Type} [Scalar α] [Memory] {p image : Picture} {scale : α}
    {s : String} {mask : Mask} (h : p.IsCaptioned (.text s) scale image)
    (hscale : Scalar.isOne scale = true) (hmask : Mask.ofCaption? s = some mask) :
    image = p.shade 240 452 mask := by
  obtain ⟨lettered, htext, hzoom⟩ := h
  rw [zoom, if_pos hscale] at hzoom
  have hdrawn : p.drawCaption captionPlace (.text s) = .ok lettered := htext
  rw [drawCaption_text, hmask] at hdrawn
  exact (Except.ok.inj hzoom).symm.trans (Except.ok.inj hdrawn).symm

end Picture

/-- **Every text can be the caption of every picture.** -/
theorem Lettering.draws_text (s : String) (width height : Nat) :
    Lettering.Draws (.text s) width height := by
  rintro - p rfl rfl
  refine ⟨_, Picture.drawCaption_text p s, ?_⟩
  cases Mask.ofCaption? s with
  | none => exact ⟨rfl, rfl⟩
  | some mask => exact Picture.size_shadeRows _ _ _ _

end TurtleCanvas
