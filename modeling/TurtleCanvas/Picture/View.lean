import TurtleCanvas.Picture

/-!
# What is seen of a picture

A picture is seen through its size and through the pixel in each column of each row.  This module
says what each operation on pictures does to what is seen.

* `Picture.pixel_filled` : every pixel of a picture of one colour.
* `Picture.pixel_set` : a changed pixel, and the others.
* `Picture.pixel_paint` : a painted picture has the colour exactly at the pixels that the runs
  cover.
-/

namespace TurtleCanvas

namespace Picture

/-! ### Places of pixels among the cells -/

theorem index_lt {width height x y : Nat} (hx : x < width) (hy : y < height) :
    index width x y < height * width := by
  have : (y + 1) * width ≤ height * width := Nat.mul_le_mul_right width hy
  rw [Nat.succ_mul] at this
  unfold index
  omega

/-- The cells of a run that does not reach over the end of its row are those of its columns. -/
theorem index_mem_iff {width x y left row count : Nat} (hx : x < width)
    (hcount : left + count ≤ width) :
    index width left row ≤ index width x y ∧ index width x y < index width left row + count ↔
      row = y ∧ left ≤ x ∧ x < left + count := by
  unfold index
  rcases Nat.lt_trichotomy y row with h | h | h
  · have : (y + 1) * width ≤ row * width := Nat.mul_le_mul_right width h
    rw [Nat.succ_mul] at this
    omega
  · subst h; omega
  · have : (row + 1) * width ≤ y * width := Nat.mul_le_mul_right width h
    rw [Nat.succ_mul] at this
    omega

/-! ### Pictures of one colour, and single pixels -/

@[simp] theorem width_filled (width height : Nat) (c : Pixel) :
    (filled width height c).width = width := rfl

@[simp] theorem height_filled (width height : Nat) (c : Pixel) :
    (filled width height c).height = height := rfl

theorem pixel_filled {width height x y : Nat} (c : Pixel) (hx : x < width) (hy : y < height) :
    (filled width height c).pixel x y = c := by
  simp [pixel, filled, Array.getD_eq_getD_getElem?, index_lt hx hy]

@[simp] theorem width_set (p : Picture) (x y : Nat) (c : Pixel) : (p.set x y c).width = p.width :=
  rfl

@[simp] theorem height_set (p : Picture) (x y : Nat) (c : Pixel) :
    (p.set x y c).height = p.height := rfl

theorem pixel_set {p : Picture} {x y i j : Nat} (c : Pixel) (hx : x < p.width) (hy : y < p.height)
    (hi : i < p.width) : (p.set i j c).pixel x y = if i = x ∧ j = y then c else p.pixel x y := by
  have hlt : index p.width x y < p.cells.size := p.size_cells ▸ index_lt hx hy
  have key := @index_mem_iff p.width x y i j 1 hx hi
  simp only [pixel, set, Array.getD_eq_getD_getElem?, Array.getElem?_setIfInBounds]
  by_cases h : index p.width i j = index p.width x y
  · have : i = x ∧ j = y := by omega
    simp [hlt, this]
  · have : ¬ (i = x ∧ j = y) := by rintro ⟨rfl, rfl⟩; exact h rfl
    simp [h, this]

/-! ### Painted pictures -/

theorem getD_fillCells (cells : Array Pixel) (c d : Pixel) (start count m : Nat)
    (hm : m < cells.size) :
    (fillCells cells c start count).getD m d =
      if start ≤ m ∧ m < start + count then c else cells.getD m d := by
  induction count generalizing cells start with
  | zero => rw [if_neg (by omega)]; rfl
  | succ count ih =>
    rw [fillCells, ih _ _ (by simpa using hm)]
    simp only [Array.getD_eq_getD_getElem?, Array.getElem?_setIfInBounds]
    by_cases h : start = m
    · subst h; simp [hm]
    · by_cases h' : start + 1 ≤ m ∧ m < start + 1 + count
      · rw [if_pos h', if_pos (by omega)]
      · rw [if_neg h', if_neg h, if_neg (by omega)]

@[simp] theorem width_fillSpan (p : Picture) (c : Pixel) (s : Span) :
    (p.fillSpan c s).width = p.width := by unfold fillSpan; split <;> rfl

@[simp] theorem height_fillSpan (p : Picture) (c : Pixel) (s : Span) :
    (p.fillSpan c s).height = p.height := by unfold fillSpan; split <;> rfl

theorem pixel_fillSpan {p : Picture} {x y : Nat} (c : Pixel) (s : Span) (hx : x < p.width)
    (hy : y < p.height) :
    (p.fillSpan c s).pixel x y = if s.Holds x y then c else p.pixel x y := by
  unfold fillSpan
  split
  · rename_i h
    simp only [pixel]
    rw [getD_fillCells _ _ _ _ _ _ (p.size_cells ▸ index_lt hx hy)]
    by_cases hs : s.Holds x y
    · obtain ⟨h1, h2, h3⟩ := hs
      rw [if_pos ((index_mem_iff hx (by omega)).2 (by omega)), if_pos ⟨h1, h2, h3⟩]
    · rw [if_neg hs, if_neg]
      intro hm
      have hm' : (min (p.width : Int) (s.right + 1) - ((max 0 s.left).toNat : Int)).toNat ≠ 0 := by
        intro h0; omega
      have := (index_mem_iff hx (by omega)).1 hm
      exact hs ⟨by omega, by omega, by omega⟩
  · rename_i h
    rw [if_neg]
    rintro ⟨h1, _, _⟩
    omega

@[simp] theorem width_paint (p : Picture) (spans : List Span) (c : Pixel) :
    (p.paint spans c).width = p.width := by
  induction spans generalizing p with
  | nil => rfl
  | cons s rest ih => rw [paint, List.foldl_cons, ← paint, ih, width_fillSpan]

@[simp] theorem height_paint (p : Picture) (spans : List Span) (c : Pixel) :
    (p.paint spans c).height = p.height := by
  induction spans generalizing p with
  | nil => rfl
  | cons s rest ih => rw [paint, List.foldl_cons, ← paint, ih, height_fillSpan]

/-- Painting runs colours the pixels that they cover and leaves all others. -/
theorem pixel_paint {p : Picture} {x y : Nat} (spans : List Span) (c : Pixel) (hx : x < p.width)
    (hy : y < p.height) :
    (p.paint spans c).pixel x y = if Span.Covers spans x y then c else p.pixel x y := by
  induction spans generalizing p with
  | nil => rw [if_neg (Span.not_covers_nil _ _)]; rfl
  | cons s rest ih =>
    rw [paint, List.foldl_cons, ← paint, ih (by simpa using hx) (by simpa using hy),
      pixel_fillSpan c s hx hy]
    simp only [Span.covers_cons]
    by_cases h : Span.Covers rest x y <;> by_cases h' : s.Holds x y <;> simp [h, h']

end Picture

end TurtleCanvas
