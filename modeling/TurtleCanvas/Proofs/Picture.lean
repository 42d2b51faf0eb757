import Mathlib.Data.Int.Basic
import TurtleCanvas.Picture.View

/-!
# Pictures by their pixels

A picture is told by its size and its pixels (`Picture.ext_pixel`), so that two ways to paint it can
be compared pixel by pixel.

* `Colour.FitsBytes` says that every component of a colour can be stored in a byte; such a colour is
  stored as it is, in whichever way it gets there (`Colour.bytes_clamped`);
* `Picture.paint_paint_self` and `Picture.paint_comm` say that painting twice is painting once, and
  that runs of one colour can be painted in any order.
-/

namespace TurtleCanvas

/-! ### Colours that fit bytes -/

namespace Colour

/-- Every component can be stored in a byte. -/
def FitsBytes (c : Colour) : Prop := ∀ n ∈ c.components, 0 ≤ n ∧ n ≤ 255

instance (c : Colour) : Decidable c.FitsBytes := by unfold FitsBytes; infer_instance

theorem fitsBytes_iff {c : Colour} :
    c.FitsBytes ↔ (0 ≤ c.red ∧ c.red ≤ 255) ∧ (0 ≤ c.green ∧ c.green ≤ 255) ∧
      (0 ≤ c.blue ∧ c.blue ≤ 255) := by
  simp [FitsBytes, components]

theorem fitsByte_iff {n : Int} : fitsByte n = true ↔ 0 ≤ n ∧ n ≤ 255 := by
  simp [fitsByte]

theorem toNat_clampByte {n : Int} (h : 0 ≤ n ∧ n ≤ 255) : ((clampByte n).toNat : Int) = n := by
  unfold clampByte
  rw [UInt8.toNat_ofNat']
  omega

theorem brushByte_eq {n : Int} (h : n ≤ 255) : brushByte n = clampByte n := by
  unfold brushByte
  rw [if_pos (by omega)]

theorem wrapByte_eq {n : Int} (h : 0 ≤ n ∧ n ≤ 255) : wrapByte n = clampByte n := by
  unfold wrapByte clampByte
  congr 1
  omega

variable {c : Colour}

/-- The bytes of a stored colour are its components. -/
theorem bytes_clamped (h : c.FitsBytes) :
    c.clamped.bytes.map (fun b => (b.toNat : Int)) = c.components := by
  obtain ⟨hr, hg, hb⟩ := fitsBytes_iff.1 h
  simp [clamped, Pixel.bytes, components, toNat_clampByte hr, toNat_clampByte hg,
    toNat_clampByte hb]

theorem brushed_eq (h : c.FitsBytes) : c.brushed = c.clamped := by
  obtain ⟨hr, hg, hb⟩ := fitsBytes_iff.1 h
  simp only [brushed, clamped, brushByte_eq hr.2, brushByte_eq hg.2, brushByte_eq hb.2]

theorem wrapped_eq (h : c.FitsBytes) : c.wrapped = c.clamped := by
  obtain ⟨hr, hg, hb⟩ := fitsBytes_iff.1 h
  simp only [wrapped, clamped, wrapByte_eq hr, wrapByte_eq hg, wrapByte_eq hb]

theorem storeIn_eq (h : c.FitsBytes) (p : Pixel) : c.storeIn p = (c.clamped, none) := by
  obtain ⟨hr, hg, hb⟩ := fitsBytes_iff.1 h
  simp [storeIn, fitsByte_iff.2 hr, fitsByte_iff.2 hg, fitsByte_iff.2 hb]

theorem firstBeyondByte?_eq_none (h : c.FitsBytes) : c.firstBeyondByte? = none := by
  rw [firstBeyondByte?, List.find?_eq_none]
  intro n hn
  simp [fitsByte_iff.2 (h n hn)]

end Colour

/-! ### Pictures -/

namespace Picture

/-- **A picture is told by its size and its pixels.** -/
theorem ext_pixel {p q : Picture} (hw : p.width = q.width) (hh : p.height = q.height)
    (h : ∀ x y, x < p.width → y < p.height → p.pixel x y = q.pixel x y) : p = q := by
  obtain ⟨w, k, a, ha⟩ := p
  obtain ⟨w', k', b, hb⟩ := q
  obtain rfl : w = w' := hw
  obtain rfl : k = k' := hh
  suffices a = b by subst this; rfl
  apply Array.ext (ha.trans hb.symm)
  intro i hi hi'
  have hlt : i < k * w := ha ▸ hi
  have hw0 : 0 < w := Nat.pos_of_ne_zero fun h0 => by rw [h0, Nat.mul_zero] at hlt; omega
  -- The cell at `i` holds the pixel in column `i % w` of row `i / w`.
  have key := h (i % w) (i / w) (Nat.mod_lt _ hw0) (Nat.div_lt_of_lt_mul (Nat.mul_comm k w ▸ hlt))
  have hidx : index w (i % w) (i / w) = i := Nat.div_add_mod' i w
  simpa only [pixel, hidx, Array.getD_eq_getD_getElem?, Array.getElem?_eq_getElem, hi, hi',
    Option.getD_some] using key

/-- A pixel that is stored where it stood changes nothing. -/
theorem set_pixel_self (p : Picture) (x y : Nat) : p.set x y (p.pixel x y) = p := by
  obtain ⟨w, k, cells, hcells⟩ := p
  simp only [set, pixel, mk.injEq, true_and]
  apply Array.ext (Array.size_setIfInBounds ..)
  intro i hi hi'
  rw [Array.getElem_setIfInBounds]
  split
  · rename_i hidx
    subst hidx
    simp [Array.getD, hi']
  · rfl

/-- A changed pixel is a run of one pixel painted. -/
theorem set_eq_paint {p : Picture} {i j : Nat} (c : Pixel) (hi : i < p.width) :
    p.set i j c = p.paint [Span.ofPoint ⟨i, j⟩] c := by
  refine ext_pixel (by simp) (by simp) fun x y hx hy => ?_
  rw [width_set] at hx
  rw [height_set] at hy
  rw [pixel_set c hx hy hi, pixel_paint _ c hx hy]
  simp only [Span.covers_cons, Span.holds_ofPoint, Span.not_covers_nil, or_false, Int.natCast_inj,
    and_comm]

/-- What is painted depends on the pixels that the runs cover. -/
theorem paint_congr {p : Picture} {a b : List Span} (c : Pixel)
    (h : ∀ x y : Nat, x < p.width → y < p.height → (Span.Covers a x y ↔ Span.Covers b x y)) :
    p.paint a c = p.paint b c := by
  refine ext_pixel (by simp) (by simp) fun x y hx hy => ?_
  rw [width_paint] at hx
  rw [height_paint] at hy
  simp only [pixel_paint _ c hx hy, h x y hx hy]

/-- Runs that cover nothing paint nothing. -/
theorem paint_of_not_covers {p : Picture} {spans : List Span} (c : Pixel)
    (h : ∀ x y : Nat, x < p.width → y < p.height → ¬ Span.Covers spans x y) :
    p.paint spans c = p := by
  refine ext_pixel (by simp) (by simp) fun x y hx hy => ?_
  rw [width_paint] at hx
  rw [height_paint] at hy
  rw [pixel_paint _ c hx hy, if_neg (h x y hx hy)]

theorem pixel_paint_paint {p : Picture} {x y : Nat} (a b : List Span) (c : Pixel)
    (hx : x < p.width) (hy : y < p.height) :
    ((p.paint a c).paint b c).pixel x y =
      if Span.Covers b x y ∨ Span.Covers a x y then c else p.pixel x y := by
  rw [pixel_paint _ _ (by simpa using hx) (by simpa using hy), pixel_paint _ _ hx hy]
  by_cases ha : Span.Covers a x y <;> by_cases hb : Span.Covers b x y <;> simp [ha, hb]

/-- Painting twice is painting once. -/
theorem paint_paint_self (p : Picture) (spans : List Span) (c : Pixel) :
    (p.paint spans c).paint spans c = p.paint spans c := by
  refine ext_pixel (by simp) (by simp) fun x y hx hy => ?_
  have hx' : x < p.width := by simpa using hx
  have hy' : y < p.height := by simpa using hy
  simp only [pixel_paint_paint _ _ _ hx' hy', pixel_paint _ _ hx' hy', or_self]

/-- Runs of one colour can be painted in any order. -/
theorem paint_comm (p : Picture) (a b : List Span) (c : Pixel) :
    (p.paint a c).paint b c = (p.paint b c).paint a c := by
  refine ext_pixel (by simp) (by simp) fun x y hx hy => ?_
  have hx' : x < p.width := by simpa using hx
  have hy' : y < p.height := by simpa using hy
  simp only [pixel_paint_paint _ _ _ hx' hy', or_comm]

end Picture

end TurtleCanvas
