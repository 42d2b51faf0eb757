import TurtleCanvas.Canvas.Basic
import TurtleCanvas.Proofs.Action
import TurtleCanvas.Proofs.Picture

/-!
# Fresh canvases, and looking at pixels

* `Canvas.create_spec` : what a fresh canvas is like;
* `Canvas.room_of_create`, `Canvas.create_of_room` : there is room for a canvas just when it can be
  made;
* `Canvas.getPixel_of_lt` : a pixel of the canvas can be looked at, and shows what is painted there.
-/

namespace TurtleCanvas

/-! ### Fresh canvases -/

namespace Canvas

theorem backgroundPixel_of_fits {c : Colour} (h : c.FitsBytes) :
    backgroundPixel c = .ok c.clamped := by
  have hall : c.components.all Fault.fitsLong = true := by
    rw [List.all_eq_true]
    intro n hn
    obtain ⟨h0, h1⟩ := h n hn
    simp only [Fault.fitsLong, Bool.and_eq_true, decide_eq_true_eq]
    exact ⟨by omega, by omega⟩
  rw [backgroundPixel, hall, Bool.true_or, if_pos rfl, Colour.wrapped_eq h]

/-- A fresh canvas has one colour and has not been painted on; its sizes can be counted. -/
theorem create_spec [Memory] {width height : Argument} {ink : Ink} {c : Canvas}
    (h : create width height ink = .ok c) :
    ∃ w h colour pixel, ink = .ok colour ∧ backgroundPixel colour = .ok pixel ∧
      c = ⟨.filled w h pixel, colour, 0⟩ ∧ (w : Int) < 2 ^ 63 ∧ (h : Int) < 2 ^ 63 := by
  unfold create at h
  split at h
  · rename_i w k _ _
    split_ifs at h with hpos
    obtain ⟨colour, hc, h⟩ := Except.bind_eq_ok_iff.1 h
    obtain ⟨_, hroom, h⟩ := Except.bind_eq_ok_iff.1 h
    obtain ⟨pixel, hp, h⟩ := Except.bind_eq_ok_iff.1 h
    simp only [pure, Except.pure, Except.ok.injEq] at h
    -- A size that cannot be counted was refused where the room was checked.
    unfold checkRoom at hroom
    split_ifs at hroom with h1
    simp only [Bool.or_eq_true, Bool.not_eq_true', not_or, Bool.not_eq_false, Fault.fitsLong,
      Bool.and_eq_true, decide_eq_true_eq] at h1
    exact ⟨w.toNat, k.toNat, colour, pixel, hc, hp, h.symm, h1.2.2, h1.1.2⟩
  · exact absurd h (by simp)

theorem room_of_create [Memory] {width height : Argument} {ink : Ink} {c : Canvas}
    (h : create width height ink = .ok c) :
    (0 < c.width ∧ 0 < c.height) ∧ checkRoom c.width c.height = .ok () := by
  unfold create at h
  split at h
  · rename_i w k _ _
    split_ifs at h with hpos
    obtain ⟨colour, hc, h⟩ := Except.bind_eq_ok_iff.1 h
    obtain ⟨_, hroom, h⟩ := Except.bind_eq_ok_iff.1 h
    obtain ⟨pixel, hp, h⟩ := Except.bind_eq_ok_iff.1 h
    obtain rfl := Except.ok.inj h
    exact ⟨⟨show 0 < w.toNat by omega, show 0 < k.toNat by omega⟩, hroom⟩
  · exact nomatch h

/-- There is room for a canvas if memory has room for its bytes, which can then be counted. -/
theorem checkRoom_eq_ok_iff [Memory] {width height : ℕ} (hw : 0 < width) (hh : 0 < height) :
    checkRoom width height = .ok () ↔ height * width * 3 ≤ Memory.room := by
  have hw' : width ≤ height * width := Nat.le_mul_of_pos_left width hh
  have hh' : height ≤ height * width := Nat.le_mul_of_pos_right height hw
  have hroom := Memory.room_le
  unfold checkRoom
  split_ifs with hsides hbytes hbeyond
  · simp only [Bool.or_eq_true, Bool.not_eq_true', Fault.fitsLong, Bool.and_eq_false_iff,
      decide_eq_false_iff_not] at hsides
    exact ⟨(nomatch ·), fun h => by omega⟩
  · simp only [Bool.not_eq_true', Fault.fitsLong, Bool.and_eq_false_iff,
      decide_eq_false_iff_not] at hbytes
    exact ⟨(nomatch ·), fun h => by omega⟩
  · exact ⟨(nomatch ·), fun h => absurd h (Nat.not_le.2 hbeyond)⟩
  · exact ⟨fun _ => not_lt.1 hbeyond, fun _ => rfl⟩

/-- The sizes of a canvas that there is room for can be counted by doubles. -/
theorem le_of_checkRoom [Memory] {width height : ℕ} (hw : 0 < width) (hh : 0 < height)
    (h : checkRoom width height = .ok ()) : width ≤ 2 ^ 47 ∧ height ≤ 2 ^ 47 := by
  have hroom : height * width * 3 ≤ 2 ^ 48 :=
    Nat.le_trans ((checkRoom_eq_ok_iff hw hh).1 h) Memory.room_le
  have hw' : width ≤ height * width := Nat.le_mul_of_pos_left width hh
  have hh' : height ≤ height * width := Nat.le_mul_of_pos_right height hw
  exact ⟨by omega, by omega⟩

theorem create_of_room [Memory] {width height : ℕ} (hw : 0 < width) (hh : 0 < height)
    (h : checkRoom width height = .ok ()) {colour : Colour} (hcolour : colour.FitsBytes) :
    create (.int width) (.int height) (.ok colour) =
      .ok ⟨.filled width height colour.clamped, colour, 0⟩ := by
  show (if (width : ℤ) ≤ 0 ∨ (height : ℤ) ≤ 0 then _ else _) = _
  rw [if_neg (by omega)]
  refine Except.bind_eq_ok_iff.2 ⟨colour, rfl, Except.bind_eq_ok_iff.2 ⟨(), ?_, ?_⟩⟩
  · rwa [Int.toNat_natCast, Int.toNat_natCast]
  · exact Except.bind_eq_ok_iff.2 ⟨_, backgroundPixel_of_fits hcolour, rfl⟩

/-! ### Looking at a pixel -/

theorem le_int {a b : Int} (h : a ≤ b) :
    (Scalar.le (Argument.int a) (Argument.int b) : Except Fault Bool) = .ok true := by
  show Except.ok (Number.le (.int a) (.int b)) = _
  congr 1
  simp only [Number.le, Number.compare, Ord.compare, compareOfLessAndEq]
  split_ifs
  · rfl
  · rfl
  · omega

theorem lt_int {a b : Int} (h : a < b) :
    (Scalar.lt (Argument.int a) (Argument.int b) : Except Fault Bool) = .ok true := by
  show Except.ok (Number.lt (.int a) (.int b)) = _
  congr 1
  simp [Number.lt, Number.compare, Ord.compare, compareOfLessAndEq, h]

theorem toIndex_int {i : Nat} (h : (i : Int) < 2 ^ 63) :
    (Argument.int i).toIndex = .ok (.place i) := by
  have hfit : Fault.fitsLong i = true := by
    simp only [Fault.fitsLong, Bool.and_eq_true, decide_eq_true_eq]
    exact ⟨by omega, h⟩
  simp [Argument.toIndex, hfit]

theorem place_of_lt {a : Axis} {i : Nat} (h : i < a.size) : a.place i = .ok i := by
  have : placeOf? a.size i = some i := by
    have h0 : ¬ (i : Int) < 0 := by omega
    simp only [placeOf?, h0, if_false]
    rw [if_pos ⟨by omega, by omega⟩, Int.toNat_natCast]
  rw [Axis.place, this]

theorem inBounds_of_lt {c : Canvas} {i j : Nat} (hi : i < c.width) (hj : j < c.height) :
    c.inBounds (Argument.int i) (Argument.int j) = .ok true := by
  refine Except.bind_eq_ok_iff.2 ⟨true, le_int (by omega), ?_⟩
  rw [if_pos rfl]
  refine Except.bind_eq_ok_iff.2 ⟨true, lt_int (by omega), ?_⟩
  rw [if_pos rfl]
  refine Except.bind_eq_ok_iff.2 ⟨true, le_int (by omega), ?_⟩
  rw [if_pos rfl]
  exact lt_int (by omega)

theorem pick_of_lt {p : Picture} {i j : Nat} (hw : (p.width : Int) < 2 ^ 63)
    (hh : (p.height : Int) < 2 ^ 63) (hi : i < p.width) (hj : j < p.height) :
    p.pick (.int i) (.int j) = .ok (.pixel i j) := by
  refine Except.bind_eq_ok_iff.2 ⟨_, toIndex_int (by omega), ?_⟩
  refine Except.bind_eq_ok_iff.2 ⟨_, toIndex_int (by omega), ?_⟩
  refine Except.bind_eq_ok_iff.2 ⟨_, place_of_lt (a := ⟨0, p.height, 3 * p.width⟩) hj, ?_⟩
  exact Except.bind_eq_ok_iff.2 ⟨_, place_of_lt (a := ⟨1, p.width, 3⟩) hi, rfl⟩

/-- **A pixel of the canvas can be looked at**, if its place can be counted. -/
theorem getPixel_of_lt {c : Canvas} {i j : Nat} (hw : (c.width : Int) < 2 ^ 63)
    (hh : (c.height : Int) < 2 ^ 63) (hi : i < c.width) (hj : j < c.height) :
    c.getPixel (.int i) (.int j) = .ok (c.picture.pixel i j).bytes := by
  refine Except.bind_eq_ok_iff.2 ⟨true, inBounds_of_lt hi hj, ?_⟩
  rw [if_pos rfl]
  exact Except.bind_eq_ok_iff.2 ⟨_, pick_of_lt hw hh hi hj, rfl⟩

end Canvas

end TurtleCanvas
