import TurtleCanvas.Proofs.Argument.NonFinite
import TurtleCanvas.Proofs.Canvas.Reach

/-!
# Painting calls with numbers that are not finite

A line or a dot with an infinite or undefined coordinate, or a dot of such a diameter, is nowhere on
the canvas and paints nothing.  A pixel at such a place is not looked for before the place is
rounded, which fails.

* `Geometry.IsNonFinite` says that a call has such a number;
* `Canvas.drawLine_of_isNonFinite` and `Canvas.dot_of_isNonFinite` say that lines and dots return
  and change nothing;
* `Canvas.perform_of_isNonFinite` says how every call ends.
-/

namespace TurtleCanvas

open Argument (allFinite_of_isNonFinite allFinite_append)

/-- The ends of the segment are numbers that fit doubles, and not all are finite. -/
def Segment.IsNonFinite (s : Segment Argument) : Prop :=
  (∀ v ∈ [s.x0, s.y0, s.x1, s.y1], v.FitsReal) ∧ ∃ v ∈ [s.x0, s.y0, s.x1, s.y1], v.IsNonFinite

namespace Canvas

/-! ### Lines and dots -/

theorem enact_none (c : Canvas) : enact (.ok none) c = .ok () c := rfl

theorem lineShape_of_isFinite {width height : ℕ} (hw : width ≤ 2 ^ 47) (hh : height ≤ 2 ^ 47)
    {s : Segment Argument} (hs : s.isFinite = .ok false) (penWidth : ℤ) :
    lineShape width height s penWidth = .ok none := by
  have hthickness : thickness width height penWidth ≤ 2 ^ 49 := by
    simp only [thickness, sizeLimit]
    omega
  obtain ⟨box, hbox, -⟩ := exists_paddedBox hw hh hthickness
  have hclip : s.clip box = .ok none := by
    rw [Segment.clip, hs]
    rfl
  rw [lineShape, hbox, Except.ok_bind, hclip]
  rfl

/-- A line one of whose ends is found not to be finite paints nothing, in any colour and of any
width. -/
theorem drawLine_of_isFinite {c : Canvas} (hc : c.IsReached) {s : Segment Argument}
    (hs : s.isFinite = .ok false) (ink : Ink) (penWidth : ℤ) :
    drawLine s ink penWidth c = .ok () c := by
  obtain ⟨hw, hh⟩ := hc.size_le
  rw [drawLine, lineShape_of_isFinite hw hh hs]
  exact enact_none c

/-- A line one of whose ends is not finite paints nothing. -/
theorem drawLine_of_isNonFinite {c : Canvas} (hc : c.IsReached) {s : Segment Argument}
    (hs : s.IsNonFinite) (ink : Ink) (penWidth : ℤ) : drawLine s ink penWidth c = .ok () c :=
  drawLine_of_isFinite hc (allFinite_of_isNonFinite hs.1 hs.2) ink penWidth

/-- A dot whose centre or diameter is found not to be finite paints nothing, in any colour. -/
theorem dot_of_allFinite (c : Canvas) {x y diameter : Argument}
    (h : Scalar.allFinite [x, y, diameter] = .ok false) (ink : Ink) :
    dot x y diameter ink c = .ok () c := by
  rw [dot, dotShape, h]
  exact enact_none c

/-- A dot whose centre is not finite paints nothing, whatever its diameter. -/
theorem dot_of_isNonFinite_centre (c : Canvas) {x y : Argument} (hfits : x.FitsReal ∧ y.FitsReal)
    (h : x.IsNonFinite ∨ y.IsNonFinite) (diameter : Argument) (ink : Ink) :
    dot x y diameter ink c = .ok () c := by
  have hcentre : Scalar.allFinite [x, y] = .ok false :=
    allFinite_of_isNonFinite (by simpa using hfits) (by simpa using h)
  exact dot_of_allFinite c (allFinite_append hcentre [diameter]) ink

/-! ### Pixels -/

/-- A pixel at a place that is not finite cannot be looked for. -/
theorem setPixel_of_isNonFinite (c : Canvas) {x y : Argument} (hfits : x.FitsReal ∧ y.FitsReal)
    (h : x.IsNonFinite ∨ y.IsNonFinite) (ink : Ink) :
    setPixel x y ink c = .error .nanToInt c ∨ setPixel x y ink c = .error .infinityToInt c := by
  have hfails : ∀ {e : Fault}, pixelAt c.width c.height x y = .error e →
      setPixel x y ink c = .error e c := by
    intro e he
    simp only [setPixel, pixelPlan, he]
    rfl
  have hround : ∀ {e : Fault}, Scalar.round x = .error e →
      pixelAt c.width c.height x y = .error e := by
    intro e he
    rw [pixelAt, he]
    rfl
  by_cases hx : x.IsNonFinite
  · exact hx.round_eq.imp (fun he => hfails (hround he)) fun he => hfails (hround he)
  · -- The column is rounded, and the row is not.
    obtain ⟨i, hi⟩ := Argument.exists_round_of_not_isNonFinite hfits.1 hx
    have hround' : ∀ {e : Fault}, Scalar.round y = .error e →
        pixelAt c.width c.height x y = .error e := by
      intro e he
      rw [pixelAt, hi, Except.ok_bind, he]
      rfl
    exact (h.resolve_left hx).round_eq.imp (fun he => hfails (hround' he)) fun he =>
      hfails (hround' he)

end Canvas

namespace Geometry

variable {α : Type}

/-- The coordinates of a call and the diameter of a dot. -/
def numbers : Geometry α → List α
  | pixel x y => [x, y]
  | line s _ => [s.x0, s.y0, s.x1, s.y1]
  | dot x y diameter => [x, y, diameter]

/-- The width of the pen for a line can be read. -/
def HasWidth : Geometry α → Prop
  | line _ penWidth => ∃ n, penWidth = .ok n
  | pixel .. | dot .. => True

/-- The numbers of a call fit doubles, and not all are finite. -/
def IsNonFinite (g : Geometry Argument) : Prop :=
  (∀ v ∈ g.numbers, v.FitsReal) ∧ ∃ v ∈ g.numbers, v.IsNonFinite

/-- How a call ends one of whose numbers is not finite: looking for a pixel fails, and a line or a
dot returns. -/
def EndsNonFinite : Geometry α → Option Fault → Prop
  | pixel .., fault => fault = some .nanToInt ∨ fault = some .infinityToInt
  | line .., fault | dot .., fault => fault = none

end Geometry

namespace Canvas

/-- **A call with a number that is not finite changes nothing**, whatever its colour; it fails only
if it is one for a pixel. -/
theorem perform_of_isNonFinite {c : Canvas} (hc : c.IsReached) {g : Geometry Argument}
    (hg : g.IsNonFinite) (hwidth : g.HasWidth) (ink : Ink) :
    (perform (g.inked ink)).after c = c ∧ g.EndsNonFinite ((perform (g.inked ink)).fault? c) := by
  obtain ⟨hfits, hnon⟩ := hg
  cases g with
  | pixel x y =>
    have hset := setPixel_of_isNonFinite c (by simpa [Geometry.numbers] using hfits)
      (by simpa [Geometry.numbers] using hnon) ink
    rcases hset with hset | hset
    · exact ⟨Action.after_of_error hset, .inl (Action.fault?_of_error hset)⟩
    · exact ⟨Action.after_of_error hset, .inr (Action.fault?_of_error hset)⟩
  | line s penWidth =>
    obtain ⟨n, rfl⟩ := hwidth
    have hline := drawLine_of_isNonFinite hc ⟨hfits, hnon⟩ ink n
    exact ⟨Action.after_of_ok hline, Action.fault?_of_ok hline⟩
  | dot x y diameter =>
    have hdot := dot_of_allFinite c (allFinite_of_isNonFinite hfits hnon) ink
    exact ⟨Action.after_of_ok hdot, Action.fault?_of_ok hdot⟩

end Canvas

end TurtleCanvas
