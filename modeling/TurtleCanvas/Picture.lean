import TurtleCanvas.Raster.Span
import TurtleCanvas.Colour.Basic

/-!
# Pictures

A picture is a rectangle of pixels of three bytes each, row by row from the top.

* `Picture` : the rectangle.
* `Picture.pixel` : the pixel in a column of a row.
* `Picture.set` : the picture with one pixel changed.
* `Picture.paint` : the picture with a list of runs painted in one colour.
-/

namespace TurtleCanvas

/-- A pixel: one byte each of red, green and blue. -/
structure Pixel where
  red : UInt8
  green : UInt8
  blue : UInt8
  deriving DecidableEq, Inhabited, Repr

/-- The bytes of a pixel. -/
def Pixel.bytes (p : Pixel) : List UInt8 := [p.red, p.green, p.blue]

/-- A component cut to the range of a byte. -/
def clampByte (n : Int) : UInt8 := UInt8.ofNat (min 255 (max 0 n)).toNat

/-- A component as a brush takes it: cut to the range of a byte, but nothing at all when it is
beyond the range of 32 bits. -/
def brushByte (n : Int) : UInt8 := if n < 2 ^ 31 then clampByte n else 0

/-- A component modulo 256. -/
def wrapByte (n : Int) : UInt8 := UInt8.ofNat (n % 256).toNat

namespace Colour

/-- The pixel of the components cut to the range of a byte. -/
def clamped (c : Colour) : Pixel := ⟨clampByte c.red, clampByte c.green, clampByte c.blue⟩

/-- The pixel that a brush leaves. -/
def brushed (c : Colour) : Pixel := ⟨brushByte c.red, brushByte c.green, brushByte c.blue⟩

/-- The pixel of a fresh picture: components beyond a byte are taken modulo 256. -/
def wrapped (c : Colour) : Pixel := ⟨wrapByte c.red, wrapByte c.green, wrapByte c.blue⟩

/-- The first component that does not fit a byte. -/
def firstBeyondByte? (c : Colour) : Option Int := c.components.find? fun n => !fitsByte n

/-- Store a colour in a pixel, one component after the other, up to the first that does not fit a
byte. -/
def storeIn (c : Colour) (p : Pixel) : Pixel × Option Int :=
  if !fitsByte c.red then (p, some c.red)
  else if !fitsByte c.green then (⟨clampByte c.red, p.green, p.blue⟩, some c.green)
  else if !fitsByte c.blue then (⟨clampByte c.red, clampByte c.green, p.blue⟩, some c.blue)
  else (c.clamped, none)

end Colour

/-- A rectangle of pixels, row by row. -/
structure Picture where
  width : Nat
  height : Nat
  cells : Array Pixel
  size_cells : cells.size = height * width

namespace Picture

/-- A picture of one colour. -/
def filled (width height : Nat) (p : Pixel) : Picture :=
  ⟨width, height, Array.replicate (height * width) p, Array.size_replicate⟩

/-- The place of a pixel among the cells. -/
def index (width x y : Nat) : Nat := y * width + x

/-- The pixel in column `x` of row `y`. -/
def pixel (p : Picture) (x y : Nat) : Pixel := p.cells.getD (index p.width x y) default

/-- The pixel lies in the picture. -/
def Inside (p : Picture) (x y : Int) : Prop := (0 ≤ x ∧ x < p.width) ∧ (0 ≤ y ∧ y < p.height)

instance (p : Picture) (x y : Int) : Decidable (p.Inside x y) := by unfold Inside; infer_instance

/-- The picture with the pixel in column `x` of row `y` changed. -/
def set (p : Picture) (x y : Nat) (c : Pixel) : Picture :=
  ⟨p.width, p.height, p.cells.setIfInBounds (index p.width x y) c, by
    rw [Array.size_setIfInBounds]; exact p.size_cells⟩

/-- The cells with `count` of them, from `start` on, changed. -/
def fillCells (cells : Array Pixel) (c : Pixel) (start : Nat) : Nat → Array Pixel
  | 0 => cells
  | count + 1 => fillCells (cells.setIfInBounds start c) c (start + 1) count

theorem size_fillCells (cells : Array Pixel) (c : Pixel) (start count : Nat) :
    (fillCells cells c start count).size = cells.size := by
  induction count generalizing cells start with
  | zero => rfl
  | succ count ih => rw [fillCells, ih, Array.size_setIfInBounds]

/-- The picture with the part of a run that lies inside it painted. -/
def fillSpan (p : Picture) (c : Pixel) (s : Span) : Picture :=
  if 0 ≤ s.row ∧ s.row < p.height then
    let left := (max 0 s.left).toNat
    let count := (min (p.width : Int) (s.right + 1) - left).toNat
    ⟨p.width, p.height, fillCells p.cells c (index p.width left s.row.toNat) count, by
      rw [size_fillCells]; exact p.size_cells⟩
  else p

/-- The picture with a list of runs painted in one colour. -/
def paint (p : Picture) (spans : List Span) (c : Pixel) : Picture :=
  spans.foldl (fun p s => p.fillSpan c s) p

end Picture

end TurtleCanvas
