import TurtleCanvas.Argument.Reading
import TurtleCanvas.Picture
import TurtleCanvas.Text.Digit

/-!
# Drawing captions through masks

A caption is drawn in black through a mask: each of its pixels says how much of the picture below it
is covered, from 0 for not at all to 255 for all of it.

* `Mask` : a rectangle of coverages.
* `Mask.ofCaption?` : the mask of a caption.
* `Place` : where a caption stands.
* `Picture.shade` : the picture with black drawn through a mask.
* `Picture.drawCaption` : the picture with a caption drawn on it at a place.
-/

namespace TurtleCanvas

/-- A rectangle of coverages, row by row from the top. -/
structure Mask where
  rows : List (List Nat)
  deriving Repr, DecidableEq

namespace Mask

/-- A row of coverages written with two hexadecimal digits each. -/
def rowOfHex : List Char → List Nat
  | a :: b :: rest =>
    (16 * (Text.hexValue? a).getD 0 + (Text.hexValue? b).getD 0) :: rowOfHex rest
  | _ => []

/-- A mask by its rows. -/
def ofHex (rows : List String) : Mask := ⟨rows.map fun r => rowOfHex r.toList⟩

/-- The mask of the mascot's caption. -/
def beijing : Mask := ofHex [
  "00f6c0c1cf4d00f6c0c0c07200f00000000000f00000f00000f7bf000000f00000" ++
    "66cac6b61c0000000062c3d046000fb0c4b00f000062c3d046000062c3d04600",
  "00f000002fe100f00000000000f00000000000f00000f00000f0c3400000f00045" ++
    "b7050077b900000015c10228d7008a720073880015c10228d70015c10228d700",
  "00f0000001dd00f00000000000f00000000000f00000f00000f042c10000f000b9" ++
    "3500000db00300002855000bea00d41a001bd3002855000bea002855000bea00",
  "00f00000434d00f00000000000f00000000000f00000f00000f000c14100f000e4" ++
    "07000000000000000000005f9d00eb020002ea000000005f9d000000005f9d00",
  "00f6c0c7fcba00f6c0c0c03900f00000000000f00000f00000f00040c200f000e8" ++
    "070072c0d8000000000023d41500eb020002ea00000023d41500000023d41500",
  "00f000002df000f00000000000f00000c20000f00000f00000f00000bf42f000c3" ++
    "35000010f7000000000ccc370000d41a001bd300000ccc370000000ccc370000",
  "00f000001acd00f00000000000f00000d51d23d80000f00000f000003ec3f0005d" ++
    "b705007bf400000001ad590000008a720073890001ad5900000001ad59000000",
  "00f6c0bebe3400f6c0c0c08700f000004bcdcc4a0000f00000f0000000bdf70001" ++
    "86d7bd61f000000061f4c0c0b4000fb0c4b00f0061f4c0c0b40061f4c0c0b400"]

/-- The mask of a short word. -/
def done : Mask := ofHex [
  "00000000f000000000000000000000000000000000000000",
  "00000000f000000000000000000000000000000000000000",
  "17b2c3a0f00018b6c2b61800f085c1d1510011a4bcc23600",
  "a35b0050f800a55d005da400f6710022e2009c37001ed000",
  "e3070004f500e5070007e500f8100000f100e3c0c0c0db03",
  "e9070006f600e6070007e500f2000000f000e70800023e00",
  "af560057f700a55b005ba500f0000000f000ac59004bb700",
  "21c2c288f0001ab7c2b71900f0000000f0001db7c1bd2200"]

/-- The mask of a single letter. -/
def letterA : Mask := ofHex [
  "000064f9170000",
  "0000b18b610000",
  "000abc27ad0000",
  "00517400cd0600",
  "00a0d0c8e74500",
  "03c60000479100",
  "3e9700000ad700",
  "8d55000000c129"]

/-- The mask without columns on the left and rows at the top. -/
def cut (m : Mask) (left top : Nat) : Mask := ⟨(m.rows.drop top).map (·.drop left)⟩

/-- The mask of a caption, for the captions whose shapes are known. -/
def ofCaption? : String → Option Mask
  | "BEIJING 2022" => some beijing
  | "done" => some done
  | "A" => some letterA
  | _ => none

end Mask

/-- A component under black of the given coverage, rounded to the nearest whole number. -/
def darken (coverage : Nat) (component : UInt8) : UInt8 :=
  let t := component.toNat * (255 - coverage) + 128
  UInt8.ofNat ((t + t / 256) / 256)

/-! ### Places -/

/-- A place of a caption.  A caption is drawn from the pixel of the whole parts, and its shapes are
moved from there by the fractions, in 64th parts of a pixel. -/
structure Place where
  x : Int
  y : Int
  /-- The fraction of the column, in 64th parts. -/
  partX : Int
  /-- The fraction of the row, in 64th parts. -/
  partY : Int
  deriving Repr, DecidableEq

namespace Place

/-- The columns that shapes are moved by, a half moving them to the right. -/
def shiftX (p : Place) : Int := (p.partX + 32).fdiv 64

/-- The rows that shapes are moved by, a half leaving them above. -/
def shiftY (p : Place) : Int := -(32 - p.partY).fdiv 64

end Place

/-- The nearest whole number of 64th parts to the fraction of a finite double, which is brought to
single precision before; a half goes away from zero. -/
def partOf (x : Float) : Int :=
  let (num, den) := Binary64.fraction x
  let d := Binary64.nearestSingle num.natAbs den
  let scale := d.scale + 6
  let n : Nat :=
    if 0 ≤ scale then d.magnitude * 2 ^ scale.toNat
    else (2 * d.magnitude + 2 ^ (-scale).toNat) / 2 ^ ((-scale).toNat + 1)
  if num < 0 then -n else n

/-- The fraction of a coordinate, which must be a number. -/
def Argument.toPart (a : Argument) : Except Fault Int := do
  return partOf (← (← a.toNumber).toReal)

/-- The argument as a place: its first two items.  Their whole parts are read before it is known
whether they are numbers. -/
def Argument.toPlace (a : Argument) : Except Fault Place := do
  match ← a.toItems with
  | [] => .error .noCoordinate
  | [x] => do
    let _ ← x.toInt
    .error .noCoordinate
  | x :: y :: _ => return ⟨← x.toInt, ← y.toInt, ← x.toPart, ← y.toPart⟩

namespace Picture

/-- The picture with one pixel, if it lies inside, darkened. -/
def shadePixel (p : Picture) (x y : Int) (coverage : Nat) : Picture :=
  if p.Inside x y then
    let c := p.pixel x.toNat y.toNat
    p.set x.toNat y.toNat ⟨darken coverage c.red, darken coverage c.green, darken coverage c.blue⟩
  else p

/-- The picture with pixels of a row, from column `x` on, darkened. -/
def shadeRow (y : Int) : Picture → Int → List Nat → Picture
  | p, _, [] => p
  | p, x, coverage :: rest => shadeRow y (p.shadePixel x y coverage) (x + 1) rest

/-- The picture with rows, from row `y` on, darkened. -/
def shadeRows (x : Int) : Picture → Int → List (List Nat) → Picture
  | p, _, [] => p
  | p, y, row :: rest => shadeRows x (p.shadeRow y x row) (y + 1) rest

/-- The picture with black drawn through a mask that has its upper left corner at a point. -/
def shade (p : Picture) (x y : Int) (mask : Mask) : Picture := shadeRows x p y mask.rows

/-- The distance from the place of a caption down to its mask. -/
def captionDrop : Int := 2

/-- The picture with a caption drawn through a mask.  The mask starts at the pixel of the place, and
what is moved out of it on the left or above is cut off. -/
def shadeAt (p : Picture) (place : Place) (mask : Mask) : Picture :=
  p.shade (place.x + max 0 place.shiftX) (place.y + captionDrop + max 0 place.shiftY)
    (mask.cut (-place.shiftX).toNat (-place.shiftY).toNat)

/-- The picture with a caption drawn on it at a place, for the captions whose shapes are known; no
other leaves a trace. -/
def drawCaption (p : Picture) (place caption : Argument) : Except Fault Picture :=
  match caption with
  | .text s => do
    let place ← place.toPlace
    if !Fault.fitsLong place.x || !Fault.fitsLong (place.y + captionDrop) then
      .error .placeMisread
    else
      match Mask.ofCaption? s with
      | some mask => return p.shadeAt place mask
      | none => return p
  | _ => .error .lacksOperation

end Picture

end TurtleCanvas
