import TurtleCanvas.Action
import TurtleCanvas.Argument.Byte
import TurtleCanvas.Picture.Index

/-!
# Picking out of a picture

A picture has three axes: its rows, its columns and the components of its pixels.  A row index and a
column index pick a part of it.  Numbers of places pick one pixel; with other indices the part has
axes of its own, and what is stored in it is repeated along them.

* `Selection` : a part of a picture with axes of its own.
* `Picture.select` : the part that two indices pick.
* `Pick`, `Picture.pick` : that part, where one pixel is told apart.
* `Pick.bytes` : the bytes that are picked.
* `Pick.store` : store components in what is picked.
-/

namespace TurtleCanvas

/-- The place that an index stands for among `size` ones; a negative index counts from the end. -/
def placeOf? (size : Nat) (i : Int) : Option Nat :=
  let j := if i < 0 then i + size else i
  if 0 ≤ j ∧ j < size then some j.toNat else none

/-! ### Axes -/

/-- An axis: its number, the places that it has, and the bytes from one of them to the next. -/
structure Axis where
  number : Nat
  size : Nat
  stride : Nat
  deriving Repr, DecidableEq

namespace Axis

/-- The place of an index on an axis. -/
def place (a : Axis) (i : Int) : Except Fault Nat :=
  match placeOf? a.size i with
  | some j => .ok j
  | none => .error (.beyondAxis i a.number a.size)

end Axis

/-- The axes of a picture. -/
def Picture.axes (p : Picture) : List Axis :=
  [⟨0, p.height, 3 * p.width⟩, ⟨1, p.width, 3⟩, ⟨2, 3, 1⟩]

/-! ### Selections -/

/-- Numbers of places, on an axis or on none. -/
structure Along where
  axis : Option Axis
  numbers : Block Int

/-- A part of a picture. -/
structure Selection where
  /-- The places that were picked one on an axis. -/
  places : List (Axis × Int)
  /-- The blocks of places. -/
  blocks : List Along
  /-- The number of new axes before the blocks. -/
  before : Nat
  /-- The number of new axes after them. -/
  after : Nat
  /-- The axes that are left whole. -/
  whole : List Axis

namespace Selection

/-- All of a picture. -/
def everything (axes : List Axis) : Selection := ⟨[], [], 0, 0, axes⟩

/-- The number of a place on an axis of a given length, for each item of a block along all of them,
which is true. -/
def truePlaces (flags : Block Bool) (shape : List Nat) (axis : Nat) : List Int :=
  let size := Block.volume (shape.drop (axis + 1))
  (flags.items.zipIdx.filter (·.1)).map fun (_, k) => (k / size % shape.getD axis 1 : Nat)

/-- The selection with its next axis left to numbers of places. -/
def along (s : Selection) (numbers : Block Int) : Selection :=
  { s with
    blocks := s.blocks ++ [⟨s.whole.head?, numbers⟩]
    whole := s.whole.drop 1 }

/-- The selection with one more index. -/
def narrow (s : Selection) : Index → Selection
  | .place i =>
    match s.whole with
    | axis :: whole => { s with places := s.places ++ [(axis, i)], whole := whole }
    | [] => s
  | .newAxis =>
    if s.blocks.isEmpty then { s with before := s.before + 1 } else { s with after := s.after + 1 }
  | .flag b =>
    { s with blocks := s.blocks ++ [⟨none, ⟨[b.toNat], List.replicate b.toNat 0⟩⟩] }
  | .places numbers => s.along numbers
  | .mask flags =>
    (List.range flags.shape.length).foldl (fun s axis =>
      let numbers := truePlaces flags flags.shape axis
      s.along ⟨[numbers.length], numbers⟩) s

/-- The number of axes that an index is for. -/
def axesOf : Index → Nat
  | .place _ | .places _ => 1
  | .newAxis | .flag _ => 0
  | .mask flags => flags.shape.length

/-- The flags of an index, if it has any, are as many as the places on the axes from a given one
on. -/
def checkFlags (axes : List Axis) : Index → Except Fault Unit
  | .mask flags =>
    (axes.zip flags.shape).forM fun (axis, n) =>
      if axis.size = n then .ok () else .error (.flagsMismatch axis.number axis.size n)
  | _ => .ok ()

/-- The selection picks without blocks. -/
def isPlain (s : Selection) : Bool := s.blocks.isEmpty

/-- The byte that the single places lead to. -/
def base (s : Selection) : Except Fault Nat :=
  s.places.foldlM (fun sum (axis, i) => do return sum + axis.stride * (← axis.place i)) 0

/-- The shape that the blocks are repeated to. -/
def lead (s : Selection) : Except Fault (List Nat) :=
  let shapes := s.blocks.map (·.numbers.shape)
  match Block.join? shapes with
  | some shape => .ok shape
  | none => .error (.indicesMismatch shapes)

/-- The shape of the part, in which the blocks have a given one. -/
def shape (s : Selection) (lead : List Nat) : List Nat :=
  List.replicate s.before 1 ++ lead ++ List.replicate s.after 1 ++ s.whole.map (·.size)

/-- The shape of the part with the axes of the blocks put first. -/
def blockShape (s : Selection) (lead : List Nat) : List Nat :=
  lead ++ List.replicate (s.before + s.after) 1 ++ s.whole.map (·.size)

/-- The bytes from the start of an axis to the places of a block. -/
def offsets (b : Along) : Except Fault (Block Nat) := do
  match b.axis with
  | none => return ⟨b.numbers.shape, b.numbers.items.map fun _ => 0⟩
  | some axis =>
    return ⟨b.numbers.shape, ← b.numbers.items.mapM fun i => return axis.stride * (← axis.place i)⟩

/-- The bytes of the part, in its order.  The places of the blocks are looked at only if the part
has any bytes. -/
def bytes (s : Selection) (base : Nat) (lead : List Nat) : Except Fault (List Nat) := do
  if Block.volume lead = 0 then return []
  else
    let blocks ← s.blocks.mapM offsets
    let starts := blocks.foldl (fun starts b => List.zipWith (· + ·) starts (b.spread lead))
      (List.replicate (Block.volume lead) base)
    let count := Block.volume (s.whole.map (·.size))
    return starts.flatMap fun start => List.range' start count

end Selection

namespace Picture

/-- The part of a picture that two indices pick; the row index is looked at first. -/
def select (p : Picture) (y x : Index) : Except Fault Selection := do
  let used := Selection.axesOf y + Selection.axesOf x
  if p.axes.length < used then .error (.tooManyIndices p.axes.length used)
  else
    Selection.checkFlags p.axes y
    Selection.checkFlags (p.axes.drop (Selection.axesOf y)) x
    return ((Selection.everything p.axes).narrow y).narrow x

end Picture

/-! ### Picks -/

/-- What two indices pick. -/
inductive Pick where
  /-- The pixel in column `x` of row `y`. -/
  | pixel (x y : Nat)
  /-- A part, of which the single places lead to a byte. -/
  | part (base : Nat) (s : Selection)

namespace Picture

/-- What two indices pick out of a picture; the row index is looked at first. -/
def pick (p : Picture) (x y : Argument) : Except Fault Pick := do
  match ← y.toIndex, ← x.toIndex with
  | .place j, .place i =>
    let j ← Axis.place ⟨0, p.height, 3 * p.width⟩ j
    return .pixel (← Axis.place ⟨1, p.width, 3⟩ i) j
  | j, i =>
    let s ← p.select j i
    return .part (← s.base) s

/-- The byte of a picture at a place, pixel after pixel. -/
def byte (p : Picture) (k : Nat) : UInt8 :=
  let c := p.cells.getD (k / 3) default
  if k % 3 = 0 then c.red else if k % 3 = 1 then c.green else c.blue

/-- The picture with the byte at a place changed. -/
def setByte (p : Picture) (k : Nat) (b : UInt8) : Picture :=
  let c := p.cells.getD (k / 3) default
  let changed : Pixel :=
    if k % 3 = 0 then { c with red := b } else if k % 3 = 1 then { c with green := b }
    else { c with blue := b }
  ⟨p.width, p.height, p.cells.setIfInBounds (k / 3) changed, by
    rw [Array.size_setIfInBounds]; exact p.size_cells⟩

/-- The picture with bytes changed. -/
def setBytes (p : Picture) (changes : List (Nat × UInt8)) : Picture :=
  changes.foldl (fun p (k, b) => p.setByte k b) p

/-- Store what is given in bytes, one after the other, up to the first that is no byte. -/
def storeEach : List (Nat × Argument) → Action Picture Unit
  | [] => fun p => .ok () p
  | (k, a) :: rest => fun p =>
    match a.toByte with
    | .ok b => storeEach rest (p.setByte k b)
    | .error e => .error e p

/-- Store what is given in bytes that make a part of some shape.  When it has the shape of the part
each byte is stored as soon as it is read; otherwise all are read before any is stored. -/
def storeIn (places : List Nat) (shape : List Nat) (given : Argument) : Action Picture Unit :=
  fun p =>
    match given.toBlock shape.length with
    | .error e => .error e p
    | .ok block =>
      if block.shape = shape then storeEach (places.zip block.items) p
      else
        match block.items.mapM Argument.toByte with
        | .error e => .error e p
        | .ok items =>
          if Block.fits block.shape shape then
            .ok () (p.setBytes (places.zip (Block.spread ⟨block.shape, items⟩ shape)))
          else .error (.cannotSpread block.shape shape) p

end Picture

/-- A shape without the axes of length one that it has too many at its front. -/
def Block.stripped (axes : Nat) : List Nat → List Nat
  | 1 :: shape => if axes < shape.length + 1 then stripped axes shape else 1 :: shape
  | shape => shape

namespace Selection

/-- The places of a part that is picked with blocks, with what is given for them.  What is given is
read first, then the blocks are repeated, then what was read, and then the places are looked at. -/
def changes (s : Selection) (base : Nat) (given : Argument) :
    Except Fault (List (Nat × UInt8)) := do
  let block ← given.toBlock Argument.maxAxes
  let items ← block.items.mapM Argument.toByte
  let lead ← s.lead
  let shape := s.shape lead
  let stripped := Block.stripped shape.length block.shape
  if Block.fits stripped shape then
    return (← s.bytes base lead).zip (Block.spread ⟨stripped, items⟩ shape)
  else .error (.blockMismatch block.shape (s.blockShape lead))

end Selection

namespace Pick

/-- The bytes that are picked.  They must be along one axis, unless there are none. -/
def bytes (p : Picture) : Pick → Except Fault (List UInt8)
  | pixel x y => .ok (p.pixel x y).bytes
  | part base s => do
    let lead ← s.lead
    let places ← s.bytes base lead
    match s.shape lead with
    | [_] => return places.map p.byte
    | 0 :: _ => return []
    | _ => .error .wrongKind

/-- Store what is given in what is picked. -/
def store (given : Argument) : Pick → Action Picture Unit
  | pixel x y => fun p =>
    Picture.storeIn (List.range' (3 * Picture.index p.width x y) 3) [3] given p
  | part base s => fun p =>
    if s.isPlain then
      match s.bytes base [] with
      | .ok places => Picture.storeIn places (s.shape []) given p
      | .error e => .error e p
    else
      match s.changes base given with
      | .ok changes => .ok () (p.setBytes changes)
      | .error e => .error e p

end Pick

end TurtleCanvas
