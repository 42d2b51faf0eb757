import TurtleCanvas.Canvas.Basic

/-!
# Kept pictures

A picture of the canvas can be kept in two ways: as a view, which may only be looked at and follows
the canvas, or as a copy, which stays as it was and may be written to.

* `Kept` : a kept picture.
* `Album` : kept pictures in the order in which they were kept.
* `Album.peek`, `Album.poke` : read and write pixels of a kept picture.
-/

namespace TurtleCanvas

/-- A picture of the canvas that was kept. -/
inductive Kept where
  /-- A view of the canvas as it is now. -/
  | view
  /-- A copy of the canvas as it was then. -/
  | copy (picture : Picture)

/-- What is seen of a kept picture. -/
def Kept.picture (canvas : Canvas) : Kept → Picture
  | view => canvas.picture
  | copy picture => picture

/-- Kept pictures, the oldest first. -/
abbrev Album := Array Kept

namespace Album

/-- The place of a kept picture in an album: a whole number, which counts from the end when it is
negative. -/
def place (album : Album) (k : Argument) : Except Fault Nat :=
  match k.whole? with
  | none => .error .wrongKind
  | some k =>
    if !Fault.fitsLong k then .error .indexBeyondCount
    else
      match placeOf? album.size k with
      | some i => .ok i
      | none => .error .noSuchItem

/-- What is seen of a kept picture. -/
def picture (album : Album) (canvas : Canvas) (k : Argument) : Except Fault Picture := do
  return (album.getD (← album.place k) .view).picture canvas

/-- The bytes that two indices pick out of a kept picture. -/
def peek (album : Album) (canvas : Canvas) (k x y : Argument) : Except Fault (List UInt8) := do
  let p ← album.picture canvas k
  (← p.pick x y).bytes p

/-- Store what is given in what two indices pick out of a kept picture, which must be a copy. -/
def poke (k x y given : Argument) : Action Album Unit := fun album =>
  match album.place k with
  | .error e => .error e album
  | .ok place =>
    match album.getD place .view with
    | .view => .error .readOnly album
    | .copy p =>
      match p.pick x y with
      | .error e => .error e album
      | .ok pick =>
        match pick.store given p with
        | .ok _ p => .ok () (album.setIfInBounds place (.copy p))
        | .error e p => .error e (album.setIfInBounds place (.copy p))

end Album

end TurtleCanvas
