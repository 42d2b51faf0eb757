import TurtleCanvas.Fault

/-!
# Blocks of items

Nested lists that are equally long at each depth make a block: items along several axes, the last of
which runs fastest.  A block can be repeated along axes of length one to take another shape.

* `Block` : the lengths along the axes, and the items.
* `Survey`, `Argument.survey` : the axes of nested lists.
* `Argument.toBlock` : nested lists as a block.
* `Block.fits`, `Block.spread` : a shape that a block can be repeated to, and that repetition.
* `Block.join?` : the shape that blocks of several shapes can be repeated to together.
-/

namespace TurtleCanvas

/-- Items along axes, the last of which runs fastest. -/
structure Block (α : Type) where
  /-- The lengths along the axes. -/
  shape : List Nat
  items : List α

/-! ### The axes of nested lists -/

/-- What is known of the axes of nested lists while they are gone through. -/
structure Survey where
  /-- The lengths of the lists that were met first, from the outermost. -/
  lengths : List Nat
  /-- The number of axes that there can be. -/
  depth : Nat
  /-- The end of a first chain of lists has been met, so that the lengths are known. -/
  settled : Bool
  /-- Lists have been met that do not make a block. -/
  uneven : Bool

namespace Survey

/-- Nothing has been met; there can be `cap` axes. -/
def start (cap : Nat) : Survey := ⟨[], cap, false, false⟩

/-- Something that is no list has been met at a depth. -/
def leaf (s : Survey) (depth : Nat) : Survey :=
  ⟨s.lengths, depth, true, s.uneven || (s.settled && s.depth != depth)⟩

/-- A list of a length has been met at a depth, and whether its items are to be gone through. -/
def enter (s : Survey) (depth length : Nat) : Survey × Bool :=
  if s.depth = depth then ({ s.leaf depth with uneven := true }, false)
  else if s.settled && s.lengths[depth]? != some length then
    ({ s with depth := depth, uneven := true }, false)
  else if length = 0 then
    (⟨s.lengths.take depth ++ [0], depth + 1, true, s.uneven⟩, false)
  else if s.settled then (s, true)
  else ({ s with lengths := s.lengths.take depth ++ [length] }, true)

/-- The lengths along the axes. -/
def shape (s : Survey) : List Nat := s.lengths.take s.depth

end Survey

namespace Argument

mutual

/-- Go through an argument that stands at a depth. -/
def survey (depth : Nat) (s : Survey) : Argument → Survey
  | list items =>
    match s.enter depth items.length with
    | (s, true) => surveyItems (depth + 1) s items
    | (s, false) => s
  | _ => s.leaf depth

/-- Go through the items of a list one after the other. -/
def surveyItems (depth : Nat) (s : Survey) : List Argument → Survey
  | [] => s
  | a :: rest => surveyItems depth (survey depth s a) rest

end

mutual

/-- What stands in nested lists and is itself no list. -/
def leaves : Argument → List Argument
  | list items => leavesOf items
  | a => [a]

/-- What stands in the items of a list and is itself no list. -/
def leavesOf : List Argument → List Argument
  | [] => []
  | a :: rest => leaves a ++ leavesOf rest

end

/-- The greatest number of axes of a block. -/
def maxAxes : Nat := 64

/-- Nested lists as a block of at most `cap` axes; something that is no list is a block of none. -/
def toBlock (cap : Nat) (a : Argument) : Except Fault (Block Argument) :=
  let s := a.survey 0 (.start cap)
  if s.uneven then .error (if s.depth = cap then .tooDeep cap else .unevenLists s.shape)
  else .ok ⟨s.shape, a.leaves⟩

end Argument

/-! ### Repeating blocks -/

namespace Block

/-- The number of items of a shape. -/
def volume (shape : List Nat) : Nat := shape.foldr (· * ·) 1

/-- A shape with axes of length one put before it, to have at least `axes` of them. -/
def padded (axes : Nat) (shape : List Nat) : List Nat :=
  List.replicate (axes - shape.length) 1 ++ shape

/-- A block of a shape can be repeated to another: from the last axis on, each length is that of the
other or one. -/
def fits (shape target : List Nat) : Bool :=
  shape.length ≤ target.length &&
    ((padded target.length shape).zip target).all fun (n, m) => n == m || n == 1

/-- Items of a shape repeated along its axes of length one. -/
def spreadItems {α : Type} : List Nat → List Nat → List α → List α
  | n :: shape, m :: target, items =>
    if n = m then
      let size := volume shape
      (List.range n).flatMap fun i =>
        spreadItems shape target ((items.drop (i * size)).take size)
    else (List.replicate m (spreadItems shape target items)).flatten
  | _, _, items => items

/-- The items of a block repeated to a shape that it fits. -/
def spread {α : Type} (b : Block α) (target : List Nat) : List α :=
  spreadItems (padded target.length b.shape) target b.items

/-- The length that two lengths can be repeated to. -/
def joinLength? (n m : Nat) : Option Nat :=
  if n = m ∨ m = 1 then some n else if n = 1 then some m else none

/-- The shape that blocks of two shapes can be repeated to. -/
def joinTwo? (a b : List Nat) : Option (List Nat) :=
  let axes := max a.length b.length
  ((padded axes a).zip (padded axes b)).mapM fun (n, m) => joinLength? n m

/-- The shape that blocks of all the shapes can be repeated to. -/
def join? (shapes : List (List Nat)) : Option (List Nat) := shapes.foldlM joinTwo? []

end Block

end TurtleCanvas
