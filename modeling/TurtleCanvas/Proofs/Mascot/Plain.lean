import TurtleCanvas.Mascot.Sections
import TurtleCanvas.Proofs.Action
import TurtleCanvas.Proofs.Picture

/-!
# The numbers of the mascot

All numbers of the mascot can be read and are small whole numbers, all its colours are made of
bytes, and no path is long.

* `PathItem.IsPlain` and `Stroke.IsPlain` say so of an item and of a stroke;
* `Section.isPlain` says so of the strokes of every section.
-/

namespace TurtleCanvas

/-- The whole number is at most a thousand, and at least minus a thousand. -/
def IsSmall (n : ℤ) : Prop := n.natAbs ≤ 1000

instance (n : ℤ) : Decidable (IsSmall n) := inferInstanceAs (Decidable (n.natAbs ≤ 1000))

/-- The numbers of an item can be read and are small. -/
def PathItem.IsPlain : PathItem ℤ → Prop
  | .heading angle => IsSmall angle
  | .arc shape => Gives shape fun p => IsSmall p.1 ∧ IsSmall p.2

instance (item : PathItem ℤ) : Decidable item.IsPlain :=
  match item with
  | .heading angle => inferInstanceAs (Decidable (IsSmall angle))
  | .arc shape => inferInstanceAs (Decidable (Gives shape fun p => IsSmall p.1 ∧ IsSmall p.2))

/-- The numbers of a stroke can be read and are small, a colour that it sets is made of bytes, and
its path is not long. -/
structure Stroke.IsPlain (s : Stroke ℤ) : Prop where
  start : Gives s.start fun p => IsSmall p.1 ∧ IsSmall p.2
  colour : ∀ ink ∈ s.colour, Gives ink Colour.FitsBytes
  width : ∀ width ∈ s.width, Gives width IsSmall
  path : ∀ item ∈ s.path, item.IsPlain
  short : s.path.length ≤ 100

instance (s : Stroke ℤ) : Decidable s.IsPlain :=
  decidable_of_iff
    ((Gives s.start fun p => IsSmall p.1 ∧ IsSmall p.2) ∧
      (∀ ink ∈ s.colour, Gives ink Colour.FitsBytes) ∧ (∀ width ∈ s.width, Gives width IsSmall) ∧
      (∀ item ∈ s.path, item.IsPlain) ∧ s.path.length ≤ 100)
    ⟨fun ⟨start, colour, width, path, short⟩ => ⟨start, colour, width, path, short⟩,
      fun h => ⟨h.start, h.colour, h.width, h.path, h.short⟩⟩

/-- **Every stroke of the mascot is plain.** -/
theorem Section.isPlain (s : Section) : ∀ stroke ∈ s.strokes, stroke.IsPlain := by
  cases s <;> decide

end TurtleCanvas
