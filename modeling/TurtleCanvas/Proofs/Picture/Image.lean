import Mathlib.Tactic.SplitIfs
import TurtleCanvas.Picture.Image
import TurtleCanvas.Proofs.Action

/-!
# Pictures that can be made into images

Which pictures can be copied into an image depends on their size and on the memory of the machine,
and the image shows the same as the picture.

* `Image.checkSide_eq_ok_iff` and `Image.checkRoom_eq_ok_iff` say which sizes pass the checks;
* `Picture.FitsImage` says that a picture can be copied, and `Picture.toImage_eq_ok_iff` that this is
  just when it is.
-/

namespace TurtleCanvas

namespace Image

theorem checkSide_eq_ok_iff {n : Nat} : checkSide n = .ok () ↔ n < 2 ^ 31 := by
  unfold checkSide
  split_ifs
  · simp; omega
  · simp; omega
  · simp; omega

theorem checkRoom_eq_ok_iff [Memory] {width height : Nat} : checkRoom width height = .ok () ↔
    width ≤ maxWidth ∧ 4 * (width * height) ≤ Memory.room := by
  unfold checkRoom
  split
  · simp; omega
  · simp; omega

end Image

namespace Picture

variable [Memory] {p q : Picture}

/-- The picture can be copied into an image: its rows and columns can be counted, and there is memory
for four bytes a pixel. -/
def FitsImage (p : Picture) : Prop :=
  (p.width ≤ Image.maxRow ∧ p.height < 2 ^ 31) ∧ 4 * (p.width * p.height) ≤ Memory.room

instance (p : Picture) : Decidable p.FitsImage := inferInstanceAs (Decidable (_ ∧ _))

/-- **Which pictures are copied into an image**, and that it shows the same. -/
theorem toImage_eq_ok_iff : p.toImage = .ok q ↔ p.FitsImage ∧ q = p := by
  have hrow : Image.maxRow ≤ Image.maxWidth := by decide
  have hword : Image.maxRow < 2 ^ 31 := by decide
  rw [toImage, Except.bind_eq_ok_iff]
  constructor
  · rintro ⟨_, hwidth, h⟩
    obtain ⟨_, hheight, h⟩ := Except.bind_eq_ok_iff.1 h
    obtain ⟨_, hroom, h⟩ := Except.bind_eq_ok_iff.1 h
    split_ifs at h with hlarge
    obtain rfl := Except.ok.inj h
    exact ⟨⟨⟨Nat.not_lt.1 hlarge, Image.checkSide_eq_ok_iff.1 hheight⟩,
      (Image.checkRoom_eq_ok_iff.1 hroom).2⟩, rfl⟩
  · rintro ⟨⟨⟨hwidth, hheight⟩, hroom⟩, rfl⟩
    have hcolumns := Image.checkSide_eq_ok_iff.2 (Nat.lt_of_le_of_lt hwidth hword)
    have hrows := Image.checkSide_eq_ok_iff.2 hheight
    have hmemory := Image.checkRoom_eq_ok_iff.2 ⟨Nat.le_trans hwidth hrow, hroom⟩
    exact ⟨_, hcolumns, Except.bind_eq_ok_iff.2 ⟨_, hrows, Except.bind_eq_ok_iff.2
      ⟨_, hmemory, if_neg (Nat.not_lt.2 hwidth)⟩⟩⟩

theorem toImage_of_fits (h : p.FitsImage) : p.toImage = .ok p := toImage_eq_ok_iff.2 ⟨h, rfl⟩

theorem exists_toImage_error (h : ¬ p.FitsImage) : ∃ e, p.toImage = .error e := by
  cases htoImage : p.toImage with
  | error e => exact ⟨e, rfl⟩
  | ok q => exact absurd (toImage_eq_ok_iff.1 htoImage).1 h

end Picture

end TurtleCanvas
