import Mathlib.Tactic.SplitIfs
import TurtleCanvas.Frame.Compose
import TurtleCanvas.Proofs.Picture.Image

/-!
# Which frames can be made

Whether a frame can be made of a picture depends on the size of the picture, not on what is painted
there, as long as its caption can be drawn.  How that looks is up to the lettering.

* `Lettering.Draws` says that a caption can be drawn on every picture of a size;
* `Picture.IsCaptioned` says what a picture with a caption looks like in a window: the text is drawn
  at its place, and what comes of it is scaled;
* `Picture.exists_compose` says that a scale that is accepted for one picture without a caption is
  accepted for every picture of that size with a caption that can be drawn.
-/

namespace TurtleCanvas

/-- A caption can be drawn on every picture of a size, which it keeps.  An empty one is not drawn. -/
def Lettering.Draws [Lettering] (caption : Argument) (width height : Nat) : Prop :=
  caption.isTruthy = true → ∀ p : Picture, p.width = width → p.height = height →
    ∃ lettered, Lettering.text p captionPlace caption = .ok lettered ∧ lettered.width = width ∧
      lettered.height = height

theorem Lettering.draws_none [Lettering] (width height : Nat) :
    Lettering.Draws .none width height := nofun

namespace Picture

variable {α : Type} [Scalar α] [Memory] [Lettering] {p q image : Picture} {scale : α}
  {caption place : Argument}

/-- The image shows the picture with a text drawn at the place of captions, scaled. -/
def IsCaptioned (p : Picture) (caption : Argument) (scale : α) (image : Picture) : Prop :=
  ∃ lettered, Lettering.text p captionPlace caption = .ok lettered ∧ lettered.zoom scale = .ok image

/-- A caption that is not empty is drawn. -/
theorem isCaptioned_of_compose (htruthy : caption.isTruthy = true)
    (h : p.compose caption captionPlace scale = .ok image) : p.IsCaptioned caption scale image := by
  obtain ⟨copy, hcopy, h⟩ := Except.bind_eq_ok_iff.1 h
  obtain ⟨lettered, htext, hzoom⟩ := Except.bind_eq_ok_iff.1 h
  obtain rfl := (toImage_eq_ok_iff.1 hcopy).2
  rw [withCaption, if_pos htruthy] at htext
  exact ⟨lettered, htext, hzoom⟩

omit [Memory] in
theorem exists_withCaption (p : Picture) (h : Lettering.Draws caption p.width p.height) :
    ∃ q, p.withCaption caption captionPlace = .ok q ∧ q.width = p.width ∧ q.height = p.height := by
  unfold withCaption
  by_cases htruthy : caption.isTruthy = true
  · rw [if_pos htruthy]
    exact h htruthy p rfl rfl
  · exact ⟨p, if_neg htruthy, rfl, rfl⟩

omit [Lettering] in
/-- Whether a picture can be zoomed depends on its size. -/
theorem exists_zoom_of_size_eq (hw : q.width = p.width) (hh : q.height = p.height)
    (h : ∃ image, p.zoom scale = .ok image) : ∃ image, q.zoom scale = .ok image := by
  obtain ⟨image, h⟩ := h
  unfold zoom at h ⊢
  rw [hw, hh]
  split_ifs at h ⊢
  · exact ⟨q, rfl⟩
  · simp only [Except.bind_eq_ok_iff] at h ⊢
    obtain ⟨width, hwidth, height, hheight, _, hcheck, _, hcheck', _, hroom, columns, hcolumns,
      rows, hrows, -⟩ := h
    exact ⟨_, width, hwidth, height, hheight, _, hcheck, _, hcheck', _, hroom, columns, hcolumns,
      rows, hrows, rfl⟩

/-- **A frame can be made of every picture of a size with a caption**, at a scale at which one can
be made without. -/
theorem exists_compose (hscale : ∃ image, p.compose .none place scale = .ok image)
    (hw : q.width = p.width) (hh : q.height = p.height)
    (hcaption : Lettering.Draws caption p.width p.height) :
    ∃ image, q.compose caption captionPlace scale = .ok image := by
  obtain ⟨plain, hplain⟩ := hscale
  obtain ⟨copy, hcopy, hzoom⟩ := Except.bind_eq_ok_iff.1 hplain
  obtain ⟨hfits, rfl⟩ := toImage_eq_ok_iff.1 hcopy
  have hfits' : q.FitsImage := by
    unfold FitsImage
    rw [hw, hh]
    exact hfits
  obtain ⟨captioned, hcaptioned, hw', hh'⟩ := exists_withCaption q (hw ▸ hh ▸ hcaption)
  obtain ⟨image, himage⟩ := exists_zoom_of_size_eq (hw'.trans hw) (hh'.trans hh) ⟨plain, hzoom⟩
  exact ⟨image, Except.bind_eq_ok_iff.2 ⟨q, toImage_of_fits hfits',
    Except.bind_eq_ok_iff.2 ⟨captioned, hcaptioned, himage⟩⟩⟩

end Picture

end TurtleCanvas
