import TurtleCanvas.Proofs.Session.Polling
import TurtleCanvas.Proofs.Window.Tick

/-!
# The window is never stale

A tick that shows nothing does so because the window shows the canvas already.

* `Window.lastShown` is the generation of the canvas in the last picture that a history has shown;
* `Window.Fresh` is the invariant while the session goes on: the window has seen the generation that
  it showed last, and shows the canvas if that is still of this generation;
* `Window.play_fresh` says that every tick leaves the canvas shown as it is then.
-/

namespace TurtleCanvas

namespace Window

variable {α : Type} [Scalar α] [Memory] [Lettering]

/-- The generation of the canvas when a history last showed a picture. -/
def lastShown (w : Window α) (events : List (WindowEvent α)) : Option Nat :=
  ((w.trail events).filter shows).getLast?.map fun p => p.1.session.canvas.generation

theorem lastShown_append_singleton (w : Window α) (events : List (WindowEvent α))
    (e : WindowEvent α) : w.lastShown (events ++ [e]) =
      if shows (w.play events, e) then some (w.play events).session.canvas.generation
      else w.lastShown events := by
  rw [lastShown, trail_append_singleton, List.filter_append]
  cases h : shows (w.play events, e) with
  | true => simp [h]
  | false => simp [h, lastShown]

/-- The window has seen what was shown last, which is no newer than the canvas, and shows the canvas
if that is of the generation seen. -/
structure Fresh (w : Window α) (last : Option Nat) : Prop where
  seen : w.seen = last
  le_generation : ∀ generation ∈ last, generation ≤ w.session.canvas.generation
  image : last = some w.session.canvas.generation → ∃ image, w.image = some image ∧
    w.session.canvas.picture.compose .none captionPlace w.scale = .ok image

variable {w : Window α} {e : WindowEvent α} {events : List (WindowEvent α)} {last : Option Nat}

theorem IsBlank.fresh (h : w.IsBlank) : w.Fresh none where
  seen := by rw [h]; rfl
  le_generation _ hlast := nomatch hlast
  image hlast := nomatch hlast

/-- The generation grows whenever the canvas changes. -/
theorem generation_step (he : e.Fits) :
    w.session.canvas.generation ≤ (w.step e).session.canvas.generation ∧
      ((w.step e).session.canvas.generation = w.session.canvas.generation →
        (w.step e).session.canvas = w.session.canvas) := by
  rw [session_step]
  cases e with
  | paint call =>
    refine ⟨?_, Canvas.after_perform_of_generation_eq he⟩
    rw [Canvas.generation_after_perform he]
    exact Nat.le_add_right _ _
  | _ => exact ⟨le_rfl, fun _ => rfl⟩

/-- A tick before the end shows a picture just when the canvas has changed since it was seen. -/
theorem shows_eq (hw : w.Showing) (hticks : w.ticks e = true)
    (hopen : w.session.isComplete = false) :
    shows (w, e) = !decide (w.seen = some w.session.canvas.generation) := by
  have hlooked := looked_step hw hticks
  by_cases hseen : w.seen = some w.session.canvas.generation
  · simp [shows, (hlooked.kept hopen hseen).1, hseen]
  · simp [shows, (hlooked.changed hopen hseen).1, hseen]

/-- A tick before the end leaves the canvas shown. -/
theorem Fresh.tick (h : w.Fresh last) (hw : w.Showing) (hticks : w.ticks e = true)
    (hopen : w.session.isComplete = false) :
    (w.step e).Fresh (some w.session.canvas.generation) := by
  have hlooked := looked_step hw hticks
  refine ⟨hlooked.seen hopen, fun generation hlast => ?_, fun _ => ?_⟩
  · rw [hlooked.session]
    exact (Option.some.inj hlast).ge
  · rw [hlooked.session, hlooked.scale]
    by_cases hseen : w.seen = some w.session.canvas.generation
    · -- Nothing is shown: the canvas has not changed since it was.
      rw [(hlooked.kept hopen hseen).2]
      exact h.image (h.seen.symm.trans hseen)
    · exact (hlooked.changed hopen hseen).2

/-- An event that is no tick changes at most the canvas, and then its generation. -/
theorem Fresh.of_not_ticks (h : w.Fresh last) (he : e.Fits) (hticks : w.ticks e = false) :
    (w.step e).Fresh last := by
  obtain ⟨hle, hcanvas⟩ := generation_step (w := w) he
  refine ⟨?_, fun generation hlast => (h.le_generation generation hlast).trans hle,
    fun hlast => ?_⟩
  · rw [step_of_not_ticks hticks]
    exact h.seen
  · have hsame : (w.step e).session.canvas.generation = w.session.canvas.generation :=
      le_antisymm (h.le_generation _ hlast) hle
    obtain ⟨image, himage, hcompose⟩ := h.image (hlast.trans (congrArg some hsame))
    refine ⟨image, ?_, ?_⟩
    · rw [step_of_not_ticks hticks]
      exact himage
    · rw [hcanvas hsame, scale_step]
      exact hcompose

/-- Every history keeps the window fresh while the session goes on. -/
theorem IsBlank.fresh_play (h : w.IsBlank) (hw : w.Showing) (hevents : ∀ e ∈ events, e.Fits)
    (hopen : (w.play events).session.isComplete = false) :
    (w.play events).Fresh (w.lastShown events) := by
  induction events using List.reverseRecOn with
  | nil => exact h.fresh
  | append_singleton events e ih =>
    rw [play_append, play_singleton] at hopen ⊢
    have hplay := hw.play events
    have hbefore : (w.play events).session.isComplete = false :=
      Bool.eq_false_iff.2 fun hover =>
        absurd ((isComplete_step hover e).symm.trans hopen) (by decide)
    have hfresh := ih (fun x hx => hevents x (List.mem_append_left _ hx)) hbefore
    rw [lastShown_append_singleton]
    cases hticks : (w.play events).ticks e with
    | false =>
      have hshown : shows (w.play events, e) = false := by
        rw [shows, step_of_not_ticks hticks]
        simp
      rw [hshown]
      exact hfresh.of_not_ticks (hevents e (by simp)) hticks
    | true =>
      have htick := hfresh.tick hplay hticks hbefore
      rw [shows_eq hplay hticks hbefore]
      by_cases hseen : (w.play events).seen = some (w.play events).session.canvas.generation
      · rw [← hfresh.seen, hseen, ite_self]
        exact htick
      · simpa [hseen] using htick

/-- **The window is never stale after a tick.**  Whatever happens to a window that can show its
canvas, a tick before the end of the session leaves the canvas shown as it is then, and its
generation noted; it shows a new picture just when the generation is not that of the picture shown
last.  A tick after the end leaves the canvas shown with the caption, which is drawn on it unless it
is empty. -/
theorem play_fresh (hblank : w.IsBlank) (hw : w.Showing) (hevents : ∀ e ∈ events, e.Fits)
    (hticks : (w.play events).ticks e = true) :
    ((w.play events).session.isComplete = false →
      (∃ image, ((w.play events).step e).image = some image ∧
        ((w.play events).step e).session.canvas.picture.compose .none captionPlace w.scale =
          .ok image) ∧
      ((w.play events).step e).seen =
        some ((w.play events).step e).session.canvas.generation ∧
      ((w.play events).step e).shown = (w.play events).shown +
        if w.lastShown events = some (w.play events).session.canvas.generation then 0 else 1) ∧
    ((w.play events).session.isComplete = true →
      ∃ image, ((w.play events).step e).image = some image ∧
        ((w.play events).step e).session.canvas.picture.compose w.session.caption captionPlace
          w.scale = .ok image ∧
        (w.session.caption.isTruthy = true →
          ((w.play events).step e).session.canvas.picture.IsCaptioned w.session.caption w.scale
            image)) := by
  have hplay := hw.play events
  have hlooked := looked_step hplay hticks
  refine ⟨fun hopen => ?_, fun hover => ?_⟩
  · have hfresh := hblank.fresh_play hw hevents hopen
    have hafter := hfresh.tick hplay hticks hopen
    have hgeneration := congrArg (fun s => s.canvas.generation) hlooked.session
    refine ⟨?_, ?_, ?_⟩
    · obtain ⟨image, himage, hcompose⟩ := hafter.image (congrArg some hgeneration.symm)
      rw [scale_step, scale_play] at hcompose
      exact ⟨image, himage, hcompose⟩
    · exact hafter.seen.trans (congrArg some hgeneration.symm)
    · rw [← hfresh.seen]
      split_ifs with hseen
      · exact (hlooked.kept hopen hseen).1
      · exact (hlooked.changed hopen hseen).1
  · obtain ⟨-, -, -, image, himage, hcompose⟩ := hlooked.complete hover
    rw [caption_play, scale_play] at hcompose
    rw [hlooked.session]
    exact ⟨image, himage, hcompose,
      fun htruthy => Picture.isCaptioned_of_compose htruthy hcompose⟩

end Window

namespace Window

/-- The window is run, and then a pixel is painted. -/
def firstStroke : List (WindowEvent Argument) :=
  [.run, .paint (.pixel (.int 0) (.int 0) (.ok ⟨255, 0, 0⟩))]

/-- The window is run, and its session ends. -/
def lastStroke : List (WindowEvent Argument) := [.run, .complete]

/-- A tick after the first stroke shows a second picture, and one after the end the caption. -/
theorem play_fresh_small : small.IsBlank ∧ small.Showing ∧
    ((∀ e ∈ firstStroke, e.Fits) ∧ (small.play firstStroke).ticks .fire = true ∧
      (small.play firstStroke).shown = 1 ∧ ((small.play firstStroke).step .fire).shown = 2 ∧
      ((small.play firstStroke).step .fire).seen = some 1) ∧
    (∀ e ∈ lastStroke, e.Fits) ∧ (small.play lastStroke).ticks .fire = true ∧
      small.session.canvas.picture.pixel 244 452 = ⟨255, 255, 255⟩ ∧
      ∃ image, ((small.play lastStroke).step .fire).image = some image ∧
        image.pixel 244 452 = ⟨15, 15, 15⟩ := by
  have hevents : ∀ e ∈ firstStroke, e.Fits := by decide
  have hticks : (small.play firstStroke).ticks .fire = true := by rfl
  have hshown : (small.play firstStroke).shown = 1 := by rfl
  have hlast : small.lastShown firstStroke = some 0 := by rfl
  obtain ⟨h, -⟩ := play_fresh isBlank_small showing_small hevents hticks
  obtain ⟨-, hseen, hcount⟩ := h rfl
  have hevents' : ∀ e ∈ lastStroke, e.Fits := by decide
  have hticks' : (small.play lastStroke).ticks .fire = true := by rfl
  have hcanvas : ((small.play lastStroke).step .fire).session.canvas = small.session.canvas := by rfl
  obtain ⟨-, h'⟩ := play_fresh isBlank_small showing_small hevents' hticks'
  obtain ⟨image, himage, -, hcaptioned⟩ := h' rfl
  obtain ⟨hwhite, hdark⟩ := pixel_of_isCaptioned_small (hcanvas ▸ hcaptioned rfl)
  refine ⟨isBlank_small, showing_small, ⟨hevents, hticks, hshown, ?_, hseen⟩, hevents', hticks',
    hwhite, image, himage, hdark⟩
  rw [hcount, hshown, hlast]
  rfl

end Window

end TurtleCanvas
