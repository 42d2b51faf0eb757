import TurtleCanvas.Window
import TurtleCanvas.Proofs.Canvas.Footprint
import TurtleCanvas.Proofs.Frame.Mask

/-!
# What a window does while its session is drawn on

The history of a window is a list of events: it is run, its oldest tick fires, its session ends, and
its canvas is painted on, in any order.

* `WindowEvent` is such an event, `Window.play` a history, and `Window.trail` the history together
  with the window that each event meets;
* `Window.ticks` says which events are looks at the session, and `Window.fault?` what they fail
  with;
* `Window.Looked` is what a look does that returns and `Window.Missed` what one does that fails, and
  `Window.step_cases` says that every tick is one of them;
* `Window.Showing` says that the window can show its canvas, with and without the caption, which
  stays so along every history (`Window.Showing.play`), and `Window.looked_step` that every tick
  returns then.
-/

namespace TurtleCanvas

/-- What happens to a window and its session. -/
inductive WindowEvent (α : Type) where
  /-- The window is run. -/
  | run
  /-- The oldest scheduled tick happens, if there is one. -/
  | fire
  | complete
  | fail (cause : Fault)
  | paint (call : Paint α)

namespace WindowEvent

variable {α : Type}

/-- The colours of painting calls have components that can be stored in bytes. -/
def Fits : WindowEvent α → Prop
  | paint call => call.Fits
  | _ => True

instance (e : WindowEvent α) : Decidable e.Fits :=
  match e with
  | paint call => inferInstanceAs (Decidable call.Fits)
  | run | fire | complete | fail _ => isTrue trivial

end WindowEvent

namespace Window

variable {α : Type}

/-- Nothing has happened to the window yet. -/
def IsBlank (w : Window α) : Prop := w = blank w.session w.refresh w.scale w.calls

theorem isBlank_blank (session : Session) (refresh : Argument) (scale : α)
    (calls : List WindowCall) : (blank session refresh scale calls).IsBlank := rfl

/-- Nothing has happened to a window that was opened just now. -/
theorem isBlank_of_openOn {session : Session} {title minimum initial refresh : Argument} {scale : α}
    {w : Window α} (h : openOn session title minimum initial refresh scale = .ok w) :
    w.IsBlank := by
  obtain ⟨extents, -, h⟩ := Except.bind_eq_ok_iff.1 h
  obtain ⟨items, -, h⟩ := Except.bind_eq_ok_iff.1 h
  obtain ⟨geometry, -, h⟩ := Except.bind_eq_ok_iff.1 h
  obtain rfl := Except.ok.inj h
  exact isBlank_blank _ _ _ _

/-- The event is a look at the session. -/
def ticks (w : Window α) : WindowEvent α → Bool
  | .run => true
  | .fire => !w.pending.isEmpty
  | _ => false

/-- The ticks that stay scheduled when an event takes the oldest of them, if it takes any. -/
def queue (w : Window α) : WindowEvent α → List Argument
  | .fire => w.pending.tail
  | _ => w.pending

variable [Scalar α] [Memory] [Lettering]

/-- One event. -/
def step (w : Window α) : WindowEvent α → Window α
  | .run => run.after w
  | .fire => fire.after w
  | .complete => { w with session := w.session.complete }
  | .fail cause => { w with session := w.session.fail cause }
  | .paint call =>
    { w with session := { w.session with
        canvas := (Canvas.perform call).after w.session.canvas } }

/-- What a look at the session fails with, if it does. -/
def fault? (w : Window α) : WindowEvent α → Option Fault
  | .run => Action.fault? run w
  | .fire => Action.fault? fire w
  | _ => none

/-- A history of events. -/
def play (w : Window α) (events : List (WindowEvent α)) : Window α := events.foldl step w

/-- The events of a history, each with the window that it happens to. -/
def trail (w : Window α) : List (WindowEvent α) → List (Window α × WindowEvent α)
  | [] => []
  | e :: rest => (w, e) :: trail (w.step e) rest

@[simp] theorem play_append (w : Window α) (events more : List (WindowEvent α)) :
    w.play (events ++ more) = (w.play events).play more := List.foldl_append

@[simp] theorem play_singleton (w : Window α) (e : WindowEvent α) : w.play [e] = w.step e := rfl

/-- The event shows a picture. -/
def shows : Window α × WindowEvent α → Bool
  | (w, e) => (w.step e).shown ≠ w.shown

theorem trail_append_singleton (w : Window α) (events : List (WindowEvent α)) (e : WindowEvent α) :
    w.trail (events ++ [e]) = w.trail events ++ [(w.play events, e)] := by
  induction events generalizing w with
  | nil => rfl
  | cons first rest ih =>
    rw [List.cons_append, trail, ih]
    rfl

/-! ### One look -/

/-- What a look at the session makes of a window, with the given ticks still scheduled. -/
structure Looked (w : Window α) (queue : List Argument) (w' : Window α) : Prop where
  session : w'.session = w.session
  refresh : w'.refresh = w.refresh
  scale : w'.scale = w.scale
  /-- Once the session is over, the canvas is shown with the caption, and nothing is scheduled. -/
  complete : w.session.isComplete = true → w'.pending = queue ∧ w'.finished = true ∧
    w'.shown = w.shown + 1 ∧ ∃ image, w'.image = some image ∧
      w.session.canvas.picture.compose w.session.caption captionPlace w.scale = .ok image
  /-- Before that the next tick is scheduled, -/
  pending : w.session.isComplete = false → w'.pending = queue ++ [w.refresh]
  finished : w.session.isComplete = false → w'.finished = w.finished
  /-- the generation of the canvas is noted, -/
  seen : w.session.isComplete = false → w'.seen = some w.session.canvas.generation
  /-- and the canvas is shown unless it was seen in this generation. -/
  kept : w.session.isComplete = false → w.seen = some w.session.canvas.generation →
    w'.shown = w.shown ∧ w'.image = w.image
  changed : w.session.isComplete = false → w.seen ≠ some w.session.canvas.generation →
    w'.shown = w.shown + 1 ∧ ∃ image, w'.image = some image ∧
      w.session.canvas.picture.compose .none captionPlace w.scale = .ok image

/-- What a look at the session makes of a window that cannot show what it should, with the given
ticks still scheduled.  Before the end of the session the generation is noted all the same. -/
structure Missed (w : Window α) (queue : List Argument) (cause : Fault) (w' : Window α) : Prop where
  window : w' = { w with
    pending := queue
    seen := if w.session.isComplete then w.seen else some w.session.canvas.generation }
  complete : w.session.isComplete = true →
    w.session.canvas.picture.compose w.session.caption captionPlace w.scale = .error cause
  changed : w.session.isComplete = false → w.seen ≠ some w.session.canvas.generation ∧
    w.session.canvas.picture.compose .none captionPlace w.scale = .error cause

variable {w : Window α} {image : Picture} {cause : Fault} {e : WindowEvent α}

theorem tick_of_complete (h : w.session.isComplete = true)
    (himage : w.session.canvas.picture.compose w.session.caption captionPlace w.scale =
      .ok image) :
    tick w = .ok () { w with
      image := some image
      shown := w.shown + 1
      finished := true
      log := .finalFrameShown :: w.log } := by
  have hpresent : present w.session.canvas.picture w.session.caption w =
      .ok () { w with image := some image, shown := w.shown + 1 } := by
    simp only [present, himage]
  rw [tick, if_pos h, showFinal]
  exact (Action.bind_of_ok hpresent).trans rfl

theorem tick_of_seen (h : w.session.isComplete = false)
    (hseen : w.seen = some w.session.canvas.generation) :
    tick w = .ok () { w with pending := w.pending ++ [w.refresh] } := by
  have hlatest : showLatest w = .ok () w := by
    simp only [showLatest, Session.latestFrame, if_pos hseen]
  rw [tick, h]
  exact (Action.bind_of_ok hlatest).trans rfl

theorem tick_of_not_seen (h : w.session.isComplete = false)
    (hseen : w.seen ≠ some w.session.canvas.generation)
    (himage : w.session.canvas.picture.compose .none captionPlace w.scale = .ok image) :
    tick w = .ok () { w with
      seen := some w.session.canvas.generation
      image := some image
      shown := w.shown + 1
      pending := w.pending ++ [w.refresh] } := by
  have hlatest : showLatest w = .ok () { w with
      seen := some w.session.canvas.generation
      image := some image
      shown := w.shown + 1 } := by
    simp only [showLatest, Session.latestFrame, if_neg hseen, Session.frame, present, himage]
  rw [tick, h]
  exact (Action.bind_of_ok hlatest).trans rfl

theorem tick_of_complete_of_error (h : w.session.isComplete = true)
    (hcause : w.session.canvas.picture.compose w.session.caption captionPlace w.scale =
      .error cause) : tick w = .error cause w := by
  have hpresent : present w.session.canvas.picture w.session.caption w = .error cause w := by
    simp only [present, hcause]
  rw [tick, if_pos h, showFinal]
  exact Action.bind_of_error hpresent

theorem tick_of_not_seen_of_error (h : w.session.isComplete = false)
    (hseen : w.seen ≠ some w.session.canvas.generation)
    (hcause : w.session.canvas.picture.compose .none captionPlace w.scale = .error cause) :
    tick w = .error cause { w with seen := some w.session.canvas.generation } := by
  have hlatest : showLatest w =
      .error cause { w with seen := some w.session.canvas.generation } := by
    simp only [showLatest, Session.latestFrame, if_neg hseen, Session.frame, present, hcause]
  rw [tick, h]
  exact Action.bind_of_error hlatest

/-- **What a look does**, whether it returns or fails. -/
theorem tick_cases (w : Window α) :
    (∃ w', tick w = .ok () w' ∧ Looked w w.pending w') ∨
      ∃ cause w', tick w = .error cause w' ∧ Missed w w.pending cause w' := by
  cases hopen : w.session.isComplete with
  | true =>
    have hnot : ∀ {p : Prop}, w.session.isComplete = false → p :=
      fun h => absurd (h.symm.trans hopen) (by decide)
    cases hcompose : w.session.canvas.picture.compose w.session.caption captionPlace w.scale with
    | ok captioned =>
      exact .inl ⟨_, tick_of_complete hopen hcompose, rfl, rfl, rfl,
        fun _ => ⟨rfl, rfl, rfl, captioned, rfl, hcompose⟩, hnot, hnot, hnot, hnot, hnot⟩
    | error cause =>
      exact .inr ⟨cause, w, tick_of_complete_of_error hopen hcompose, by rw [if_pos hopen],
        fun _ => hcompose, hnot⟩
  | false =>
    have hnot : ∀ {p : Prop}, w.session.isComplete = true → p :=
      fun h => absurd (h.symm.trans hopen) (by decide)
    by_cases hseen : w.seen = some w.session.canvas.generation
    · exact .inl ⟨_, tick_of_seen hopen hseen, rfl, rfl, rfl, hnot, fun _ => rfl, fun _ => rfl,
        fun _ => hseen, fun _ _ => ⟨rfl, rfl⟩, fun _ hne => absurd hseen hne⟩
    · cases hcompose : w.session.canvas.picture.compose .none captionPlace w.scale with
      | ok plain =>
        exact .inl ⟨_, tick_of_not_seen hopen hseen hcompose, rfl, rfl, rfl, hnot, fun _ => rfl,
          fun _ => rfl, fun _ => rfl, fun _ heq => absurd heq hseen,
          fun _ _ => ⟨rfl, plain, rfl, hcompose⟩⟩
      | error cause =>
        exact .inr ⟨cause, _, tick_of_not_seen_of_error hopen hseen hcompose, by simp [hopen],
          hnot, fun _ => ⟨hseen, hcompose⟩⟩

/-- **Every tick is a look.** -/
theorem step_cases (hticks : w.ticks e = true) :
    (w.fault? e = none ∧ Looked w (w.queue e) (w.step e)) ∨
      ∃ cause, w.fault? e = some cause ∧ Missed w (w.queue e) cause (w.step e) := by
  cases e with
  | run =>
    rcases tick_cases w with ⟨w', htick, hlooked⟩ | ⟨cause, w', htick, hmissed⟩
    · have hrun : run w = .ok () { w' with calls := w'.calls ++ [.mainLoop] } :=
        (Action.bind_of_ok htick).trans rfl
      rw [fault?, step, Action.fault?_of_ok hrun, Action.after_of_ok hrun]
      exact .inl ⟨rfl, { hlooked with }⟩
    · have hrun : run w = .error cause w' := Action.bind_of_error htick
      rw [fault?, step, Action.fault?_of_error hrun, Action.after_of_error hrun]
      exact .inr ⟨cause, rfl, hmissed⟩
  | fire =>
    cases hpending : w.pending with
    | nil => simp [ticks, hpending] at hticks
    | cons first rest =>
      have hfire : fire w = (tick >>= fun _ => return true) { w with pending := rest } := by
        simp only [fire, hpending]
      rw [queue, hpending]
      rcases tick_cases { w with pending := rest } with
        ⟨w', htick, hlooked⟩ | ⟨cause, w', htick, hmissed⟩
      · have hfired : fire w = .ok true w' := hfire.trans (Action.bind_of_ok htick)
        rw [fault?, step, Action.fault?_of_ok hfired, Action.after_of_ok hfired]
        exact .inl ⟨rfl, { hlooked with }⟩
      · have hfired : fire w = .error cause w' := hfire.trans (Action.bind_of_error htick)
        rw [fault?, step, Action.fault?_of_error hfired, Action.after_of_error hfired]
        exact .inr ⟨cause, rfl, { hmissed with }⟩
  | complete => exact nomatch hticks
  | fail cause => exact nomatch hticks
  | paint call => exact nomatch hticks

/-! ### All events -/

theorem step_fire_of_not_ticks (hticks : w.ticks .fire = false) : w.step .fire = w := by
  have hpending : w.pending = [] := by simpa [ticks] using hticks
  have hfire : fire w = .ok false w := by simp only [fire, hpending]
  rw [step, Action.after_of_ok hfire]

/-- An event that is no tick has to do with the session alone. -/
theorem step_of_not_ticks (hticks : w.ticks e = false) :
    w.step e = { w with session := (w.step e).session } := by
  cases e with
  | run => exact nomatch hticks
  | fire => rw [step_fire_of_not_ticks hticks]
  | complete => rfl
  | fail cause => rfl
  | paint call => rfl

/-- What an event makes of the session. -/
theorem session_step (w : Window α) (e : WindowEvent α) :
    (w.step e).session = match e with
      | .complete => w.session.complete
      | .fail cause => w.session.fail cause
      | .paint call => { w.session with canvas := (Canvas.perform call).after w.session.canvas }
      | _ => w.session := by
  have hlook : w.ticks e = true → (w.step e).session = w.session := by
    intro hticks
    rcases step_cases hticks with ⟨-, hlooked⟩ | ⟨cause, -, hmissed⟩
    · exact hlooked.session
    · rw [hmissed.window]
  cases e with
  | run => exact hlook rfl
  | fire =>
    cases hticks : w.ticks .fire with
    | true => exact hlook hticks
    | false => rw [step_fire_of_not_ticks hticks]
  | complete => rfl
  | fail cause => rfl
  | paint call => rfl

theorem scale_step (w : Window α) (e : WindowEvent α) : (w.step e).scale = w.scale := by
  cases hticks : w.ticks e with
  | true =>
    rcases step_cases hticks with ⟨-, hlooked⟩ | ⟨cause, -, hmissed⟩
    · exact hlooked.scale
    · rw [hmissed.window]
  | false => rw [step_of_not_ticks hticks]

theorem caption_step (w : Window α) (e : WindowEvent α) :
    (w.step e).session.caption = w.session.caption := by
  rw [session_step]
  cases e with
  | _ => rfl

/-- No event changes the size of the canvas. -/
theorem size_step (w : Window α) (e : WindowEvent α) :
    (w.step e).session.canvas.picture.width = w.session.canvas.picture.width ∧
      (w.step e).session.canvas.picture.height = w.session.canvas.picture.height := by
  rw [session_step]
  cases e with
  | paint call => exact Canvas.size_perform call w.session.canvas
  | _ => exact ⟨rfl, rfl⟩

theorem scale_play (w : Window α) (events : List (WindowEvent α)) :
    (w.play events).scale = w.scale := by
  induction events generalizing w with
  | nil => rfl
  | cons e rest ih => exact (ih (w.step e)).trans (scale_step w e)

theorem caption_play (w : Window α) (events : List (WindowEvent α)) :
    (w.play events).session.caption = w.session.caption := by
  induction events generalizing w with
  | nil => rfl
  | cons e rest ih => exact (ih (w.step e)).trans (caption_step w e)

/-- A session that is over stays so. -/
theorem isComplete_step (hover : w.session.isComplete = true) (e : WindowEvent α) :
    (w.step e).session.isComplete = true := by
  rw [session_step]
  cases e with
  | complete => rfl
  | fail cause => rfl
  | _ => exact hover

/-! ### Windows that can show their canvas -/

/-- The window can show its canvas: its scale is accepted for the size of the canvas, and the caption
of its session can be drawn on pictures of that size. -/
structure Showing (w : Window α) : Prop where
  plain : ∃ image, w.session.canvas.picture.compose .none captionPlace w.scale = .ok image
  caption : Lettering.Draws w.session.caption w.session.canvas.picture.width
    w.session.canvas.picture.height

/-- The canvas can also be shown with the caption. -/
theorem Showing.captioned {w : Window α} (h : w.Showing) :
    ∃ image, w.session.canvas.picture.compose w.session.caption captionPlace w.scale = .ok image :=
  Picture.exists_compose h.plain rfl rfl h.caption

/-- Every tick of such a window returns. -/
theorem looked_step (h : w.Showing) (hticks : w.ticks e = true) :
    Looked w (w.queue e) (w.step e) := by
  rcases step_cases hticks with ⟨-, hlooked⟩ | ⟨cause, -, hmissed⟩
  · exact hlooked
  · -- A frame can be made of the canvas, with the caption and without.
    obtain ⟨plain, hplain⟩ := h.plain
    obtain ⟨captioned, hcaptioned⟩ := h.captioned
    cases hopen : w.session.isComplete with
    | true => exact nomatch hcaptioned.symm.trans (hmissed.complete hopen)
    | false => exact nomatch hplain.symm.trans (hmissed.changed hopen).2

/-- Every event leaves a window that can show its canvas. -/
theorem Showing.step (h : w.Showing) (e : WindowEvent α) : (w.step e).Showing := by
  obtain ⟨hwidth, hheight⟩ := size_step w e
  constructor
  · rw [scale_step]
    exact Picture.exists_compose h.plain hwidth hheight (Lettering.draws_none _ _)
  · rw [caption_step, hwidth, hheight]
    exact h.caption

theorem Showing.play (h : w.Showing) (events : List (WindowEvent α)) : (w.play events).Showing := by
  induction events generalizing w with
  | nil => exact h
  | cons e rest ih => exact ih (h.step e)

end Window

namespace Window

/-! ### A window whose caption leaves a trace -/

/-- A window on a session whose white canvas is just large enough for a stroke of the caption. -/
def small : Window Argument :=
  default (.start ⟨.filled 245 453 ⟨255, 255, 255⟩, ⟨255, 255, 255⟩, 0⟩ (.text "done")) (.int 1)

theorem isBlank_small : small.IsBlank := rfl

theorem showing_small : small.Showing := by
  refine ⟨⟨small.session.canvas.picture, ?_⟩, Lettering.draws_text "done" _ _⟩
  have hfits : small.session.canvas.picture.FitsImage := by decide
  exact Except.bind_eq_ok_iff.2 ⟨_, Picture.toImage_of_fits hfits, rfl⟩

/-- The caption darkens the last pixel, which is white without it. -/
theorem pixel_of_isCaptioned_small {image : Picture}
    (h : small.session.canvas.picture.IsCaptioned small.session.caption small.scale image) :
    small.session.canvas.picture.pixel 244 452 = ⟨255, 255, 255⟩ ∧
      image.pixel 244 452 = ⟨15, 15, 15⟩ := by
  have hwhite : small.session.canvas.picture.pixel 244 452 = ⟨255, 255, 255⟩ :=
    Picture.pixel_filled _ (by decide : 244 < 245) (by decide : 452 < 453)
  refine ⟨hwhite, ?_⟩
  have hmask : Mask.ofCaption? "done" = some Mask.done := by decide
  rw [h.eq_shade rfl hmask, Picture.pixel_shade (by decide) (by decide), hwhite]
  decide

end Window

end TurtleCanvas
