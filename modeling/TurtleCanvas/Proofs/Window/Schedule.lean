import Mathlib.Data.List.Induction
import TurtleCanvas.Proofs.Window.Tick

/-!
# How many ticks are scheduled, and when the window is finished

Each run of the window before the session ends starts a chain of ticks, each of which schedules the
next, and each chain ends with the tick that sees the end.

* `Window.runsBefore`, `Window.firesAfter`, `Window.runsAfter` and `Window.showsAfter` are events of
  a history, to be counted along its trail;
* `Window.pending_step`, `Window.finished_step` and `Window.showsAfter_eq` say what one event adds to
  the counts;
* `Window.play_schedule` says what they come to along every history.
-/

namespace TurtleCanvas

namespace Window

variable {α : Type}

/-- The window is run before the session is over. -/
def runsBefore : Window α × WindowEvent α → Bool
  | (w, .run) => !w.session.isComplete
  | _ => false

/-- The window is run after the session is over. -/
def runsAfter : Window α × WindowEvent α → Bool
  | (w, .run) => w.session.isComplete
  | _ => false

/-- A scheduled tick happens after the session is over. -/
def firesAfter : Window α × WindowEvent α → Bool
  | (w, .fire) => w.session.isComplete && !w.pending.isEmpty
  | _ => false

/-- A tick happens after the session is over. -/
def ticksAfter : Window α × WindowEvent α → Bool
  | (w, e) => w.session.isComplete && w.ticks e

/-- A tick is a run or a scheduled one. -/
theorem toNat_ticksAfter (p : Window α × WindowEvent α) :
    (ticksAfter p).toNat = (runsAfter p).toNat + (firesAfter p).toNat := by
  obtain ⟨w, e⟩ := p
  cases e with
  | run => simp [ticksAfter, ticks, runsAfter, firesAfter]
  | fire => simp [ticksAfter, ticks, runsAfter, firesAfter]
  | _ => simp [ticksAfter, ticks, runsAfter, firesAfter]

variable [Scalar α] [Memory] [Lettering]

/-- A picture is shown after the session is over. -/
def showsAfter (p : Window α × WindowEvent α) : Bool := p.1.session.isComplete && shows p

variable {w : Window α} {e : WindowEvent α}

/-! ### One event -/

/-- A tick schedules the next one as long as the session is not over. -/
theorem pending_step_of_ticks (hw : w.Showing) (hticks : w.ticks e = true) :
    (w.step e).pending.length = (w.queue e).length + (!w.session.isComplete).toNat := by
  have hlooked := looked_step hw hticks
  cases hopen : w.session.isComplete with
  | true => simp [(hlooked.complete hopen).1]
  | false => simp [hlooked.pending hopen]

/-- Runs before the end schedule a tick more, and ticks after the end one less. -/
theorem pending_step (hw : w.Showing) (e : WindowEvent α) :
    (w.step e).pending.length + (firesAfter (w, e)).toNat =
      w.pending.length + (runsBefore (w, e)).toNat := by
  cases hticks : w.ticks e with
  | false =>
    rw [step_of_not_ticks hticks]
    cases e with
    | run => simp [ticks] at hticks
    | fire =>
      have hpending : w.pending = [] := by simpa [ticks] using hticks
      simp [firesAfter, runsBefore, hpending]
    | _ => simp [firesAfter, runsBefore]
  | true =>
    rw [pending_step_of_ticks hw hticks]
    cases e with
    | run => simp [queue, firesAfter, runsBefore]
    | fire =>
      cases hpending : w.pending with
      | nil => simp [ticks, hpending] at hticks
      | cons first rest =>
        -- A chain of ticks goes on, or ends here.
        cases hopen : w.session.isComplete with
        | true => simp [queue, firesAfter, runsBefore, hpending, hopen]
        | false => simp [queue, firesAfter, runsBefore, hpending, hopen]
    | _ => exact absurd hticks Bool.false_ne_true

/-- The window is finished from the first tick after the end on. -/
theorem finished_step (hw : w.Showing) (e : WindowEvent α) :
    (w.step e).finished = (w.finished || ticksAfter (w, e)) := by
  cases hticks : w.ticks e with
  | false =>
    rw [step_of_not_ticks hticks]
    simp [ticksAfter, hticks]
  | true =>
    have hlooked := looked_step hw hticks
    cases hopen : w.session.isComplete with
    | true => simp [ticksAfter, hticks, hopen, (hlooked.complete hopen).2.1]
    | false => simp [ticksAfter, hopen, hlooked.finished hopen]

/-- Each tick after the end shows one picture. -/
theorem showsAfter_eq (hw : w.Showing) (e : WindowEvent α) :
    showsAfter (w, e) = ticksAfter (w, e) := by
  cases hticks : w.ticks e with
  | false =>
    rw [showsAfter, shows, step_of_not_ticks hticks]
    simp [ticksAfter, hticks]
  | true =>
    cases hopen : w.session.isComplete with
    | true =>
      obtain ⟨-, -, hshown, -⟩ := (looked_step hw hticks).complete hopen
      simp [showsAfter, shows, ticksAfter, hopen, hticks, hshown]
    | false => simp [showsAfter, ticksAfter, hopen]

/-- **After the end** no event schedules a tick, and none shows anything but the canvas with the
caption, which is drawn on it unless it is empty: a tick shows that once, and any other event leaves
what is shown. -/
theorem step_of_complete (hw : w.Showing) (hover : w.session.isComplete = true)
    (e : WindowEvent α) :
    (w.step e).session.isComplete = true ∧ (w.step e).pending = w.queue e ∧
      if w.ticks e then (w.step e).shown = w.shown + 1 ∧ ∃ image, (w.step e).image = some image ∧
        w.session.canvas.picture.compose w.session.caption captionPlace w.scale = .ok image ∧
        (w.session.caption.isTruthy = true →
          w.session.canvas.picture.IsCaptioned w.session.caption w.scale image)
      else (w.step e).shown = w.shown ∧ (w.step e).image = w.image := by
  refine ⟨isComplete_step hover e, ?_⟩
  cases hticks : w.ticks e with
  | true =>
    obtain ⟨hpending, -, hshown, image, himage, hcompose⟩ := (looked_step hw hticks).complete hover
    rw [if_pos rfl]
    exact ⟨hpending, hshown, image, himage, hcompose,
      fun htruthy => Picture.isCaptioned_of_compose htruthy hcompose⟩
  | false =>
    refine ⟨?_, by rw [step_of_not_ticks hticks]; simp⟩
    rw [step_of_not_ticks hticks]
    cases e with
    | fire =>
      have hpending : w.pending = [] := by simpa [ticks] using hticks
      simp [queue, hpending]
    | _ => rfl

/-! ### Histories -/

theorem countP_trail_append_singleton (p : Window α × WindowEvent α → Bool) (w : Window α)
    (events : List (WindowEvent α)) (e : WindowEvent α) :
    (w.trail (events ++ [e])).countP p =
      (w.trail events).countP p + (p (w.play events, e)).toNat := by
  rw [trail_append_singleton, List.countP_append, List.countP_singleton]
  cases p (w.play events, e) <;> rfl

theorem pending_play (hblank : w.IsBlank) (hw : w.Showing) (events : List (WindowEvent α)) :
    (w.play events).pending.length + (w.trail events).countP firesAfter =
      (w.trail events).countP runsBefore := by
  induction events using List.reverseRecOn with
  | nil => rw [hblank]; rfl
  | append_singleton events e ih =>
    have hstep := pending_step (hw.play events) e
    rw [countP_trail_append_singleton, countP_trail_append_singleton, play_append, play_singleton]
    omega

theorem finished_play (hblank : w.IsBlank) (hw : w.Showing) (events : List (WindowEvent α)) :
    (w.play events).finished = true ↔ 0 < (w.trail events).countP ticksAfter := by
  induction events using List.reverseRecOn with
  | nil => rw [hblank]; simp [play, trail, blank]
  | append_singleton events e ih =>
    rw [countP_trail_append_singleton, play_append, play_singleton, finished_step (hw.play events),
      Bool.or_eq_true, ih]
    cases ticksAfter (w.play events, e) with
    | false => simp
    | true => simp

theorem finished_play_append (hw : w.Showing) {events : List (WindowEvent α)}
    (hfinished : (w.play events).finished = true) (more : List (WindowEvent α)) :
    (w.play (events ++ more)).finished = true := by
  induction more using List.reverseRecOn with
  | nil => rwa [List.append_nil]
  | append_singleton more e ih =>
    rw [← List.append_assoc, play_append, play_singleton, finished_step (hw.play _), ih,
      Bool.true_or]

theorem countP_showsAfter (hw : w.Showing) (events : List (WindowEvent α)) :
    (w.trail events).countP showsAfter =
      (w.trail events).countP runsAfter + (w.trail events).countP firesAfter := by
  induction events using List.reverseRecOn with
  | nil => rfl
  | append_singleton events e ih =>
    have htick := toNat_ticksAfter (w.play events, e)
    simp only [countP_trail_append_singleton, ih, showsAfter_eq (hw.play events)]
    omega

/-- **The ticks of a window.**  Along every history of a window that can show its canvas, as many
ticks are scheduled as it was run before the session was over, less the ticks that have happened
since.  From then on no tick schedules another one, each tick shows the canvas with the caption drawn
on it, unless that is empty, and nothing else is shown.  The window is finished when such a tick has
happened, and stays so.  With one run before the end, one tick is scheduled until one has happened
after the end, and none from then on; if the window is not run again, the canvas with the caption is
shown once. -/
theorem play_schedule (hblank : w.IsBlank) (hw : w.Showing) (events : List (WindowEvent α)) :
    ((w.play events).pending.length : Int) =
      (w.trail events).countP runsBefore - (w.trail events).countP firesAfter ∧
    ((w.play events).session.isComplete = true → ∀ e,
      ((w.play events).step e).session.isComplete = true ∧
      ((w.play events).step e).pending = (w.play events).queue e ∧
      if (w.play events).ticks e then
        ((w.play events).step e).shown = (w.play events).shown + 1 ∧
        ∃ image, ((w.play events).step e).image = some image ∧
          (w.play events).session.canvas.picture.compose w.session.caption captionPlace w.scale =
            .ok image ∧
          (w.session.caption.isTruthy = true →
            (w.play events).session.canvas.picture.IsCaptioned w.session.caption w.scale image)
      else
        ((w.play events).step e).shown = (w.play events).shown ∧
        ((w.play events).step e).image = (w.play events).image) ∧
    ((w.play events).finished = true ↔ 0 < (w.trail events).countP ticksAfter) ∧
    (∀ more, (w.play events).finished = true → (w.play (events ++ more)).finished = true) ∧
    ((w.trail events).countP runsBefore = 1 →
      ((w.trail events).countP firesAfter = 0 ∧ (w.play events).pending.length = 1 ∨
        (w.trail events).countP firesAfter = 1 ∧ (w.play events).pending = []) ∧
      ((w.trail events).countP runsAfter = 0 →
        (w.trail events).countP showsAfter = (w.trail events).countP firesAfter)) := by
  have hpending := pending_play hblank hw events
  refine ⟨by omega, fun hover e => ?_, finished_play hblank hw events,
    fun more hfinished => finished_play_append hw hfinished more, fun hone => ⟨?_, fun hno => ?_⟩⟩
  · have h := step_of_complete (hw.play events) hover e
    rwa [caption_play, scale_play] at h
  · rcases Nat.eq_zero_or_pos (w.play events).pending.length with hzero | hpos
    · exact .inr ⟨by omega, List.length_eq_zero_iff.1 hzero⟩
    · exact .inl ⟨by omega, by omega⟩
  · rw [countP_showsAfter hw, hno, Nat.zero_add]

end Window

namespace Window

/-- A window is run, a tick happens, and the session ends. -/
def lastLook : List (WindowEvent Argument) := [.run, .fire, .complete]

/-- After that another tick happens. -/
def wholeRun : List (WindowEvent Argument) := lastLook ++ [.fire]

/-- The tick that sees the end is the last one, and shows the caption. -/
theorem play_schedule_small : small.IsBlank ∧ small.Showing ∧
    (small.trail wholeRun).countP runsBefore = 1 ∧ (small.trail wholeRun).countP runsAfter = 0 ∧
    (small.play wholeRun).pending = [] ∧ (small.play wholeRun).finished = true ∧
    (small.trail wholeRun).countP showsAfter = 1 ∧
    small.session.canvas.picture.pixel 244 452 = ⟨255, 255, 255⟩ ∧
    ∃ image, (small.play wholeRun).image = some image ∧ image.pixel 244 452 = ⟨15, 15, 15⟩ := by
  have hbefore : (small.trail wholeRun).countP runsBefore = 1 := by rfl
  have hafter : (small.trail wholeRun).countP runsAfter = 0 := by rfl
  have hfires : (small.trail wholeRun).countP firesAfter = 1 := by rfl
  have hticks : (small.trail wholeRun).countP ticksAfter = 1 := by rfl
  obtain ⟨-, -, hfinished, -, hone⟩ := play_schedule isBlank_small showing_small wholeRun
  obtain ⟨hqueue, hshows⟩ := hone hbefore
  have hpending : (small.play wholeRun).pending = [] := by
    rcases hqueue with ⟨hnone, -⟩ | ⟨-, hpending⟩
    · exact absurd (hfires.symm.trans hnone) (by decide)
    · exact hpending
  -- The last tick of the run is one after the end.
  obtain ⟨-, hlast, -⟩ := play_schedule isBlank_small showing_small lastLook
  obtain ⟨-, -, htick⟩ := hlast rfl .fire
  have hcanvas : (small.play lastLook).session.canvas = small.session.canvas := by rfl
  rw [if_pos (by rfl), hcanvas] at htick
  obtain ⟨-, image, himage, -, hcaptioned⟩ := htick
  obtain ⟨hwhite, hdark⟩ := pixel_of_isCaptioned_small (hcaptioned rfl)
  exact ⟨isBlank_small, showing_small, hbefore, hafter, hpending, hfinished.2 (by omega),
    (hshows hafter).trans hfires, hwhite, image, himage, hdark⟩

end Window

end TurtleCanvas
