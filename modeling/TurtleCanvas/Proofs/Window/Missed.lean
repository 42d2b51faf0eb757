import TurtleCanvas.Proofs.Canvas.Atomic
import TurtleCanvas.Proofs.Config
import TurtleCanvas.Proofs.Window.Fresh

/-!
# Looks that fail

A window fails to show its canvas when its scale is accepted for no picture of that size, and it
fails to show a caption that cannot be drawn.  What is shown then stays, the window is not finished
by it, and no next tick is scheduled.  But before the end of the session the generation of the canvas
is noted before the canvas is shown.  So the next look finds nothing new and returns, with a picture
still shown that was shown before, if there is any.

That is the only way for a window to fall behind.  As long as the session goes on, and as long as
whatever is painted is counted, a window that has seen the generation of its canvas shows the canvas,
or it missed that generation in a look that failed.

* `Window.MissedAt` says that a look failed at a generation, and `Window.CountsPaints` that whatever is
  painted is counted;
* `Window.Abreast` is the invariant, which `Window.Abreast.step` carries over one event and
  `Window.IsBlank.abreast_play` along a history;
* `Window.play_missed` says what a look that fails leaves, and what one that returns leaves shown;
* `Window.missed_forgotten` is a window that a failing look leaves behind.
-/

namespace TurtleCanvas

namespace Window

variable {α : Type} [Scalar α] [Memory] [Lettering]

/-- A look of a history, made before the end of the session, failed to show the canvas in a
generation. -/
def MissedAt (w : Window α) (events : List (WindowEvent α)) (generation : ℕ) (cause : Fault) :
    Prop :=
  ∃ p ∈ w.trail events, p.1.fault? p.2 = some cause ∧ p.1.session.isComplete = false ∧
    p.1.session.canvas.generation = generation

/-- Whatever a history paints is counted: it leaves the picture where it leaves the generation. -/
def CountsPaints (w : Window α) (events : List (WindowEvent α)) : Prop :=
  ∀ p ∈ w.trail events,
    (p.1.step p.2).session.canvas.generation = p.1.session.canvas.generation →
      (p.1.step p.2).session.canvas.picture = p.1.session.canvas.picture

variable {w : Window α} {e : WindowEvent α} {events : List (WindowEvent α)}
  {missed missed' : ℕ → Fault → Prop}

theorem mem_of_mem_trail {p : Window α × WindowEvent α} (h : p ∈ w.trail events) :
    p.2 ∈ events := by
  induction events generalizing w with
  | nil => exact absurd h List.not_mem_nil
  | cons e rest ih =>
    rcases List.mem_cons.1 h with rfl | hrest
    · exact List.mem_cons_self
    · exact List.mem_cons_of_mem _ (ih hrest)

/-- Painting in colours that can be stored is counted. -/
theorem countsPaints_of_fits (h : ∀ e ∈ events, e.Fits) : w.CountsPaints events := by
  intro p hp hgeneration
  rw [(generation_step (h p.2 (mem_of_mem_trail hp))).2 hgeneration]

/-- The generation is never set back. -/
theorem le_generation_step (w : Window α) (e : WindowEvent α) :
    w.session.canvas.generation ≤ (w.step e).session.canvas.generation := by
  rw [session_step]
  cases e with
  | paint call => exact (Canvas.ending_perform call w.session.canvas).le_generation
  | _ => exact le_rfl

/-! ### The invariant -/

/-- The generation seen is no newer than the canvas.  If it is that of the canvas, then the canvas is
shown, or it is missed in this generation and cannot be shown. -/
structure Abreast (w : Window α) (missed : ℕ → Fault → Prop) : Prop where
  le_generation : ∀ generation ∈ w.seen, generation ≤ w.session.canvas.generation
  shown : w.seen = some w.session.canvas.generation →
    (∃ image, w.image = some image ∧
      w.session.canvas.picture.compose .none captionPlace w.scale = .ok image) ∨
    ∃ cause, missed w.session.canvas.generation cause ∧
      w.session.canvas.picture.compose .none captionPlace w.scale = .error cause

theorem IsBlank.abreast (h : w.IsBlank) : w.Abreast missed where
  le_generation := by rw [h]; exact nofun
  shown := by rw [h]; exact nofun

theorem Abreast.mono (h : w.Abreast missed)
    (himp : ∀ generation cause, missed generation cause → missed' generation cause) :
    w.Abreast missed' where
  le_generation := h.le_generation
  shown hseen := (h.shown hseen).imp_right fun ⟨cause, hmissed, hcause⟩ =>
    ⟨cause, himp _ _ hmissed, hcause⟩

/-- A look that returns leaves the canvas shown, if it is not missed already. -/
theorem Abreast.of_looked {w' : Window α} {queue : List Argument} (h : w.Abreast missed)
    (hopen : w.session.isComplete = false) (hlooked : Looked w queue w') : w'.Abreast missed where
  le_generation generation hgeneration := by
    rw [hlooked.seen hopen] at hgeneration
    rw [hlooked.session]
    exact (Option.some.inj hgeneration).ge
  shown _ := by
    rw [hlooked.session, hlooked.scale]
    by_cases hseen : w.seen = some w.session.canvas.generation
    · rw [(hlooked.kept hopen hseen).2]
      exact h.shown hseen
    · exact .inl (hlooked.changed hopen hseen).2

/-- A look that fails misses the canvas. -/
theorem abreast_of_missed {w' : Window α} {queue : List Argument} {cause : Fault}
    (hopen : w.session.isComplete = false) (hmissed : Missed w queue cause w')
    (hnow : missed w.session.canvas.generation cause) : w'.Abreast missed := by
  have hw' := hmissed.window
  rw [hopen] at hw'
  rw [hw']
  refine ⟨fun generation hgeneration => ?_, fun _ => ?_⟩
  · exact (Option.some.inj hgeneration).ge
  · exact .inr ⟨cause, hnow, (hmissed.changed hopen).2⟩

/-- An event that is no look changes at most the canvas, and then its generation. -/
theorem Abreast.of_not_ticks (h : w.Abreast missed) (hticks : w.ticks e = false)
    (hcounts : (w.step e).session.canvas.generation = w.session.canvas.generation →
      (w.step e).session.canvas.picture = w.session.canvas.picture) :
    (w.step e).Abreast missed := by
  have hle := le_generation_step w e
  have hseen : (w.step e).seen = w.seen := by rw [step_of_not_ticks hticks]
  have himage : (w.step e).image = w.image := by rw [step_of_not_ticks hticks]
  refine ⟨fun generation hgeneration => ?_, fun hshown => ?_⟩
  · rw [hseen] at hgeneration
    exact (h.le_generation generation hgeneration).trans hle
  · rw [hseen] at hshown
    have hsame : (w.step e).session.canvas.generation = w.session.canvas.generation :=
      le_antisymm (h.le_generation _ hshown) hle
    rw [hsame] at hshown
    rw [hcounts hsame, hsame, himage, scale_step]
    exact h.shown hshown

/-- **One event.**  What it misses is missed from then on. -/
theorem Abreast.step (h : w.Abreast missed) (hopen : w.session.isComplete = false)
    (hcounts : (w.step e).session.canvas.generation = w.session.canvas.generation →
      (w.step e).session.canvas.picture = w.session.canvas.picture) :
    (w.step e).Abreast fun generation cause => missed generation cause ∨
      w.fault? e = some cause ∧ w.session.canvas.generation = generation := by
  cases hticks : w.ticks e with
  | false => exact (h.of_not_ticks hticks hcounts).mono fun _ _ => .inl
  | true =>
    rcases step_cases hticks with ⟨-, hlooked⟩ | ⟨cause, hcause, hmissed⟩
    · exact (h.of_looked hopen hlooked).mono fun _ _ => .inl
    · exact abreast_of_missed hopen hmissed (.inr ⟨hcause, rfl⟩)

/-- **Every history** leaves a window abreast of its canvas while the session goes on, but for what it
missed. -/
theorem IsBlank.abreast_play (h : w.IsBlank) (hcounts : w.CountsPaints events)
    (hopen : (w.play events).session.isComplete = false) :
    (w.play events).Abreast (w.MissedAt events) := by
  induction events using List.reverseRecOn with
  | nil => exact h.abreast
  | append_singleton events e ih =>
    have htrail := trail_append_singleton w events e
    rw [play_append, play_singleton] at hopen ⊢
    have hbefore : (w.play events).session.isComplete = false :=
      Bool.eq_false_iff.2 fun hover =>
        absurd ((isComplete_step hover e).symm.trans hopen) (by decide)
    have habreast := ih (fun p hp => hcounts p (htrail ▸ List.mem_append_left _ hp)) hbefore
    have hstep := habreast.step hbefore (hcounts (w.play events, e) (by simp [htrail]))
    refine hstep.mono fun generation cause hmissed => ?_
    rcases hmissed with ⟨p, hp, hfault⟩ | ⟨hfault, hgeneration⟩
    · exact ⟨p, htrail ▸ List.mem_append_left _ hp, hfault⟩
    · exact ⟨(w.play events, e), by simp [htrail], hfault, hbefore, hgeneration⟩

/-! ### Failing looks -/

/-- **What a failing look leaves, and what is shown after it.**  Whatever happens to a window, at any
scale and with any caption, a look that fails leaves the picture shown, the session and whether the
window is finished as they were, and schedules nothing.  After the end of the session it leaves the
generation seen as well; before the end, that becomes the generation of the canvas, which it was not.
A look that returns before the end leaves the canvas shown as it is then, if whatever is painted is
counted, unless an earlier look failed at this very generation.  The canvas cannot be shown then, and
the look shows nothing. -/
theorem play_missed (hblank : w.IsBlank) (hticks : (w.play events).ticks e = true) :
    let before := w.play events
    let after := before.step e
    (∀ cause, before.fault? e = some cause →
      after = { before with
        pending := before.queue e
        seen := if before.session.isComplete then before.seen
          else some before.session.canvas.generation } ∧
      (before.session.isComplete = false → before.seen ≠ some before.session.canvas.generation)) ∧
    (before.fault? e = none → before.session.isComplete = false → w.CountsPaints events →
      (∃ image, after.image = some image ∧
        after.session.canvas.picture.compose .none captionPlace w.scale = .ok image) ∨
      after.image = before.image ∧ ∃ cause,
        w.MissedAt events after.session.canvas.generation cause ∧
        after.session.canvas.picture.compose .none captionPlace w.scale = .error cause) := by
  intro before after
  refine ⟨fun cause hcause => ?_, fun hreturns hopen hcounts => ?_⟩
  · rcases step_cases hticks with ⟨hnone, -⟩ | ⟨cause', -, hmissed⟩
    · exact nomatch hnone.symm.trans hcause
    · exact ⟨hmissed.window, fun hopen => (hmissed.changed hopen).1⟩
  · rcases step_cases hticks with ⟨-, hlooked⟩ | ⟨cause, hcause, -⟩
    · rw [hlooked.session, ← scale_play w events]
      by_cases hseen : before.seen = some before.session.canvas.generation
      · have himage : after.image = before.image := (hlooked.kept hopen hseen).2
        rw [himage]
        exact ((hblank.abreast_play hcounts hopen).shown hseen).imp_right fun hmissed =>
          ⟨rfl, hmissed⟩
      · exact .inl (hlooked.changed hopen hseen).2
    · exact nomatch hreturns.symm.trans hcause

end Window

namespace Window

/-! ### A window that falls behind -/

/-- A window that is to show one black pixel without bounds. -/
def boundless : Window Argument :=
  default (.start ⟨.filled 1 1 ⟨0, 0, 0⟩, ⟨0, 0, 0⟩, 0⟩ (.text "done"))
    (.real (Binary64.infinity false))

theorem isBlank_boundless : boundless.IsBlank := rfl

theorem compose_boundless :
    boundless.session.canvas.picture.compose .none captionPlace boundless.scale =
      .error .infinityToInt := by
  have hone : Scalar.isOne boundless.scale = false := by decide +kernel
  have hsize : Zoom.size 1 boundless.scale = .error .infinityToInt :=
    Zoom.size_infinite (by decide) (by decide) rfl rfl
  have himage : (Picture.filled 1 1 ⟨0, 0, 0⟩).toImage = .ok (.filled 1 1 ⟨0, 0, 0⟩) :=
    Picture.toImage_of_fits (by decide)
  show (Picture.filled 1 1 ⟨0, 0, 0⟩).toImage >>= (fun image => image.zoom boundless.scale) = _
  rw [himage, Except.ok_bind, Picture.zoom, hone, if_neg (by decide)]
  show Zoom.size 1 boundless.scale >>= _ = _
  rw [hsize]
  rfl

/-- The first look fails. -/
theorem run_boundless :
    run boundless = .error .infinityToInt { boundless with seen := some 0 } := by
  have htick : tick boundless = .error .infinityToInt { boundless with seen := some 0 } :=
    tick_of_not_seen_of_error rfl nofun compose_boundless
  exact Action.bind_of_error htick

theorem step_boundless : boundless.step .run = { boundless with seen := some 0 } :=
  Action.after_of_error run_boundless

/-- A look that follows a failing one returns, because that one was made at the same generation. -/
theorem play_missed_boundless :
    boundless.IsBlank ∧ (boundless.play [.run]).ticks .run = true ∧
      (boundless.play [.run]).fault? .run = none ∧
      ∃ cause, boundless.MissedAt [.run] 0 cause := by
  have hticks : (boundless.play [.run]).ticks .run = true := rfl
  have hfault : (boundless.play [.run]).fault? .run = none := by
    rw [play_singleton, step_boundless]
    rfl
  have hopen : (boundless.play [.run]).session.isComplete = false := by
    rw [play_singleton, step_boundless]
    rfl
  have hcounts : boundless.CountsPaints [.run] := countsPaints_of_fits (by decide)
  have hafter : (boundless.play [.run]).step .run =
      { boundless with
        seen := some 0
        pending := [.int 30]
        calls := boundless.calls ++ [.mainLoop] } := by
    rw [play_singleton, step_boundless]
    rfl
  obtain ⟨-, hreturns⟩ := play_missed isBlank_boundless hticks
  refine ⟨isBlank_boundless, hticks, hfault, ?_⟩
  rcases hreturns hfault hopen hcounts with ⟨image, himage, -⟩ | ⟨-, cause, hmissed, -⟩
  · rw [hafter] at himage
    exact nomatch himage
  · rw [hafter] at hmissed
    exact ⟨cause, hmissed⟩

/-- **A failing look is forgotten.**  The window cannot be shown, and the first look at it fails, with
the generation of its canvas noted.  The second look returns, with the canvas as it was, and nothing
is shown. -/
theorem missed_forgotten :
    boundless.IsBlank ∧
    (boundless.fault? .run = some .infinityToInt ∧ boundless.seen = none ∧
      (boundless.step .run).seen = some 0) ∧
    (boundless.step .run).fault? .run = none ∧
      ((boundless.step .run).step .run).session.isComplete = false ∧
      ((boundless.step .run).step .run).image = none := by
  rw [step_boundless]
  exact ⟨rfl, ⟨Action.fault?_of_error run_boundless, rfl, rfl⟩, rfl, rfl, rfl⟩

end Window

end TurtleCanvas
