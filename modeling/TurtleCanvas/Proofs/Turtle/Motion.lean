import TurtleCanvas.Proofs.Argument
import TurtleCanvas.Proofs.Turtle.Composition

/-!
# What a turtle draws is the trace of its motion

* `OnlyLines`, `Untouched` and `Linking` are what events draw, as relations that compose along walks;
* `Linked` says that segments make up one polyline;
* `DrawsMotion` is what is drawn from a scene on, whatever the turtle is told next;
* `Turtle.draws_trace_of_motion` says what a turtle draws, whatever it is told and whenever a pause
  fails.
-/

namespace TurtleCanvas

section

variable {α : Type}

/-! ### What is drawn -/

/-- The segment of a line. -/
def Drawn.segment? : Drawn α → Option (Segment α)
  | line s _ _ => some s
  | dot .. => none

/-- The point that a turtle stands at. -/
def Turtle.position (t : Turtle α) : α × α := (t.x, t.y)

/-- Segments from a point to a point, each of which starts where the one before it ended. -/
def Linked (p : α × α) : List (Segment α) → α × α → Prop
  | [], q => p = q
  | s :: rest, q => p = (s.x0, s.y0) ∧ Linked (s.x1, s.y1) rest q

theorem Linked.append {p q r : α × α} {xs ys : List (Segment α)} (h : Linked p xs q)
    (h' : Linked q ys r) : Linked p (xs ++ ys) r := by
  induction xs generalizing p with
  | nil => exact (show p = q from h) ▸ h'
  | cons s rest ih => exact ⟨h.1, ih h.2⟩

namespace Step

/-- The step stamps a dot. -/
def isDot : Step α → Bool
  | dot _ _ => true
  | _ => false

/-- The step lowers the pen. -/
def isPenDown : Step α → Bool
  | penDown => true
  | _ => false

/-- The step leaves a gap in what is drawn: it lifts the pen or jumps. -/
def isGap : Step α → Bool
  | penUp | setPosition _ _ => true
  | _ => false

end Step

/-- Nothing but lines is drawn of events. -/
def OnlyLines (_ : Turtle α) (es : List (Event α)) (_ : Turtle α) : Prop :=
  ∀ d ∈ es.flatMap Event.drawn, ∃ s colour width, d = .line s colour width

/-- With the pen up nothing is drawn of events, and the pen stays up. -/
def Untouched (t : Turtle α) (es : List (Event α)) (u : Turtle α) : Prop :=
  t.isDown = false → es.flatMap Event.drawn = [] ∧ u.isDown = false

/-- With the pen down the lines drawn of events link the position before them to the one after
them, and the pen stays down. -/
def Linking (t : Turtle α) (es : List (Event α)) (u : Turtle α) : Prop :=
  t.isDown = true →
    Linked t.position ((es.flatMap Event.drawn).filterMap Drawn.segment?) u.position ∧
      u.isDown = true

theorem composes_onlyLines [Scalar α] : Walk.Composes (OnlyLines (α := α)) where
  append h h' := by
    intro d hd
    rw [List.flatMap_append, List.mem_append] at hd
    exact hd.elim (h d) (h' d)
  move t x y := by
    intro d hd
    rw [List.flatMap_singleton, Event.drawn] at hd
    split at hd
    · exact ⟨_, _, _, List.mem_singleton.1 hd⟩
    · exact absurd hd List.not_mem_nil
  turn _ _ _ _ := fun _ hd => absurd hd List.not_mem_nil
  restyle _ _ _ := fun _ hd => absurd hd List.not_mem_nil
  drift _ _ := fun _ hd => absurd hd List.not_mem_nil

theorem composes_untouched [Scalar α] : Walk.Composes (Untouched (α := α)) where
  append h h' := by
    intro ht
    obtain ⟨hes, hu⟩ := h ht
    obtain ⟨hes', hv⟩ := h' hu
    exact ⟨by rw [List.flatMap_append, hes, hes', List.append_nil], hv⟩
  move t x y := fun ht => ⟨by simp [Event.drawn, ht], ht⟩
  turn _ _ _ _ := fun ht => ⟨rfl, ht⟩
  restyle _ _ _ := fun ht => ⟨rfl, ht⟩
  drift _ _ := fun ht => ⟨rfl, ht⟩

theorem composes_linking [Scalar α] : Walk.Composes (Linking (α := α)) where
  append h h' := by
    intro ht
    obtain ⟨hes, hu⟩ := h ht
    obtain ⟨hes', hv⟩ := h' hu
    rw [List.flatMap_append, List.filterMap_append]
    exact ⟨hes.append hes', hv⟩
  move t x y := by
    intro ht
    rw [List.flatMap_singleton, Event.drawn, if_pos ht]
    exact ⟨⟨rfl, rfl⟩, ht⟩
  turn _ _ _ _ := fun ht => ⟨rfl, ht⟩
  restyle _ _ _ := fun ht => ⟨rfl, ht⟩
  -- A turtle drifts only with the pen up.
  drift _ hup := fun ht => absurd (hup.symm.trans ht) Bool.false_ne_true

theorem Step.asks_onlyLines {step : Step α} (h : step.isDot = false) (t : Turtle α) :
    step.Asks OnlyLines t := by
  cases step with
  | dot size ink => exact nomatch h
  | setPosition x y => exact fun _ _ d hd => nomatch hd
  | penUp | penDown => exact fun d hd => nomatch hd
  | _ => trivial

theorem Step.asks_untouched {step : Step α} (hdot : step.isDot = false)
    (hdown : step.isPenDown = false) (t : Turtle α) : step.Asks Untouched t := by
  cases step with
  | dot size ink => exact nomatch hdot
  | penDown => exact nomatch hdown
  | setPosition x y => exact fun _ _ ht => ⟨rfl, ht⟩
  | penUp => exact fun ht => ⟨rfl, rfl⟩
  | _ => trivial

theorem Step.asks_linking {step : Step α} (h : step.isGap = false) (t : Turtle α) :
    step.Asks Linking t := by
  cases step with
  | penUp | setPosition x y => exact nomatch h
  | penDown => exact fun ht => ⟨rfl, rfl⟩
  | dot size ink => exact fun _ _ ht => ⟨rfl, ht⟩
  | _ => trivial

end

/-! ### Moves and arcs -/

/-- The line of a segment in the colour and width of a turtle's pen. -/
def Turtle.lineOf {α : Type} (t : Turtle α) (g : Segment α) : Drawn α :=
  .line g t.penColour t.penSize

theorem Walk.drawn_of_drawnWith {α : Type} {t : Turtle α} (ht : t.isDown = true)
    {moves : List (Turtle α × Turtle α)} (h : DrawnWith t moves) :
    (moves.map fun m => Event.move m.1 m.2).flatMap Event.drawn =
      (moves.map fun m => Segment.mk m.1.x m.1.y m.2.x m.2.y).map t.lineOf := by
  induction moves with
  | nil => rfl
  | cons m rest ih =>
    obtain ⟨hdown, hcolour, hsize⟩ := h m List.mem_cons_self
    rw [List.map_cons, List.flatMap_cons, ih fun x hx => h x (List.mem_cons_of_mem _ hx),
      Event.drawn, if_pos (hdown.trans ht), hcolour, hsize]
    rfl

/-- What is drawn of moves with a pen. -/
theorem Walk.drawn_of_moves {α : Type} {t : Turtle α} {moves : List (Turtle α × Turtle α)}
    (h : DrawnWith t moves) : (moves.map fun m => Event.move m.1 m.2).flatMap Event.drawn =
      if t.isDown then (moves.map fun m => Segment.mk m.1.x m.1.y m.2.x m.2.y).map t.lineOf
      else [] := by
  cases hdown : t.isDown with
  | true => exact drawn_of_drawnWith hdown h
  | false =>
    rw [List.flatMap_map, if_neg Bool.false_ne_true]
    exact List.flatMap_eq_nil_iff.2 fun m hm =>
      if_neg (Bool.eq_false_iff.1 ((h m hm).1.trans hdown))

/-- A step to a point, or by a distance, that is given by numbers which fit doubles. -/
def Step.IsMove : Step Argument → Prop
  | goTo x y => x.FitsReal ∧ y.FitsReal
  | forward distance => distance.FitsReal
  | back distance => distance.FitsReal
  | _ => False

/-- Such a step never fails, and is one move. -/
theorem Step.walk_of_isMove {step : Step Argument} (h : step.IsMove) {t : Turtle Argument}
    (ht : t.IsReal) (delay : Delay) (pauses : Nat) :
    ∃ p, step.walk delay t pauses = Walk.move t pauses p := by
  cases step with
  | goTo x y =>
    obtain ⟨x', hx⟩ := h.1.exists_toReal
    obtain ⟨y', hy⟩ := h.2.exists_toReal
    exact ⟨(.real x', .real y'), by simp only [walk, hx, hy, Walk.upon]⟩
  | forward distance =>
    obtain ⟨p, hp⟩ := Turtle.exists_ahead ht h
    exact ⟨p, by simp only [walk, Walk.forward, hp, Walk.upon]⟩
  | back distance =>
    obtain ⟨d, hd, hfits⟩ := Argument.FitsReal.exists_neg h
    obtain ⟨p, hp⟩ := Turtle.exists_ahead ht hfits
    exact ⟨p, by simp only [walk, Walk.forward, hd, hp, Walk.upon]⟩
  | _ => exact absurd h id

/-- A scene on whose surface nothing is drawn yet. -/
def Scene.recording (t : Turtle Argument) (delay : Delay) : Scene Argument (Recorder Argument) :=
  ⟨t, ⟨[]⟩, delay, 0, []⟩

/-- From a scene to another a number of lines was drawn with the pen, one after the other. -/
def DrewChords (s s' : Scene Argument (Recorder Argument)) (n : Nat) : Prop :=
  ∃ lines : List (Segment Argument), lines.length = n ∧
    s'.surface.drawn = (lines.map s.turtle.lineOf).reverse ++ s.surface.drawn ∧
    Linked s.turtle.position lines s'.turtle.position

/-- What is drawn from a scene on is drawn by the motion of the pen. -/
structure DrawsMotion (s : Scene Argument (Recorder Argument)) : Prop where
  /-- A step to a point, or by a distance, does not fail and draws one line with the pen down, from
  the position before it to the one after it. -/
  moves : ∀ step : Step Argument, step.IsMove → ∃ s', step.perform s = .ok () s' ∧
    s'.surface.drawn = (if s.turtle.isDown then
      [s.turtle.lineOf ⟨s.turtle.x, s.turtle.y, s'.turtle.x, s'.turtle.y⟩] else []) ++
        s.surface.drawn
  /-- An arc whose pauses do not fail makes all its chords, and draws them with the pen down. -/
  arcs : ∀ radius extent count a, Scalar.isZero extent = false → Scalar.isZero radius = false →
    s.turtle.arc radius extent count = .ok a →
    (∀ outcome, s.delay = some outcome →
      ∀ j, s.pauses < j → j ≤ s.pauses + a.count → outcome j = none) →
    ∃ s', (Step.circle radius extent count).perform s = .ok () s' ∧
      Turtle.afterChords a.chord a.angle a.count s.turtle = .ok s'.turtle ∧
      (s.turtle.isDown = true → DrewChords s s' a.count)
  /-- An arc whose pause after chord `k + 1` fails makes `k + 1` chords, with the turn after each,
  and draws just these with the pen down. -/
  aborted : ∀ radius extent count a, Scalar.isZero extent = false → Scalar.isZero radius = false →
    s.turtle.arc radius extent count = .ok a → ∀ outcome, s.delay = some outcome →
    ∀ k e, k < a.count → (∀ j, s.pauses < j → j ≤ s.pauses + k → outcome j = none) →
    outcome (s.pauses + k + 1) = some e →
    ∃ s', (Step.circle radius extent count).perform s = .error e s' ∧
      Turtle.afterChords a.chord a.angle (k + 1) s.turtle = .ok s'.turtle ∧
      s'.pauses = s.pauses + (k + 1) ∧ (s.turtle.isDown = true → DrewChords s s' (k + 1))
  /-- Dots come from nothing but the step that stamps one. -/
  onlyLines : ∀ steps, (∀ step ∈ steps, step.isDot = false) → ∃ new,
    (Step.leave s steps).surface.drawn = new ++ s.surface.drawn ∧
      ∀ d ∈ new, ∃ g colour width, d = .line g colour width
  /-- With the pen up nothing is drawn by steps that neither stamp a dot nor lower the pen. -/
  untouched : s.turtle.isDown = false → ∀ steps,
    (∀ step ∈ steps, step.isDot = false ∧ step.isPenDown = false) →
      (Step.leave s steps).surface = s.surface
  /-- Without a gap each line starts where the one before it ended. -/
  linked : s.turtle.isDown = true → ∀ steps, (∀ step ∈ steps, step.isGap = false) →
    ∃ new : List (Drawn Argument),
      (Step.leave s steps).surface.drawn = new.reverse ++ s.surface.drawn ∧
      Linked s.turtle.position (new.filterMap Drawn.segment?)
        (Step.leave s steps).turtle.position

namespace Turtle

open Argument (fitsReal_real)

/-- The walk of an arc that has chords. -/
theorem walk_circle {α : Type} [Scalar α] {t : Turtle α} {radius extent : α}
    {count : Option (Except Fault Int)} {a : Arc α}
    (hextent : Scalar.isZero extent = false) (hradius : Scalar.isZero radius = false)
    (ha : t.arc radius extent count = .ok a) (delay : Delay) (pauses : Nat) :
    (Step.circle radius extent count).walk delay t pauses =
      Walk.chords delay a.chord a.angle a.count t pauses := by
  simp [Step.walk, hextent, hradius, ha, Walk.upon]

/-- A walk of moves with the pen down draws their segments. -/
theorem drewChords {s : Scene Argument (Recorder Argument)} {w : Walk Argument}
    {moves : List (Turtle Argument × Turtle Argument)} (hdown : s.turtle.isDown = true)
    (hpen : Walk.DrawnWith s.turtle moves)
    (hevents : w.events = moves.map fun m => Event.move m.1 m.2)
    (hlinking : Linking s.turtle w.events w.turtle) :
    DrewChords s (w.sceneAfter s) moves.length := by
  have hdrawn := Walk.drawn_of_drawnWith hdown hpen
  rw [← hevents] at hdrawn
  obtain ⟨hlinked, -⟩ := hlinking hdown
  rw [hdrawn, List.filterMap_map] at hlinked
  refine ⟨moves.map fun m => Segment.mk m.1.x m.1.y m.2.x m.2.y, List.length_map _, ?_, ?_⟩
  · rw [Walk.sceneAfter, Walk.drawn, hdrawn]
  -- The segments of the lines that were drawn are those of the moves.
  · have hsegments : Drawn.segment? ∘ s.turtle.lineOf = some := rfl
    rwa [hsegments, List.filterMap_some] at hlinked

theorem drawsMotion {s : Scene Argument (Recorder Argument)} (hs : s.turtle.IsReal) :
    DrawsMotion s where
  moves step hstep := by
    obtain ⟨p, hp⟩ := Step.walk_of_isMove hstep hs s.delay s.pauses
    have hrun := step.perform_eq hs
    rw [hp] at hrun
    refine ⟨_, hrun, ?_⟩
    simp [Walk.sceneAfter, Walk.move, Walk.drawn, Event.reverse_drawn]
    rfl
  arcs radius extent count a hextent hradius ha hfree := by
    obtain ⟨hchord, hangle⟩ := fitsReal_arc ha
    obtain ⟨v, hv⟩ := exists_afterChords hchord hangle a.count hs
    obtain ⟨moves, hlength, hmoves, hwalk⟩ := Walk.chords_of_free hv hfree
    have hrun := (Step.circle radius extent count).perform_eq hs
    have hlinking := composes_linking.chords s.delay a.chord a.angle a.count s.turtle s.pauses
    rw [walk_circle hextent hradius ha] at hrun
    rw [hwalk] at hrun hlinking
    exact ⟨_, hrun, hv, fun hdown => hlength ▸ drewChords hdown hmoves.drawnWith rfl hlinking⟩
  aborted radius extent count a hextent hradius ha outcome hdelay k e hk hfree hfail := by
    obtain ⟨hchord, hangle⟩ := fitsReal_arc ha
    obtain ⟨v, hv⟩ := exists_afterChords hchord hangle (k + 1) hs
    obtain ⟨moves, hlength, hmoves, hwalk⟩ := Walk.chords_of_abort hk hv hfree hfail
    have hrun := (Step.circle radius extent count).perform_eq hs
    have hlinking := composes_linking.chords s.delay a.chord a.angle a.count s.turtle s.pauses
    rw [walk_circle hextent hradius ha] at hrun
    rw [hdelay, hwalk] at hrun hlinking
    exact ⟨_, hrun, hv, rfl, fun hdown => hlength ▸ drewChords hdown hmoves.drawnWith rfl hlinking⟩
  onlyLines steps hsteps := by
    obtain ⟨hleave, -⟩ := Step.leave_eq steps hs
    have hlines := Step.related_walkAll composes_onlyLines s.delay
      (fun step hstep => Step.asks_onlyLines (hsteps step hstep)) s.turtle s.pauses
    refine ⟨_, by rw [hleave]; rfl, fun d hd => hlines d (List.mem_reverse.1 hd)⟩
  untouched hup steps hsteps := by
    obtain ⟨hleave, -⟩ := Step.leave_eq steps hs
    have hnone := Step.related_walkAll composes_untouched s.delay (fun step hstep =>
      Step.asks_untouched (hsteps step hstep).1 (hsteps step hstep).2) s.turtle s.pauses hup
    rw [hleave, Walk.sceneAfter, Walk.drawn, hnone.1]
    rfl
  linked hdown steps hsteps := by
    obtain ⟨hleave, -⟩ := Step.leave_eq steps hs
    have hlinked := Step.related_walkAll composes_linking s.delay
      (fun step hstep => Step.asks_linking (hsteps step hstep)) s.turtle s.pauses hdown
    exact ⟨_, by rw [hleave]; rfl, by rw [hleave]; exact hlinked.1⟩

/-- **What a turtle draws is the trace of its motion with the pen down.**  Whatever a turtle was
told and whichever pauses failed: what was drawn is what its walk says, in order, that is one line
for each move with the pen down, from the position before it to the one after it and in the colour
and width of the pen before it, and the dots that were stamped; and `DrawsMotion` holds of what it
is told then. -/
theorem draws_trace_of_motion {x y heading : Argument} {arcSteps : Except Fault Int}
    {t : Turtle Argument} (ht : create x y heading arcSteps = .ok t) (delay : Delay)
    (steps : List (Step Argument)) :
    let s := Step.leave (Scene.recording t delay) steps
    let w := Step.walkAll delay steps t 0
    (s.surface.drawn.reverse = w.events.flatMap Event.drawn ∧ s.turtle = w.turtle ∧
      s.pauses = w.pauses) ∧ DrawsMotion s := by
  intro s w
  obtain ⟨hleave, hreal⟩ := Step.leave_eq steps (s := Scene.recording t delay) (isReal_create ht)
  have hw : w.turtle.IsReal := hreal
  have hs : s = w.sceneAfter (Scene.recording t delay) := hleave
  refine ⟨⟨?_, ?_, ?_⟩, drawsMotion (hs ▸ hw)⟩
  · rw [hs]
    simp [Walk.sceneAfter, Walk.drawn, Scene.recording]
  · rw [hs]; rfl
  · rw [hs]; rfl

/-- A turtle that took a red pen of width 3 draws one line in that colour and width. -/
theorem draws_trace_of_motion_red : ∃ t s',
    create (.real 3.0) (.real 4.0) (.real 90.0) (.ok 30) = .ok t ∧
      (Step.forward (.real 5.0)).perform
        (Step.leave (Scene.recording t none) [.colour (.ok ⟨255, 0, 0⟩), .penSize (.ok 3)]) =
          .ok () s' ∧
      s'.surface.drawn = [.line ⟨t.x, t.y, s'.turtle.x, s'.turtle.y⟩ ⟨255, 0, 0⟩ 3] := by
  obtain ⟨t, ht⟩ := exists_create (fitsReal_real 3.0) (fitsReal_real 4.0) (fitsReal_real 90.0) 30
  obtain ⟨-, hmotion⟩ :=
    draws_trace_of_motion ht none [.colour (.ok ⟨255, 0, 0⟩), .penSize (.ok 3)]
  obtain ⟨s', hrun, hdrawn⟩ := hmotion.moves (.forward (.real 5.0)) (fitsReal_real 5.0)
  have hdown : t.isDown = true := by
    simp only [create, Except.bind_eq_ok_iff] at ht
    obtain ⟨_, -, _, -, _, -, _, -, ht⟩ := ht
    exact Except.ok.inj ht ▸ rfl
  exact ⟨t, s', ht, hrun, hdrawn.trans ((congrArg (· ++ []) (if_pos hdown)).trans rfl)⟩

end Turtle

end TurtleCanvas
