import Mathlib.Algebra.Torsor.Basic
import TurtleCanvas.Proofs.Exact
import TurtleCanvas.Proofs.Turtle.Curve

/-!
# Arcs of the opposite radius

The length of a chord is in proportion to the radius, and the turns do not depend on it.  So a turtle
that walks an arc of the opposite radius looks in the same direction as before in front of every chord
and walks the opposite way: where the one walk is at a point, the other is at the point across the
start.

* `Turtle.reflected` is a turtle across a point, with the heading and the pen that it has, and
  `Walk.reflected` is a walk there;
* `Walk.chords_reflected` says that chords of the opposite length, walked across a point, are the
  chords across that point, and `Step.walk_circle_neg` that an arc of the opposite radius is the arc
  across its start;
* `Scene.Opposite` compares the runs of two steps, and `Turtle.circle_opposite` says that arcs of
  opposite radii compare so.
-/

namespace TurtleCanvas

open scoped Exact

open Equiv (pointReflection)

variable {K : Type} [Field K]

/-! ### Walks across a point -/

/-- The turtle across a point.  It looks where it looked, and its pen is the same. -/
def Turtle.reflected (c : K × K) (t : Turtle K) : Turtle K :=
  { t with x := (pointReflection c t.position).1, y := (pointReflection c t.position).2 }

/-- The segment across a point. -/
def Segment.reflected (c : K × K) (g : Segment K) : Segment K :=
  ⟨(pointReflection c (g.x0, g.y0)).1, (pointReflection c (g.x0, g.y0)).2,
    (pointReflection c (g.x1, g.y1)).1, (pointReflection c (g.x1, g.y1)).2⟩

/-- What is drawn, across a point. -/
def Drawn.reflected (c : K × K) : Drawn K → Drawn K
  | line g colour width => .line (g.reflected c) colour width
  | dot x y diameter colour =>
    .dot (pointReflection c (x, y)).1 (pointReflection c (x, y)).2 diameter colour

/-- What a surface takes notice of, across a point. -/
def Event.reflected (c : K × K) : Event K → Event K
  | move before after => .move (before.reflected c) (after.reflected c)
  | dot turtle diameter colour => .dot (turtle.reflected c) diameter colour

/-- The walk across a point. -/
def Walk.reflected (c : K × K) (w : Walk K) : Walk K :=
  { w with events := w.events.map (Event.reflected c), turtle := w.turtle.reflected c }

/-- A turtle stays where it is across its own position. -/
theorem Turtle.reflected_position (t : Turtle K) : t.reflected t.position = t := by
  rw [reflected, Equiv.pointReflection_self]
  rfl

theorem Event.drawn_reflected (c : K × K) (e : Event K) :
    (e.reflected c).drawn = e.drawn.map (Drawn.reflected c) := by
  cases e with
  | dot turtle diameter colour => rfl
  | move before after =>
    rw [drawn, apply_ite (List.map (Drawn.reflected c))]
    rfl

theorem Event.arrival?_reflected (c : K × K) (e : Event K) :
    (e.reflected c).arrival? = e.arrival?.map (pointReflection c) := by
  cases e with
  | move before after => rfl
  | dot turtle diameter colour => rfl

namespace Walk

theorem drawn_reflected (c : K × K) (w : Walk K) :
    (w.reflected c).drawn = w.drawn.map (Drawn.reflected c) := by
  rw [drawn, drawn, List.map_flatMap, reflected, List.flatMap_map]
  simp only [Event.drawn_reflected]

theorem arrivals_reflected (c : K × K) (w : Walk K) :
    (w.reflected c).events.filterMap Event.arrival? =
      (w.events.filterMap Event.arrival?).map (pointReflection c) := by
  rw [List.map_filterMap, reflected, List.filterMap_map]
  exact congrArg (List.filterMap · w.events) (funext fun e => Event.arrival?_reflected c e)

/-- Two walks in sequence are across a point if both of them are. -/
theorem andThen_reflected {c : K × K} {next next' : Turtle K → ℕ → Walk K}
    (h : ∀ t pauses, next' (t.reflected c) pauses = (next t pauses).reflected c) (w : Walk K) :
    (w.reflected c).andThen next' = (w.andThen next).reflected c := by
  cases hw : w.fault with
  | some e =>
    have hw' : (w.reflected c).fault = some e := hw
    rw [andThen_of_some hw, andThen_of_some hw']
  | none =>
    have hw' : (w.reflected c).fault = none := hw
    have hnext : next' (w.reflected c).turtle (w.reflected c).pauses =
        (next w.turtle w.pauses).reflected c := h w.turtle w.pauses
    rw [andThen_of_none hw, andThen_of_none hw', hnext]
    simp only [reflected, List.map_append]

theorem pause_reflected (c : K × K) (delay : Delay) (t : Turtle K) (pauses : ℕ) :
    pause delay (t.reflected c) pauses = (pause delay t pauses).reflected c := by
  cases delay with
  | none => rfl
  | some outcome =>
    simp only [pause]
    cases outcome (pauses + 1) with
    | none => rfl
    | some e => rfl

variable [LinearOrder K] [FloorRing K] [Trig K]

/-- Walking the opposite way across a point leads to the point across. -/
theorem forward_reflected (c : K × K) (distance : K) (t : Turtle K) (pauses : ℕ) :
    forward (-distance) (t.reflected c) pauses = (forward distance t pauses).reflected c := by
  have hx : c.1 - t.x + c.1 + -distance * Trig.cos t.heading =
      c.1 - (t.x + distance * Trig.cos t.heading) + c.1 := by ring
  have hy : c.2 - t.y + c.2 + -distance * Trig.sin t.heading =
      c.2 - (t.y + distance * Trig.sin t.heading) + c.2 := by ring
  show move (t.reflected c) pauses (c.1 - t.x + c.1 + -distance * Trig.cos t.heading,
    c.2 - t.y + c.2 + -distance * Trig.sin t.heading) = _
  rw [hx, hy]
  rfl

/-- The turn does not depend on where the turtle stands. -/
theorem turn_reflected (c : K × K) (angle : K) (t : Turtle K) (pauses : ℕ) :
    turn angle (t.reflected c) pauses = (turn angle t pauses).reflected c := by
  have hturned : (t.reflected c).turned angle = t.turned angle := rfl
  rw [turn, turn, hturned]
  cases t.turned angle with
  | error e => rfl
  | ok heading => rfl

/-- **Chords of the opposite length** are the chords across a point. -/
theorem chords_reflected (c : K × K) (delay : Delay) (chord angle : K) (n : ℕ) (t : Turtle K)
    (pauses : ℕ) :
    chords delay (-chord) angle n (t.reflected c) pauses =
      (chords delay chord angle n t pauses).reflected c := by
  induction n generalizing t pauses with
  | zero => rfl
  | succ n ih =>
    rw [chords, chords, forward_reflected]
    refine andThen_reflected (fun t pauses => ?_) _
    rw [turn_reflected]
    refine andThen_reflected (fun t pauses => ?_) _
    rw [pause_reflected]
    exact andThen_reflected ih _

end Walk

/-! ### Arcs across the start -/

variable [LinearOrder K] [FloorRing K] [Trig K]

namespace Turtle

/-- The opposite radius gives chords of the opposite length, or the same failure. -/
theorem chordLength_neg (radius extent : K) (n : ℕ) :
    chordLength (-radius) extent n = (chordLength radius extent n).map Neg.neg := by
  have harc : ((2 : ℤ) : K) * Trig.pi * -radius * extent =
      -(((2 : ℤ) : K) * Trig.pi * radius * extent) := by ring
  show Scalar.div (((2 : ℤ) : K) * Trig.pi * -radius * extent) (((360 : ℤ) : K) * ((n : ℤ) : K)) =
    (Scalar.div (((2 : ℤ) : K) * Trig.pi * radius * extent)
      (((360 : ℤ) : K) * ((n : ℤ) : K))).map Neg.neg
  simp only [Scalar.div, harc, neg_div]
  split <;> rfl

/-- The opposite radius gives the same number of chords and the same turns. -/
theorem arc_neg (t : Turtle K) (radius extent : K) (steps : Option (Except Fault ℤ)) :
    t.arc (-radius) extent steps =
      (t.arc radius extent steps).map fun a => { a with chord := -a.chord } := by
  simp only [arc, chordLength_neg]
  cases t.arcChords steps with
  | error e => rfl
  | ok n =>
    simp only [Except.ok_bind]
    cases chordLength radius extent n with
    | error e => rfl
    | ok chord =>
      simp only [Except.map, Except.ok_bind]
      cases (Scalar.div extent (Scalar.int n) : Except Fault K) <;> rfl

end Turtle

/-- **The walk of an arc of the opposite radius** is the walk of the arc across the start. -/
theorem Step.walk_circle_neg (delay : Delay) (radius extent : K)
    (steps : Option (Except Fault ℤ)) (t : Turtle K) (pauses : ℕ) :
    (circle (-radius) extent steps).walk delay t pauses =
      ((circle radius extent steps).walk delay t pauses).reflected t.position := by
  have hzero : Scalar.isZero (-radius) = Scalar.isZero radius := decide_eq_decide.2 neg_eq_zero
  -- A turtle is across its own position already when it starts.
  nth_rewrite 1 [← t.reflected_position]
  rw [walk, walk, hzero]
  split
  · rfl
  split
  · exact Walk.turn_reflected t.position extent t pauses
  · rw [t.reflected_position, t.arc_neg]
    cases t.arc radius extent steps with
    | error e => exact congrArg (Walk.stuck · pauses e) t.reflected_position.symm
    | ok a =>
      have hchords := Walk.chords_reflected t.position delay a.chord a.angle a.count t pauses
      rwa [t.reflected_position] at hchords

/-! ### Runs across the start -/

namespace Scene

/-- The points on the path of a step: the start, and where each of its moves arrives. -/
def vertices (s : Scene K (Recorder K)) (step : Step K) : List (K × K) :=
  s.turtle.position :: s.arrivals [step]

/-- Of two steps from one scene the second one runs across the start from the first one. -/
structure Opposite (s : Scene K (Recorder K)) (step step' : Step K) : Prop where
  /-- Each point of the path is across the start from the point that corresponds to it. -/
  vertices : s.vertices step' = (s.vertices step).map (pointReflection s.turtle.position)
  /-- With the pen down the lines that are drawn are those between points that follow each other. -/
  traced : s.turtle.isDown = true → ∀ a ∈ [step, step'], ∃ lines : List (Drawn K),
    (a.perform.after s).surface.drawn = lines.reverse ++ s.surface.drawn ∧
      lines.filterMap Drawn.segment? = polyline s.turtle.position (s.vertices a).tail
  /-- What is drawn is drawn across the start. -/
  drawn : ∃ lines : List (Drawn K),
    (step.perform.after s).surface.drawn = lines.reverse ++ s.surface.drawn ∧
      (step'.perform.after s).surface.drawn =
        (lines.map (Drawn.reflected s.turtle.position)).reverse ++ s.surface.drawn
  count : (step'.perform.after s).surface.drawn.length =
    (step.perform.after s).surface.drawn.length
  /-- The turtles end across the start from each other. -/
  position : (step'.perform.after s).turtle.position =
    pointReflection s.turtle.position (step.perform.after s).turtle.position
  heading : (step'.perform.after s).turtle.heading = (step.perform.after s).turtle.heading
  pauses : (step'.perform.after s).pauses = (step.perform.after s).pauses
  /-- Either both return, or both fail in the same way. -/
  outcome : (∃ t t', step.perform s = .ok () t ∧ step'.perform s = .ok () t') ∨
    ∃ e t t', step.perform s = .error e t ∧ step'.perform s = .error e t'

end Scene

/-- **Arcs of opposite radii are across their start from each other.**  Whatever the turtle, the
extent and the number of chords, and whichever pause fails: each end of a chord of the one arc is
across the start from that of the other, both draw as many lines and make as many pauses, and both
leave the turtle with the same heading. -/
theorem Turtle.circle_opposite (s : Scene K (Recorder K)) (radius extent : K)
    (steps : Option (Except Fault ℤ)) :
    s.Opposite (.circle radius extent steps) (.circle (-radius) extent steps) := by
  let w (r : K) := (Step.circle r extent steps).walk s.delay s.turtle s.pauses
  have hrun (r : K) : (Step.circle r extent steps).perform s = (w r).on s :=
    (Step.circle r extent steps).perform_eq (Exact.isReal s.turtle)
  have hafter (r : K) : (Step.circle r extent steps).perform.after s = (w r).sceneAfter s :=
    Walk.after_of_on (hrun r)
  have hneg : w (-radius) = (w radius).reflected s.turtle.position :=
    Step.walk_circle_neg s.delay radius extent steps s.turtle s.pauses
  have hvertices (r : K) : s.vertices (.circle r extent steps) =
      s.turtle.position :: (w r).events.filterMap Event.arrival? := by
    show _ :: ((w r).events ++ []).filterMap Event.arrival? = _
    rw [List.append_nil]
  have hdrawn : (w (-radius)).drawn = (w radius).drawn.map (Drawn.reflected s.turtle.position) := by
    rw [hneg, Walk.drawn_reflected]
  have hmotion (r : K) : (Step.circle r extent steps).isMotion = true := rfl
  have htraced (r : K) : Tracing s.turtle (w r).events (w r).turtle :=
    Step.related_walk composes_tracing s.delay (Step.asks_tracing (hmotion r) s.turtle) s.pauses
  constructor
  case vertices =>
    rw [hvertices, hvertices, hneg, Walk.arrivals_reflected, List.map_cons,
      Equiv.pointReflection_self]
  case traced =>
    intro hdown a ha
    obtain ⟨r, rfl⟩ : ∃ r, a = .circle r extent steps := by
      rcases List.mem_pair.1 ha with rfl | rfl
      · exact ⟨_, rfl⟩
      · exact ⟨_, rfl⟩
    rw [hafter, hvertices]
    exact ⟨(w r).drawn, rfl, (htraced r hdown).1⟩
  case drawn =>
    rw [hafter, hafter]
    refine ⟨(w radius).drawn, rfl, ?_⟩
    rw [← hdrawn]
    rfl
  case count =>
    rw [hafter, hafter]
    simp only [Walk.sceneAfter, hdrawn, List.length_append, List.length_reverse, List.length_map]
  case position =>
    rw [hafter, hafter, hneg]
    rfl
  case heading =>
    rw [hafter, hafter, hneg]
    rfl
  case pauses =>
    rw [hafter, hafter, hneg]
    rfl
  case outcome =>
    have hfault : (w (-radius)).fault = (w radius).fault := by rw [hneg]; rfl
    cases hw : (w radius).fault with
    | none =>
      exact .inl ⟨_, _, (hrun radius).trans (Walk.on_of_none hw s),
        (hrun (-radius)).trans (Walk.on_of_none (hfault.trans hw) s)⟩
    | some e =>
      exact .inr ⟨e, _, _, (hrun radius).trans (Walk.on_of_some hw s),
        (hrun (-radius)).trans (Walk.on_of_some (hfault.trans hw) s)⟩

end TurtleCanvas
