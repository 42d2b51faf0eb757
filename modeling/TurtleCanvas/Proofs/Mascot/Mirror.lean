import TurtleCanvas.Mascot.Stroke
import TurtleCanvas.Proofs.Exact.Real
import TurtleCanvas.Proofs.Exact.WellFormed

/-!
# Strokes are drawn as seen in a mirror

A stroke is meant for a sheet whose rows grow upward and whose headings grow counter-clockwise.  In
exact arithmetic the turtle draws the mirror image of what a pencil draws on such a sheet.

* `Pencil` is the pencil, whose angle is never folded, and `Pencil.follow` what it draws;
* `Turtle.Reflects` relates a turtle to a pencil, and `Walk.Mirrors` a walk to what a pencil draws;
* `Stroke.draw_mirrors` says that a stroke is drawn as the pencil's segments, turned over.
-/

namespace TurtleCanvas

open scoped Exact

/-! ### The pencil -/

/-- An item of the path of a stroke. -/
inductive Leg (K : Type) where
  | heading (angle : K)
  | arc (radius extent : K)

namespace Leg

variable {K : Type}

/-- The item as it stands in a path. -/
def item : Leg K → PathItem K
  | heading angle => .heading angle
  | arc radius extent => .arc (.ok (radius, extent))

/-- What the turtle is told for the item: headings are taken the other way round. -/
def step [Neg K] : Leg K → Step K
  | heading angle => .setHeading (-angle)
  | arc radius extent => .circle radius extent none

end Leg

/-- A pencil on a sheet whose rows grow upward, with its angle counter-clockwise. -/
structure Pencil (K : Type) where
  x : K
  y : K
  phi : K

/-- The segment seen in a mirror that lies along the rows, half the height up. -/
def Segment.mirrored {K : Type} [Sub K] (height : K) (g : Segment K) : Segment K :=
  ⟨g.x0, height - g.y0, g.x1, height - g.y1⟩

namespace Pencil

variable {K : Type} [Field K] [Trig K]

/-- The pencil moved along its angle. -/
def advance (p : Pencil K) (distance : K) : Pencil K :=
  { p with x := p.x + distance * Trig.cos p.phi, y := p.y + distance * Trig.sin p.phi }

/-- The pencil turned clockwise. -/
def turn (p : Pencil K) (angle : K) : Pencil K := { p with phi := p.phi - angle }

/-- The segments of a number of chords, with a turn after each, and the pencil after them. -/
def chords (distance angle : K) : Nat → Pencil K → List (Segment K) × Pencil K
  | 0, p => ([], p)
  | n + 1, p =>
    let q := p.advance distance
    let rest := chords distance angle n (q.turn angle)
    (⟨p.x, p.y, q.x, q.y⟩ :: rest.1, rest.2)

variable [DecidableEq K]

/-- The segments of an item, and the pencil after it. -/
def followLeg (steps : Nat) : Leg K → Pencil K → List (Segment K) × Pencil K
  | .heading angle, p => ([], { p with phi := angle })
  | .arc radius extent, p =>
    if extent = 0 then ([], p)
    else if radius = 0 then ([], p.turn extent)
    else
      chords (Trig.pi * (radius + radius) * extent / ((360 * steps : ℕ) : K)) (extent / steps) steps p

/-- The segments of a path, and the pencil after it. -/
def follow (steps : Nat) : List (Leg K) → Pencil K → List (Segment K) × Pencil K
  | [], p => ([], p)
  | leg :: rest, p =>
    let first := followLeg steps leg p
    let others := follow steps rest first.2
    (first.1 ++ others.1, others.2)

end Pencil

variable {K : Type} [Field K] [LinearOrder K] [IsStrictOrderedRing K] [FloorRing K] [Trig K]

/-! ### Turtles and pencils -/

/-- The pen of a turtle is down and of a colour and width, and its arcs have a number of chords. -/
structure Turtle.Holds (t : Turtle K) (colour : Colour) (width steps : Nat) : Prop where
  isDown : t.isDown = true
  penColour : t.penColour = colour
  penSize : t.penSize = width
  arcSteps : t.arcSteps = steps

/-- A turtle stands at the mirror image of a pencil and looks in the mirror image of its angle. -/
structure Turtle.Reflects (height : K) (t : Turtle K) (p : Pencil K) : Prop where
  x : t.x = p.x
  y : t.y = height - p.y
  heading : t.heading = folded (-p.phi)

/-- A walk draws the mirror image of what a pencil draws.  A pause that fails ends it before its
time, and then it draws the first of that. -/
structure Walk.Mirrors (height : K) (colour : Colour) (width steps : Nat) (delay : Delay)
    (w : Walk K) (out : List (Segment K) × Pencil K) : Prop where
  returned : w.fault = none →
    w.drawn = out.1.map (fun g => .line (g.mirrored height) colour width) ∧
      w.turtle.Reflects height out.2 ∧ w.turtle.Holds colour width steps
  failed : ∀ e, w.fault = some e →
    (∃ outcome k, delay = some outcome ∧ outcome k = some e) ∧
      w.drawn <+: out.1.map fun g => .line (g.mirrored height) colour width

variable {height : K} {colour : Colour} {width steps : Nat} {delay : Delay}

/-! ### Walks in the mirror -/

namespace Walk.Mirrors

omit [IsStrictOrderedRing K] [Trig K] in
theorem still {t : Turtle K} {p : Pencil K} (ht : t.Reflects height p)
    (hpen : t.Holds colour width steps) (pauses : Nat) :
    (Walk.still t pauses).Mirrors height colour width steps delay ([], p) where
  returned _ := ⟨rfl, ht, hpen⟩
  failed _ h := nomatch h

omit [IsStrictOrderedRing K] [Trig K] in
/-- Two walks in sequence mirror what is drawn by one pencil after the other. -/
theorem andThen {w : Walk K} {next : Turtle K → Nat → Walk K} {a b : List (Segment K)}
    {p q : Pencil K} (hw : w.Mirrors height colour width steps delay (a, p))
    (hnext : ∀ t pauses, t.Reflects height p → t.Holds colour width steps →
      (next t pauses).Mirrors height colour width steps delay (b, q)) :
    (w.andThen next).Mirrors height colour width steps delay (a ++ b, q) := by
  cases hfault : w.fault with
  | some e =>
    rw [andThen_of_some hfault]
    refine ⟨fun h => absurd (hfault.symm.trans h) (by simp), fun e' he' => ?_⟩
    obtain ⟨hdelay, hdrawn⟩ := hw.failed e' he'
    exact ⟨hdelay, hdrawn.trans (by simp)⟩
  | none =>
    -- The second walk starts where the first one left the turtle, in the mirror image of `p`.
    obtain ⟨hdrawn, hreflects, hpen⟩ := hw.returned hfault
    have hrest := hnext w.turtle w.pauses hreflects hpen
    have happend : (w.andThen next).drawn = w.drawn ++ (next w.turtle w.pauses).drawn := by
      rw [andThen_of_none hfault]
      exact List.flatMap_append
    have hfault' : (w.andThen next).fault = (next w.turtle w.pauses).fault := by
      rw [andThen_of_none hfault]
    have hturtle : (w.andThen next).turtle = (next w.turtle w.pauses).turtle := by
      rw [andThen_of_none hfault]
    constructor
    case returned =>
      intro h
      obtain ⟨hdrawn', hreflects', hpen'⟩ := hrest.returned (hfault' ▸ h)
      rw [happend, hturtle, hdrawn, hdrawn', List.map_append]
      exact ⟨rfl, hreflects', hpen'⟩
    case failed =>
      intro e he
      obtain ⟨hdelay, hdrawn'⟩ := hrest.failed e (hfault' ▸ he)
      rw [happend, hdrawn, List.map_append]
      exact ⟨hdelay, (List.prefix_append_right_inj _).2 hdrawn'⟩

omit [IsStrictOrderedRing K] [Trig K] in
theorem pause {t : Turtle K} {p : Pencil K} (ht : t.Reflects height p)
    (hpen : t.Holds colour width steps) (pauses : Nat) :
    (Walk.pause delay t pauses).Mirrors height colour width steps delay ([], p) := by
  cases delay with
  | none => exact still ht hpen pauses
  | some outcome =>
    cases h : outcome (pauses + 1) with
    | none =>
      have hpause : Walk.pause (some outcome) t pauses = Walk.still t (pauses + 1) := by
        simp only [Walk.pause, h]
      rw [hpause]
      exact still ht hpen _
    | some e =>
      have hpause : Walk.pause (some outcome) t pauses = stuck t (pauses + 1) e := by
        simp only [Walk.pause, h]
      rw [hpause]
      refine ⟨(nomatch ·), fun e' he' => ⟨⟨outcome, pauses + 1, rfl, ?_⟩, List.nil_prefix⟩⟩
      exact h.trans he'

variable [LawfulTrig K]

omit [IsStrictOrderedRing K] in
/-- A step forward moves the turtle to the mirror image of where it moves the pencil: the turtle
looks against the pencil's angle, which changes the sign of the sine alone. -/
theorem forward {t : Turtle K} {p : Pencil K} (ht : t.Reflects height p)
    (hpen : t.Holds colour width steps) (distance : K) (pauses : Nat) :
    (Walk.forward distance t pauses).Mirrors height colour width steps delay
      ([⟨p.x, p.y, (p.advance distance).x, (p.advance distance).y⟩], p.advance distance) := by
  have hcos : Trig.cos t.heading = Trig.cos p.phi := by
    rw [ht.heading, cos_folded, LawfulTrig.cos_even]
  have hsin : Trig.sin t.heading = -Trig.sin p.phi := by
    rw [ht.heading, sin_folded, LawfulTrig.sin_odd]
  have hx : t.x + distance * Trig.cos t.heading = (p.advance distance).x := by
    rw [hcos, ht.x, Pencil.advance]
  have hy : t.y + distance * Trig.sin t.heading = height - (p.advance distance).y := by
    rw [hsin, ht.y, Pencil.advance]
    ring
  have hforward : Walk.forward distance t pauses =
      move t pauses ((p.advance distance).x, height - (p.advance distance).y) := by
    rw [Walk.forward, Exact.ahead_eq, hx, hy, upon]
  rw [hforward]
  refine ⟨fun _ => ⟨?_, ⟨rfl, rfl, ht.heading⟩, hpen.isDown, hpen.penColour, hpen.penSize,
    hpen.arcSteps⟩, fun e he => absurd he (Option.some_ne_none e).symm⟩
  simp [move, drawn, Event.drawn, hpen.isDown, hpen.penColour, hpen.penSize, ht.x, ht.y,
    Segment.mirrored]

omit [LawfulTrig K] in
theorem turn {t : Turtle K} {p : Pencil K} (ht : t.Reflects height p)
    (hpen : t.Holds colour width steps) (angle : K) (pauses : Nat) :
    (Walk.turn angle t pauses).Mirrors height colour width steps delay ([], p.turn angle) := by
  have hheading : folded (t.heading + angle) = folded (-(p.turn angle).phi) := by
    rw [ht.heading, folded_folded_add, Pencil.turn]
    ring_nf
  have hturn : Walk.turn angle t pauses =
      Walk.still { t with heading := folded (-(p.turn angle).phi) } pauses := by
    rw [Walk.turn, Exact.turned_eq, hheading, upon]
  rw [hturn]
  have hturned : Turtle.Reflects height { t with heading := folded (-(p.turn angle).phi) }
      (p.turn angle) := ⟨ht.x, ht.y, rfl⟩
  exact still hturned ⟨hpen.isDown, hpen.penColour, hpen.penSize, hpen.arcSteps⟩ pauses

theorem chords {t : Turtle K} {p : Pencil K} (ht : t.Reflects height p)
    (hpen : t.Holds colour width steps) (distance angle : K) (n pauses : Nat) :
    (Walk.chords delay distance angle n t pauses).Mirrors height colour width steps delay
      (Pencil.chords distance angle n p) := by
  induction n generalizing t p pauses with
  | zero => exact still ht hpen pauses
  | succ n ih =>
    -- A chord is drawn by the step forward alone; the turn and the pause add no segment.
    refine (forward ht hpen distance pauses).andThen (b := [] ++ ([] ++ _)) ?_
    intro t pauses ht hpen
    refine (turn ht hpen angle pauses).andThen fun t pauses ht hpen => ?_
    exact (pause ht hpen pauses).andThen fun t pauses ht hpen => ih ht hpen pauses

/-- An item of a path mirrors what the pencil draws of it. -/
theorem leg (hsteps : 1 ≤ steps) {t : Turtle K} {p : Pencil K} (ht : t.Reflects height p)
    (hpen : t.Holds colour width steps) (leg : Leg K) (pauses : Nat) :
    (leg.step.walk delay t pauses).Mirrors height colour width steps delay
      (Pencil.followLeg steps leg p) := by
  cases leg with
  | heading angle =>
    have hwalk : (Leg.heading angle).step.walk delay t pauses =
        Walk.still { t with heading := folded (-angle) } pauses := by
      rw [Leg.step, Step.walk, Exact.foldHeading_eq, upon]
    have hheading : Turtle.Reflects height { t with heading := folded (-angle) }
        { p with phi := angle } := ⟨ht.x, ht.y, rfl⟩
    rw [hwalk]
    exact still hheading ⟨hpen.isDown, hpen.penColour, hpen.penSize, hpen.arcSteps⟩ pauses
  | arc radius extent =>
    show (if decide (extent = 0) then _ else if decide (radius = 0) then _ else _ : Walk K).Mirrors
      height colour width steps delay (if extent = 0 then _ else if radius = 0 then _ else _)
    by_cases hextent : extent = 0
    · rw [if_pos hextent, if_pos (decide_eq_true hextent)]
      exact still ht hpen pauses
    rw [if_neg hextent, if_neg (by simpa using hextent)]
    by_cases hradius : radius = 0
    · rw [if_pos hradius, if_pos (decide_eq_true hradius)]
      exact turn ht hpen extent pauses
    have harc : t.arc radius extent none = .ok (Exact.arc radius extent t.arcSteps) :=
      Exact.arc_of_chords rfl (hpen.arcSteps.symm ▸ hsteps) radius extent
    have hparts : ((360 * steps : ℕ) : K) = 360 * steps := by push_cast; rfl
    rw [if_neg hradius, if_neg (by simpa using hradius), harc, upon, hpen.arcSteps, hparts]
    exact chords ht hpen _ _ steps pauses

/-- A path mirrors what the pencil draws of it. -/
theorem path (hsteps : 1 ≤ steps) {t : Turtle K} {p : Pencil K} (ht : t.Reflects height p)
    (hpen : t.Holds colour width steps) (legs : List (Leg K)) (pauses : Nat) :
    (Step.walkProgram delay (legs.map Leg.step) t pauses).Mirrors height colour width steps delay
      (Pencil.follow steps legs p) := by
  induction legs generalizing t p pauses with
  | nil => exact still ht hpen pauses
  | cons first rest ih =>
    exact (leg hsteps ht hpen first pauses).andThen fun t pauses ht hpen => ih ht hpen pauses

end Walk.Mirrors

/-! ### Strokes -/

namespace Stroke

/-- A stroke that is given by plain values. -/
def plain (name : String) (start : K × K) (legs : List (Leg K)) (colour : Option Colour)
    (width : Option Int) : Stroke K :=
  ⟨name, .ok start, legs.map Leg.item, colour.map .ok, width.map .ok⟩

/-- What the turtle is told before the path of a stroke. -/
def prelude (height : K) (start : K × K) (colour : Option Colour) (width : Option Int) :
    List (Step K) :=
  [.penUp, .setPosition start.1 (height - start.2)] ++ (colour.map fun c => Step.colour (.ok c)).toList
    ++ (width.map fun n => Step.penSize (.ok n)).toList ++ [.penDown]

/-- The turtle at the start of a stroke. -/
def ready (height : K) (start : K × K) (colour : Option Colour) (width : Option Int)
    (t : Turtle K) : Turtle K :=
  { t with
    x := start.1
    y := height - start.2
    isDown := true
    penColour := colour.getD t.penColour
    penSize := (width.map fun n => (max 1 n).toNat).getD t.penSize }

omit [IsStrictOrderedRing K] in
theorem walkProgram_colour (colour : Option Colour) (delay : Delay) (rest : List (Step K))
    (t : Turtle K) (pauses : Nat) :
    Step.walkProgram delay ((colour.map fun c => Step.colour (.ok c)).toList ++ rest) t pauses =
      Step.walkProgram delay rest { t with penColour := colour.getD t.penColour } pauses := by
  cases colour with
  | none => rfl
  | some c => exact Step.walkProgram_of_still rfl rest

omit [IsStrictOrderedRing K] in
theorem walkProgram_width (width : Option Int) (delay : Delay) (rest : List (Step K))
    (t : Turtle K) (pauses : Nat) :
    Step.walkProgram delay ((width.map fun n => Step.penSize (.ok n)).toList ++ rest) t pauses =
      Step.walkProgram delay rest { t with
        penSize := (width.map fun n => (max 1 n).toNat).getD t.penSize } pauses := by
  cases width with
  | none => rfl
  | some n => exact Step.walkProgram_of_still rfl rest

omit [IsStrictOrderedRing K] in
/-- Before its path is followed a stroke draws nothing. -/
theorem walkProgram_prelude (height : K) (start : K × K) (colour : Option Colour)
    (width : Option Int) (delay : Delay) (rest : List (Step K)) (t : Turtle K) (pauses : Nat) :
    Step.walkProgram delay (prelude height start colour width ++ rest) t pauses =
      Step.walkProgram delay rest (ready height start colour width t) pauses := by
  have hup : Step.walk delay .penUp t pauses = .still { t with isDown := false } pauses := rfl
  have hplace : Step.walk delay (.setPosition start.1 (height - start.2))
      { t with isDown := false } pauses =
        .still { t with isDown := false, x := start.1, y := height - start.2 } pauses := rfl
  simp only [prelude, List.append_assoc, List.cons_append, List.nil_append]
  rw [Step.walkProgram_of_still hup, Step.walkProgram_of_still hplace, walkProgram_colour,
    walkProgram_width]
  exact Step.walkProgram_of_still rfl rest

omit [IsStrictOrderedRing K] in
theorem follows_followItem (leg : Leg K) :
    Follows (followItem leg.item) fun delay => leg.step.walk delay := by
  cases leg with
  | heading angle => exact Step.follows_perform (.setHeading (-angle))
  | arc radius extent => exact Step.follows_perform (.circle radius extent none)

omit [IsStrictOrderedRing K] in
theorem follows_follow (legs : List (Leg K)) :
    Follows (follow (legs.map Leg.item)) fun delay =>
      Step.walkProgram delay (legs.map Leg.step) := by
  induction legs with
  | nil => exact fun s hs => ⟨rfl, hs⟩
  | cons first rest ih => exact (follows_followItem first).andThen ih

omit [IsStrictOrderedRing K] in
/-- Drawing a stroke does the walk of what the turtle is told for it. -/
theorem follows_draw (height : K) (name : String) (start : K × K) (legs : List (Leg K))
    (colour : Option Colour) (width : Option Int) :
    Follows ((plain name start legs colour width).draw height) fun delay =>
      Step.walkProgram delay (prelude height start colour width ++ legs.map Leg.step) := by
  have hup := Step.follows_perform (α := K) .penUp
  have hplace := Step.follows_perform (.setPosition start.1 (height - start.2))
  have hcolour := fun c : Colour => Step.follows_perform (α := K) (.colour (.ok c))
  have hwidth := fun n : Int => Step.follows_perform (α := K) (.penSize (.ok n))
  have hpath := (Step.follows_perform .penDown).andThen (follows_follow legs)
  rcases colour with _ | c <;> rcases width with _ | n
  · exact hup.andThen (hplace.andThen hpath)
  · exact hup.andThen (hplace.andThen ((hwidth n).andThen hpath))
  · exact hup.andThen (hplace.andThen ((hcolour c).andThen hpath))
  · exact hup.andThen (hplace.andThen ((hcolour c).andThen ((hwidth n).andThen hpath)))

omit [IsStrictOrderedRing K] in
theorem draw_eq (height : K) (name : String) (start : K × K) (legs : List (Leg K))
    (colour : Option Colour) (width : Option Int) (s : Scene K (Recorder K)) :
    (plain name start legs colour width).draw height s =
      (Step.walkProgram s.delay (legs.map Leg.step) (ready height start colour width s.turtle)
        s.pauses).on s := by
  rw [← walkProgram_prelude]
  exact (follows_draw height name start legs colour width s (Exact.isReal _)).1

omit [Trig K] in
/-- At the start of a stroke the turtle stands at the mirror image of the pencil. -/
theorem reflects_ready (height : K) (start : K × K) (colour : Option Colour) (width : Option Int)
    {t : Turtle K} (ht : t.WellFormed) :
    (ready height start colour width t).Reflects height ⟨start.1, start.2, -t.heading⟩ := by
  refine ⟨rfl, rfl, ?_⟩
  rw [neg_neg, folded_of_mem ht.nonneg ht.lt_full]
  rfl

/-- **A stroke is drawn as seen in a mirror.**  The lines drawn for a stroke are the segments that a
pencil draws on the sheet, turned over, in the stroke's colour and width or else in the turtle's;
then the turtle stands where the pencil stands, turned over, and its heading is the pencil's angle
the other way round.  Only a pause that fails ends the stroke before its time, and then the lines
are the first of them. -/
theorem draw_mirrors [LawfulTrig K] (height : K) (name : String) (start : K × K)
    (legs : List (Leg K)) (colour : Option Colour) (width : Option Int)
    (s : Scene K (Recorder K)) (hs : s.turtle.WellFormed) :
    let out := Pencil.follow s.turtle.arcSteps legs ⟨start.1, start.2, -s.turtle.heading⟩
    let lines := out.1.map fun g => Drawn.line (g.mirrored height)
      (colour.getD s.turtle.penColour)
      ((width.map fun n => (max 1 n).toNat).getD s.turtle.penSize)
    (∃ s', (plain name start legs colour width).draw height s = .ok () s' ∧
      s'.surface.drawn.reverse = s.surface.drawn.reverse ++ lines ∧
      s'.turtle.x = out.2.x ∧ s'.turtle.y = height - out.2.y ∧
      s'.turtle.heading = folded (-out.2.phi)) ∨
    (∃ e s', (plain name start legs colour width).draw height s = .error e s' ∧
      (∃ outcome k, s.delay = some outcome ∧ outcome k = some e) ∧
      ∃ first, first <+: lines ∧
        s'.surface.drawn.reverse = s.surface.drawn.reverse ++ first) := by
  intro out lines
  have hrun := draw_eq height name start legs colour width s
  have hmirrors : (Step.walkProgram s.delay (legs.map Leg.step)
      (ready height start colour width s.turtle) s.pauses).Mirrors height _ _ _ s.delay _ :=
    Walk.Mirrors.path hs.one_le (reflects_ready height start colour width hs)
      ⟨rfl, rfl, rfl, rfl⟩ legs s.pauses
  generalize Step.walkProgram s.delay (legs.map Leg.step)
    (ready height start colour width s.turtle) s.pauses = w at hrun hmirrors
  cases hfault : w.fault with
  | none =>
    obtain ⟨hdrawn, hreflects, -⟩ := hmirrors.returned hfault
    refine .inl ⟨_, hrun.trans (Walk.on_of_none hfault s), ?_, hreflects.x, hreflects.y,
      hreflects.heading⟩
    rw [Walk.sceneAfter, hdrawn, List.reverse_append, List.reverse_reverse]
    rfl
  | some e =>
    obtain ⟨hdelay, hdrawn⟩ := hmirrors.failed e hfault
    refine .inr ⟨e, _, hrun.trans (Walk.on_of_some hfault s), hdelay, w.drawn, hdrawn, ?_⟩
    rw [Walk.sceneAfter, List.reverse_append, List.reverse_reverse]

/-- A stroke that goes up the sheet and turns by one degree goes up the picture. -/
theorem draw_mirrors_stalk :
    (⟨0, 0, 0, false, 1, Colour.black, 1⟩ : Turtle ℝ).WellFormed ∧
      ∃ s' : Scene ℝ (Recorder ℝ),
        (plain "stalk" (10, 20) [.heading 90, .arc 180 1] none (some 5)).draw (600 : ℝ)
            ⟨⟨0, 0, 0, false, 1, Colour.black, 1⟩, ⟨[]⟩, none, 0, []⟩ = .ok () s' ∧
          s'.surface.drawn.reverse = [.line ⟨10, 580, 10, 580 - Real.pi⟩ Colour.black 5] ∧
          s'.turtle.heading = 271 := by
  have hs : (⟨0, 0, 0, false, 1, Colour.black, 1⟩ : Turtle ℝ).WellFormed :=
    ⟨le_rfl, by norm_num, le_rfl⟩
  have hchord : Trig.pi * (180 + 180) * 1 / ((360 * 1 : ℕ) : ℝ) = Real.pi := by
    show Real.pi * (180 + 180) * 1 / ((360 * 1 : ℕ) : ℝ) = Real.pi
    push_cast
    ring
  have hout : Pencil.follow 1 [.heading 90, .arc 180 1] (⟨10, 20, -0⟩ : Pencil ℝ) =
      ([⟨10, 20, 10, 20 + Real.pi⟩], ⟨10, 20 + Real.pi, 89⟩) := by
    simp only [Pencil.follow, Pencil.followLeg, one_ne_zero, if_false, OfNat.ofNat_ne_zero, hchord,
      Pencil.chords, Pencil.advance, Pencil.turn, Exact.cos_right_angle, Exact.sin_right_angle]
    norm_num
  refine ⟨hs, ?_⟩
  rcases draw_mirrors (600 : ℝ) "stalk" (10, 20) [.heading 90, .arc 180 1] none (some 5)
    ⟨⟨0, 0, 0, false, 1, Colour.black, 1⟩, ⟨[]⟩, none, 0, []⟩ hs with
    ⟨s', hrun, hdrawn, -, -, hheading⟩ | ⟨e, s', -, ⟨outcome, k, hdelay, -⟩, -⟩
  · rw [hout] at hdrawn hheading
    refine ⟨s', hrun, hdrawn.trans ?_, hheading.trans ?_⟩
    · have htop : (600 : ℝ) - 20 = 580 := by norm_num
      rw [List.map_singleton, Segment.mirrored, sub_add_eq_sub_sub, htop]
      rfl
    · exact (eq_folded (n := -1) (by norm_num) (by norm_num) (by norm_num)).symm
  · exact nomatch hdelay

end Stroke

end TurtleCanvas
