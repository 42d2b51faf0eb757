import TurtleCanvas.Proofs.Canvas.Overlay
import TurtleCanvas.Proofs.Canvas.ThinLine
import TurtleCanvas.Proofs.Exact.Real
import TurtleCanvas.Proofs.Turtle.Motion
import TurtleCanvas.Proofs.Turtle.Surfaces

/-!
# Curves have no gaps

A turtle that moves with a thin pen on the pixels of a canvas leaves a curve: each line that it draws
is a path of pixels from the pixel where the line before it ended.

* `polyline` are the segments between points that follow each other, and `Tracing` says that these
  are what a turtle draws of the points at which it arrives;
* `Step.leave_onCanvas` says that a run of motions leaves the canvas with the lines of its walk;
* `LinePath` says that a path of pixels is what a line paints;
* `Scene.DrawsCurve` says that what a run draws is a curve without gaps, and `Scene.curve_connected`
  when it is.
-/

namespace TurtleCanvas

section

variable {α : Type}

/-! ### Polylines -/

/-- The segments between points that follow each other, from a point on. -/
def polyline : α × α → List (α × α) → List (Segment α)
  | _, [] => []
  | p, q :: rest => ⟨p.1, p.2, q.1, q.2⟩ :: polyline q rest

theorem polyline_append (p : α × α) (xs ys : List (α × α)) :
    polyline p (xs ++ ys) = polyline p xs ++ polyline (xs.getLastD p) ys := by
  induction xs generalizing p with
  | nil => rfl
  | cons q rest ih => rw [List.cons_append, polyline, polyline, ih, List.getLastD_cons]; rfl

theorem mem_of_mem_polyline {p : α × α} {points : List (α × α)} {g : Segment α}
    (hg : g ∈ polyline p points) : (g.x0, g.y0) ∈ p :: points ∧ (g.x1, g.y1) ∈ points := by
  induction points generalizing p with
  | nil => exact absurd hg List.not_mem_nil
  | cons q rest ih =>
    rcases List.mem_cons.1 hg with rfl | hg
    · exact ⟨List.mem_cons_self, List.mem_cons_self⟩
    · obtain ⟨hstart, hstop⟩ := ih hg
      exact ⟨List.mem_cons_of_mem _ hstart, List.mem_cons_of_mem _ hstop⟩

theorem exists_mem_polyline {p q : α × α} {points : List (α × α)} (hq : q ∈ points) :
    ∃ g ∈ polyline p points, (g.x1, g.y1) = q := by
  induction points generalizing p with
  | nil => exact absurd hq List.not_mem_nil
  | cons first rest ih =>
    rcases List.mem_cons.1 hq with rfl | hq
    · exact ⟨_, List.mem_cons_self, rfl⟩
    · obtain ⟨g, hg, hstop⟩ := ih (p := first) hq
      exact ⟨g, List.mem_cons_of_mem _ hg, hstop⟩

/-- The point at which a move arrives. -/
def Event.arrival? : Event α → Option (α × α)
  | move _ after => some after.position
  | dot .. => none

/-- With the pen down, the lines drawn of events are those between the points of arrival, and the pen
stays down. -/
def Tracing (t : Turtle α) (es : List (Event α)) (u : Turtle α) : Prop :=
  t.isDown = true →
    (es.flatMap Event.drawn).filterMap Drawn.segment? =
        polyline t.position (es.filterMap Event.arrival?) ∧
      u.position = (es.filterMap Event.arrival?).getLastD t.position ∧ u.isDown = true

theorem composes_tracing [Scalar α] : Walk.Composes (Tracing (α := α)) where
  append h h' := by
    intro ht
    obtain ⟨hes, hu, hdown⟩ := h ht
    obtain ⟨hes', hv, hdown'⟩ := h' hdown
    rw [List.flatMap_append, List.filterMap_append, List.filterMap_append, hes, hes',
      polyline_append, ← hu]
    refine ⟨rfl, ?_, hdown'⟩
    rw [hv, hu]
    simp [List.getLastD_eq_getLast?]
  move t x y := by
    intro ht
    rw [List.flatMap_singleton, Event.drawn, if_pos ht]
    exact ⟨rfl, rfl, ht⟩
  turn _ _ _ _ := fun ht => ⟨rfl, rfl, ht⟩
  restyle _ _ _ := fun ht => ⟨rfl, rfl, ht⟩
  -- A turtle drifts only with the pen up.
  drift _ hup := fun ht => absurd (hup.symm.trans ht) Bool.false_ne_true

theorem Step.asks_tracing {step : Step α} (h : step.isMotion = true) (t : Turtle α) :
    step.Asks Tracing t := by
  cases step with
  | penUp | penDown | setPosition x y | dot size ink => exact nomatch h
  | _ => trivial

/-! ### What a walk paints -/

/-- The call that draws a line or a dot. -/
def Drawn.paint : Drawn α → Paint α
  | line g colour width => .line g (.ok colour) (.ok width)
  | dot x y diameter colour => .dot x y diameter (.ok colour)

/-- A line or a dot without its colour. -/
def Drawn.geometry : Drawn α → Geometry α
  | line g _ width => .line g (.ok width)
  | dot x y diameter _ => .dot x y diameter

/-- Lines of a colour and width are known by their segments. -/
theorem Drawn.eq_map_segment {colour : Colour} {width : ℕ} {drawn : List (Drawn α)}
    (h : ∀ d ∈ drawn, ∃ g, d = .line g colour width) :
    drawn = (drawn.filterMap Drawn.segment?).map fun g => .line g colour width := by
  induction drawn with
  | nil => rfl
  | cons d rest ih =>
    obtain ⟨g, rfl⟩ := h d List.mem_cons_self
    exact congrArg (line g colour width :: ·) (ih fun x hx => h x (List.mem_cons_of_mem _ hx))

/-- The pixels of a canvas of a size that are painted on a walk. -/
def Walk.painted [Scalar α] (width height : ℕ) (w : Walk α) : Set (ℕ × ℕ) :=
  {p | ∃ d ∈ w.drawn, p ∈ d.geometry.footprint width height}

namespace Scene

variable {σ : Type} [Scalar α]

/-- The walk of a run of steps from a scene. -/
def walk (s : Scene α σ) (steps : List (Step α)) : Walk α :=
  Step.walkAll s.delay steps s.turtle s.pauses

/-- The points at which the moves of a run arrive. -/
def arrivals (s : Scene α σ) (steps : List (Step α)) : List (α × α) :=
  (s.walk steps).events.filterMap Event.arrival?

/-- The pixels of the canvas that are painted on a run. -/
def painted (s : Scene α Canvas) (steps : List (Step α)) : Set (ℕ × ℕ) :=
  (s.walk steps).painted s.surface.width s.surface.height

end Scene

end

open Exact

variable {K : Type} [Field K] [LinearOrder K] [FloorRing K] [Trig K]

/-! ### Runs on a canvas -/

/-- What a recorder holds are thin lines of a colour, and a canvas is what they make of another
one. -/
structure ShowsLines (c₀ : Canvas) (colour : Colour) (r : Recorder K) (c : Canvas) : Prop where
  thin : ∀ d ∈ r.drawn, ∃ g, d = .line g colour 1
  canvas : c = c₀.performAll (r.drawn.reverse.map Drawn.paint)

theorem takeLines_showsLines [IsStrictOrderedRing K] {c₀ : Canvas}
    (hcounted : Canvas.IsCounted c₀.width c₀.height) {colour : Colour}
    (hcolour : Canvas.canMakeOut colour = true) :
    TakeLines K (ShowsLines (K := K) c₀ colour) fun k n => k = colour ∧ n = 1 := by
  rintro g k n r c ⟨rfl, rfl⟩ h
  obtain ⟨hw, hh⟩ := Canvas.size_performAll c₀ (r.drawn.reverse.map Drawn.paint)
  rw [← h.canvas] at hw hh
  obtain ⟨c', hperform, -⟩ := Canvas.perform_thin_line hcolour g (hw ▸ hh ▸ hcounted)
  refine ⟨⟨.line g k 1 :: r.drawn⟩, c', ⟨?_, ?_⟩, rfl, hperform⟩
  · exact List.forall_mem_cons.2 ⟨⟨g, rfl⟩, h.thin⟩
  · rw [List.reverse_cons, List.map_append, List.map_singleton, Canvas.performAll_append_singleton,
      ← h.canvas]
    exact (Action.after_of_ok hperform).symm

namespace Canvas

/-- Thin lines of a colour give the pixels of their footprints that colour, and change no other. -/
theorem pixel_performAll_thin [IsStrictOrderedRing K] {colour : Colour}
    (hcolour : canMakeOut colour = true) {c : Canvas} (hcounted : IsCounted c.width c.height)
    {drawn : List (Drawn K)}
    (h : ∀ d ∈ drawn, ∃ g, d = .line g colour 1) {i j : ℕ} (hi : i < c.width) (hj : j < c.height) :
    (c.performAll (drawn.map Drawn.paint)).picture.pixel i j =
      if ∃ d ∈ drawn, (i, j) ∈ d.geometry.footprint c.width c.height then colour.brushed
      else c.picture.pixel i j := by
  induction drawn generalizing c with
  | nil => rfl
  | cons d rest ih =>
    obtain ⟨g, rfl⟩ := h d List.mem_cons_self
    obtain ⟨c', hperform, hpixel⟩ := perform_thin_line hcolour g hcounted
    obtain ⟨hw, hh⟩ := size_perform (.line g (.ok colour) (.ok 1)) c
    rw [Action.after_of_ok hperform] at hw hh
    have hafter : c.performAll ((Drawn.line g colour 1 :: rest).map Drawn.paint) =
        c'.performAll (rest.map Drawn.paint) :=
      congrArg (performAll · (rest.map Drawn.paint)) (Action.after_of_ok hperform)
    have hrest := ih (hw.symm ▸ hh.symm ▸ hcounted) (fun x hx => h x (List.mem_cons_of_mem _ hx))
      (hw ▸ hi) (hh ▸ hj)
    rw [hw, hh, hpixel i j hi hj] at hrest
    rw [hafter, hrest]
    simp only [List.exists_mem_cons_iff]
    by_cases hlater : ∃ d ∈ rest, (i, j) ∈ d.geometry.footprint c.width c.height
    · rw [if_pos hlater, if_pos (.inr hlater)]
    · rw [if_neg hlater]
      refine if_congr ?_ rfl rfl
      rw [or_iff_left hlater]
      rfl

end Canvas

/-- A run of motions leaves a canvas with the lines of its walk, all of them thin. -/
theorem Step.leave_onCanvas [IsStrictOrderedRing K] {s : Scene K Canvas}
    (hcounted : Canvas.IsCounted s.surface.width s.surface.height)
    (hcolour : Canvas.canMakeOut s.turtle.penColour = true) (hsize : s.turtle.penSize = 1)
    {steps : List (Step K)} (hsteps : ∀ step ∈ steps, step.isMotion = true) :
    (leave s steps).turtle = (s.walk steps).turtle ∧
      (leave s steps).surface = s.surface.performAll ((s.walk steps).drawn.map Drawn.paint) ∧
      ∀ d ∈ (s.walk steps).drawn, ∃ g, d = .line g s.turtle.penColour 1 := by
  -- The same run on a recorder is known by its walk.
  have hs : Scene.Alike (ShowsLines s.surface s.turtle.penColour)
      (fun k n => k = s.turtle.penColour ∧ n = 1)
      (⟨s.turtle, ⟨[]⟩, s.delay, s.pauses, s.log⟩ : Scene K (Recorder K)) s :=
    ⟨rfl, ⟨fun d hd => absurd hd List.not_mem_nil, rfl⟩, rfl, rfl, rfl, hsize⟩
  have halike := alike_leave (takeLines_showsLines hcounted hcolour) hsteps hs
  obtain ⟨hleave, -⟩ := leave_eq steps (isReal s.turtle)
    (s := (⟨s.turtle, ⟨[]⟩, s.delay, s.pauses, s.log⟩ : Scene K (Recorder K)))
  rw [hleave] at halike
  obtain ⟨hturtle, ⟨hthin, hcanvas⟩, -⟩ := halike
  simp only [Walk.sceneAfter, List.append_nil, List.reverse_reverse, List.mem_reverse]
    at hturtle hthin hcanvas
  exact ⟨hturtle, hcanvas, hthin⟩

/-! ### Lines as paths -/

variable {width height : ℕ}

/-- A path of pixels, from that of a segment's start to that of its end, is what a line along the
segment paints. -/
structure LinePath (width height : ℕ) (g : Segment K) (path : List (ℕ × ℕ)) : Prop where
  start : Canvas.pixelAt width height g.x0 g.y0 = .ok path.head?
  stop : Canvas.pixelAt width height g.x1 g.y1 = .ok path.getLast?
  ne_nil : path ≠ []
  chain : path.IsChain Neighbours
  mem_iff : ∀ r, r ∈ path ↔ r ∈ (Geometry.line g (.ok 1)).footprint width height

namespace LinePath

theorem exists_start {g : Segment K} {path : List (ℕ × ℕ)} (h : LinePath width height g path) :
    ∃ a ∈ (Geometry.line g (.ok 1)).footprint width height,
      Canvas.pixelAt width height g.x0 g.y0 = .ok (some a) :=
  ⟨path.head h.ne_nil, (h.mem_iff _).1 (List.head_mem _), by
    rw [h.start, List.head?_eq_some_head h.ne_nil]⟩

theorem exists_stop {g : Segment K} {path : List (ℕ × ℕ)} (h : LinePath width height g path) :
    ∃ a ∈ (Geometry.line g (.ok 1)).footprint width height,
      Canvas.pixelAt width height g.x1 g.y1 = .ok (some a) :=
  ⟨path.getLast h.ne_nil, (h.mem_iff _).1 (List.getLast_mem _), by
    rw [h.stop, List.getLast?_eq_some_getLast h.ne_nil]⟩

end LinePath

/-- A point lies on a pixel of a canvas. -/
def LiesOn (width height : ℕ) (p : K × K) : Prop :=
  ∃ a, Canvas.pixelAt width height p.1 p.2 = .ok (some a)

variable [IsStrictOrderedRing K]

/-- The middle of a pixel lies on it. -/
theorem liesOn_natCast {i j : ℕ} (hi : i < width) (hj : j < height) :
    LiesOn width height ((i : K), (j : K)) := by
  refine ⟨(i, j), Canvas.pixelAt_eq_some_iff_round.2 ⟨⟨hi, hj⟩, ?_, ?_⟩⟩
  · exact_mod_cast roundHalfEven_intCast (K := K) i
  · exact_mod_cast roundHalfEven_intCast (K := K) j

theorem exists_linePath_of_liesOn (hcounted : Canvas.IsCounted width height) {p q : K × K}
    (hp : LiesOn width height p) (hq : LiesOn width height q) :
    ∃ path, LinePath width height ⟨p.1, p.2, q.1, q.2⟩ path := by
  obtain ⟨a, ha⟩ := hp
  obtain ⟨b, hb⟩ := hq
  obtain ⟨path, hpath, hmem⟩ := Geometry.exists_path hcounted (s := ⟨p.1, p.2, q.1, q.2⟩) ha hb
  refine ⟨path, ?_, ?_, List.ne_nil_of_mem hpath.first_mem, hpath.chain, hmem⟩
  · rw [hpath.head]; exact ha
  · rw [hpath.last]; exact hb

/-- Between points on pixels each line is a path, which starts where the one before it ended. -/
theorem exists_linePaths (hcounted : Canvas.IsCounted width height) {p : K × K}
    {points : List (K × K)}
    (h : ∀ q ∈ p :: points, LiesOn width height q) :
    ∃ paths, List.Forall₂ (LinePath width height) (polyline p points) paths ∧
      paths.IsChain fun path next => next.head? = path.getLast? := by
  induction points generalizing p with
  | nil => exact ⟨[], .nil, .nil⟩
  | cons q rest ih =>
    obtain ⟨path, hpath⟩ := exists_linePath_of_liesOn hcounted (h p (by simp)) (h q (by simp))
    obtain ⟨paths, hpaths, hchain⟩ := ih fun x hx => h x (List.mem_cons_of_mem _ hx)
    refine ⟨path :: paths, .cons hpath hpaths, ?_⟩
    cases rest with
    | nil =>
      obtain rfl := List.forall₂_nil_left_iff.1 hpaths
      exact .singleton _
    | cons r rest =>
      obtain ⟨next, others, hnext, -, rfl⟩ := List.forall₂_cons_left_iff.1 hpaths
      -- Both ends of the joint are the pixel of the point between the two lines.
      have hjoint : (Except.ok next.head? : Except Fault _) = .ok path.getLast? :=
        hnext.start.symm.trans hpath.stop
      exact .cons_cons (Except.ok.inj hjoint) hchain

/-- Lines between points on pixels join the pixel of the first point to all of their pixels. -/
theorem joined_of_polyline (hcounted : Canvas.IsCounted width height) {S : Set (ℕ × ℕ)} {p : K × K}
    {a : ℕ × ℕ}
    (ha : Canvas.pixelAt width height p.1 p.2 = .ok (some a)) {points : List (K × K)}
    (h : ∀ q ∈ points, LiesOn width height q)
    (hS : ∀ g ∈ polyline p points, ∀ r ∈ (Geometry.line g (.ok 1)).footprint width height, r ∈ S)
    {g : Segment K} (hg : g ∈ polyline p points) {r : ℕ × ℕ}
    (hr : r ∈ (Geometry.line g (.ok 1)).footprint width height) :
    Relation.ReflTransGen (NeighboursIn S) a r := by
  induction points generalizing p a with
  | nil => exact absurd hg List.not_mem_nil
  | cons q rest ih =>
    obtain ⟨b, hb⟩ := h q List.mem_cons_self
    obtain ⟨path, hpath, hmem⟩ := Geometry.exists_path hcounted (s := ⟨p.1, p.2, q.1, q.2⟩) ha hb
    have hin : ∀ x ∈ path, x ∈ S := fun x hx => hS _ List.mem_cons_self x ((hmem x).1 hx)
    rcases List.mem_cons.1 hg with rfl | hg
    · exact hpath.joined hin ((hmem r).2 hr)
    · have hfirst := hpath.joined hin hpath.last_mem
      exact hfirst.trans (ih hb (fun x hx => h x (List.mem_cons_of_mem _ hx))
        (fun g hg => hS g (List.mem_cons_of_mem _ hg)) hg)

/-- Lines between points on pixels paint the pixel of each point, if there is any line. -/
theorem exists_painted_of_mem (hcounted : Canvas.IsCounted width height) {p : K × K}
    {points : List (K × K)} (hne : points ≠ []) (h : ∀ q ∈ p :: points, LiesOn width height q)
    {q : K × K} (hq : q ∈ p :: points) :
    ∃ g ∈ polyline p points, ∃ a ∈ (Geometry.line g (.ok 1)).footprint width height,
      Canvas.pixelAt width height q.1 q.2 = .ok (some a) := by
  have hpath : ∀ g ∈ polyline p points, ∃ path, LinePath width height g path := by
    intro g hg
    obtain ⟨hstart, hstop⟩ := mem_of_mem_polyline hg
    exact exists_linePath_of_liesOn hcounted (h _ hstart) (h _ (List.mem_cons_of_mem _ hstop))
  rcases List.mem_cons.1 hq with rfl | hq
  · obtain ⟨first, rest, rfl⟩ := List.exists_cons_of_ne_nil hne
    obtain ⟨path, hfirst⟩ := hpath _ List.mem_cons_self
    exact ⟨_, List.mem_cons_self, hfirst.exists_start⟩
  · obtain ⟨g, hg, rfl⟩ := exists_mem_polyline (p := p) hq
    obtain ⟨path, hline⟩ := hpath g hg
    exact ⟨g, hg, hline.exists_stop⟩

/-! ### Curves -/

namespace Scene

/-- What a run draws on a canvas is a curve of thin lines without gaps. -/
structure DrawsCurve (s : Scene K Canvas) (steps : List (Step K)) : Prop where
  /-- The lines that are drawn are those between the points of arrival, in the pen's colour. -/
  lines : (s.walk steps).drawn =
    (polyline s.turtle.position (s.arrivals steps)).map s.turtle.lineOf
  /-- Each line is a path of pixels, which starts at the pixel where the line before it ended. -/
  paths : ∃ paths, List.Forall₂ (LinePath s.surface.width s.surface.height)
      (polyline s.turtle.position (s.arrivals steps)) paths ∧
    paths.IsChain fun path next => next.head? = path.getLast?
  connected : Connected (s.painted steps)
  /-- The pixel of the start and of every point of arrival is painted. -/
  reached : ∀ p ∈ s.turtle.position :: s.arrivals steps, ∃ a ∈ s.painted steps,
    Canvas.pixelAt s.surface.width s.surface.height p.1 p.2 = .ok (some a)
  /-- The turtle ends where the last move arrived. -/
  turtle : (Step.leave s steps).turtle = (s.walk steps).turtle ∧
    (Step.leave s steps).turtle.position = (s.arrivals steps).getLastD s.turtle.position
  /-- The pixels that are painted show the pen's colour in the end. -/
  shown : ∀ p ∈ s.painted steps,
    (Step.leave s steps).surface.picture.pixel p.1 p.2 = s.turtle.penColour.brushed
  /-- The pixels that are not painted show what they did. -/
  unchanged : ∀ i j, i < s.surface.width → j < s.surface.height → (i, j) ∉ s.painted steps →
    (Step.leave s steps).surface.picture.pixel i j = s.surface.picture.pixel i j

omit [IsStrictOrderedRing K] in
theorem mem_painted_iff {s : Scene K Canvas} {steps : List (Step K)} (hsize : s.turtle.penSize = 1)
    {lines : List (Segment K)} (hlines : (s.walk steps).drawn = lines.map s.turtle.lineOf)
    {r : ℕ × ℕ} : r ∈ s.painted steps ↔ ∃ g ∈ lines,
      r ∈ (Geometry.line g (.ok 1)).footprint s.surface.width s.surface.height := by
  show (∃ d ∈ (s.walk steps).drawn, _) ↔ _
  rw [hlines]
  simp only [List.mem_map, exists_exists_and_eq_and, Turtle.lineOf, hsize]
  rfl

/-- **A curve has no gaps.**  Let a turtle move and turn in whatever way, with a thin pen that is down
and has a colour that can be made out, on a canvas that the painter can count, so that it moves at
least once and so that the start and every point of arrival, those of the chords of arcs included, lie
on pixels of the canvas.  Then what is painted is a connected set of pixels that holds the pixel of
each of these points, and each line is a path of pixels that starts where the one before it ended. -/
theorem curve_connected {s : Scene K Canvas}
    (hcounted : Canvas.IsCounted s.surface.width s.surface.height) (hdown : s.turtle.isDown = true)
    (hsize : s.turtle.penSize = 1) (hcolour : Canvas.canMakeOut s.turtle.penColour = true)
    {steps : List (Step K)} (hsteps : ∀ step ∈ steps, step.isMotion = true)
    (hinside : ∀ p ∈ s.turtle.position :: s.arrivals steps,
      LiesOn s.surface.width s.surface.height p)
    (hmoves : s.arrivals steps ≠ []) : s.DrawsCurve steps := by
  obtain ⟨hturtle, hcanvas, hthin⟩ := Step.leave_onCanvas hcounted hcolour hsize hsteps
  obtain ⟨hsegments, hposition, -⟩ := Step.related_walkAll composes_tracing s.delay
    (fun step hstep => Step.asks_tracing (hsteps step hstep)) s.turtle s.pauses hdown
  have hlines : (s.walk steps).drawn =
      (polyline s.turtle.position (s.arrivals steps)).map s.turtle.lineOf := by
    have hdrawn : (s.walk steps).drawn.filterMap Drawn.segment? =
        polyline s.turtle.position (s.arrivals steps) := hsegments
    rw [Drawn.eq_map_segment hthin, hdrawn]
    unfold Turtle.lineOf
    rw [hsize]
  have hmem : ∀ {r}, r ∈ s.painted steps ↔ _ := mem_painted_iff hsize hlines
  have hpixel := fun i j => Canvas.pixel_performAll_thin hcolour hcounted hthin (i := i) (j := j)
  refine ⟨hlines, exists_linePaths hcounted hinside, ?_, ?_, ⟨hturtle, hturtle ▸ hposition⟩, ?_, ?_⟩
  · -- The pixel at which the turtle starts is joined to all others.
    obtain ⟨a, ha⟩ := hinside s.turtle.position List.mem_cons_self
    refine connected_of_joined (p := a) fun r hr => ?_
    obtain ⟨g, hg, hr⟩ := hmem.1 hr
    exact joined_of_polyline hcounted ha (fun q hq => hinside q (List.mem_cons_of_mem _ hq))
      (fun g hg r hr => hmem.2 ⟨g, hg, hr⟩) hg hr
  · intro p hp
    obtain ⟨g, hg, a, ha, hpixel⟩ := exists_painted_of_mem hcounted hmoves hinside hp
    exact ⟨a, hmem.2 ⟨g, hg, ha⟩, hpixel⟩
  · rintro ⟨i, j⟩ hp
    obtain ⟨d, hd, hfootprint⟩ := hp
    obtain ⟨⟨hi, hj⟩, -⟩ := Geometry.mem_footprint_iff.1 hfootprint
    rw [hcanvas, hpixel i j hi hj, if_pos ⟨d, hd, hfootprint⟩]
  · intro i j hi hj hp
    rw [hcanvas, hpixel i j hi hj]
    exact if_neg hp

/-- A turtle whose pen has a colour that cannot be made out draws the line to a point, and does not go
there. -/
theorem leave_goTo_misread {s : Scene K Canvas}
    (hcounted : Canvas.IsCounted s.surface.width s.surface.height) (hdown : s.turtle.isDown = true)
    (hsize : s.turtle.penSize = 1) (hcolour : Canvas.canMakeOut s.turtle.penColour = false) {x y : K}
    (hp : LiesOn s.surface.width s.surface.height s.turtle.position)
    (hq : LiesOn s.surface.width s.surface.height (x, y)) (rest : List (Step K)) :
    Step.leave s (.goTo x y :: rest) = Step.leave { s with
      surface := s.surface.performAll
        [.line ⟨s.turtle.x, s.turtle.y, x, y⟩ (.ok s.turtle.penColour) (.ok 1)] } rest := by
  obtain ⟨a, ha⟩ := hp
  obtain ⟨b, hb⟩ := hq
  obtain ⟨c', hperform⟩ := Canvas.perform_thin_line_misread hcolour hcounted
    (s := ⟨s.turtle.x, s.turtle.y, x, y⟩) ha hb
  have hline : Turtle.lineTo x y s = .error .colourMisread { s with surface := c' } := by
    rw [Turtle.lineTo_of_down hdown, hsize]
    show Turtle.onSurface (Canvas.perform (.line ⟨s.turtle.x, s.turtle.y, x, y⟩
      (.ok s.turtle.penColour) (.ok 1))) s = _
    simp only [Turtle.onSurface, hperform]
  have hgo : (Step.goTo x y).perform s = .error .colourMisread { s with surface := c' } :=
    Action.bind_of_error hline
  have hafter : s.surface.performAll
      [.line ⟨s.turtle.x, s.turtle.y, x, y⟩ (.ok s.turtle.penColour) (.ok 1)] = c' :=
    Action.after_of_error hperform
  rw [hafter]
  exact congrArg (Step.leave · rest) (Action.after_of_error hgo)

/-- A turtle with a thin pen in a corner of a white canvas. -/
noncomputable def corner (colour : Colour) : Scene ℝ Canvas :=
  ⟨⟨0, 0, 0, true, 1, colour, 30⟩, ⟨.filled 3 2 ⟨255, 255, 255⟩, ⟨255, 255, 255⟩, 0⟩, none, 0, []⟩

theorem arrivals_corner (colour : Colour) :
    (corner colour).arrivals [.goTo 2 0, .goTo 0 1] = [(2, 0), (0, 1)] := rfl

theorem liesOn_corner (colour : Colour) : ∀ p ∈ (corner colour).turtle.position ::
    (corner colour).arrivals [.goTo 2 0, .goTo 0 1], LiesOn 3 2 p := by
  have h : ∀ i j : ℕ, i < 3 → j < 2 → LiesOn 3 2 ((i : ℝ), (j : ℝ)) := fun _ _ => liesOn_natCast
  have h00 := h 0 0 (by decide) (by decide)
  have h20 := h 2 0 (by decide) (by decide)
  have h01 := h 0 1 (by decide) (by decide)
  rw [Nat.cast_zero] at h00 h20 h01
  rw [Nat.cast_ofNat] at h20
  rw [Nat.cast_one] at h01
  simp only [arrivals_corner, List.forall_mem_cons]
  exact ⟨h00, h20, h01, fun _ h => absurd h List.not_mem_nil⟩

theorem isCounted_corner : Canvas.IsCounted 3 2 := by decide

/-- A line to the right and one back to the row below are a curve. -/
theorem curve_connected_corner : (corner .black).DrawsCurve [.goTo 2 0, .goTo 0 1] :=
  curve_connected (s := corner .black) isCounted_corner rfl rfl (by decide +kernel)
    (by simp [Step.isMotion]) (liesOn_corner .black) (by simp [arrivals_corner])

/-- A colour that cannot be made out. -/
def misread : Colour := ⟨10 ^ 400, 0, 0⟩

theorem leave_misread : Step.leave (corner misread) [.goTo 2 0, .goTo 0 1] =
    { corner misread with
      surface := (corner misread).surface.performAll
        [.line ⟨(0 : ℝ), 0, 2, 0⟩ (.ok misread) (.ok 1),
          .line ⟨0, 0, 0, 1⟩ (.ok misread) (.ok 1)] } := by
  have hcolour : Canvas.canMakeOut misread = false := by decide +kernel
  have hpoints := liesOn_corner misread
  simp only [arrivals_corner, List.forall_mem_cons] at hpoints
  obtain ⟨h00, h20, h01, -⟩ := hpoints
  let first : Paint ℝ := .line ⟨0, 0, 2, 0⟩ (.ok misread) (.ok 1)
  -- The first line leaves the size of the canvas, so the second one lies on it as well.
  obtain ⟨hw, hh⟩ : ((Canvas.perform first).after (corner misread).surface).width = 3 ∧
      ((Canvas.perform first).after (corner misread).surface).height = 2 :=
    Canvas.size_perform first _
  have hstart := leave_goTo_misread (s := corner misread) isCounted_corner rfl rfl hcolour h00 h20
    [.goTo 0 1]
  have hrest := leave_goTo_misread
    (s := { corner misread with surface := (Canvas.perform first).after (corner misread).surface })
    (hw.symm ▸ hh.symm ▸ isCounted_corner) rfl rfl hcolour (by rwa [hw, hh]) (by rwa [hw, hh]) []
  exact hstart.trans hrest

/-- A turtle that only turns paints nothing, not even the pixel at which it stands; and one whose
pen has a colour that cannot be made out stays where it is, and starts each line there. -/
theorem not_drawsCurve_corner :
    ((∀ p ∈ (corner .black).turtle.position :: (corner .black).arrivals [.turn 90],
        LiesOn 3 2 p) ∧
      (corner .black).painted [.turn 90] = ∅ ∧ ¬ (corner .black).DrawsCurve [.turn 90]) ∧
    (∀ p ∈ (corner misread).turtle.position :: (corner misread).arrivals [.goTo 2 0, .goTo 0 1],
        LiesOn 3 2 p) ∧
      (Step.leave (corner misread) [.goTo 2 0, .goTo 0 1]).turtle = (corner misread).turtle ∧
      (Step.leave (corner misread) [.goTo 2 0, .goTo 0 1]).surface =
        (corner misread).surface.performAll
          [.line ⟨(0 : ℝ), 0, 2, 0⟩ (.ok misread) (.ok 1),
            .line ⟨0, 0, 0, 1⟩ (.ok misread) (.ok 1)] ∧
      ¬ (corner misread).DrawsCurve [.goTo 2 0, .goTo 0 1] := by
  have hstill : ((corner .black).walk [.turn 90]).events = [] := by
    simp [walk, Step.walkAll, Step.walk, Walk.turn, turned_eq, Walk.upon, Walk.still]
  have hturn : (corner .black).arrivals [.turn 90] = [] := by
    rw [arrivals, hstill]
    rfl
  have hnone : (corner .black).painted [.turn 90] = ∅ := by
    simp [painted, Walk.painted, Walk.drawn, hstill]
  refine ⟨⟨?_, hnone, fun h => ?_⟩, liesOn_corner _, by rw [leave_misread], by rw [leave_misread],
    fun h => ?_⟩
  · intro p hp
    rw [hturn] at hp
    exact liesOn_corner .black p (List.mem_cons.2 (.inl (List.mem_singleton.1 hp)))
  · obtain ⟨a, ha, -⟩ := h.reached _ List.mem_cons_self
    exact absurd ha (hnone ▸ Set.notMem_empty a)
  · have hrow := congrArg Prod.snd h.turtle.2
    rw [leave_misread, arrivals_corner] at hrow
    exact zero_ne_one hrow

end Scene

end TurtleCanvas
