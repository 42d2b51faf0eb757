import TurtleCanvas.Proofs.Canvas.Bounded
import TurtleCanvas.Proofs.Mascot.Forgetful
import TurtleCanvas.Proofs.Mascot.Pauses

/-!
# The whole mascot is drawn

On a canvas that takes lines of all widths, with pauses that do not fail, nothing stops a turtle
that draws the mascot.  Each stroke begins near the canvas, and each of its chords is of a bounded
length, so that the turtle never comes to a place too far away to draw a line to.

* `Scene.IsSettled` says what a scene is like between two strokes, and `Scene.IsWithin` that its
  turtle is within a distance besides;
* `Turtle.succeeds_chords` and `Turtle.succeeds_circle` say how far away the turtle gets on an arc;
* `Stroke.succeeds_draw` and `Mascot.succeeds_drawAll` say that strokes, and the whole mascot, are
  drawn.
-/

namespace TurtleCanvas

open Argument (real reads_real fitsReal_real scalar_toReal_eq_ok fitsReal_of_isSmall)
open Binary64 (Representable representable_int)
open TurtleCanvas.Action (Succeeds)

/-! ### Scenes -/

/-- What a scene is like between two strokes: the canvas takes lines of all widths, the heading is
a real, the pen has a colour made of bytes, no pause fails, and arcs have a thousand chords at
most. -/
structure Scene.IsSettled (s : Scene Argument Canvas) : Prop where
  surface : s.surface.TakesAllWidths
  heading : Scalar.toReal s.turtle.heading = .ok s.turtle.heading
  colour : s.turtle.penColour.FitsBytes
  free : s.PausesFreely
  steps : 1 ≤ s.turtle.arcSteps ∧ s.turtle.arcSteps ≤ 1000

/-- The turtle of a settled scene is within a distance of both edges of the canvas, unless it stands
at no finite place. -/
structure Scene.IsWithin (b : ℕ) (s : Scene Argument Canvas) : Prop extends s.IsSettled where
  x : s.turtle.x.Within b
  y : s.turtle.y.Within b

theorem Scene.IsWithin.mono {a b : ℕ} (hab : a ≤ b) {s : Scene Argument Canvas}
    (h : s.IsWithin a) : s.IsWithin b where
  toIsSettled := h.toIsSettled
  x := h.x.mono (by exact_mod_cast hab)
  y := h.y.mono (by exact_mod_cast hab)

theorem Scene.IsWithin.isReal {b : ℕ} {s : Scene Argument Canvas} (h : s.IsWithin b) :
    s.turtle.IsReal := by
  obtain ⟨x, hx, -⟩ := h.x
  obtain ⟨y, hy, -⟩ := h.y
  exact ⟨by rw [hx]; rfl, by rw [hy]; rfl, h.heading⟩

theorem le_farthest {b : ℕ} (hb : b < 2 ^ 50) : (b : ℚ) ≤ farthest := by
  rw [farthest]
  exact_mod_cast hb.le

theorem representable_nat {b : ℕ} (hb : b < 2 ^ 53) : Representable b := by
  exact_mod_cast representable_int (n := b) (by omega)

namespace Turtle

variable {b d : ℕ} {distance angle chord : Argument}

/-! ### Chords -/

/-- A line is drawn to a place that is not too far away. -/
theorem exists_lineTo (hb : b < 2 ^ 50) {s : Scene Argument Canvas} (hs : s.IsWithin b)
    {x y : Argument} (hx : x.Within b) (hy : y.Within b) :
    ∃ c, lineTo x y s = .ok () { s with surface := c } ∧ c.TakesAllWidths := by
  cases hdown : s.turtle.isDown with
  | false => exact ⟨s.surface, lineTo_of_up hdown x y, hs.surface⟩
  | true =>
    have hends : ∀ v ∈ [s.turtle.x, s.turtle.y, x, y], v.Within farthest := by
      have hle := le_farthest hb
      simp only [List.forall_mem_cons, List.not_mem_nil, false_implies, implies_true, and_true]
      exact ⟨hs.x.mono hle, hs.y.mono hle, hx.mono hle, hy.mono hle⟩
    obtain ⟨c, hline, hc⟩ := Canvas.exists_drawLine hs.surface
      (s := ⟨s.turtle.x, s.turtle.y, x, y⟩) hends hs.colour s.turtle.penSize
    refine ⟨c, ?_, hc⟩
    have hsurface : Surface.line (σ := Canvas) ⟨s.turtle.x, s.turtle.y, x, y⟩ s.turtle.penColour
        s.turtle.penSize s.surface = .ok () c := hline
    rw [lineTo_of_down hdown]
    simp only [onSurface, hsurface]

/-- A turtle that goes a distance gets no farther away than that. -/
theorem exists_ahead_within {t : Turtle Argument} (hx : t.x.Within b) (hy : t.y.Within b)
    (hheading : Scalar.toReal t.heading = .ok t.heading) (hd : distance.Within d)
    (hb : b + d < 2 ^ 50) : ∃ p, t.ahead distance = .ok p ∧ p.1.Within (b + d : ℕ) ∧
      p.2.Within (b + d : ℕ) := by
  obtain ⟨x, hx, hxb⟩ := hx
  obtain ⟨y, hy, hyb⟩ := hy
  obtain ⟨heading, hh⟩ := scalar_toReal_eq_ok hheading
  obtain ⟨r, rfl, hr⟩ := hd
  -- The cosine and the sine are at most one, and the product is rounded to no more than `d`.
  have hstep : ∀ f : Float → Float, Binary64.Within d
      (r * Argument.keepingNaN (Argument.withinOne f) (Argument.radians heading)) := fun f => by
    have hproduct := hr.mul (Binary64.within_turning f (Argument.radians heading))
      (by rw [mul_one]; exact representable_nat (by omega))
    rwa [mul_one] at hproduct
  have hsum : Representable ((b : ℚ) + d) := by exact_mod_cast representable_nat (by omega)
  refine ⟨_, ahead_eq hx hy hh (reads_real r), ⟨_, rfl, ?_⟩, _, rfl, ?_⟩
  · rw [Nat.cast_add]
    exact hxb.add (hstep _) hsum
  · rw [Nat.cast_add]
    exact hyb.add (hstep _) hsum

theorem succeeds_forward (hd : distance.Within d) (hb : b + d < 2 ^ 50) :
    Succeeds (Scene.IsWithin b) (Scene.IsWithin (b + d)) (forward distance) := by
  intro s hs
  obtain ⟨p, hp, hpx, hpy⟩ := exists_ahead_within hs.x hs.y hs.heading hd hb
  have hask : ask (σ := Canvas) (fun t => t.ahead distance) s = .ok p s := by simp only [ask, hp]
  obtain ⟨c, hline, hc⟩ := exists_lineTo hb (hs.mono (Nat.le_add_right b d)) hpx hpy
  refine ⟨{ s with surface := c, turtle := { s.turtle with x := p.1, y := p.2 } }, ?_,
    ⟨hc, hs.heading, hs.colour, hs.free, hs.steps⟩, hpx, hpy⟩
  rw [forward, Action.bind_of_ok hask, Action.bind_of_ok hline]
  rfl

theorem succeeds_turn (hangle : angle.FitsReal) :
    Succeeds (Scene.IsWithin b) (Scene.IsWithin b) (turn angle) := by
  intro s hs
  obtain ⟨heading, hh, hturn⟩ := exists_turn hs.isReal hangle
  exact ⟨_, hturn, ⟨hs.surface, hh, hs.colour, hs.free, hs.steps⟩, hs.x, hs.y⟩

theorem succeeds_pause : Succeeds (Scene.IsWithin b) (Scene.IsWithin b) pause := by
  intro s hs
  obtain ⟨pauses, hpause⟩ := hs.free.exists_pause
  exact ⟨_, hpause, ⟨hs.surface, hs.heading, hs.colour, hs.free, hs.steps⟩, hs.x, hs.y⟩

/-- Each chord takes the turtle no farther than its length. -/
theorem succeeds_chords (hchord : chord.Within d) (hangle : angle.FitsReal) (n : ℕ)
    (hb : b + n * d < 2 ^ 50) :
    Succeeds (Scene.IsWithin b) (Scene.IsWithin (b + n * d)) (chords chord angle n) := by
  induction n generalizing b with
  | zero => exact Succeeds.pure.mono (fun _ h => h) fun _ h => h.mono (Nat.le_add_right _ _)
  | succ n ih =>
    have hsum : b + (n + 1) * d = b + d + n * d := by rw [Nat.succ_mul]; omega
    rw [hsum] at hb ⊢
    exact (succeeds_forward hchord (by omega)).bind
      ((succeeds_turn hangle).bind (succeeds_pause.bind (ih hb)))

/-! ### Arcs -/

/-- How far an arc of the mascot takes the turtle at most. -/
def arcReach : ℕ := 8000000000

/-- The chords of an arc of small numbers are not long. -/
theorem exists_arc_within {radius extent : ℤ} (hr : IsSmall radius) (he : IsSmall extent)
    {t : Turtle Argument} (ht : 1 ≤ t.arcSteps ∧ t.arcSteps ≤ 1000) :
    ∃ a, t.arc (.int radius) (.int extent) none = .ok a ∧ a.count = t.arcSteps ∧
      a.chord.Within (8000000 : ℕ) ∧ a.angle.FitsReal := by
  obtain ⟨hsteps, hsteps'⟩ := ht
  obtain ⟨r, hrreads, hr⟩ := Argument.exists_reads_within hr (by decide)
  obtain ⟨e, hereads, he'⟩ := Argument.exists_reads_within he (by decide)
  have hfits : (Argument.int t.arcSteps).FitsReal := Argument.fitsReal_int (by omega)
  obtain ⟨u, v, hchord, hu, hv⟩ := exists_chordLength hrreads hereads hsteps hfits
  obtain ⟨angle, hangle⟩ := Argument.exists_div_count (fitsReal_of_isSmall he) hsteps hfits
  obtain ⟨a, ha⟩ : ∃ x, angle = real x := Argument.div_eq_ok hangle
  refine ⟨⟨t.arcSteps, real (u * r * e / v), angle⟩, ?_, rfl, ⟨_, rfl, ?_⟩, ha ▸ fitsReal_real a⟩
  · exact Except.bind_eq_ok_iff.2 ⟨t.arcSteps, rfl, Except.bind_eq_ok_iff.2 ⟨_, hchord,
      Except.bind_eq_ok_iff.2 ⟨angle, hangle, rfl⟩⟩⟩
  · have hrep : ∀ {q : ℚ} (n : ℕ), n < 2 ^ 53 → q = n → Representable q :=
      fun n hn h => h ▸ representable_nat hn
    have hproduct := (hu.mul hr (hrep 8000 (by decide) (by norm_num))).mul he'
      (hrep 8000000 (by decide) (by norm_num))
    have hquotient := hproduct.div (hrep 8000000 (by decide) (by norm_num)) hv
    exact hquotient.mono (by norm_num)

/-- An arc of small numbers takes the turtle no farther than all its chords. -/
theorem succeeds_circle {radius extent : ℤ} (hr : IsSmall radius) (he : IsSmall extent)
    (hb : b + arcReach < 2 ^ 50) :
    Succeeds (Scene.IsWithin b) (Scene.IsWithin (b + arcReach))
      (circle (.int radius) (.int extent) none) := by
  intro s hs
  have hfarther : ∀ {s' : Scene Argument Canvas}, s'.IsWithin b → s'.IsWithin (b + arcReach) :=
    fun h => h.mono (Nat.le_add_right _ _)
  cases hextent : Scalar.isZero (Argument.int extent) with
  | true =>
    rw [circle, if_pos hextent]
    exact ⟨s, rfl, hfarther hs⟩
  | false =>
    cases hradius : Scalar.isZero (Argument.int radius) with
    | true =>
      rw [circle, if_neg (Bool.eq_false_iff.1 hextent), if_pos hradius]
      obtain ⟨s', hturn, hs'⟩ := succeeds_turn (fitsReal_of_isSmall he) s hs
      exact ⟨s', hturn, hfarther hs'⟩
    | false =>
      obtain ⟨a, ha, hcount, hchord, hangle⟩ := exists_arc_within hr he hs.steps
      have hcount' : b + a.count * 8000000 ≤ b + arcReach := by
        have := hs.steps.2
        unfold arcReach
        omega
      obtain ⟨s', hrun, hs'⟩ := succeeds_chords hchord hangle a.count (by omega) s hs
      refine ⟨s', ?_, hs'.mono hcount'⟩
      rw [circle_eq hextent hradius, ha]
      exact hrun

end Turtle

/-! ### Strokes -/

namespace Stroke

open Turtle (arcReach)

variable {b : ℕ}

/-- A small heading is taken. -/
theorem exists_followItem_heading {σ : Type} [Surface Argument σ] {angle : ℤ}
    (hangle : IsSmall angle) (s : Scene Argument σ) :
    ∃ heading, Scalar.toReal heading = .ok heading ∧
      followItem (PathItem.map Scalar.int (.heading angle)) s =
        .ok () { s with turtle := { s.turtle with heading } } := by
  obtain ⟨angle', hneg, hfits⟩ := (fitsReal_of_isSmall hangle).exists_neg
  obtain ⟨heading, hfold⟩ := Turtle.exists_foldHeading hfits
  have hopposite : (Action.ofExcept (Scalar.neg (Argument.int angle)) :
      Action (Scene Argument σ) Argument) s = .ok angle' s := by
    rw [hneg]
    rfl
  have hheading : (Action.ofExcept (foldHeading angle') :
      Action (Scene Argument σ) Argument) s = .ok heading s := by
    rw [hfold]
    rfl
  exact ⟨heading, Turtle.real_foldHeading hfold,
    (Action.bind_of_ok hopposite).trans (Action.bind_of_ok hheading)⟩

theorem succeeds_followItem {item : PathItem ℤ} (hitem : item.IsPlain)
    (hb : b + arcReach < 2 ^ 50) : Succeeds (Scene.IsWithin b) (Scene.IsWithin (b + arcReach))
      (followItem (item.map Scalar.int) : Action (Scene Argument Canvas) Unit) := by
  cases item with
  | arc shape =>
    obtain ⟨⟨radius, extent⟩, rfl, hr, he⟩ := hitem
    exact Turtle.succeeds_circle hr he hb
  | heading angle =>
    intro s hs
    obtain ⟨heading, hreal, hrun⟩ := exists_followItem_heading hitem s
    have hmono := hs.mono (Nat.le_add_right b arcReach)
    exact ⟨_, hrun, ⟨hs.surface, hreal, hs.colour, hs.free, hs.steps⟩, hmono.x, hmono.y⟩

/-- Each item of a path takes the turtle no farther than an arc can. -/
theorem succeeds_follow {path : List (PathItem ℤ)} (hpath : ∀ item ∈ path, item.IsPlain)
    (hb : b + path.length * arcReach < 2 ^ 50) :
    Succeeds (Scene.IsWithin b) (Scene.IsWithin (b + path.length * arcReach))
      (follow (path.map (PathItem.map Scalar.int)) : Action (Scene Argument Canvas) Unit) := by
  induction path generalizing b with
  | nil => exact Succeeds.pure.mono (fun _ h => h) fun _ h => h.mono (Nat.le_add_right _ _)
  | cons item rest ih =>
    have hsum : b + (item :: rest).length * arcReach = b + arcReach + rest.length * arcReach := by
      rw [List.length_cons, Nat.succ_mul]
      omega
    rw [hsum] at hb ⊢
    exact (succeeds_followItem (hpath item List.mem_cons_self) (by omega)).bind
      (ih (fun x hx => hpath x (List.mem_cons_of_mem _ hx)) hb)

theorem onward_map (f : ℤ → Argument) (path : List (PathItem ℤ)) :
    onward (path.map (PathItem.map f)) = (onward path).map (PathItem.map f) := by
  match path with
  | [] => rfl
  | .heading angle :: rest => rfl
  | .arc shape :: rest => rfl

theorem onward_suffix {α : Type} (path : List (PathItem α)) : onward path <:+ path := by
  match path with
  | [] => exact List.suffix_rfl
  | .heading angle :: rest => exact List.suffix_cons _ _
  | .arc shape :: rest => exact List.suffix_rfl

theorem real_headingFor {path : List (PathItem Argument)} {heading heading' : Argument}
    (h : Scalar.toReal heading = .ok heading) (hset : headingFor path heading = .ok heading') :
    Scalar.toReal heading' = .ok heading' := by
  match path with
  | [] => exact Except.ok.inj hset ▸ h
  | .arc shape :: rest => exact Except.ok.inj hset ▸ h
  | .heading angle :: rest =>
    obtain ⟨_, -, hfold⟩ := Except.bind_eq_ok_iff.1 hset
    exact Turtle.real_foldHeading hfold

theorem fitsBytes_getD {colour : Option Ink} {old c : Colour}
    (hcolour : ∀ ink ∈ colour, Gives ink Colour.FitsBytes) (hold : old.FitsBytes)
    (hset : colour.getD (.ok old) = .ok c) : c.FitsBytes := by
  cases colour with
  | none => exact Except.ok.inj hset ▸ hold
  | some ink =>
    obtain ⟨c', hink, hfits⟩ := hcolour ink rfl
    exact Except.ok.inj (hink.symm.trans hset) ▸ hfits

/-- A stroke begins near the edges of the canvas. -/
theorem exists_begun_within {s : Stroke ℤ} (hs : s.IsPlain) {height : ℤ} (hheight : IsSmall height)
    {scene : Scene Argument Canvas} (hscene : scene.IsSettled) :
    ∃ t, (s.map Scalar.int).begun (.int height) scene.turtle = .ok t ∧
      Scene.IsWithin 2000 { scene with turtle := t } := by
  unfold IsSmall at hheight
  have hrows : (Argument.int height).HasRows := Argument.hasRows_int (by omega)
  obtain ⟨t, ht⟩ := exists_begun hs hrows scene.turtle
  refine ⟨t, ht, ?_⟩
  obtain ⟨⟨⟨x, y⟩, hstart, hx, hy⟩, hcolour, -⟩ := hs
  unfold IsSmall at hx hy
  have hstart' : (s.map Scalar.int).start = .ok (Argument.int x, Argument.int y) := by
    rw [Stroke.map, hstart]
    rfl
  simp only [begun, hstart', Except.ok_bind, Except.bind_eq_ok_iff] at ht
  obtain ⟨row, hrow, x', hx', y', hy', c, hc, n, -, heading, hheading, ht⟩ := ht
  obtain rfl := Except.ok.inj ht
  obtain rfl : Argument.int (height - y) = row := Except.ok.inj hrow
  exact ⟨⟨hscene.surface, real_headingFor hscene.heading hheading,
    fitsBytes_getD hcolour hscene.colour hc, hscene.free, hscene.steps⟩,
    Argument.within_of_toReal (by omega) (by decide) hx',
    Argument.within_of_toReal (by omega) (by decide) hy'⟩

/-- **A stroke of small numbers is drawn.** -/
theorem succeeds_draw {s : Stroke ℤ} (hs : s.IsPlain) {height : ℤ} (hheight : IsSmall height) :
    Succeeds Scene.IsSettled Scene.IsSettled
      ((s.map Scalar.int).draw (.int height) : Action (Scene Argument Canvas) Unit) := by
  intro scene hscene
  obtain ⟨t, hbegun, ht⟩ := exists_begun_within hs hheight hscene
  have hrun := draw_eq_follow (.int height) (s.map Scalar.int) scene
  simp only [ReadiesAt, hbegun] at hrun
  have hlength : (onward s.path).length ≤ 100 := (onward_suffix s.path).length_le.trans hs.short
  have hpath : ∀ item ∈ onward s.path, item.IsPlain :=
    fun item h => hs.path item ((onward_suffix s.path).subset h)
  have hreach : 2000 + (onward s.path).length * arcReach < 2 ^ 50 := by
    unfold arcReach
    omega
  obtain ⟨left, hfollow, hleft⟩ := succeeds_follow hpath hreach _ ht
  rw [← onward_map] at hfollow
  exact ⟨left, hrun.trans hfollow, hleft.toIsSettled⟩

theorem succeeds_drawAll {height : ℤ} (hheight : IsSmall height) {strokes : List (Stroke ℤ)}
    (h : ∀ s ∈ strokes, s.IsPlain) : Succeeds Scene.IsSettled Scene.IsSettled
      (drawAll (.int height) (strokes.map (Stroke.map Scalar.int)) :
        Action (Scene Argument Canvas) Unit) := by
  induction strokes with
  | nil => exact Succeeds.pure
  | cons s rest ih =>
    exact (succeeds_draw (h s List.mem_cons_self) hheight).bind
      (ih fun x hx => h x (List.mem_cons_of_mem _ hx))

end Stroke

/-! ### Sections -/

namespace Mascot

theorem succeeds_drawSection {height : ℤ} (hheight : IsSmall height) (s : Section) :
    Succeeds Scene.IsSettled Scene.IsSettled
      (drawSection (.int height) s : Action (Scene Argument Canvas) Unit) := by
  intro scene hscene
  exact Stroke.succeeds_drawAll hheight s.isPlain
    { scene with log := .drawingSection s.name :: scene.log }
    ⟨hscene.surface, hscene.heading, hscene.colour, hscene.free, hscene.steps⟩

theorem ofName?_name (s : Section) : Section.ofName? s.name = some s := by
  cases s <;> decide

theorem succeeds_drawSections {height : ℤ} (hheight : IsSmall height) (sections : List Section) :
    Succeeds Scene.IsSettled Scene.IsSettled (drawSections (.int height)
      (sections.map Section.name) : Action (Scene Argument Canvas) Unit) := by
  induction sections with
  | nil => exact Succeeds.pure
  | cons s rest ih =>
    simp only [List.map_cons, drawSections, ofName?_name]
    exact (succeeds_drawSection hheight s).bind ih

/-- **The whole mascot is drawn** on every settled scene. -/
theorem succeeds_drawAll {height : ℤ} (hheight : IsSmall height) :
    Succeeds Scene.IsSettled Scene.IsSettled
      (drawAll (.int height) : Action (Scene Argument Canvas) Unit) :=
  succeeds_drawSections hheight Section.all

end Mascot

end TurtleCanvas
