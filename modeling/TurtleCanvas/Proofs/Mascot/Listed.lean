import TurtleCanvas.Proofs.Mascot.Complete

/-!
# Lists of sections

Sections are drawn by their names, and each name is looked up when its turn comes.  So a name that no
section has ends the drawing, with the sections before it drawn and nothing of those after it.  Apart
from the log, a list is drawn as the strokes of its sections are, one after the other.

All numbers of the mascot fit doubles.  If the rows of the sheet can be counted down from its height,
and if the number of chords in an arc fits a double, then nothing can fail between two calls that draw
a line or make a pause.

* `Section.listed` are the sections of a list of names before the first that no section has, which is
  `Section.firstUnknown?`;
* `Scene.LooksDrawn` relates scenes that differ in their logs alone;
* `Scene.LeftByCall` says that a scene is left by a line or a pause that fails, and
  `Stroke.unfailing_drawAll` that strokes of small numbers fail in no other way;
* `Mascot.LeftBy` adds to that the first name that no section has;
* `Mascot.drawSections_listed` says what a list of names draws, and how it can fail;
* `Mascot.drawSections_torn` is a list that fails with a part of it drawn.
-/

namespace TurtleCanvas

open TurtleCanvas.Action (Matches SucceedsOr)

/-! ### Names -/

namespace Section

/-- A section has the name. -/
def isKnown (name : String) : Bool := (ofName? name).isSome

/-- The sections that a list names before the first name that no section has. -/
def listed (names : List String) : List Section := (names.takeWhile isKnown).filterMap ofName?

/-- The first name of a list that no section has. -/
def firstUnknown? (names : List String) : Option String := names.find? fun name => !isKnown name

variable {name : String} {s : Section}

theorem listed_cons_of_known (h : ofName? name = some s) (rest : List String) :
    listed (name :: rest) = s :: listed rest := by
  simp [listed, isKnown, h]

theorem listed_cons_of_unknown (h : ofName? name = none) (rest : List String) :
    listed (name :: rest) = [] := by
  simp [listed, isKnown, h]

theorem firstUnknown?_cons_of_known (h : ofName? name = some s) (rest : List String) :
    firstUnknown? (name :: rest) = firstUnknown? rest := by
  simp [firstUnknown?, isKnown, h]

theorem firstUnknown?_cons_of_unknown (h : ofName? name = none) (rest : List String) :
    firstUnknown? (name :: rest) = some name := by
  simp [firstUnknown?, isKnown, h]

/-- If no section is listed before it, the first unknown name is the first of all. -/
theorem eq_cons_of_listed_eq_nil {names : List String} (hnone : listed names = [])
    (hname : firstUnknown? names = some name) :
    ∃ rest, names = name :: rest ∧ ofName? name = none := by
  cases names with
  | nil => exact nomatch hname
  | cons first rest =>
    cases hfirst : ofName? first with
    | none =>
      obtain rfl := Option.some.inj ((firstUnknown?_cons_of_unknown hfirst rest).symm.trans hname)
      exact ⟨rest, rfl, hfirst⟩
    | some s => exact nomatch (listed_cons_of_known hfirst rest).symm.trans hnone

end Section

/-! ### Logs -/

variable {α σ : Type}

/-- Two scenes differ in what was logged alone. -/
structure Scene.LooksDrawn (s s' : Scene α σ) : Prop where
  turtle : s'.turtle = s.turtle
  surface : s'.surface = s.surface
  delay : s'.delay = s.delay
  pauses : s'.pauses = s.pauses

theorem Scene.hides_looksDrawn : Scene.Hides (Scene.LooksDrawn (α := α) (σ := σ)) where
  turtle hs := hs.turtle
  surface hs := hs.surface
  move hs _ _ := ⟨rfl, rfl, hs.delay, hs.pauses⟩
  note hs _ := ⟨hs.turtle, hs.surface, hs.delay, hs.pauses⟩
  pause := by
    rintro ⟨turtle, surface, delay, pauses, log⟩ ⟨turtle', surface', delay', pauses', log'⟩
      ⟨hturtle, hsurface, hdelay, hpauses⟩
    obtain rfl : delay' = delay := hdelay
    obtain rfl : pauses' = pauses := hpauses
    cases delay' with
    | none => exact ⟨_, _, ⟨hturtle, hsurface, rfl, rfl⟩, .inl ⟨(), rfl, rfl⟩⟩
    | some outcome =>
      have hs : Scene.LooksDrawn ⟨turtle, surface, some outcome, pauses' + 1, log⟩
          ⟨turtle', surface', some outcome, pauses' + 1, log'⟩ := ⟨hturtle, hsurface, rfl, rfl⟩
      cases hfail : outcome (pauses' + 1) with
      | none =>
        exact ⟨_, _, hs, .inl ⟨(), by simp only [Turtle.pause, hfail], by
          simp only [Turtle.pause, hfail]⟩⟩
      | some e =>
        exact ⟨_, _, hs, .inr ⟨e, by simp only [Turtle.pause, hfail], by
          simp only [Turtle.pause, hfail]⟩⟩

section

variable [Scalar α] [Surface α σ]

theorem Stroke.drawAll_append (height : α) (strokes more : List (Stroke α)) :
    (drawAll height (strokes ++ more) : Action (Scene α σ) Unit) =
      (drawAll height strokes >>= fun _ => drawAll height more) := by
  induction strokes with
  | nil => rfl
  | cons s rest ih => simp only [List.cons_append, drawAll, ih, bind_assoc]

namespace Mascot

/-- The strokes of sections. -/
def strokesOf (α : Type) [Scalar α] (sections : List Section) : List (Stroke α) :=
  sections.flatMap fun s => s.strokes.map (Stroke.map Scalar.int)

/-- Fail with a name that no section has, if there is one. -/
def refuse : Option String → Action (Scene α σ) Unit
  | none => pure ()
  | some name => Action.ofExcept (.error (.unknownSection name))

theorem matches_drawSection (height : α) (s : Section) :
    Matches Scene.LooksDrawn (drawSection height s : Action (Scene α σ) Unit)
      (Stroke.drawAll height (s.strokes.map (Stroke.map Scalar.int))) := by
  intro scene scene' h
  exact Stroke.oblivious_drawAll height _ _ Scene.hides_looksDrawn
    { scene with log := .drawingSection s.name :: scene.log } scene'
    ⟨h.turtle, h.surface, h.delay, h.pauses⟩

/-- **A list is drawn as the strokes of its sections are**, up to the first name that no section
has. -/
theorem matches_drawSections (height : α) (names : List String) :
    Matches Scene.LooksDrawn (drawSections height names : Action (Scene α σ) Unit) (do
      Stroke.drawAll height (strokesOf α (Section.listed names))
      refuse (Section.firstUnknown? names)) := by
  induction names with
  | nil => exact .pure ()
  | cons name rest ih =>
    cases hname : Section.ofName? name with
    | none =>
      rw [Section.listed_cons_of_unknown hname, Section.firstUnknown?_cons_of_unknown hname]
      simp only [drawSections, hname]
      exact fun scene scene' h => ⟨scene, scene', h, .inr ⟨.unknownSection name, rfl, rfl⟩⟩
    | some s =>
      rw [Section.listed_cons_of_known hname, Section.firstUnknown?_cons_of_known hname, strokesOf,
        List.flatMap_cons, Stroke.drawAll_append]
      simp only [drawSections, hname, bind_assoc]
      exact (matches_drawSection height s).bind fun _ => ih

theorem drawSections_of_unknown (height : α) {name : String} (h : Section.ofName? name = none)
    (rest : List String) (s : Scene α σ) :
    drawSections height (name :: rest) s = .error (.unknownSection name) s := by
  simp only [drawSections, h]
  rfl

end Mascot

/-- The rows can be counted down from every double, whether it is finite or not. -/
theorem Argument.hasRows_real (x : Float) : (real x).HasRows := by
  intro y hy
  obtain ⟨n, y', hn, hy'⟩ := fitsReal_of_isSmall hy
  obtain rfl : Number.int y = n := Option.some.inj hn
  have hsub : Number.sub (.real x) (.int y) = .ok (.real (x - y')) := by
    simp only [Number.sub, Number.lift, hy']
    rfl
  refine ⟨real (x - y'), ?_, fitsReal_real _⟩
  simp only [Scalar.sub, Scalar.int, lift, toNumber, number?, Except.ok_bind, hsub]
  rfl

/-! ### Calls that fail -/

/-- A scene is left by a call that fails: a line from where the turtle stands with its pen, or a
pause. -/
inductive Scene.LeftByCall (delay : Delay) (e : Fault) (s : Scene α σ) : Prop where
  | line (surface : σ) (x y : α) :
    Surface.line ⟨s.turtle.x, s.turtle.y, x, y⟩ s.turtle.penColour s.turtle.penSize surface =
      .error e s.surface → LeftByCall delay e s
  | pause (outcome : ℕ → Option Fault) (k : ℕ) :
    delay = some outcome → outcome k = some e → LeftByCall delay e s

end

/-- The turtle stands at reals, makes its pauses, and the number of chords in its arcs is one that can
be divided by. -/
structure Scene.IsReady (delay : Delay) (s : Scene Argument σ) : Prop where
  turtle : s.turtle.IsReal
  delay : s.delay = delay
  steps : 1 ≤ s.turtle.arcSteps
  fits : (Argument.int s.turtle.arcSteps).FitsReal

variable [Surface Argument σ] {delay : Delay}

/-- An action of a turtle that is ready leaves one that is, and fails only with a call. -/
def Unfailing (delay : Delay) (a : Action (Scene Argument σ) Unit) : Prop :=
  SucceedsOr (Scene.LeftByCall delay) (Scene.IsReady delay) (Scene.IsReady delay) a

namespace Turtle

variable {distance angle chord : Argument}

theorem unfailing_lineTo (x y : Argument) :
    Unfailing delay (lineTo x y : Action (Scene Argument σ) Unit) := by
  rintro ⟨t, surface, delay', pauses, log⟩ hs
  cases hdown : t.isDown with
  | false => exact .inl ⟨_, lineTo_of_up hdown x y, hs⟩
  | true =>
    cases hline : Surface.line ⟨t.x, t.y, x, y⟩ t.penColour t.penSize surface with
    | ok _ c =>
      refine .inl ⟨⟨t, c, delay', pauses, log⟩, ?_, ⟨hs.turtle, hs.delay, hs.steps, hs.fits⟩⟩
      rw [lineTo_of_down hdown]
      simp only [onSurface, hline]
    | error e c =>
      refine .inr ⟨e, ⟨t, c, delay', pauses, log⟩, ?_, .line surface x y hline⟩
      rw [lineTo_of_down hdown]
      simp only [onSurface, hline]

theorem unfailing_forward (hd : distance.FitsReal) :
    Unfailing delay (forward distance : Action (Scene Argument σ) Unit) := by
  intro s hs
  obtain ⟨p, hp⟩ := exists_ahead hs.turtle hd
  obtain ⟨hx, hy⟩ := real_ahead hs.turtle hp
  have hask : ask (σ := σ) (fun t => t.ahead distance) s = .ok p s := by simp only [ask, hp]
  have hforward : forward distance s = (do
      lineTo p.1 p.2
      update fun t => { t with x := p.1, y := p.2 } : Action (Scene Argument σ) Unit) s :=
    Action.bind_of_ok hask
  rw [hforward]
  rcases unfailing_lineTo p.1 p.2 s hs with ⟨t, hline, ht⟩ | ⟨e, t, hline, hcall⟩
  · exact .inl ⟨_, Action.bind_of_ok hline, ⟨hx, hy, ht.turtle.heading⟩, ht.delay, ht.steps, ht.fits⟩
  · exact .inr ⟨e, t, Action.bind_of_error hline, hcall⟩

omit [Surface Argument σ] in
theorem succeeds_turn_ready (hangle : angle.FitsReal) :
    Action.Succeeds (Scene.IsReady delay) (Scene.IsReady delay)
      (turn angle : Action (Scene Argument σ) Unit) := by
  intro s hs
  obtain ⟨heading, hh, hturn⟩ := exists_turn hs.turtle hangle
  exact ⟨_, hturn, ⟨hs.turtle.x, hs.turtle.y, hh⟩, hs.delay, hs.steps, hs.fits⟩

theorem unfailing_pause : Unfailing delay (pause : Action (Scene Argument σ) Unit) := by
  intro s hs
  rcases pause_cases s with ⟨pauses, hpause⟩ | ⟨pauses, outcome, k, e, hpause, hdelay, hfail⟩
  · exact .inl ⟨_, hpause, hs.turtle, hs.delay, hs.steps, hs.fits⟩
  · exact .inr ⟨e, _, hpause, .pause outcome k (hs.delay.symm.trans hdelay) hfail⟩

theorem unfailing_chords (hchord : chord.FitsReal) (hangle : angle.FitsReal) (n : ℕ) :
    Unfailing delay (chords chord angle n : Action (Scene Argument σ) Unit) := by
  induction n with
  | zero => exact Action.Succeeds.pure.or _
  | succ n ih =>
    exact (unfailing_forward hchord).bind
      (((succeeds_turn_ready hangle).or _).bind (unfailing_pause.bind ih))

/-- An arc of numbers that fit doubles. -/
theorem unfailing_circle {radius extent : Argument} (hr : radius.FitsReal) (he : extent.FitsReal) :
    Unfailing delay (circle radius extent none : Action (Scene Argument σ) Unit) := by
  intro s hs
  cases hextent : Scalar.isZero extent with
  | true =>
    rw [circle, if_pos hextent]
    exact .inl ⟨s, rfl, hs⟩
  | false =>
    cases hradius : Scalar.isZero radius with
    | true =>
      rw [circle, if_neg (Bool.eq_false_iff.1 hextent), if_pos hradius]
      exact .inl (succeeds_turn_ready he s hs)
    | false =>
      have hcount : s.turtle.arcChords none = .ok s.turtle.arcSteps := rfl
      obtain ⟨a, ha, -⟩ := exists_arc hr he hcount hs.steps hs.fits
      obtain ⟨hchord, hangle⟩ := fitsReal_arc ha
      rw [circle_eq hextent hradius, ha]
      exact unfailing_chords hchord hangle a.count s hs

end Turtle

namespace Stroke

open Argument (fitsReal_of_isSmall)

theorem unfailing_follow {path : List (PathItem ℤ)} (hpath : ∀ item ∈ path, item.IsPlain) :
    Unfailing delay
      (follow (path.map (PathItem.map Scalar.int)) : Action (Scene Argument σ) Unit) := by
  induction path with
  | nil => exact Action.Succeeds.pure.or _
  | cons item rest ih =>
    refine SucceedsOr.bind ?_ (ih fun x hx => hpath x (List.mem_cons_of_mem _ hx))
    have hitem := hpath item List.mem_cons_self
    cases item with
    | arc shape =>
      obtain ⟨⟨radius, extent⟩, rfl, hr, he⟩ := hitem
      exact Turtle.unfailing_circle (fitsReal_of_isSmall hr) (fitsReal_of_isSmall he)
    | heading angle =>
      intro s hs
      obtain ⟨heading, hreal, hrun⟩ := exists_followItem_heading hitem s
      exact .inl ⟨_, hrun, ⟨hs.turtle.x, hs.turtle.y, hreal⟩, hs.delay, hs.steps, hs.fits⟩

/-- A stroke begins at reals, and with arcs of as many chords. -/
theorem real_begun {s : Stroke Argument} {height : Argument} {t t' : Turtle Argument}
    (ht : t.IsReal) (h : s.begun height t = .ok t') : t'.IsReal ∧ t'.arcSteps = t.arcSteps := by
  simp only [begun, Except.bind_eq_ok_iff] at h
  obtain ⟨p, -, y, -, x', hx', y', hy', c, -, n, -, heading, hheading, h⟩ := h
  obtain rfl := Except.ok.inj h
  obtain ⟨x, rfl⟩ := Argument.scalar_toReal_eq_ok hx'
  obtain ⟨y, rfl⟩ := Argument.scalar_toReal_eq_ok hy'
  exact ⟨⟨rfl, rfl, real_headingFor ht.heading hheading⟩, rfl⟩

/-- **A stroke of small numbers** fails only with a call. -/
theorem unfailing_draw {s : Stroke ℤ} (hs : s.IsPlain) {height : Argument}
    (hheight : height.HasRows) :
    Unfailing delay ((s.map Scalar.int).draw height : Action (Scene Argument σ) Unit) := by
  intro scene hscene
  obtain ⟨t, ht⟩ := exists_begun hs hheight scene.turtle
  obtain ⟨hreal, hsteps⟩ := real_begun hscene.turtle ht
  have hrun := draw_eq_follow height (s.map Scalar.int) scene
  have honward : onward (s.map Scalar.int).path = (onward s.path).map (PathItem.map Argument.int) :=
    onward_map _ _
  simp only [ReadiesAt, ht, honward] at hrun
  have hpath : ∀ item ∈ onward s.path, item.IsPlain :=
    fun item h => hs.path item ((onward_suffix s.path).subset h)
  rw [hrun]
  exact unfailing_follow hpath { scene with turtle := t }
    ⟨hreal, hscene.delay, hsteps ▸ hscene.steps, hsteps ▸ hscene.fits⟩

theorem unfailing_drawAll {strokes : List (Stroke ℤ)} (h : ∀ s ∈ strokes, s.IsPlain)
    {height : Argument} (hheight : height.HasRows) :
    Unfailing delay (drawAll height (strokes.map (Stroke.map Scalar.int)) :
      Action (Scene Argument σ) Unit) := by
  induction strokes with
  | nil => exact Action.Succeeds.pure.or _
  | cons s rest ih =>
    exact (unfailing_draw (h s List.mem_cons_self) hheight).bind
      (ih fun x hx => h x (List.mem_cons_of_mem _ hx))

end Stroke

/-! ### Lists of names -/

namespace Mascot

/-- A drawing of names is left by a call that fails, or with the first name that no section has. -/
def LeftBy (delay : Delay) (names : List String) (e : Fault) (s : Scene Argument σ) : Prop :=
  s.LeftByCall delay e ∨ ∃ name, Section.firstUnknown? names = some name ∧ e = .unknownSection name

theorem succeedsOr_drawSections {height : Argument} (hheight : height.HasRows)
    (names : List String) :
    SucceedsOr (LeftBy delay names) (Scene.IsReady delay) (Scene.IsReady delay)
      (drawSections height names : Action (Scene Argument σ) Unit) := by
  induction names with
  | nil => exact Action.Succeeds.pure.or _
  | cons name rest ih =>
    cases hname : Section.ofName? name with
    | none =>
      exact fun s _ => .inr ⟨.unknownSection name, s, drawSections_of_unknown height hname rest s,
        .inr ⟨name, Section.firstUnknown?_cons_of_unknown hname rest, rfl⟩⟩
    | some s =>
      have hsection : Unfailing delay (drawSection height s : Action (Scene Argument σ) Unit) :=
        fun scene hscene => Stroke.unfailing_drawAll s.isPlain hheight
          { scene with log := .drawingSection s.name :: scene.log }
          ⟨hscene.turtle, hscene.delay, hscene.steps, hscene.fits⟩
      have hleft : LeftBy (σ := σ) delay (name :: rest) = LeftBy delay rest := by
        unfold LeftBy
        rw [Section.firstUnknown?_cons_of_known hname]
      rw [hleft]
      simp only [drawSections, hname]
      exact (SucceedsOr.mono hsection fun _ _ => .inl).bind ih

/-- **What a list of names draws.**  On every surface, with every height and for every turtle, a list
of names draws the strokes of the sections before the first name that no section has, in the order of
the list and nothing else, and then fails with that name, if there is one; if no section stands before
it, everything is as it was.  With a height from which the rows can be counted down, and with a turtle
at reals whose arcs have a number of chords that fits a double, a list of names fails in no other way
but with the fault of a line or of a pause. -/
theorem drawSections_listed (height : Argument) (names : List String) :
    Matches Scene.LooksDrawn (drawSections height names : Action (Scene Argument σ) Unit) (do
      Stroke.drawAll height (strokesOf Argument (Section.listed names))
      refuse (Section.firstUnknown? names)) ∧
    (∀ name, Section.listed names = [] → Section.firstUnknown? names = some name →
      ∀ s : Scene Argument σ, drawSections height names s = .error (.unknownSection name) s) ∧
    (height.HasRows → ∀ s : Scene Argument σ, s.IsReady s.delay → ∀ e s',
      drawSections height names s = .error e s' → LeftBy s.delay names e s') := by
  refine ⟨matches_drawSections height names, fun name hnone hname s => ?_,
    fun hheight s hs e s' hfails => ?_⟩
  · obtain ⟨rest, rfl, hunknown⟩ := Section.eq_cons_of_listed_eq_nil hnone hname
    exact drawSections_of_unknown height hunknown rest s
  · rcases succeedsOr_drawSections hheight names s hs with ⟨t, hreturns, -⟩ | ⟨e', t, hrun, hleft⟩
    · exact nomatch hreturns.symm.trans hfails
    · obtain ⟨rfl, rfl⟩ := EStateM.Result.error.inj (hrun.symm.trans hfails)
      exact hleft

/-- An unknown name before the nose and after it, on a sheet whose height is not a whole number. -/
theorem drawSections_nose_tail :
    let start : Scene Argument (Recorder Argument) :=
      ⟨⟨.real 0, .real 0, .real 0, true, 1, Colour.black, 30⟩, ⟨[]⟩, none, 0, []⟩
    drawSections (.real 800.5) ["tail", "nose"] start = .error (.unknownSection "tail") start ∧
      ∃ e, (drawSections (.real 800.5) ["nose", "tail"]).fault? start = some e ∧
        LeftBy none ["nose", "tail"] e
          ((drawSections (.real 800.5) ["nose", "tail"]).after start) := by
  intro start
  have hfirst := (drawSections_listed (.real 800.5) ["tail", "nose"]).2.1 "tail" (by decide)
    (by decide) start
  obtain ⟨e, hfails⟩ := Action.exists_error_of_isSome
    (a := drawSections (.real 800.5) ["nose", "tail"]) (s := start) (by decide +kernel)
  have hlater := (drawSections_listed (.real 800.5) ["nose", "tail"]).2.2
    (Argument.hasRows_real _) start
    ⟨⟨rfl, rfl, rfl⟩, rfl, by decide, Argument.fitsReal_int (by decide)⟩ e _ hfails
  exact ⟨hfirst, e, Action.fault?_of_error hfails, hlater⟩

/-- **A list can be torn.**  The nose is drawn before a later name is found to be unknown.  A height,
or a number of chords in an arc, that no double can hold ends the drawing of the nose, though the
surface and the pauses never fail. -/
theorem drawSections_torn :
    let start : Scene Argument (Recorder Argument) :=
      ⟨⟨.real 0, .real 0, .real 0, true, 1, Colour.black, 30⟩, ⟨[]⟩, none, 0, []⟩
    let fine := { start with turtle.arcSteps := 10 ^ 400 }
    let torn := drawSections (.int 800) ["nose", "tail"]
    let tooLarge := "int too large to convert to float"
    (torn.fault? start).map Fault.message = some "Unknown mascot section: tail" ∧
      (torn.after start).surface.drawn ≠ [] ∧
      (torn.after start).turtle.penSize ≠ 1 ∧
      ((drawSections (.int (10 ^ 400)) ["nose"]).fault? start).map Fault.message = some tooLarge ∧
      ((drawSections (.int 800) ["nose"]).fault? fine).map Fault.message = some tooLarge := by
  intro start fine torn tooLarge
  decide +kernel +revert

end Mascot

end TurtleCanvas
