import TurtleCanvas.Proofs.Argument.NonFinite
import TurtleCanvas.Proofs.Mascot.Plain

/-!
# The mascot forgets what the turtle did before

A stroke begins by putting the turtle somewhere.  If it sets the colour and the width of the pen and
a heading of its own, nothing is left of the turtle that came but the number of chords in its arcs,
and what is drawn from there on cannot depend on anything else.  A stroke that cannot be begun draws
nothing.  It fails in the middle of setting these parts of the turtle, whatever turtle came, and the
parts that it has not set yet are as they were.

* `Turtle.Patch` are values for some parts of a turtle;
* `Stroke.begun` is the turtle with which a stroke begins its arcs, and `Stroke.draw_eq_follow` says
  that drawing a stroke is following its path from there;
* `Forgets` says that an action does the same for all turtles with arcs of as many chords, and
  `Forgets.bind` that an action which forgets is enough, whatever comes after it;
* `drawing_forgets_the_turtle` says so of lists of strokes, of sections and of the whole mascot, and
  `heart_remembers_the_turtle` is a section that cannot be begun.
-/

namespace TurtleCanvas

variable {α σ β γ : Type}

/-! ### Parts of a turtle -/

namespace Turtle

/-- Values for some parts of a turtle, all but the number of chords in its arcs. -/
structure Patch (α : Type) where
  x : Option α := none
  y : Option α := none
  heading : Option α := none
  isDown : Option Bool := none
  penSize : Option Nat := none
  penColour : Option Colour := none

/-- The turtle with these parts set, and the others as they were. -/
def patched (t : Turtle α) (p : Patch α) : Turtle α where
  x := p.x.getD t.x
  y := p.y.getD t.y
  heading := p.heading.getD t.heading
  isDown := p.isDown.getD t.isDown
  penSize := p.penSize.getD t.penSize
  penColour := p.penColour.getD t.penColour
  arcSteps := t.arcSteps

/-- The parts that are set by one patch after another, by the later one if both set them. -/
def Patch.before (p q : Patch α) : Patch α where
  x := q.x.or p.x
  y := q.y.or p.y
  heading := q.heading.or p.heading
  isDown := q.isDown.or p.isDown
  penSize := q.penSize.or p.penSize
  penColour := q.penColour.or p.penColour

theorem patched_before (t : Turtle α) (p q : Patch α) :
    t.patched (p.before q) = (t.patched p).patched q := by
  simp only [patched, Patch.before, Option.getD_or]

end Turtle

/-! ### The beginning of a stroke -/

/-- On a scene an action changes nothing but the turtle, and then goes on as another one; or it fails
before that, with the same parts of the turtle set whichever turtle comes. -/
def ReadiesAt (a next : Action (Scene α σ) Unit) (s : Scene α σ) (r : Except Fault (Turtle α)) :
    Prop :=
  match r with
  | .ok t => a s = next { s with turtle := t }
  | .error e => ∃ p : Turtle.Patch α, ∀ t,
      a { s with turtle := t } = .error e { s with turtle := t.patched p }

namespace ReadiesAt

variable {next : Action (Scene α σ) Unit} {s : Scene α σ}

theorem ofExcept {r : Except Fault β} {k : β → Action (Scene α σ) Unit}
    {f : β → Except Fault (Turtle α)} (h : ∀ b, ReadiesAt (k b) next s (f b)) :
    ReadiesAt (Action.ofExcept r >>= k) next s (r >>= f) := by
  cases r with
  | ok b => exact h b
  | error e => exact ⟨{}, fun _ => rfl⟩

theorem update {f : Turtle α → Turtle α} {k : Unit → Action (Scene α σ) Unit}
    {r : Except Fault (Turtle α)} (p : Turtle.Patch α) (hf : ∀ t, f t = t.patched p)
    (h : ReadiesAt (k ()) next { s with turtle := f s.turtle } r) :
    ReadiesAt (Turtle.update f >>= k) next s r := by
  cases r with
  | ok t => exact h
  | error e =>
    obtain ⟨q, hq⟩ := h
    refine ⟨p.before q, fun t => ?_⟩
    rw [Turtle.patched_before, ← hf]
    exact hq (f t)

end ReadiesAt

namespace Stroke

/-- The width that a pen has after a stroke set it, or did not. -/
def penSizeFor : Option (Except Fault Int) → Nat → Except Fault Nat
  | none, penSize => .ok penSize
  | some width, _ => do return (max 1 (← width)).toNat

/-- The path after the heading that it begins with, if it does. -/
def onward : List (PathItem α) → List (PathItem α)
  | .heading _ :: rest => rest
  | path => path

variable [Scalar α]

/-- The heading that a turtle has after the beginning of a path set it, or did not. -/
def headingFor : List (PathItem α) → α → Except Fault α
  | .heading angle :: _, _ => do foldHeading (← Scalar.neg angle)
  | _, heading => .ok heading

/-- The turtle once it has begun a stroke: at its start, with the pen on the sheet, and with the
colour, the width and the heading that the stroke sets.  What it does not set is as it was. -/
def begun (height : α) (s : Stroke α) (t : Turtle α) : Except Fault (Turtle α) := do
  let (x, y) ← s.start
  let y ← Scalar.sub height y
  let x ← Scalar.toReal x
  let y ← Scalar.toReal y
  let penColour ← s.colour.getD (.ok t.penColour)
  let penSize ← penSizeFor s.width t.penSize
  let heading ← headingFor s.path t.heading
  return { t with x, y, heading, isDown := true, penSize, penColour }

/-- The stroke sets the colour and the width of the pen, and its path begins with a heading. -/
def setsAll (s : Stroke α) : Bool :=
  s.colour.isSome && s.width.isSome && match s.path with
    | .heading _ :: _ => true
    | _ => false

variable [Surface α σ]

theorem readies_follow (path : List (PathItem α)) (scene : Scene α σ) :
    ReadiesAt (do Turtle.penDown; follow path) (follow (onward path)) scene (do
      let heading ← headingFor path scene.turtle.heading
      return { scene.turtle with heading, isDown := true }) := by
  refine .update { isDown := some true } (fun _ => rfl) ?_
  match path with
  | [] => rfl
  | .arc shape :: rest => rfl
  | .heading angle :: rest =>
    show ReadiesAt (followItem (.heading angle) >>= fun _ => follow rest) (follow rest) _ _
    unfold followItem Turtle.setHeading headingFor
    simp only [bind_assoc]
    exact .ofExcept fun angle => .ofExcept fun heading =>
      .update { heading := some heading } (fun _ => rfl) rfl

/-- Drawing a stroke is to begin it and to follow its path from there. -/
theorem draw_eq_follow (height : α) (s : Stroke α) (scene : Scene α σ) :
    ReadiesAt (s.draw height) (follow (onward s.path)) scene (s.begun height scene.turtle) := by
  obtain ⟨name, start, path, colour, width⟩ := s
  unfold draw begun Turtle.setPosition Turtle.setColour Turtle.setPenSize
  simp only [bind_assoc]
  refine .ofExcept fun p => .update { isDown := some false } (fun _ => rfl) ?_
  refine .ofExcept fun row => .ofExcept fun x => .update { x := some x } (fun _ => rfl) ?_
  refine .ofExcept fun y => .update { y := some y } (fun _ => rfl) ?_
  cases colour with
  | none =>
    cases width with
    | none => exact readies_follow path _
    | some width =>
      simp only [penSizeFor, bind_assoc, pure_bind]
      exact .ofExcept fun n => .update { penSize := some (max 1 n).toNat } (fun _ => rfl)
        (readies_follow path _)
  | some ink =>
    refine .ofExcept fun penColour =>
      .update { penColour := some penColour } (fun _ => rfl) ?_
    cases width with
    | none => exact readies_follow path _
    | some width =>
      simp only [penSizeFor, bind_assoc, pure_bind]
      exact .ofExcept fun n => .update { penSize := some (max 1 n).toNat } (fun _ => rfl)
        (readies_follow path _)

omit [Scalar α] in
theorem exists_of_setsAll {s : Stroke α} (h : s.setsAll = true) : ∃ ink width angle rest,
    s.colour = some ink ∧ s.width = some width ∧ s.path = .heading angle :: rest := by
  obtain ⟨name, start, path, colour, width⟩ := s
  simp only [setsAll, Bool.and_eq_true, Option.isSome_iff_exists] at h
  obtain ⟨⟨⟨ink, hink⟩, width, hwidth⟩, hpath⟩ := h
  cases path with
  | nil => exact nomatch hpath
  | cons item rest =>
    cases item with
    | arc shape => exact nomatch hpath
    | heading angle => exact ⟨ink, width, angle, rest, hink, hwidth, rfl⟩

/-- A stroke that sets everything begins with the same turtle, whichever turtle came. -/
theorem begun_eq_of_setsAll (height : α) {s : Stroke α} (hs : s.setsAll = true) {t t' : Turtle α}
    (h : t'.arcSteps = t.arcSteps) : s.begun height t' = s.begun height t := by
  obtain ⟨ink, width, angle, rest, hink, hwidth, hpath⟩ := exists_of_setsAll hs
  simp only [begun, hink, hwidth, hpath, Option.getD_some, penSizeFor, headingFor, h]

end Stroke

/-! ### Forgetting the turtle -/

/-- An action does the same whichever turtle comes, if only its arcs have as many chords: it gives
the same result, or fails alike, and leaves the same scene, the turtle included.  When the turtle
that it is to begin with cannot be made it fails alike too, before anything is drawn and any pause is
made, with the same parts of either turtle set and the others as they were. -/
def Forgets (begun : Turtle α → Except Fault (Turtle α)) (a : Action (Scene α σ) β) : Prop :=
  ∀ (s : Scene α σ) (t : Turtle α), t.arcSteps = s.turtle.arcSteps →
    match begun t with
    | .ok _ => a { s with turtle := t } = a s
    | .error e => ∃ (p : Turtle.Patch α) (log : Log),
        a s = .error e { s with turtle := s.turtle.patched p, log } ∧
        a { s with turtle := t } = .error e { s with turtle := t.patched p, log }

namespace Forgets

variable {begun : Turtle α → Except Fault (Turtle α)} {a : Action (Scene α σ) β}

/-- Whatever comes after an action that forgets the turtle cannot know of it either. -/
theorem bind (h : Forgets begun a) (f : β → Action (Scene α σ) γ) : Forgets begun (a >>= f) := by
  intro s t ht
  have hrun := h s t ht
  cases hbegun : begun t with
  | ok t' =>
    simp only [hbegun] at hrun ⊢
    show EStateM.bind a f _ = EStateM.bind a f _
    simp only [EStateM.bind, hrun]
  | error e =>
    simp only [hbegun] at hrun ⊢
    obtain ⟨p, log, hfirst, hsecond⟩ := hrun
    exact ⟨p, log, Action.bind_of_error hfirst, Action.bind_of_error hsecond⟩

/-- A line in the log does not tell anything of the turtle. -/
theorem after_log (h : Forgets begun a) (note : Log → Log) :
    Forgets begun (Action.change (fun s => { s with log := note s.log }) >>= fun _ => a) :=
  fun s t ht => h { s with log := note s.log } t ht

end Forgets

variable [Scalar α] [Surface α σ]

theorem Stroke.forgets_draw (height : α) {s : Stroke α} (hs : s.setsAll = true) :
    Forgets (s.begun height) (s.draw height : Action (Scene α σ) Unit) := by
  intro scene t ht
  have hsame := begun_eq_of_setsAll height hs ht
  have hrun := draw_eq_follow height s scene
  have hrun' := draw_eq_follow height s { scene with turtle := t }
  simp only [hsame] at hrun' ⊢
  cases hbegun : s.begun height scene.turtle with
  | ok t' =>
    simp only [ReadiesAt, hbegun] at hrun hrun' ⊢
    rw [hrun, hrun']
  | error e =>
    simp only [ReadiesAt, hbegun] at hrun ⊢
    obtain ⟨p, hfails⟩ := hrun
    exact ⟨p, scene.log, hfails scene.turtle, hfails t⟩

theorem Stroke.forgets_drawAll (height : α) {first : Stroke α} (h : first.setsAll = true)
    (rest : List (Stroke α)) :
    Forgets (first.begun height) (drawAll height (first :: rest) : Action (Scene α σ) Unit) :=
  (forgets_draw height h).bind fun _ => drawAll height rest

/-! ### Sections -/

theorem Stroke.setsAll_map {α β : Type} (f : α → β) (s : Stroke α) :
    (s.map f).setsAll = s.setsAll := by
  obtain ⟨name, start, path, colour, width⟩ := s
  match path with
  | [] => rfl
  | .heading angle :: rest => rfl
  | .arc shape :: rest => rfl

namespace Section

/-- The turtle once it has begun a section. -/
def begun (height : α) (s : Section) (t : Turtle α) : Except Fault (Turtle α) :=
  match s.strokes with
  | [] => .ok t
  | first :: _ => (first.map Scalar.int).begun height t

/-- All sections but the rings begin with a stroke that sets everything. -/
theorem exists_first {s : Section} (h : s ≠ rings) :
    ∃ first rest, s.strokes = first :: rest ∧ first.setsAll = true := by
  cases s with
  | rings => exact absurd rfl h
  | body | eyes | nose | mouth | heart | rainbow => exact ⟨_, _, rfl, rfl⟩

end Section

namespace Mascot

theorem forgets_drawSection (height : α) {s : Section} (h : s ≠ .rings) :
    Forgets (s.begun height) (drawSection height s : Action (Scene α σ) Unit) := by
  obtain ⟨first, rest, hstrokes, hfirst⟩ := Section.exists_first h
  have hforgets := Stroke.forgets_drawAll (σ := σ) height
    ((Stroke.setsAll_map Scalar.int first).trans hfirst) (rest.map (Stroke.map Scalar.int))
  have hbegun : s.begun height = (first.map (Scalar.int (α := α))).begun height := by
    funext t
    simp only [Section.begun, hstrokes]
  rw [drawSection, hstrokes, hbegun]
  exact hforgets.after_log _

theorem forgets_drawSections (height : α) {name : String} {s : Section}
    (hname : Section.ofName? name = some s) (h : s ≠ .rings) (names : List String) :
    Forgets (s.begun height) (drawSections height (name :: names) : Action (Scene α σ) Unit) := by
  simp only [drawSections, hname]
  exact (forgets_drawSection height h).bind _

end Mascot

/-! ### Heights -/

namespace Argument

/-- On a sheet of the height the rows of the mascot can be counted down. -/
def HasRows (height : Argument) : Prop :=
  ∀ y, IsSmall y → ∃ row, Scalar.sub height (Scalar.int y) = .ok row ∧ row.FitsReal

theorem fitsReal_of_isSmall {n : ℤ} (h : IsSmall n) : (int n).FitsReal :=
  fitsReal_int (by unfold IsSmall at h; omega)

theorem hasRows_int {n : ℤ} (hn : n.natAbs ≤ 2 ^ 52) : (int n).HasRows := by
  intro y hy
  exact ⟨int (n - y), rfl, fitsReal_int (by unfold IsSmall at hy; omega)⟩

end Argument

namespace Stroke

theorem exists_penSizeFor {width : Option (Except Fault ℤ)}
    (h : ∀ w ∈ width, Gives w IsSmall) (n : ℕ) : ∃ m, penSizeFor width n = .ok m := by
  cases width with
  | none => exact ⟨n, rfl⟩
  | some w =>
    obtain ⟨m, rfl, -⟩ := h w rfl
    exact ⟨_, rfl⟩

theorem exists_headingFor {path : List (PathItem ℤ)} (h : ∀ item ∈ path, item.IsPlain)
    (heading : Argument) :
    ∃ heading', headingFor (path.map (PathItem.map Scalar.int)) heading = .ok heading' := by
  match path with
  | [] => exact ⟨heading, rfl⟩
  | .arc shape :: rest => exact ⟨heading, rfl⟩
  | .heading angle :: rest =>
    have hangle : IsSmall angle := h _ List.mem_cons_self
    obtain ⟨angle', hneg, hfits⟩ := (Argument.fitsReal_of_isSmall hangle).exists_neg
    obtain ⟨heading', hfold⟩ := Turtle.exists_foldHeading hfits
    exact ⟨heading', Except.bind_eq_ok_iff.2 ⟨angle', hneg, hfold⟩⟩

/-- On a sheet of such a height a turtle can begin every stroke of plain numbers. -/
theorem exists_begun {s : Stroke ℤ} (hs : s.IsPlain) {height : Argument} (hheight : height.HasRows)
    (t : Turtle Argument) : ∃ t', (s.map Scalar.int).begun height t = .ok t' := by
  obtain ⟨name, start, path, colour, width⟩ := s
  obtain ⟨⟨⟨x, y⟩, rfl, hx, hy⟩, hcolour, hwidth, hpath, -⟩ := hs
  obtain ⟨row, hrow, hfits⟩ := hheight y hy
  obtain ⟨x', hx'⟩ := (Argument.fitsReal_of_isSmall hx).exists_toReal
  obtain ⟨y', hy'⟩ := hfits.exists_toReal
  obtain ⟨n, hn⟩ := exists_penSizeFor hwidth t.penSize
  obtain ⟨heading, hheading⟩ := exists_headingFor hpath t.heading
  obtain ⟨c, hc⟩ : ∃ c, colour.getD (.ok t.penColour) = .ok c := by
    cases colour with
    | none => exact ⟨_, rfl⟩
    | some ink =>
      obtain ⟨c, rfl, -⟩ := hcolour ink rfl
      exact ⟨c, rfl⟩
  refine ⟨{ t with
    x := .real x', y := .real y', heading, isDown := true, penSize := n, penColour := c }, ?_⟩
  show (Scalar.sub height (Scalar.int y) >>= _) = _
  rw [hrow, Except.ok_bind]
  show (Scalar.toReal (Argument.int x) >>= _) = _
  simp only [Except.bind_eq_ok_iff]
  exact ⟨_, hx', _, hy', c, hc, n, hn, heading, hheading, rfl⟩

end Stroke

/-- On a sheet of such a height a turtle can begin every section. -/
theorem Section.exists_begun (s : Section) {height : Argument} (hheight : height.HasRows)
    (t : Turtle Argument) : ∃ t', s.begun height t = .ok t' := by
  unfold Section.begun
  cases hstrokes : s.strokes with
  | nil => exact ⟨t, rfl⟩
  | cons first rest =>
    exact Stroke.exists_begun (s.isPlain first (hstrokes ▸ List.mem_cons_self)) hheight t

/-! ### Any turtle draws the same -/

/-- **What is drawn does not depend on what the turtle did before.**  Any strokes, the first of
which sets the colour and the width of the pen and a heading, any sections after one that is not the
rings, and the whole mascot make the same calls to the surface and the same pauses, and leave the
same turtle, whichever turtle comes, if only its arcs have as many chords.  As a pause may end the
drawing, the calls made before each pause are the same as well.  If the first stroke cannot be begun,
no call and no pause is made, and what it has set of the turtle is the same.  Every section can be
begun on a sheet from whose height the rows can be counted down. -/
theorem drawing_forgets_the_turtle [Surface Argument σ] (height : Argument) :
    (∀ (first : Stroke Argument) (rest : List (Stroke Argument)), first.setsAll = true →
      Forgets (first.begun height)
        (Stroke.drawAll height (first :: rest) : Action (Scene Argument σ) Unit)) ∧
    (∀ (name : String) (names : List String) (s : Section), Section.ofName? name = some s →
      s ≠ .rings → Forgets (s.begun height)
        (Mascot.drawSections height (name :: names) : Action (Scene Argument σ) Unit)) ∧
    Forgets (Section.body.begun height)
      (Mascot.drawAll height : Action (Scene Argument σ) Unit) ∧
    (height.HasRows → ∀ (s : Section) (t : Turtle Argument), ∃ t', s.begun height t = .ok t') := by
  refine ⟨fun first rest h => Stroke.forgets_drawAll height h rest, fun name names s hname h =>
    Mascot.forgets_drawSections height hname h names, ?_, fun hheight s t =>
    s.exists_begun hheight t⟩
  -- The whole mascot is drawn by the names of all sections, the body first.
  have hbody : Section.ofName? Section.body.name = some .body := by decide
  exact Mascot.forgets_drawSections height hbody (by decide) _

/-- Two sections in the middle of others, with the rings between them, drawn by two turtles that
have nothing in common but the number of chords in their arcs. -/
theorem hearts_forget_the_turtle :
    Section.ofName? "heart" = some .heart ∧ Section.heart ≠ .rings ∧
      (Argument.int 800).HasRows ∧
      Mascot.drawSections (.int 800) ["heart", "rings", "heart"]
          (⟨⟨.real 0.5, .real (-7), .real 90, true, 4, ⟨1, 2, 3⟩, 30⟩, ⟨[]⟩, none, 0, []⟩ :
            Scene Argument (Recorder Argument)) =
        Mascot.drawSections (.int 800) ["heart", "rings", "heart"]
          ⟨⟨.real 100, .real 3, .real 0, false, 1, Colour.black, 30⟩, ⟨[]⟩, none, 0, []⟩ := by
  have hname : Section.ofName? "heart" = some .heart := by decide
  have hrows : (Argument.int 800).HasRows := Argument.hasRows_int (by decide)
  refine ⟨hname, by decide, hrows, ?_⟩
  obtain ⟨-, hsections, -, hbegins⟩ :=
    drawing_forgets_the_turtle (σ := Recorder Argument) (Argument.int 800)
  obtain ⟨t, ht⟩ := hbegins hrows .heart ⟨.real 0.5, .real (-7), .real 90, true, 4, ⟨1, 2, 3⟩, 30⟩
  have hsame := hsections "heart" ["rings", "heart"] .heart hname (by decide)
    ⟨⟨.real 100, .real 3, .real 0, false, 1, Colour.black, 30⟩, ⟨[]⟩, none, 0, []⟩
    ⟨.real 0.5, .real (-7), .real 90, true, 4, ⟨1, 2, 3⟩, 30⟩ rfl
  simpa only [ht] using hsame

/-- **A section that cannot be begun remembers the turtle.**  No double is as large as the rows of
this sheet, and what the section has not set by then is left of either turtle. -/
theorem heart_remembers_the_turtle :
    let drawn : Turtle Argument := ⟨.real 0.5, .real (-7), .real 90, true, 4, ⟨1, 2, 3⟩, 30⟩
    let fresh : Turtle Argument := ⟨.real 100, .real 3, .real 0, false, 1, Colour.black, 30⟩
    let heart (t : Turtle Argument) :=
      (Mascot.drawSections (.int (10 ^ 400)) ["heart"]).after
        (⟨t, ⟨[]⟩, none, 0, []⟩ : Scene Argument (Recorder Argument))
    drawn.arcSteps = fresh.arcSteps ∧
      Section.ofName? "heart" = some .heart ∧ Section.heart ≠ .rings ∧
      (heart drawn).turtle.penSize = 4 ∧ (heart fresh).turtle.penSize = 1 ∧
      (heart drawn).turtle.penColour = ⟨1, 2, 3⟩ ∧
      (heart fresh).turtle.penColour = Colour.black := by
  decide +kernel

end TurtleCanvas
