import TurtleCanvas.Proofs.Action
import TurtleCanvas.Proofs.Turtle.Walk

/-!
# A turtle draws the trace of its walk

On a surface that keeps what it is asked to draw, each step of a program does what its walk says:
it draws what is drawn of the walk's events, leaves the turtle and the count of pauses as the walk
does, and fails when the walk does.

* `LawfulReal` is what is asked of an arithmetic: values that were made reals stay reals;
* `Turtle.IsReal` says that a turtle stands at reals, which it always does;
* `Follows` relates an action to a walk, and `Follows.andThen` does so for actions in sequence;
* `Step.follows_perform`, `Step.follows_performAll` and `Step.leave_eq` say that steps, programs and
  runs follow their walks.
-/

namespace TurtleCanvas

/-- An arithmetic in which what is made of reals is a real. -/
class LawfulReal (α : Type) [Scalar α] : Prop where
  toReal_toReal {a b : α} : Scalar.toReal a = .ok b → Scalar.toReal b = .ok b
  toReal_real (n : Int) : Scalar.toReal (Scalar.real n : α) = .ok (Scalar.real n)
  toReal_add {a b c : α} : Scalar.toReal a = .ok a → Scalar.add a b = .ok c →
    Scalar.toReal c = .ok c
  toReal_rem {a b c : α} : Scalar.rem a b = .ok c → Scalar.toReal c = .ok c

/-! ### Walks on scenes -/

/-- At most one line or dot is drawn of an event. -/
theorem Event.reverse_drawn {α : Type} (e : Event α) : e.drawn.reverse = e.drawn := by
  cases e with
  | move before after => rw [drawn]; split <;> rfl
  | dot turtle diameter colour => rfl

namespace Walk

variable {α : Type}

/-- What a scene is after a walk. -/
def sceneAfter (w : Walk α) (s : Scene α (Recorder α)) : Scene α (Recorder α) :=
  { s with
    turtle := w.turtle
    surface := ⟨w.drawn.reverse ++ s.surface.drawn⟩
    pauses := w.pauses }

/-- What an action does that does a walk. -/
def on (w : Walk α) (s : Scene α (Recorder α)) :
    EStateM.Result Fault (Scene α (Recorder α)) Unit :=
  match w.fault with
  | none => .ok () (w.sceneAfter s)
  | some e => .error e (w.sceneAfter s)

theorem on_of_none {w : Walk α} (h : w.fault = none) (s : Scene α (Recorder α)) :
    w.on s = .ok () (w.sceneAfter s) := by
  simp only [on, h]

theorem on_of_some {w : Walk α} {e : Fault} (h : w.fault = some e) (s : Scene α (Recorder α)) :
    w.on s = .error e (w.sceneAfter s) := by
  simp only [on, h]

theorem after_of_on {a : Action (Scene α (Recorder α)) Unit} {w : Walk α}
    {s : Scene α (Recorder α)} (h : a s = w.on s) : a.after s = w.sceneAfter s := by
  cases hw : w.fault with
  | none => exact Action.after_of_ok (h.trans (on_of_none hw s))
  | some e => exact Action.after_of_error (h.trans (on_of_some hw s))

theorem andThen_of_some {w : Walk α} {e : Fault} (h : w.fault = some e)
    (next : Turtle α → Nat → Walk α) : w.andThen next = w := by
  simp only [andThen, h]

theorem andThen_of_none {w : Walk α} (h : w.fault = none) (next : Turtle α → Nat → Walk α) :
    w.andThen next = { next w.turtle w.pauses with
      events := w.events ++ (next w.turtle w.pauses).events } := by
  simp only [andThen, h]

theorem still_andThen (t : Turtle α) (pauses : Nat) (next : Turtle α → Nat → Walk α) :
    (still t pauses).andThen next = next t pauses := rfl

theorem stuck_andThen (t : Turtle α) (pauses : Nat) (e : Fault) (next : Turtle α → Nat → Walk α) :
    (stuck t pauses e).andThen next = stuck t pauses e := rfl

theorem move_andThen (t : Turtle α) (pauses : Nat) (p : α × α) (next : Turtle α → Nat → Walk α) :
    (move t pauses p).andThen next =
      { next { t with x := p.1, y := p.2 } pauses with
        events := .move t { t with x := p.1, y := p.2 } ::
          (next { t with x := p.1, y := p.2 } pauses).events } := rfl

theorem sceneAfter_sceneAfter (w v : Walk α) (s : Scene α (Recorder α)) :
    v.sceneAfter (w.sceneAfter s) =
      ({ v with events := w.events ++ v.events } : Walk α).sceneAfter s := by
  simp [sceneAfter, drawn]

/-- A walk after another is done on the scene that the first one leaves. -/
theorem on_sceneAfter (w v : Walk α) (s : Scene α (Recorder α)) :
    v.on (w.sceneAfter s) = ({ v with events := w.events ++ v.events } : Walk α).on s := by
  rw [on, on, sceneAfter_sceneAfter]

end Walk

/-! ### Actions that follow walks -/

/-- A turtle whose position and heading are reals. -/
structure Turtle.IsReal {α : Type} [Scalar α] (t : Turtle α) : Prop where
  x : Scalar.toReal t.x = .ok t.x
  y : Scalar.toReal t.y = .ok t.y
  heading : Scalar.toReal t.heading = .ok t.heading

variable {α : Type} [Scalar α]

/-- On a scene an action does a walk, and the turtle is at reals in the end. -/
def FollowsAt (a : Action (Scene α (Recorder α)) Unit) (w : Walk α) (s : Scene α (Recorder α)) :
    Prop :=
  a s = w.on s ∧ w.turtle.IsReal

/-- An action does a walk on every scene whose turtle is at reals. -/
def Follows (a : Action (Scene α (Recorder α)) Unit) (w : Delay → Turtle α → Nat → Walk α) : Prop :=
  ∀ s : Scene α (Recorder α), s.turtle.IsReal → FollowsAt a (w s.delay s.turtle s.pauses) s

/-- An action upon a result follows a walk upon that result. -/
theorem FollowsAt.ofExcept {β : Type} {r : Except Fault β}
    {f : β → Action (Scene α (Recorder α)) Unit} {w : β → Walk α} {s : Scene α (Recorder α)}
    (hs : s.turtle.IsReal) (h : ∀ b, r = .ok b → FollowsAt (f b) (w b) s) :
    FollowsAt (do f (← Action.ofExcept r)) (Walk.upon r s.turtle s.pauses w) s := by
  cases r with
  | error e => exact ⟨rfl, hs⟩
  | ok b => exact h b rfl

namespace Follows

/-- Two actions in sequence follow one walk after the other. -/
theorem andThen {a b : Action (Scene α (Recorder α)) Unit}
    {v w : Delay → Turtle α → Nat → Walk α} (ha : Follows a v) (hb : Follows b w) :
    Follows (do a; b) fun delay t pauses => (v delay t pauses).andThen (w delay) := by
  intro s hs
  obtain ⟨hrun, hreal⟩ := ha s hs
  show FollowsAt _ ((v s.delay s.turtle s.pauses).andThen (w s.delay)) s
  cases hv : (v s.delay s.turtle s.pauses).fault with
  | some e =>
    rw [Walk.andThen_of_some hv]
    -- The first action fails, and the scene that it leaves is the last one.
    have hstop := Action.bind_of_error (f := fun _ => b) (hrun.trans (Walk.on_of_some hv s))
    exact ⟨hstop.trans (Walk.on_of_some hv s).symm, hreal⟩
  | none =>
    rw [Walk.andThen_of_none hv]
    have hgo := Action.bind_of_ok (f := fun _ => b) (hrun.trans (Walk.on_of_none hv s))
    obtain ⟨hrest, hreal'⟩ := hb ((v s.delay s.turtle s.pauses).sceneAfter s) hreal
    exact ⟨(hgo.trans hrest).trans (Walk.on_sceneAfter _ _ _), hreal'⟩

theorem ofExcept {β : Type} {r : Except Fault β} {f : β → Action (Scene α (Recorder α)) Unit}
    {w : β → Delay → Turtle α → Nat → Walk α} (h : ∀ b, r = .ok b → Follows (f b) (w b)) :
    Follows (do f (← Action.ofExcept r)) fun delay t pauses =>
      Walk.upon r t pauses fun b => w b delay t pauses :=
  fun s hs => FollowsAt.ofExcept hs fun b hb => h b hb s hs

/-- An action upon what is worked out from the turtle follows a walk upon it. -/
theorem ask {β : Type} {r : Turtle α → Except Fault β}
    {f : β → Action (Scene α (Recorder α)) Unit} {w : β → Delay → Turtle α → Nat → Walk α}
    (h : ∀ b s, s.turtle.IsReal → r s.turtle = .ok b →
      FollowsAt (f b) (w b s.delay s.turtle s.pauses) s) :
    Follows (do f (← Turtle.ask r)) fun delay t pauses =>
      Walk.upon (r t) t pauses fun b => w b delay t pauses := by
  intro s hs
  show FollowsAt _ (Walk.upon (r s.turtle) s.turtle s.pauses fun b =>
    w b s.delay s.turtle s.pauses) s
  cases hr : r s.turtle with
  | error e =>
    have hask : (Turtle.ask r : Action (Scene α (Recorder α)) β) s = .error e s := by
      simp only [Turtle.ask, hr]
    exact ⟨Action.bind_of_error hask, hs⟩
  | ok b =>
    have hask : (Turtle.ask r : Action (Scene α (Recorder α)) β) s = .ok b s := by
      simp only [Turtle.ask, hr]
    obtain ⟨hrun, hreal⟩ := h b s hs hr
    exact ⟨(Action.bind_of_ok hask).trans hrun, hreal⟩

end Follows

/-! ### Lines and moves -/

namespace Turtle

section

variable {α σ : Type} [Surface α σ] {s : Scene α σ}

theorem lineTo_of_up (h : s.turtle.isDown = false) (x y : α) : lineTo x y s = .ok () s := by
  have hask : (ask pure : Action (Scene α σ) (Turtle α)) s = .ok s.turtle s := rfl
  refine (Action.bind_of_ok hask).trans ?_
  rw [if_neg (by simp [h])]
  rfl

theorem lineTo_of_down (h : s.turtle.isDown = true) (x y : α) : lineTo x y s =
    onSurface (Surface.line ⟨s.turtle.x, s.turtle.y, x, y⟩ s.turtle.penColour s.turtle.penSize)
      s := by
  have hask : (ask pure : Action (Scene α σ) (Turtle α)) s = .ok s.turtle s := rfl
  refine (Action.bind_of_ok hask).trans ?_
  rw [if_pos h]

end

/-- A line is drawn to reals, if the pen is down. -/
theorem lineTo_of_real {s : Scene α (Recorder α)} (hs : s.turtle.IsReal) {x y x' y' : α}
    (hx : Scalar.toReal x = .ok x') (hy : Scalar.toReal y = .ok y') :
    lineTo x y s = .ok () { s with surface :=
      ⟨(Event.move s.turtle { s.turtle with x := x', y := y' }).drawn ++ s.surface.drawn⟩ } := by
  cases h : s.turtle.isDown with
  | false => rw [lineTo_of_up h, Event.drawn, h]; rfl
  | true =>
    rw [lineTo_of_down h, Event.drawn, h]
    simp only [onSurface, Surface.line, hs.x, hs.y, hx, hy]
    rfl

/-- A line to what cannot be read fails without a trace. -/
theorem lineTo_of_unreadable {s : Scene α (Recorder α)} (hs : s.turtle.IsReal)
    (h : s.turtle.isDown = true) {x y : α} {e : Fault}
    (he : (do
      let x ← Scalar.toReal x
      let y ← Scalar.toReal y
      return (x, y)) = Except.error e) : lineTo x y s = .error e s := by
  rw [lineTo_of_down h]
  simp only [onSurface, Surface.line, hs.x, hs.y]
  cases hx : Scalar.toReal x with
  | error e' =>
    obtain rfl : e' = e := by rw [hx] at he; exact Except.error.inj he
    rfl
  | ok x' =>
    cases hy : Scalar.toReal y with
    | error e' =>
      obtain rfl : e' = e := by rw [hx, hy] at he; exact Except.error.inj he
      rfl
    | ok y' => rw [hx, hy] at he; exact nomatch he

theorem setPosition_of_real {σ : Type} {s : Scene α σ} {x y x' y' : α}
    (hx : Scalar.toReal x = .ok x') (hy : Scalar.toReal y = .ok y') :
    setPosition x y s = .ok () { s with turtle := { s.turtle with x := x', y := y' } } := by
  rw [setPosition, hx, hy]
  rfl

variable [LawfulReal α]

theorem real_unlessFull {r heading : α} (hr : Scalar.toReal r = .ok r)
    (h : (do if ← Scalar.le (Scalar.real 360) r then pure (Scalar.real 0) else pure r) =
      Except.ok (ε := Fault) heading) : Scalar.toReal heading = .ok heading := by
  obtain ⟨full, -, h⟩ := Except.bind_eq_ok_iff.1 h
  split at h
  · obtain rfl := Except.ok.inj h
    exact LawfulReal.toReal_real 0
  · obtain rfl := Except.ok.inj h
    exact hr

/-- A heading is a real. -/
theorem real_foldHeading {angle heading : α} (h : foldHeading angle = .ok heading) :
    Scalar.toReal heading = .ok heading := by
  unfold foldHeading at h
  obtain ⟨a, -, h⟩ := Except.bind_eq_ok_iff.1 h
  obtain ⟨r, hr, h⟩ := Except.bind_eq_ok_iff.1 h
  obtain ⟨below, -, h⟩ := Except.bind_eq_ok_iff.1 h
  have hreal : Scalar.toReal r = .ok r := LawfulReal.toReal_rem hr
  split at h
  · exact real_unlessFull (LawfulReal.toReal_real 0) h
  · split at h
    · obtain ⟨r', hr', h⟩ := Except.bind_eq_ok_iff.1 h
      exact real_unlessFull (LawfulReal.toReal_add hreal hr') h
    · exact real_unlessFull hreal h

theorem real_turned {t : Turtle α} {angle heading : α} (h : t.turned angle = .ok heading) :
    Scalar.toReal heading = .ok heading := by
  obtain ⟨a, -, h⟩ := Except.bind_eq_ok_iff.1 h
  exact real_foldHeading h

theorem real_ahead {t : Turtle α} (ht : t.IsReal) {distance : α} {p : α × α}
    (h : t.ahead distance = .ok p) :
    Scalar.toReal p.1 = .ok p.1 ∧ Scalar.toReal p.2 = .ok p.2 := by
  unfold ahead at h
  simp only [Except.bind_eq_ok_iff] at h
  obtain ⟨_, -, _, -, x, hx, _, -, _, -, y, hy, h⟩ := h
  obtain rfl := Except.ok.inj h
  exact ⟨LawfulReal.toReal_add ht.x hx, LawfulReal.toReal_add ht.y hy⟩

/-- A turtle is made at reals. -/
theorem isReal_create {x y heading : α} {arcSteps : Except Fault Int} {t : Turtle α}
    (h : create x y heading arcSteps = .ok t) : t.IsReal := by
  unfold create at h
  simp only [Except.bind_eq_ok_iff] at h
  obtain ⟨x', hx, y', hy, heading', hheading, steps, -, h⟩ := h
  obtain rfl := Except.ok.inj h
  exact ⟨LawfulReal.toReal_toReal hx, LawfulReal.toReal_toReal hy, real_foldHeading hheading⟩

/-! ### What a turtle is told -/

omit [LawfulReal α] in
theorem follows_pause : Follows (α := α) pause Walk.pause := by
  intro s hs
  obtain ⟨turtle, surface, delay, pauses, log⟩ := s
  cases delay with
  | none => exact ⟨rfl, hs⟩
  | some outcome =>
    show FollowsAt _ (match outcome (pauses + 1) with
      | none => Walk.still turtle (pauses + 1)
      | some e => Walk.stuck turtle (pauses + 1) e) _
    cases h : outcome (pauses + 1) with
    | none => exact ⟨by simp only [pause, h]; rfl, hs⟩
    | some e => exact ⟨by simp only [pause, h]; rfl, hs⟩

omit [LawfulReal α] in
/-- A move to reals draws a line to them and goes there. -/
theorem followsAt_move {s : Scene α (Recorder α)} (hs : s.turtle.IsReal) {p : α × α}
    (hp : Scalar.toReal p.1 = .ok p.1 ∧ Scalar.toReal p.2 = .ok p.2) :
    FollowsAt (do lineTo p.1 p.2; update fun t => { t with x := p.1, y := p.2 })
      (Walk.move s.turtle s.pauses p) s := by
  refine ⟨(Action.bind_of_ok (lineTo_of_real hs hp.1 hp.2)).trans ?_, hp.1, hp.2, hs.heading⟩
  simp [update, Action.change, Walk.on, Walk.move, Walk.sceneAfter, Walk.drawn,
    Event.reverse_drawn]

theorem follows_forward (distance : α) : Follows (forward distance) fun _ => Walk.forward distance :=
  Follows.ask fun _ _ hs hp => followsAt_move hs (real_ahead hs hp)

theorem follows_turn (angle : α) : Follows (turn angle) fun _ => Walk.turn angle :=
  Follows.ask fun _ _ hs hh => ⟨rfl, hs.x, hs.y, real_turned hh⟩

theorem follows_setPosition (x y : α) :
    Follows (setPosition x y) fun delay => (Step.setPosition x y).walk delay := by
  refine Follows.ofExcept fun x' hx s hs => ?_
  have hx' : Scalar.toReal x' = .ok x' := LawfulReal.toReal_toReal hx
  show FollowsAt _ (Walk.upon (Scalar.toReal y) { s.turtle with x := x' } s.pauses fun y' =>
    Walk.still { s.turtle with x := x', y := y' } s.pauses) s
  cases hy : Scalar.toReal y with
  | error e => exact ⟨rfl, hx', hs.y, hs.heading⟩
  | ok y' => exact ⟨rfl, hx', LawfulReal.toReal_toReal hy, hs.heading⟩

theorem follows_goTo (x y : α) : Follows (goTo x y) fun delay => (Step.goTo x y).walk delay := by
  intro s hs
  show FollowsAt (do lineTo x y; setPosition x y)
    (Walk.upon (Scalar.toReal x) s.turtle s.pauses fun x' =>
      Walk.upon (Scalar.toReal y) (if s.turtle.isDown then s.turtle else { s.turtle with x := x' })
        s.pauses fun y' => Walk.move s.turtle s.pauses (x', y')) s
  -- What cannot be read fails in the line when there is one to draw, and otherwise on the way.
  have hup : s.turtle.isDown = false → (goTo x y : Action (Scene α (Recorder α)) Unit) s =
      setPosition x y s := fun h => Action.bind_of_ok (lineTo_of_up h x y)
  cases hx : Scalar.toReal x with
  | error e =>
    refine ⟨?_, hs⟩
    cases hd : s.turtle.isDown with
    | false => exact (hup hd).trans (by rw [setPosition, hx]; rfl)
    | true => exact Action.bind_of_error (lineTo_of_unreadable hs hd (by rw [hx]; rfl))
  | ok x' =>
    have hx' : Scalar.toReal x' = .ok x' := LawfulReal.toReal_toReal hx
    cases hy : Scalar.toReal y with
    | error e =>
      cases hd : s.turtle.isDown with
      | false => exact ⟨(hup hd).trans (by rw [setPosition, hx, hy]; rfl), hx', hs.y, hs.heading⟩
      | true =>
        exact ⟨Action.bind_of_error (lineTo_of_unreadable hs hd (by rw [hx, hy]; rfl)), hs⟩
    | ok y' =>
      have hy' : Scalar.toReal y' = .ok y' := LawfulReal.toReal_toReal hy
      refine ⟨(Action.bind_of_ok (lineTo_of_real hs hx hy)).trans ?_, hx', hy', hs.heading⟩
      rw [setPosition_of_real hx hy]
      simp [Walk.on, Walk.upon, Walk.move, Walk.sceneAfter, Walk.drawn, Event.reverse_drawn]

theorem follows_chords (chord angle : α) (n : Nat) :
    Follows (chords chord angle n) fun delay => Walk.chords delay chord angle n := by
  induction n with
  | zero => exact fun s hs => ⟨rfl, hs⟩
  | succ n ih =>
    exact (follows_forward chord).andThen ((follows_turn angle).andThen (follows_pause.andThen ih))

omit [LawfulReal α] in
theorem upon_arc (t : Turtle α) (radius extent : α) (steps : Option (Except Fault Int))
    (pauses : Nat) (w : Arc α → Walk α) :
    Walk.upon (t.arc radius extent steps) t pauses w =
      Walk.upon (t.arcChords steps) t pauses fun count =>
        Walk.upon (chordLength radius extent count) t pauses fun chord =>
          Walk.upon (Scalar.div extent (Scalar.int count)) t pauses fun angle =>
            w ⟨count, chord, angle⟩ := by
  rw [arc]
  cases t.arcChords steps with
  | error e => rfl
  | ok count =>
    simp only [bind, Except.bind, Walk.upon]
    cases chordLength radius extent count with
    | error e => rfl
    | ok chord =>
      simp only
      cases Scalar.div extent (Scalar.int count) <;> rfl

theorem follows_circle (radius extent : α) (steps : Option (Except Fault Int)) :
    Follows (circle radius extent steps) fun delay =>
      (Step.circle radius extent steps).walk delay := by
  intro s hs
  show FollowsAt _ (if Scalar.isZero extent then Walk.still s.turtle s.pauses
    else if Scalar.isZero radius then Walk.turn extent s.turtle s.pauses
    else Walk.upon (s.turtle.arc radius extent steps) s.turtle s.pauses fun a =>
      Walk.chords s.delay a.chord a.angle a.count s.turtle s.pauses) s
  rw [circle]
  by_cases hextent : Scalar.isZero extent = true
  · rw [if_pos hextent, if_pos hextent]
    exact ⟨rfl, hs⟩
  rw [if_neg hextent, if_neg hextent]
  by_cases hradius : Scalar.isZero radius = true
  · rw [if_pos hradius, if_pos hradius]
    exact follows_turn extent s hs
  -- The chords are worked out one result after the other, as the walk of an arc asks for them.
  rw [if_neg hradius, if_neg hradius, upon_arc]
  have hchords := FollowsAt.ofExcept (r := s.turtle.arcChords steps) hs fun n _ =>
    FollowsAt.ofExcept (r := chordLength radius extent n) hs fun chord _ =>
      FollowsAt.ofExcept (r := Scalar.div extent (Scalar.int n)) hs fun angle _ =>
        follows_chords chord angle n s hs
  cases steps with
  | none => exact hchords
  | some steps => exact hchords

omit [LawfulReal α] in
theorem follows_stamp (size : Option α) (ink : Option Ink) :
    Follows (stamp size ink) fun delay => (Step.dot size ink).walk delay := by
  intro s hs
  refine FollowsAt.ofExcept (r := ink.getD (.ok s.turtle.penColour)) (f := fun colour =>
    onSurface (Surface.dot s.turtle.x s.turtle.y (size.getD s.turtle.dotSize) colour)) hs
      fun colour _ => ?_
  cases hsize : Scalar.toReal (size.getD s.turtle.dotSize) with
  | error e =>
    refine ⟨?_, hs⟩
    simp only [onSurface, Surface.dot, hs.x, hs.y, hsize]
    rfl
  | ok d =>
    refine ⟨?_, hs⟩
    simp only [onSurface, Surface.dot, hs.x, hs.y, hsize]
    rfl

end Turtle

namespace Step

variable [LawfulReal α]

open Turtle

/-- **Each step does its walk.** -/
theorem follows_perform (step : Step α) : Follows step.perform fun delay => step.walk delay := by
  cases step with
  | penUp => exact fun s hs => ⟨rfl, hs.x, hs.y, hs.heading⟩
  | penDown => exact fun s hs => ⟨rfl, hs.x, hs.y, hs.heading⟩
  | penSize size =>
    exact Follows.ofExcept fun n _ s hs => ⟨rfl, hs.x, hs.y, hs.heading⟩
  | colour ink => exact Follows.ofExcept fun c _ s hs => ⟨rfl, hs.x, hs.y, hs.heading⟩
  | setHeading angle =>
    exact Follows.ofExcept fun h hh s hs => ⟨rfl, hs.x, hs.y, real_foldHeading hh⟩
  | setPosition x y => exact follows_setPosition x y
  | goTo x y => exact follows_goTo x y
  | forward distance => exact follows_forward distance
  | back distance => exact Follows.ofExcept fun d _ => follows_forward d
  | turn angle => exact follows_turn angle
  | right angle => exact follows_turn angle
  | left angle => exact Follows.ofExcept fun a _ => follows_turn a
  | dot size ink => exact follows_stamp size ink
  | circle radius extent steps => exact follows_circle radius extent steps

theorem perform_eq (step : Step α) {s : Scene α (Recorder α)} (hs : s.turtle.IsReal) :
    step.perform s = (step.walk s.delay s.turtle s.pauses).on s :=
  (follows_perform step s hs).1

omit [LawfulReal α] in
/-- A step that only changes the turtle leaves the walk to the steps after it. -/
theorem walkProgram_of_still {delay : Delay} {step : Step α} {t u : Turtle α} {pauses : Nat}
    (h : step.walk delay t pauses = .still u pauses) (rest : List (Step α)) :
    walkProgram delay (step :: rest) t pauses = walkProgram delay rest u pauses := by
  rw [walkProgram, h, Walk.still_andThen]

/-- A program does its walk. -/
theorem follows_performAll (steps : List (Step α)) :
    Follows (performAll steps) fun delay => walkProgram delay steps := by
  induction steps with
  | nil => exact fun s hs => ⟨rfl, hs⟩
  | cons step rest ih => exact (follows_perform step).andThen ih

/-- **A run does its walk**, failed steps included. -/
theorem leave_eq (steps : List (Step α)) {s : Scene α (Recorder α)} (hs : s.turtle.IsReal) :
    leave s steps = (walkAll s.delay steps s.turtle s.pauses).sceneAfter s ∧
      (walkAll s.delay steps s.turtle s.pauses).turtle.IsReal := by
  induction steps generalizing s with
  | nil => exact ⟨rfl, hs⟩
  | cons step rest ih =>
    obtain ⟨hrun, hreal⟩ := follows_perform step s hs
    -- Whether or not the step failed, the next one starts from the scene that it left.
    have hafter := Walk.after_of_on hrun
    obtain ⟨hrest, hreal'⟩ := ih (s := (step.walk s.delay s.turtle s.pauses).sceneAfter s) hreal
    refine ⟨?_, hreal'⟩
    show leave (step.perform.after s) rest = _
    rw [hafter, hrest, Walk.sceneAfter_sceneAfter]
    rfl

end Step

end TurtleCanvas
