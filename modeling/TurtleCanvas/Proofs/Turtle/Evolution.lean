import TurtleCanvas.Proofs.Action
import TurtleCanvas.Proofs.Turtle.Walk

/-!
# What can become of a turtle

Whatever a turtle is told, and whether its surface takes what it draws or fails, its heading stays
as it is or becomes the heading of an angle, its pen keeps some width and its arcs the number of
their chords.

* `Turtle.Leads` says that an action leads from the turtle before it to the one after it along a
  relation, also when it fails;
* `Turtle.Evolves` is what can become of a turtle, and `Step.evolves_perform` and
  `Step.evolves_leave` say it of steps and of runs of them;
* `Step.Turns` are the turns that a turtle makes during a step, and `Step.brings_of_perform` says
  that a heading does not come to have a property but by one of them, or by looking in a direction.
-/

namespace TurtleCanvas

variable {α σ β γ : Type}

namespace Turtle

/-! ### Relations along actions -/

/-- An action leads from the turtle before it to the one after it along a relation, also when it
fails. -/
def Leads (R : Turtle α → Turtle α → Prop) (a : Action (Scene α σ) β) : Prop :=
  ∀ s, R s.turtle (a.after s).turtle

namespace Leads

variable {R : Turtle α → Turtle α → Prop}

theorem update {f : Turtle α → Turtle α} (hf : ∀ t, R t (f t)) :
    Leads R (Turtle.update f : Action (Scene α σ) Unit) := fun s => hf s.turtle

section

variable [Trans R R R]

/-- An action in sequence with others, each of which goes on from what the first one gives. -/
theorem bind_of_gives {a : Action (Scene α σ) β} {f : β → Action (Scene α σ) γ} (ha : Leads R a)
    (hf : ∀ s b s', a s = .ok b s' → R s'.turtle ((f b).after s').turtle) : Leads R (a >>= f) := by
  intro s
  have hs := ha s
  cases h : a s with
  | ok b s' =>
    rw [Action.after_of_ok h] at hs
    rw [Action.after_bind_of_ok h]
    exact Trans.trans hs (hf s b s' h)
  | error e s' =>
    rw [Action.after_of_error h] at hs
    rwa [Action.after_bind_of_error h]

theorem bind {a : Action (Scene α σ) β} {f : β → Action (Scene α σ) γ} (ha : Leads R a)
    (hf : ∀ b, Leads R (f b)) : Leads R (a >>= f) :=
  ha.bind_of_gives fun _ b s' _ => hf b s'

end

variable [Std.Refl R]

theorem pure (b : β) : Leads R (pure b : Action (Scene α σ) β) := fun s => Std.Refl.refl s.turtle

theorem ofExcept (r : Except Fault β) : Leads R (Action.ofExcept r : Action (Scene α σ) β) := by
  intro s
  rw [Action.after_ofExcept]
  exact Std.Refl.refl _

theorem ask (r : Turtle α → Except Fault β) : Leads R (Turtle.ask r : Action (Scene α σ) β) := by
  intro s
  simp only [Action.after, Turtle.ask]
  cases r s.turtle with
  | ok b => exact Std.Refl.refl _
  | error e => exact Std.Refl.refl _

theorem pause : Leads R (Turtle.pause : Action (Scene α σ) Unit) := by
  rintro ⟨t, surface, delay, pauses, log⟩
  cases delay with
  | none => exact Std.Refl.refl t
  | some outcome =>
    simp only [Action.after, Turtle.pause]
    cases outcome (pauses + 1) with
    | none => exact Std.Refl.refl t
    | some e => exact Std.Refl.refl t

theorem onSurface (paint : Action σ Unit) :
    Leads R (Turtle.onSurface paint : Action (Scene α σ) Unit) := by
  rintro ⟨t, surface, delay, pauses, log⟩
  simp only [Action.after, Turtle.onSurface]
  cases paint surface with
  | ok _ surface => exact Std.Refl.refl t
  | error e surface => exact Std.Refl.refl t

variable [Trans R R R]

/-- What is worked out from the turtle is known to the action after it. -/
theorem ask_bind {r : Turtle α → Except Fault β} {f : β → Action (Scene α σ) γ}
    (hf : ∀ s b, r s.turtle = .ok b → R s.turtle ((f b).after s).turtle) :
    Leads R (Turtle.ask r >>= f) := by
  refine (ask r).bind_of_gives fun s b s' h => ?_
  simp only [Turtle.ask] at h
  split at h
  · rename_i b' hb
    cases h
    exact hf s b hb
  · exact nomatch h

/-- What is worked out beforehand is known to the action after it. -/
theorem ofExcept_bind {r : Except Fault β} {f : β → Action (Scene α σ) γ}
    (hf : ∀ b, r = .ok b → Leads R (f b)) : Leads R (Action.ofExcept r >>= f) := by
  refine (ofExcept r).bind_of_gives fun s b s' h => ?_
  cases r with
  | ok b' => cases h; exact hf b rfl s
  | error e => exact nomatch h

variable [Surface α σ]

theorem lineTo (x y : α) : Leads R (Turtle.lineTo x y : Action (Scene α σ) Unit) := by
  refine (ask _).bind fun t => ?_
  split
  · exact onSurface _
  · exact pure ()

variable [Scalar α]

theorem forward (hmove : ∀ t x y, R t { t with x, y }) (distance : α) :
    Leads R (Turtle.forward distance : Action (Scene α σ) Unit) :=
  (ask _).bind fun _ => (lineTo _ _).bind fun _ => update fun _ => hmove _ _ _

end Leads

/-! ### What turtles become -/

variable [Scalar α]

/-- What can become of a turtle, its place aside. -/
structure Evolves (t u : Turtle α) : Prop where
  /-- The heading stays as it is, or becomes that of some angle. -/
  heading : u.heading = t.heading ∨ ∃ angle, foldHeading angle = .ok u.heading
  /-- The pen keeps some width. -/
  penSize : 1 ≤ t.penSize → 1 ≤ u.penSize
  /-- Arcs keep the number of their chords. -/
  arcSteps : u.arcSteps = t.arcSteps

instance : Std.Refl (Evolves (α := α)) where
  refl _ := ⟨.inl rfl, id, rfl⟩

theorem Evolves.trans {t u v : Turtle α} (h : t.Evolves u) (h' : u.Evolves v) : t.Evolves v where
  heading := by
    rcases h'.heading with hsame | hfold
    · rw [hsame]; exact h.heading
    · exact .inr hfold
  penSize ht := h'.penSize (h.penSize ht)
  arcSteps := h'.arcSteps.trans h.arcSteps

instance : Trans (Evolves (α := α)) Evolves Evolves := ⟨Evolves.trans⟩

theorem evolves_move (t : Turtle α) (x y : α) : t.Evolves { t with x, y } := ⟨.inl rfl, id, rfl⟩

theorem evolves_fold (t : Turtle α) {angle heading : α} (h : foldHeading angle = .ok heading) :
    t.Evolves { t with heading } := ⟨.inr ⟨angle, h⟩, id, rfl⟩

theorem evolves_turn (angle : α) : Leads Evolves (turn angle : Action (Scene α σ) Unit) :=
  Leads.ask_bind fun s heading h => by
    obtain ⟨sum, -, hfold⟩ := Except.bind_eq_ok_iff.1 h
    exact evolves_fold s.turtle hfold

theorem evolves_setPosition (x y : α) :
    Leads Evolves (setPosition x y : Action (Scene α σ) Unit) := by
  refine (Leads.ofExcept _).bind fun _ => Leads.bind ?_ fun _ =>
    (Leads.ofExcept _).bind fun _ => Leads.update fun _ => ⟨.inl rfl, id, rfl⟩
  exact Leads.update fun _ => ⟨.inl rfl, id, rfl⟩

variable [Surface α σ]

theorem evolves_forward (distance : α) :
    Leads Evolves (forward distance : Action (Scene α σ) Unit) :=
  Leads.forward evolves_move distance

theorem evolves_chords (chord angle : α) (n : Nat) :
    Leads Evolves (chords chord angle n : Action (Scene α σ) Unit) := by
  induction n with
  | zero => exact Leads.pure ()
  | succ n ih =>
    exact (evolves_forward chord).bind fun _ => (evolves_turn angle).bind fun _ =>
      Leads.pause.bind fun _ => ih

theorem evolves_circle (radius extent : α) (steps : Option (Except Fault Int)) :
    Leads Evolves (circle radius extent steps : Action (Scene α σ) Unit) := by
  unfold circle
  split
  · exact Leads.pure ()
  · split
    · exact evolves_turn extent
    · exact (Leads.ask _).bind fun _ => (Leads.ofExcept _).bind fun _ =>
        (Leads.ofExcept _).bind fun _ => (Leads.ofExcept _).bind fun _ => evolves_chords _ _ _

end Turtle

namespace Step

open Turtle

variable [Scalar α] [Surface α σ]

/-- **What can become of a turtle in one step**, whether that returns or fails. -/
theorem evolves_perform (step : Step α) :
    Leads Evolves (step.perform : Action (Scene α σ) Unit) := by
  cases step with
  | penUp => exact fun s => ⟨.inl rfl, id, rfl⟩
  | penDown => exact fun s => ⟨.inl rfl, id, rfl⟩
  | penSize size =>
    refine (Leads.ofExcept _).bind fun n => Leads.update fun t => ⟨.inl rfl, fun _ => ?_, rfl⟩
    show 1 ≤ (max 1 n).toNat
    omega
  | colour ink => exact (Leads.ofExcept _).bind fun _ => Leads.update fun _ => ⟨.inl rfl, id, rfl⟩
  | setHeading angle =>
    exact Leads.ofExcept_bind fun heading h => Leads.update fun t => evolves_fold t h
  | setPosition x y => exact evolves_setPosition x y
  | goTo x y => exact (Leads.lineTo x y).bind fun _ => evolves_setPosition x y
  | forward distance => exact evolves_forward distance
  | back distance => exact (Leads.ofExcept _).bind fun _ => evolves_forward _
  | turn angle => exact evolves_turn angle
  | right angle => exact evolves_turn angle
  | left angle => exact (Leads.ofExcept _).bind fun _ => evolves_turn _
  | dot size ink =>
    exact (Leads.ask _).bind fun _ => (Leads.ofExcept _).bind fun _ => Leads.onSurface _
  | circle radius extent steps => exact evolves_circle radius extent steps

/-- **What can become of a turtle in a run**, each step of which goes on from what the one before it
left, failed ones included. -/
theorem evolves_leave (s : Scene α σ) (steps : List (Step α)) :
    s.turtle.Evolves (leave s steps).turtle := by
  induction steps generalizing s with
  | nil => exact Std.Refl.refl _
  | cons step rest ih => exact (evolves_perform step s).trans (ih _)

end Step

/-! ### How a heading comes to be what it is -/

namespace Turtle

/-- The heading stays as it is. -/
def SameHeading (t u : Turtle α) : Prop := u.heading = t.heading

instance : Std.Refl (SameHeading (α := α)) := ⟨fun _ => rfl⟩

instance : Trans (SameHeading (α := α)) SameHeading SameHeading := ⟨fun h h' => h'.trans h⟩

variable [Scalar α]

/-- A turn that brings a heading to have a property gives the heading that has it. -/
theorem turned_of_turn {P : α → Prop} {angle : α} {s : Scene α σ} (h0 : ¬ P s.turtle.heading)
    (h : P ((turn angle).after s).turtle.heading) :
    ∃ heading, s.turtle.turned angle = .ok heading ∧ P heading := by
  cases hturn : s.turtle.turned angle with
  | ok heading =>
    have hask : ask (σ := σ) (fun t => t.turned angle) s = .ok heading s := by
      simp only [ask, hturn]
    rw [turn, Action.after_bind_of_ok hask] at h
    exact ⟨heading, rfl, h⟩
  | error e =>
    have hask : ask (σ := σ) (fun t => t.turned angle) s = .error e s := by
      simp only [ask, hturn]
    rw [turn, Action.after_bind_of_error hask] at h
    exact absurd h h0

variable [Surface α σ]

/-- Chords that bring a heading to have a property do so by one of the turns after them. -/
theorem exists_turn_of_chords {P : α → Prop} {chord angle : α} {n : Nat} {s : Scene α σ}
    (h0 : ¬ P s.turtle.heading) (h : P ((chords chord angle n).after s).turtle.heading) :
    ∃ k s₁ s₂ heading, k < n ∧ chords chord angle k s = .ok () s₁ ∧
      forward chord s₁ = .ok () s₂ ∧ ¬ P s₂.turtle.heading ∧
      s₂.turtle.turned angle = .ok heading ∧ P heading := by
  induction n generalizing s with
  | zero => exact absurd h h0
  | succ n ih =>
    have hsame : SameHeading s.turtle ((forward chord).after s).turtle :=
      Leads.forward (fun _ _ _ => rfl) chord s
    rw [chords] at h
    cases hforward : forward chord s with
    | error e s₂ =>
      rw [Action.after_of_error hforward] at hsame
      rw [Action.after_bind_of_error hforward, hsame] at h
      exact absurd h h0
    | ok u s₂ =>
      rw [Action.after_of_ok hforward] at hsame
      rw [Action.after_bind_of_ok hforward] at h
      have h2 : ¬ P s₂.turtle.heading := by rwa [hsame]
      by_cases hturned : P ((turn angle).after s₂).turtle.heading
      · obtain ⟨heading, hheading, hP⟩ := turned_of_turn h2 hturned
        exact ⟨0, s, s₂, heading, Nat.succ_pos n, rfl, hforward, h2, hheading, hP⟩
      · -- The turn went well, and so a later one did not.
        cases hturn : turn angle s₂ with
        | error e s₃ =>
          rw [Action.after_of_error hturn] at hturned
          rw [Action.after_bind_of_error hturn] at h
          exact absurd h hturned
        | ok u s₃ =>
          rw [Action.after_of_ok hturn] at hturned
          rw [Action.after_bind_of_ok hturn] at h
          have hpausing : SameHeading s₃.turtle (pause.after s₃).turtle := Leads.pause s₃
          cases hpause : pause s₃ with
          | error e s₄ =>
            rw [Action.after_of_error hpause] at hpausing
            rw [Action.after_bind_of_error hpause, hpausing] at h
            exact absurd h hturned
          | ok u s₄ =>
            rw [Action.after_of_ok hpause] at hpausing
            rw [Action.after_bind_of_ok hpause] at h
            obtain ⟨k, s₅, s₆, heading, hk, hchords, hrest⟩ := ih (by rwa [hpausing]) h
            refine ⟨k + 1, s₅, s₆, heading, Nat.succ_lt_succ hk, ?_, hrest⟩
            rw [chords, Action.bind_of_ok hforward, Action.bind_of_ok hturn,
              Action.bind_of_ok hpause, hchords]

/-- An arc that has chords is worked out first and drawn then. -/
theorem circle_eq {radius extent : α} (hextent : Scalar.isZero extent = false)
    (hradius : Scalar.isZero radius = false) (count : Option (Except Fault Int)) (s : Scene α σ) :
    circle radius extent count s =
      match s.turtle.arc radius extent count with
      | .ok a => chords a.chord a.angle a.count s
      | .error e => .error e s := by
  have hask : ask (σ := σ) pure s = .ok s.turtle s := rfl
  rw [circle, if_neg (Bool.eq_false_iff.1 hextent), if_neg (Bool.eq_false_iff.1 hradius),
    Action.bind_of_ok hask, arc]
  show (Action.ofExcept (s.turtle.arcChords count) >>= _) s = _
  cases s.turtle.arcChords count with
  | error e => rfl
  | ok n =>
    rw [Except.ok_bind]
    show (Action.ofExcept (chordLength radius extent n) >>= _) s = _
    cases chordLength radius extent n with
    | error e => rfl
    | ok chord =>
      rw [Except.ok_bind]
      show (Action.ofExcept (Scalar.div extent (Scalar.int n)) >>= _) s = _
      cases Scalar.div extent (Scalar.int n) with
      | error e => rfl
      | ok angle => rfl

end Turtle

namespace Step

open Turtle

variable [Scalar α] [Surface α σ]

/-- The turns that are made while a step is performed on a scene: a turtle that turns by an angle.
In an arc one is made after each chord that is reached. -/
inductive Turns (s : Scene α σ) : Step α → Turtle α → α → Prop where
  | turn (angle : α) : Turns s (.turn angle) s.turtle angle
  | right (angle : α) : Turns s (.right angle) s.turtle angle
  | left {angle opposite : α} :
    Scalar.neg angle = .ok opposite → Turns s (.left angle) s.turtle opposite
  | spin {radius extent : α} (count : Option (Except Fault Int)) :
    Scalar.isZero radius = true → Turns s (.circle radius extent count) s.turtle extent
  | chord {radius extent : α} {count : Option (Except Fault Int)} {a : Arc α} {k : Nat}
      {s₁ s₂ : Scene α σ} :
    s.turtle.arc radius extent count = .ok a → k < a.count → chords a.chord a.angle k s = .ok () s₁ →
      Turtle.forward a.chord s₁ = .ok () s₂ → Turns s (.circle radius extent count) s₂.turtle a.angle

/-- What a turtle has become when it turns during a step. -/
theorem Turns.evolves {s : Scene α σ} {step : Step α} {u : Turtle α} {angle : α}
    (h : Turns s step u angle) : s.turtle.Evolves u := by
  cases h with
  | turn => exact Std.Refl.refl _
  | right => exact Std.Refl.refl _
  | left => exact Std.Refl.refl _
  | spin => exact Std.Refl.refl _
  | @chord radius extent count a k s₁ s₂ ha hk hchords hforward =>
    have hreached := evolves_chords a.chord a.angle k s
    rw [Action.after_of_ok hchords] at hreached
    have hwalked := evolves_forward a.chord s₁
    rw [Action.after_of_ok hforward] at hwalked
    exact hreached.trans hwalked

/-- A step brings the heading of a turtle to have a property: it is that of a direction to look in,
or that of a turtle that did not have it and turns. -/
inductive Brings (P : α → Prop) (s : Scene α σ) : Step α → Prop where
  | looks {angle heading : α} :
    foldHeading angle = .ok heading → P heading → Brings P s (.setHeading angle)
  | turns {step : Step α} {u : Turtle α} {angle heading : α} :
    Turns s step u angle → ¬ P u.heading → u.turned angle = .ok heading → P heading →
      Brings P s step

theorem brings_circle {P : α → Prop} {radius extent : α} {count : Option (Except Fault Int)}
    {s : Scene α σ} (h0 : ¬ P s.turtle.heading)
    (h : P ((Turtle.circle radius extent count).after s).turtle.heading) :
    Brings P s (.circle radius extent count) := by
  cases hextent : Scalar.isZero extent with
  | true =>
    rw [Turtle.circle, if_pos hextent] at h
    exact absurd h h0
  | false =>
    cases hradius : Scalar.isZero radius with
    | true =>
      rw [Turtle.circle, if_neg (Bool.eq_false_iff.1 hextent), if_pos hradius] at h
      obtain ⟨heading, hheading, hP⟩ := turned_of_turn h0 h
      exact .turns (.spin count hradius) h0 hheading hP
    | false =>
      have hcircle := circle_eq hextent hradius count s
      cases ha : s.turtle.arc radius extent count with
      | error e =>
        rw [ha] at hcircle
        rw [Action.after_of_error hcircle] at h
        exact absurd h h0
      | ok a =>
        rw [ha] at hcircle
        rw [Action.after_congr hcircle] at h
        obtain ⟨k, s₁, s₂, heading, hk, hchords, hforward, h2, hheading, hP⟩ :=
          exists_turn_of_chords h0 h
        exact .turns (.chord ha hk hchords hforward) h2 hheading hP

/-- **A heading comes to have a property only by a turn, or by looking in a direction.** -/
theorem brings_of_perform {P : α → Prop} {step : Step α} {s : Scene α σ}
    (h0 : ¬ P s.turtle.heading) (h : P (step.perform.after s).turtle.heading) :
    Brings P s step := by
  have hstays (hsame : Leads (σ := σ) SameHeading step.perform) : Brings P s step := by
    rw [hsame s] at h
    exact absurd h h0
  have hforward (distance : α) : Leads (σ := σ) SameHeading (Turtle.forward distance) :=
    Leads.forward (fun _ _ _ => rfl) distance
  have hplace (x y : α) : Leads (σ := σ) SameHeading (Turtle.setPosition x y) := by
    refine (Leads.ofExcept _).bind fun _ => Leads.bind ?_ fun _ =>
      (Leads.ofExcept _).bind fun _ => Leads.update fun _ => rfl
    exact Leads.update fun _ => rfl
  cases step with
  | penUp => exact absurd h h0
  | penDown => exact absurd h h0
  | penSize size =>
    refine hstays ?_
    exact (Leads.ofExcept _).bind fun _ => Leads.update fun _ => rfl
  | colour ink =>
    refine hstays ?_
    exact (Leads.ofExcept _).bind fun _ => Leads.update fun _ => rfl
  | setPosition x y => exact hstays (hplace x y)
  | goTo x y => exact hstays ((Leads.lineTo x y).bind fun _ => hplace x y)
  | forward distance => exact hstays (hforward distance)
  | back distance => exact hstays ((Leads.ofExcept _).bind fun _ => hforward _)
  | dot size ink =>
    exact hstays ((Leads.ask _).bind fun _ => (Leads.ofExcept _).bind fun _ => Leads.onSurface _)
  | setHeading angle =>
    cases hfold : foldHeading angle with
    | error e =>
      have hlook : perform (σ := σ) (.setHeading angle) s = .error e s := by
        simp only [perform, Turtle.setHeading, hfold]
        rfl
      rw [Action.after_of_error hlook] at h
      exact absurd h h0
    | ok heading =>
      have hlook : perform (.setHeading angle) s =
          .ok () { s with turtle := { s.turtle with heading } } := by
        simp only [perform, Turtle.setHeading, hfold]
        rfl
      rw [Action.after_of_ok hlook] at h
      exact .looks hfold h
  | turn angle =>
    obtain ⟨heading, hheading, hP⟩ := turned_of_turn h0 h
    exact .turns (.turn angle) h0 hheading hP
  | right angle =>
    obtain ⟨heading, hheading, hP⟩ := turned_of_turn h0 h
    exact .turns (.right angle) h0 hheading hP
  | left angle =>
    cases hneg : Scalar.neg angle with
    | error e =>
      have hleft : perform (σ := σ) (.left angle) s = .error e s := by
        simp only [perform, Turtle.turnLeft, hneg]
        rfl
      rw [Action.after_of_error hleft] at h
      exact absurd h h0
    | ok opposite =>
      have hleft : perform (.left angle) s = Turtle.turn opposite s := by
        simp only [perform, Turtle.turnLeft, hneg]
        rfl
      rw [Action.after_congr hleft] at h
      obtain ⟨heading, hheading, hP⟩ := turned_of_turn h0 h
      exact .turns (.left hneg) h0 hheading hP
  | circle radius extent count => exact brings_circle h0 h

/-- A heading that a turtle has after a run, but did not have before it, was brought by one of the
steps. -/
theorem brings_of_leave {P : α → Prop} {steps : List (Step α)} {s : Scene α σ}
    (h0 : ¬ P s.turtle.heading) (h : P (leave s steps).turtle.heading) :
    ∃ before step after, steps = before ++ step :: after ∧ Brings P (leave s before) step := by
  induction steps generalizing s with
  | nil => exact absurd h h0
  | cons step rest ih =>
    by_cases hstep : P (step.perform.after s).turtle.heading
    · exact ⟨[], step, rest, rfl, brings_of_perform h0 hstep⟩
    · obtain ⟨before, later, after, rfl, hbrings⟩ := ih hstep h
      exact ⟨step :: before, later, after, rfl, hbrings⟩

end Step

end TurtleCanvas
