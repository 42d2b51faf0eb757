import TurtleCanvas.Proofs.Binary64.Bounded
import TurtleCanvas.Proofs.Canvas.NonFinite
import TurtleCanvas.Proofs.Turtle.Evolution

/-!
# Turtles that go astray

A turtle that is told an infinite or undefined number, that stands at no finite place or that has
lost its heading goes on without complaint, and draws nothing: each line it would draw has an end
that is not finite.

* `Turtle.GoesAstray` says that a turtle that goes a distance draws such a line, and
  `Turtle.exists_ahead_astray` that it ends up at no finite place;
* `Turtle.Idles` says that an action ends without having touched the surface, and
  `Turtle.idles_chords` says it of all the chords of an arc;
* `Step.IsNonFinite` says that a step has such a number or such a turtle, and `Step.idles_perform`
  that it draws nothing;
* `Canvas.nonFinite_paints_nothing` says the same of calls on a canvas and of steps on it, and which
  of them return.
-/

namespace TurtleCanvas

open Argument (IsNonFinite Reads real fitsReal_iff fitsReal_real isNonFinite_real reads_real
  scalar_toReal_eq_ok)

/-! ### Lengths that are not finite -/

namespace Turtle

variable {t : Turtle Argument} {d : Argument}

/-- The turtle stands at no finite place. -/
def IsAstray (t : Turtle Argument) : Prop := t.x.IsNonFinite ∨ t.y.IsNonFinite

/-- The heading of the turtle is a NaN. -/
def IsLost (t : Turtle Argument) : Prop := ∃ h, t.heading = real h ∧ Binary64.isNaN h = true

/-- Going a distance starts or ends at no finite place. -/
def GoesAstray (t : Turtle Argument) (d : Argument) : Prop :=
  t.IsAstray ∨ t.IsLost ∨ d.IsNonFinite

theorem isFinite_keepingNaN {f : Float → Float} {x : Float} (h : Binary64.isNaN x = true) :
    Binary64.isFinite (Argument.keepingNaN f (Argument.radians x)) = false := by
  have hradians : Binary64.isNaN (Argument.radians x) = true := Binary64.isNaN_mul h
  rw [Argument.keepingNaN, if_pos hradians]
  exact Binary64.isFinite_of_isNaN hradians

/-- A turtle that goes astray ends up at no finite place. -/
theorem exists_ahead_astray (ht : t.IsReal) (hd : d.FitsReal) (h : t.GoesAstray d) :
    ∃ p, t.ahead d = .ok p ∧ (p.1.IsNonFinite ∨ p.2.IsNonFinite) := by
  obtain ⟨x, hx⟩ := scalar_toReal_eq_ok ht.x
  obtain ⟨y, hy⟩ := scalar_toReal_eq_ok ht.y
  obtain ⟨heading, hh⟩ := scalar_toReal_eq_ok ht.heading
  obtain ⟨r, hr⟩ := fitsReal_iff.1 hd
  refine ⟨_, ahead_eq hx hy hh hr, ?_⟩
  rcases h with hplace | hlost | hdistance
  · rw [IsAstray, hx, hy] at hplace
    exact hplace.imp
      (fun h => isNonFinite_real (Binary64.isFinite_add (.inl (h.reads (reads_real x)))))
      fun h => isNonFinite_real (Binary64.isFinite_add (.inl (h.reads (reads_real y))))
  · obtain ⟨h, hlost, hnan⟩ := hlost
    obtain rfl : heading = h := by injection hh.symm.trans hlost with hreal; injection hreal
    exact .inl (isNonFinite_real (Binary64.isFinite_add (.inr
      (Binary64.isFinite_mul (.inr (isFinite_keepingNaN hnan))))))
  · exact .inl (isNonFinite_real (Binary64.isFinite_add (.inr
      (Binary64.isFinite_mul (.inl (hdistance.reads hr))))))

theorem within_circleRatio : Binary64.Within 4 Argument.circleRatio := by
  have hsignificand : Binary64.significand Argument.circleRatio = 7074237752028440 := rfl
  have hexponent : Binary64.exponent Argument.circleRatio = -51 := rfl
  refine fun _ => ?_
  rw [Binary64.value, hsignificand, hexponent]
  norm_num

/-- The length of the chords of an arc is a quotient of a product with its radius and its extent. -/
theorem exists_chordLength {radius extent : Argument} {r e : Float} (hr : radius.Reads r)
    (he : extent.Reads e) {n : ℕ} (hn : 1 ≤ n) (hfits : (Argument.int n).FitsReal) :
    ∃ u v, chordLength radius extent n = .ok (real (u * r * e / v)) ∧ Binary64.Within 8 u ∧
      Binary64.AtLeast 1 v := by
  obtain ⟨_, y, hk, hy⟩ := hfits
  obtain rfl := Option.some.inj hk
  have hcount : (Argument.int n).Reads y := ⟨_, rfl, hy⟩
  obtain ⟨two, htwo, -, htwoValue⟩ :=
    Binary64.exists_ofInt? (n := 2) (Binary64.representable_int (by decide))
  have htwo : (Argument.int 2).Reads two := ⟨_, rfl, by rw [Number.toReal, htwo]⟩
  obtain ⟨hfinite, hvalue⟩ :=
    Binary64.realOf_spec (n := 360) (Binary64.representable_int (by decide))
  obtain ⟨hyfinite, hone⟩ := Binary64.count_spec hn (Number.ofInt?_of_toReal hy)
  -- The count times 360 is at least 1 also after it was rounded.
  have hle : (1 : ℚ) ≤ Binary64.value (Argument.realOf 360) * Binary64.value y := by
    rw [hvalue]
    push_cast
    linarith
  have hatLeast := (Binary64.beside_mul hfinite hyfinite).atLeast 1 Binary64.representable_one hle
  have hne : (Argument.realOf 360 * y == 0.0) = false :=
    Binary64.beq_zero (hatLeast.value_ne one_pos)
  have hwithin : Binary64.Within 8 (two * Argument.circleRatio) := by
    have htwo : Binary64.Within 2 two := Binary64.within_of_value_eq htwoValue (by norm_num)
    have height : (2 * 4 : ℚ) = (8 : ℤ) := by norm_num
    have hproduct := htwo.mul within_circleRatio
      (height ▸ Binary64.representable_int (n := 8) (by decide))
    rw [height] at hproduct
    exact_mod_cast hproduct
  refine ⟨two * Argument.circleRatio, Argument.realOf 360 * y, ?_, hwithin, hatLeast⟩
  simp only [chordLength, Except.bind_eq_ok_iff]
  exact ⟨_, htwo.mul_real _, _, hr.real_mul _, _, he.real_mul _, _, hcount.real_mul _,
    Argument.real_div_real _ hne⟩

/-- An arc can be worked out, and its chords are not finite if its radius or its extent is not. -/
theorem exists_arc {radius extent : Argument} (hr : radius.FitsReal) (he : extent.FitsReal)
    {count : Option (Except Fault Int)} {n : ℕ} (hcount : t.arcChords count = .ok n) (hn : 1 ≤ n)
    (hfits : (Argument.int n).FitsReal) :
    ∃ a, t.arc radius extent count = .ok a ∧
      (radius.IsNonFinite ∨ extent.IsNonFinite → a.chord.IsNonFinite) := by
  obtain ⟨r, hr⟩ := fitsReal_iff.1 hr
  obtain ⟨angle, hangle⟩ := Argument.exists_div_count he hn hfits
  obtain ⟨e, he⟩ := fitsReal_iff.1 he
  obtain ⟨u, v, hchord, -⟩ := exists_chordLength hr he hn hfits
  refine ⟨⟨n, real (u * r * e / v), angle⟩, ?_,
    fun h => isNonFinite_real (Binary64.isFinite_div ?_)⟩
  · exact Except.bind_eq_ok_iff.2 ⟨n, hcount, Except.bind_eq_ok_iff.2 ⟨_, hchord,
      Except.bind_eq_ok_iff.2 ⟨angle, hangle, rfl⟩⟩⟩
  · rcases h with h | h
    · exact Binary64.isFinite_mul (.inl (Binary64.isFinite_mul (.inr (h.reads hr))))
    · exact Binary64.isFinite_mul (.inr (h.reads he))

/-! ### Moves that draw nothing -/

/-- An action ends without having touched the surface: it returns, or a pause fails. -/
inductive Idles {α σ : Type} (a : Action (Scene α σ) Unit) (s : Scene α σ) : Prop where
  | returned {s' : Scene α σ} : a s = .ok () s' → s'.surface = s.surface → Idles a s
  | interrupted {s' : Scene α σ} {outcome : Nat → Option Fault} {k : Nat} {e : Fault} :
    a s = .error e s' → s'.surface = s.surface → s.delay = some outcome → outcome k = some e →
      Idles a s

/-- An action that does what another one does on a scene with the same surface and pauses. -/
theorem Idles.of_eq {α σ : Type} {a b : Action (Scene α σ) Unit} {s s' : Scene α σ}
    (h : Idles b s') (heq : a s = b s') (hsurface : s'.surface = s.surface)
    (hdelay : s'.delay = s.delay) : Idles a s := by
  cases h with
  | returned hrun hsame => exact .returned (heq.trans hrun) (hsame.trans hsurface)
  | interrupted hrun hsame hpauses hfail =>
    exact .interrupted (heq.trans hrun) (hsame.trans hsurface) (hdelay.symm.trans hpauses) hfail

theorem onSurface_of_ok {α σ : Type} {paint : Action σ Unit} {s : Scene α σ}
    (h : paint s.surface = .ok () s.surface) : onSurface paint s = .ok () s := by
  obtain ⟨t, surface, delay, pauses, log⟩ := s
  simp only [onSurface, h]

variable {s : Scene Argument Canvas}

theorem lineTo_astray (hc : s.surface.IsReached) (ht : s.turtle.IsReal) {x y : Argument}
    (hfits : x.FitsReal ∧ y.FitsReal) (h : s.turtle.IsAstray ∨ x.IsNonFinite ∨ y.IsNonFinite) :
    lineTo x y s = .ok () s := by
  cases hdown : s.turtle.isDown with
  | false => exact lineTo_of_up hdown x y
  | true =>
    obtain ⟨x₀, hx₀⟩ := scalar_toReal_eq_ok ht.x
    obtain ⟨y₀, hy₀⟩ := scalar_toReal_eq_ok ht.y
    have hs : Segment.IsNonFinite ⟨s.turtle.x, s.turtle.y, x, y⟩ := by
      constructor
      · simp only [List.forall_mem_cons, hx₀, hy₀, fitsReal_real, hfits, List.not_mem_nil,
          false_implies, implies_true, and_self]
      · simpa only [List.exists_mem_cons_iff, List.not_mem_nil, false_and, exists_false, or_false,
          IsAstray, or_assoc] using h
    rw [lineTo_of_down hdown]
    exact onSurface_of_ok (Canvas.drawLine_of_isNonFinite hc hs _ _)

/-- A turtle that goes astray draws nothing on its way. -/
theorem exists_forward_astray (hc : s.surface.IsReached) (ht : s.turtle.IsReal) (hd : d.FitsReal)
    (h : s.turtle.GoesAstray d) :
    ∃ p, s.turtle.ahead d = .ok p ∧ (p.1.IsNonFinite ∨ p.2.IsNonFinite) ∧
      forward d s = .ok () { s with turtle := { s.turtle with x := p.1, y := p.2 } } := by
  obtain ⟨p, hp, hnon⟩ := exists_ahead_astray ht hd h
  obtain ⟨hx, hy⟩ := real_ahead ht hp
  obtain ⟨x, hx⟩ := scalar_toReal_eq_ok hx
  obtain ⟨y, hy⟩ := scalar_toReal_eq_ok hy
  have hask : ask (σ := Canvas) (fun t => t.ahead d) s = .ok p s := by simp only [ask, hp]
  have hline : lineTo p.1 p.2 s = .ok () s :=
    lineTo_astray hc ht (by rw [hx, hy]; exact ⟨fitsReal_real x, fitsReal_real y⟩) (.inr hnon)
  refine ⟨p, hp, hnon, ?_⟩
  rw [forward, Action.bind_of_ok hask, Action.bind_of_ok hline]
  rfl

theorem exists_turn {σ : Type} {s : Scene Argument σ} (ht : s.turtle.IsReal) {angle : Argument}
    (ha : angle.FitsReal) : ∃ heading, Scalar.toReal heading = .ok heading ∧
      turn angle s = .ok () { s with turtle := { s.turtle with heading } } := by
  obtain ⟨heading, hh⟩ := exists_turned ht ha
  have hask : ask (σ := σ) (fun t => t.turned angle) s = .ok heading s := by
    simp only [ask, hh]
  refine ⟨heading, real_turned hh, ?_⟩
  rw [turn, Action.bind_of_ok hask]
  rfl

theorem pause_cases {α σ : Type} (s : Scene α σ) :
    (∃ pauses, pause s = .ok () { s with pauses }) ∨
      ∃ pauses outcome k e, pause s = .error e { s with pauses } ∧ s.delay = some outcome ∧
        outcome k = some e := by
  obtain ⟨t, surface, delay, pauses, log⟩ := s
  cases delay with
  | none => exact .inl ⟨pauses, rfl⟩
  | some outcome =>
    cases hk : outcome (pauses + 1) with
    | none => exact .inl ⟨pauses + 1, by simp only [pause, hk]⟩
    | some e => exact .inr ⟨pauses + 1, outcome, pauses + 1, e, by simp only [pause, hk], rfl, hk⟩

/-- **A turtle that goes astray on an arc** draws none of its chords.  After the first one it stands
at no finite place, and it never comes back. -/
theorem idles_chords {chord angle : Argument} (hchord : chord.FitsReal) (hangle : angle.FitsReal)
    (n : ℕ) (hc : s.surface.IsReached) (ht : s.turtle.IsReal) (h : s.turtle.GoesAstray chord) :
    Idles (chords chord angle n) s := by
  induction n generalizing s with
  | zero => exact .returned rfl rfl
  | succ n ih =>
    obtain ⟨p, hp, hnon, hforward⟩ := exists_forward_astray hc ht hchord h
    obtain ⟨hx, hy⟩ := real_ahead ht hp
    have hmoved : IsReal { s.turtle with x := p.1, y := p.2 } := ⟨hx, hy, ht.heading⟩
    obtain ⟨heading, hh, hturn⟩ := exists_turn
      (s := { s with turtle := { s.turtle with x := p.1, y := p.2 } }) hmoved hangle
    rcases pause_cases { s with turtle := { s.turtle with x := p.1, y := p.2, heading } } with
      ⟨pauses, hpause⟩ | ⟨pauses, outcome, k, e, hpause, hdelay, hfail⟩
    · have hrest := ih (s := ⟨{ s.turtle with x := p.1, y := p.2, heading }, s.surface, s.delay,
        pauses, s.log⟩) hc ⟨hx, hy, hh⟩ (.inl hnon)
      refine hrest.of_eq ?_ rfl rfl
      rw [chords, Action.bind_of_ok hforward, Action.bind_of_ok hturn, Action.bind_of_ok hpause]
    · have hrun : chords chord angle (n + 1) s = .error e
          ⟨{ s.turtle with x := p.1, y := p.2, heading }, s.surface, s.delay, pauses, s.log⟩ := by
        rw [chords, Action.bind_of_ok hforward, Action.bind_of_ok hturn,
          Action.bind_of_error hpause]
      exact .interrupted hrun rfl hdelay hfail

/-- An arc with a radius or an extent that is not finite, or of a turtle that is astray or lost, is
not drawn. -/
theorem idles_circle (hc : s.surface.IsReached) (ht : s.turtle.IsReal) {radius extent : Argument}
    (hr : radius.FitsReal) (he : extent.FitsReal) {count : Option (Except Fault Int)} {n : ℕ}
    (hcount : s.turtle.arcChords count = .ok n) (hn : 1 ≤ n) (hfits : (Argument.int n).FitsReal)
    (h : s.turtle.IsAstray ∨ s.turtle.IsLost ∨ radius.IsNonFinite ∨ extent.IsNonFinite) :
    Idles (circle radius extent count) s := by
  cases hextent : Scalar.isZero extent with
  | true =>
    have hcircle : circle radius extent count s = .ok () s := by
      rw [circle, if_pos hextent]
      rfl
    exact .returned hcircle rfl
  | false =>
    cases hradius : Scalar.isZero radius with
    | true =>
      obtain ⟨heading, -, hturn⟩ := exists_turn ht he
      have hcircle : circle radius extent count s = turn extent s := by
        rw [circle, if_neg (Bool.eq_false_iff.1 hextent), if_pos hradius]
      exact .returned (hcircle.trans hturn) rfl
    | false =>
      obtain ⟨a, ha, hchord⟩ := exists_arc hr he hcount hn hfits
      obtain ⟨hfitsChord, hfitsAngle⟩ := fitsReal_arc ha
      have hcircle := circle_eq hextent hradius count s
      rw [ha] at hcircle
      exact (idles_chords hfitsChord hfitsAngle a.count hc ht
        (h.imp_right (Or.imp_right hchord))).of_eq hcircle rfl rfl

theorem goTo_astray (hc : s.surface.IsReached) (ht : s.turtle.IsReal) {x y : Argument}
    (hfits : x.FitsReal ∧ y.FitsReal) (h : s.turtle.IsAstray ∨ x.IsNonFinite ∨ y.IsNonFinite) :
    Idles (goTo x y) s := by
  obtain ⟨x', hx⟩ := hfits.1.exists_toReal
  obtain ⟨y', hy⟩ := hfits.2.exists_toReal
  have hgo : goTo x y s = setPosition x y s := Action.bind_of_ok (lineTo_astray hc ht hfits h)
  rw [setPosition_of_real hx hy] at hgo
  exact .returned hgo rfl

theorem back_astray (hc : s.surface.IsReached) (ht : s.turtle.IsReal) (hd : d.FitsReal)
    (h : s.turtle.GoesAstray d) : Idles (back d) s := by
  obtain ⟨opposite, hneg, hfits⟩ := hd.exists_neg
  have hastray : s.turtle.GoesAstray opposite := h.imp_right (Or.imp_right (·.neg hneg))
  obtain ⟨p, -, -, hforward⟩ := exists_forward_astray hc ht hfits hastray
  have hback : back d s = forward opposite s := by
    simp only [back, hneg]
    rfl
  exact .returned (hback.trans hforward) rfl

theorem stamp_astray (ht : s.turtle.IsReal) {size : Option Argument} {ink : Option Ink}
    {colour : Colour} (hink : ink.getD (.ok s.turtle.penColour) = .ok colour)
    (h : s.turtle.IsAstray ∨ ∃ diameter, size = some diameter ∧ diameter.IsNonFinite) :
    Idles (stamp size ink) s := by
  obtain ⟨x, hx⟩ := scalar_toReal_eq_ok ht.x
  obtain ⟨y, hy⟩ := scalar_toReal_eq_ok ht.y
  have hfits : s.turtle.x.FitsReal ∧ s.turtle.y.FitsReal := by
    rw [hx, hy]
    exact ⟨fitsReal_real x, fitsReal_real y⟩
  have hdot : Canvas.dot s.turtle.x s.turtle.y (size.getD s.turtle.dotSize) (.ok colour) s.surface =
      .ok () s.surface := by
    rcases h with h | ⟨diameter, rfl, h⟩
    · exact Canvas.dot_of_isNonFinite_centre _ hfits h _ _
    · refine Canvas.dot_of_allFinite _ (Argument.allFinite_of_isNonFinite ?_ ?_) _
      · simpa using ⟨hfits.1, hfits.2, h.fitsReal⟩
      · exact ⟨diameter, by simp, h⟩
  have hask : ask (σ := Canvas) pure s = .ok s.turtle s := rfl
  have hstamp : stamp size ink s = onSurface (Surface.dot s.turtle.x s.turtle.y
      (size.getD s.turtle.dotSize) colour) s := by
    rw [stamp, Action.bind_of_ok hask, hink]
    rfl
  exact .returned (hstamp.trans (onSurface_of_ok hdot)) rfl

end Turtle

/-! ### Steps and calls -/

open Turtle

/-- A step that draws has a number that is not finite, or the turtle is astray or, where it goes
along its heading, lost.  The numbers of the step fit doubles, its colour and its count can be
read. -/
def Step.IsNonFinite (t : Turtle Argument) : Step Argument → Prop
  | goTo x y =>
    (x.FitsReal ∧ y.FitsReal) ∧ (t.IsAstray ∨ x.IsNonFinite ∨ y.IsNonFinite)
  | forward distance | back distance => distance.FitsReal ∧ t.GoesAstray distance
  | circle radius extent count =>
    (radius.FitsReal ∧ extent.FitsReal) ∧
      (∃ n, t.arcChords count = .ok n ∧ 1 ≤ n ∧ (Argument.int n).FitsReal) ∧
      (t.IsAstray ∨ t.IsLost ∨ radius.IsNonFinite ∨ extent.IsNonFinite)
  | dot size ink =>
    (∃ colour, ink.getD (.ok t.penColour) = .ok colour) ∧
      (t.IsAstray ∨ ∃ diameter, size = some diameter ∧ diameter.IsNonFinite)
  | _ => False

/-- **A step with a number that is not finite, or of a turtle that is astray or lost, draws
nothing.** -/
theorem Step.idles_perform {s : Scene Argument Canvas} {step : Step Argument}
    (hc : s.surface.IsReached) (ht : s.turtle.IsReal) (h : step.IsNonFinite s.turtle) :
    Idles step.perform s := by
  cases step with
  | goTo x y => exact goTo_astray hc ht h.1 h.2
  | forward distance =>
    obtain ⟨p, -, -, hforward⟩ := exists_forward_astray hc ht h.1 h.2
    exact .returned hforward rfl
  | back distance => exact back_astray hc ht h.1 h.2
  | circle radius extent count =>
    obtain ⟨⟨hr, he⟩, ⟨n, hcount, hn, hfits⟩, h⟩ := h
    exact idles_circle hc ht hr he hcount hn hfits h
  | dot size ink =>
    obtain ⟨⟨colour, hink⟩, h⟩ := h
    exact stamp_astray ht hink h
  | penUp | penDown | penSize size | colour ink | setHeading angle | setPosition x y | turn angle
  | right angle | left angle => exact h.elim

/-- No pause of a scene fails. -/
def Scene.PausesFreely {α σ : Type} (s : Scene α σ) : Prop :=
  ∀ outcome, s.delay = some outcome → ∀ k, outcome k = none

theorem Turtle.Idles.spec {α σ : Type} {a : Action (Scene α σ) Unit} {s : Scene α σ}
    (h : Idles a s) :
    (a.after s).surface = s.surface ∧ (s.PausesFreely → a.fault? s = none) := by
  cases h with
  | returned hrun hsame =>
    rw [Action.after_of_ok hrun]
    exact ⟨hsame, fun _ => Action.fault?_of_ok hrun⟩
  | interrupted hrun hsame hdelay hfail =>
    rw [Action.after_of_error hrun]
    exact ⟨hsame, fun hfree => absurd ((hfree _ hdelay _).symm.trans hfail) (by simp)⟩

namespace Canvas

/-- **Numbers that are not finite paint nothing.**  A call on a canvas with such a number changes
nothing, and returns unless it is one for a pixel.  A step of a turtle with such a number, or of a
turtle that is astray or lost, does not touch the canvas either, and returns unless a pause
fails. -/
theorem nonFinite_paints_nothing {c : Canvas} (hc : c.IsReached) :
    (∀ (g : Geometry Argument) (ink : Ink), g.IsNonFinite → g.HasWidth →
      (perform (g.inked ink)).after c = c ∧ g.EndsNonFinite ((perform (g.inked ink)).fault? c)) ∧
    ∀ (s : Scene Argument Canvas) (step : Step Argument), s.surface = c → s.turtle.IsReal →
      step.IsNonFinite s.turtle →
        (step.perform.after s).surface = c ∧ (s.PausesFreely → step.perform.fault? s = none) := by
  refine ⟨fun g ink hg hwidth => perform_of_isNonFinite hc hg hwidth ink, ?_⟩
  rintro s step rfl ht h
  exact (Step.idles_perform hc ht h).spec

/-- A turtle that has lost its heading, on a canvas of two pixels. -/
def lostScene : Scene Argument Canvas :=
  ⟨⟨real 0.0, real 0.0, real Binary64.nan, true, 1, Colour.black, 30⟩, smallCanvas,
    some fun _ => none, 0, []⟩

theorem nonFinite_paints_nothing_lost :
    smallCanvas.IsReached ∧ lostScene.PausesFreely ∧
      (Step.circle (.int 10) (.int 360) none).IsNonFinite lostScene.turtle ∧
      ((Step.circle (.int 10) (.int 360) none).perform.after lostScene).surface = smallCanvas ∧
      (Step.circle (.int 10) (.int 360) none).perform.fault? lostScene = none ∧
      (Geometry.dot (.int 0) (.int 0) (real (Binary64.infinity false))).IsNonFinite ∧
      (perform (.dot (.int 0) (.int 0) (real (Binary64.infinity false)) (.ok Colour.black))).fault?
        smallCanvas = none := by
  have hfree : lostScene.PausesFreely := by
    intro outcome h k
    obtain rfl := Option.some.inj h
    rfl
  have hten := Argument.fitsReal_int (n := 10) (by decide)
  have hturn := Argument.fitsReal_int (n := 360) (by decide)
  have hthirty := Argument.fitsReal_int (n := 30) (by decide)
  have hzero := Argument.fitsReal_int (n := 0) (by decide)
  have hlost : (Step.circle (.int 10) (.int 360) none).IsNonFinite lostScene.turtle :=
    ⟨⟨hten, hturn⟩, ⟨30, rfl, by decide, hthirty⟩, .inr (.inl ⟨Binary64.nan, rfl, rfl⟩)⟩
  have hinfinite : (real (Binary64.infinity false)).IsNonFinite := isNonFinite_real rfl
  have hdot : (Geometry.dot (.int 0) (.int 0) (real (Binary64.infinity false))).IsNonFinite :=
    ⟨by simpa [Geometry.numbers] using ⟨hzero, hinfinite.fitsReal⟩, _, by simp [Geometry.numbers],
      hinfinite⟩
  obtain ⟨hcalls, hsteps⟩ := nonFinite_paints_nothing isReached_smallCanvas
  obtain ⟨hsurface, hfault⟩ := hsteps lostScene _ rfl ⟨rfl, rfl, rfl⟩ hlost
  exact ⟨isReached_smallCanvas, hfree, hlost, hsurface, hfault hfree, hdot,
    (hcalls _ (.ok Colour.black) hdot trivial).2⟩

/-- A pixel in a column that is a NaN is not passed over. -/
theorem not_returns_pixel_nan :
    (perform (.pixel (real Binary64.nan) (.int 0) (.ok Colour.black))).fault? smallCanvas ≠
      none := by
  have hfault : (perform (.pixel (real Binary64.nan) (.int 0) (.ok Colour.black))).fault?
      smallCanvas = some .nanToInt := rfl
  rw [hfault]
  exact Option.some_ne_none _

end Canvas

end TurtleCanvas
