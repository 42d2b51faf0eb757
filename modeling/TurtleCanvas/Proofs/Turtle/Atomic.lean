import TurtleCanvas.Proofs.Canvas.Atomic
import TurtleCanvas.Proofs.Turtle.NonFinite

/-!
# Steps that are all or nothing

A step other than an arc should leave the turtle and the canvas as they were when it fails.  Nearly
all work out everything that can fail before they change anything.  Two things can go otherwise.  A
turtle that is put to a point takes over the column before it looks at the row; going to a point, it
does so when there is no line to draw whose ends are looked at before.  And a line in a colour that
cannot be made out is painted before the painter complains.

* `Canvas.failsInto_enact` says what a plan leaves that fails, and `Canvas.isFinite_of_drawLine` what
  is known of the ends of a line that does not fail;
* `Step.BreaksOff` and `Step.Misdraws` are the two ways not to be all or nothing, and `Step.LeavesOff`
  is what a step leaves that fails; `Step.BreaksOff.exists_error` says that what breaks off fails so;
* `Step.leavesOff_of_error` says that every step but an arc leaves that, and changes nothing if it
  neither breaks off nor misdraws;
* `Step.not_intact_of_error` is a step that breaks off, and one that misdraws.
-/

namespace TurtleCanvas

/-! ### Numbers that are looked at -/

namespace Argument

/-- An argument of which it can be said whether it is finite can be read as a real. -/
theorem exists_toReal_of_isFinite {a : Argument} {finite : Bool}
    (h : Scalar.isFinite a = .ok finite) : ∃ x, Scalar.toReal a = .ok x := by
  obtain ⟨n, hn, h⟩ := Except.bind_eq_ok_iff.1 h
  obtain ⟨x, hx, -⟩ := Except.bind_eq_ok_iff.1 h
  have hnumber : a.number? = some n := by
    rw [toNumber] at hn
    split at hn
    · rename_i n' hn'
      exact hn'.trans (congrArg some (Except.ok.inj hn))
    · cases hn
  exact ⟨real x, Except.bind_eq_ok_iff.2 ⟨x, (toReal_of_number? hnumber).trans hx, rfl⟩⟩

end Argument

section

variable {α : Type} [Scalar α]

theorem isFinite_of_allFinite {l : List α} (h : Scalar.allFinite l = .ok true) {v : α}
    (hv : v ∈ l) : Scalar.isFinite v = .ok true := by
  induction l with
  | nil => exact absurd hv List.not_mem_nil
  | cons first rest ih =>
    obtain ⟨finite, hfirst, h⟩ := Except.bind_eq_ok_iff.1 h
    cases finite with
    | false => exact nomatch h
    | true =>
      rcases List.mem_cons.1 hv with rfl | hv
      · exact hfirst
      · exact ih h hv

namespace Canvas

/-! ### What painting leaves that fails -/

omit [Scalar α] in
/-- A plan that fails leaves the canvas as it was, unless it paints in a colour that cannot be made
out; what it paints then is not counted. -/
theorem failsInto_enact (planned : Except Fault (Option (List Span × Colour))) (c : Canvas) :
    (enact planned).FailsInto c fun c' => c' = c ∨ ∃ spans colour,
      planned = .ok (some (spans, colour)) ∧ canMakeOut colour = false ∧
        ∃ picture, c' = { c with picture } := by
  intro e c' h
  rcases planned with e' | _ | ⟨spans, colour⟩
  · obtain ⟨-, rfl⟩ := EStateM.Result.error.inj h
    exact .inl rfl
  · cases h
  · simp only [enact] at h
    cases hmake : canMakeOut colour with
    | true =>
      rw [hmake] at h
      cases h
    | false =>
      rw [hmake] at h
      obtain ⟨-, rfl⟩ := EStateM.Result.error.inj h
      exact .inr ⟨spans, colour, rfl, hmake, _, rfl⟩

theorem failsInto_drawLine (g : Segment α) (colour : Colour) (penWidth : ℤ) (c : Canvas) :
    (drawLine g (.ok colour) penWidth).FailsInto c fun c' => c' = c ∨
      canMakeOut colour = false ∧ ∃ picture, c' = { c with picture } := by
  intro e c' h
  refine (failsInto_enact _ c e c' h).imp id ?_
  rintro ⟨spans, colour', hplan, hmake, hpicture⟩
  obtain ⟨-, -, hink, -⟩ := exists_of_plan_eq_some hplan
  obtain rfl := Except.ok.inj hink
  exact ⟨hmake, hpicture⟩

/-- A dot that fails changes nothing: its colour is refused before it is drawn. -/
theorem failsInto_dot (x y diameter : α) (ink : Ink) (c : Canvas) :
    (dot x y diameter ink).FailsInto c (· = c) := by
  intro e c' h
  rcases failsInto_enact _ c e c' h with rfl | ⟨spans, colour, hplan, hmake, -⟩
  · rfl
  · obtain ⟨shape, hshape, -, htakes⟩ := exists_of_plan_eq_some hplan
    obtain ⟨p, r, rfl⟩ := exists_disk_of_dotShape hshape
    exact absurd (hmake.symm.trans htakes) Bool.false_ne_true

/-- A line that does not fail has finite ends, or is found not to have and paints nothing. -/
theorem isFinite_of_drawLine {g : Segment α} {ink : Ink} {penWidth : ℤ} {c c' : Canvas}
    (h : drawLine g ink penWidth c = .ok () c') :
    g.isFinite = .ok true ∨ g.isFinite = .ok false ∧ c' = c := by
  rw [drawLine] at h
  cases hplan : plan c.width c.height (lineShape c.width c.height g penWidth) ink with
  | error e => rw [hplan] at h; cases h
  | ok planned =>
    obtain ⟨shape, hshape, hplanned⟩ := Except.bind_eq_ok_iff.1 hplan
    obtain ⟨box, -, hbox⟩ := Except.bind_eq_ok_iff.1 hshape
    obtain ⟨kept, hkept, hlast⟩ := Except.bind_eq_ok_iff.1 hbox
    obtain ⟨finite, hfinite, hclip⟩ := Except.bind_eq_ok_iff.1 hkept
    cases finite with
    | true => exact .inl hfinite
    | false =>
      -- Nothing is left of the segment, and so there is nothing to paint.
      obtain rfl := Except.ok.inj hclip
      obtain rfl := Except.ok.inj hlast
      obtain rfl := Except.ok.inj hplanned
      rw [hplan] at h
      obtain ⟨-, rfl⟩ := EStateM.Result.ok.inj h
      exact .inr ⟨hfinite, rfl⟩

end Canvas

/-! ### What a turtle leaves that fails -/

namespace Turtle

section

variable {β σ : Type} {s : Scene α σ} {P : Scene α σ → Prop}

omit [Scalar α] in
/-- What cannot be worked out from the turtle fails without a trace. -/
theorem failsInto_ask_bind {r : Turtle α → Except Fault β} {f : β → Action (Scene α σ) Unit}
    (hs : P s) (hf : ∀ b, r s.turtle = .ok b → (f b).FailsInto s P) :
    (ask r >>= f).FailsInto s P := by
  refine .bind ?_ fun b t h => ?_
  · intro e t h
    simp only [ask] at h
    split at h
    · cases h
    · obtain ⟨-, rfl⟩ := EStateM.Result.error.inj h
      exact hs
  · simp only [ask] at h
    split at h
    · rename_i b' hb
      obtain ⟨rfl, rfl⟩ := EStateM.Result.ok.inj h
      exact hf _ hb
    · cases h

omit [Scalar α] in
theorem failsInto_update (f : Turtle α → Turtle α) :
    (update f : Action (Scene α σ) Unit).FailsInto s P := .of_ok rfl

omit [Scalar α] in
theorem failsInto_onSurface {paint : Action σ Unit}
    (h : paint.FailsInto s.surface fun surface => P { s with surface }) :
    (onSurface paint : Action (Scene α σ) Unit).FailsInto s P := by
  intro e t ht
  simp only [onSurface] at ht
  cases hpaint : paint s.surface with
  | ok u surface => rw [hpaint] at ht; cases ht
  | error e' surface =>
    rw [hpaint] at ht
    obtain ⟨-, rfl⟩ := EStateM.Result.error.inj ht
    exact h e' surface hpaint

end

variable {s : Scene α Canvas}

/-- A scene on whose canvas a line was painted in a colour that cannot be made out, uncounted. -/
def Stains (s s' : Scene α Canvas) : Prop :=
  (s.turtle.isDown = true ∧ Canvas.canMakeOut s.turtle.penColour = false) ∧
    ∃ picture, s' = { s with surface := { s.surface with picture } }

theorem failsInto_lineTo (x y : α) :
    (lineTo x y).FailsInto s fun s' => s' = s ∨ Stains s s' := by
  cases hdown : s.turtle.isDown with
  | false => exact .of_ok (lineTo_of_up hdown x y)
  | true =>
    intro e s' h
    rw [lineTo_of_down hdown] at h
    refine failsInto_onSurface (P := fun s' => s' = s ∨ Stains s s') (fun e c h => ?_) e s' h
    rcases Canvas.failsInto_drawLine _ _ _ _ e c h with rfl | ⟨hmake, picture, rfl⟩
    · exact .inl rfl
    · exact .inr ⟨⟨hdown, hmake⟩, picture, rfl⟩

theorem failsInto_forward (distance : α) :
    (forward distance).FailsInto s fun s' => s' = s ∨ Stains s s' :=
  failsInto_ask_bind (.inl rfl) fun p _ =>
    (failsInto_lineTo p.1 p.2).bind fun _ _ _ => failsInto_update _

theorem failsInto_turn (angle : α) :
    (turn angle : Action (Scene α Canvas) Unit).FailsInto s (· = s) :=
  failsInto_ask_bind rfl fun _ _ => failsInto_update _

theorem failsInto_stamp (size : Option α) (ink : Option Ink) :
    (stamp size ink).FailsInto s (· = s) :=
  failsInto_ask_bind rfl fun t _ => .ofExcept_bind rfl fun colour _ =>
    failsInto_onSurface fun e c h => by
      rw [Canvas.failsInto_dot t.x t.y (size.getD t.dotSize) (.ok colour) s.surface e c h]

/-- A turtle that is put to a point fails without a trace, or when it has taken over the column. -/
theorem failsInto_setPosition (x y : α) :
    (setPosition x y : Action (Scene α Canvas) Unit).FailsInto s fun s' => s' = s ∨
      ∃ x' e, Scalar.toReal x = .ok x' ∧ Scalar.toReal y = .error e ∧
        s' = { s with turtle := { s.turtle with x := x' } } := by
  refine .ofExcept_bind (.inl rfl) fun x' hx => ?_
  refine (failsInto_update _).bind fun _ t ht => ?_
  obtain ⟨-, rfl⟩ := EStateM.Result.ok.inj ht
  cases hy : Scalar.toReal y with
  | ok y' => exact .of_ok rfl
  | error e =>
    intro e' s' h
    obtain ⟨-, rfl⟩ := EStateM.Result.error.inj h
    exact .inr ⟨x', e, hx, rfl, rfl⟩

/-- A line to a point that does not fail has finite ends, or there is nothing to draw. -/
theorem isFinite_of_lineTo {x y : α} {s' : Scene α Canvas} (h : lineTo x y s = .ok () s') :
    Segment.isFinite ⟨s.turtle.x, s.turtle.y, x, y⟩ = .ok true ∨
      (s.turtle.isDown = true → Segment.isFinite ⟨s.turtle.x, s.turtle.y, x, y⟩ = .ok false) ∧
        s' = s := by
  cases hdown : s.turtle.isDown with
  | false =>
    rw [lineTo_of_up hdown] at h
    obtain ⟨-, rfl⟩ := EStateM.Result.ok.inj h
    exact .inr ⟨fun hup => absurd hup Bool.false_ne_true, rfl⟩
  | true =>
    rw [lineTo_of_down hdown] at h
    obtain ⟨t, surface, delay, pauses, log⟩ := s
    simp only [onSurface] at h
    cases hline : Surface.line (σ := Canvas) ⟨t.x, t.y, x, y⟩ t.penColour t.penSize surface with
    | error e c => rw [hline] at h; cases h
    | ok u c =>
      rw [hline] at h
      obtain ⟨-, rfl⟩ := EStateM.Result.ok.inj h
      refine (Canvas.isFinite_of_drawLine hline).imp id ?_
      rintro ⟨hfinite, rfl⟩
      exact ⟨fun _ => hfinite, rfl⟩

end Turtle

end

/-! ### Steps -/

namespace Step

/-- Every step but an arc. -/
def isElementary {α : Type} : Step α → Bool
  | circle .. => false
  | _ => true

/-- The step moves the turtle along a straight line, which is drawn with the pen down. -/
def drawsLine {α : Type} : Step α → Bool
  | goTo .. | forward _ | back _ => true
  | _ => false

/-- The step is broken off between its two coordinates, when it has taken over the column: the column
can be read and the row cannot, and there is no line to draw whose ends are looked at before. -/
inductive BreaksOff (t : Turtle Argument) : Step Argument → Argument → Prop where
  | setPosition {x y x' : Argument} {e : Fault} :
    Scalar.toReal x = .ok x' → Scalar.toReal y = .error e → BreaksOff t (.setPosition x y) x'
  | goTo {x y x' : Argument} {e : Fault} :
    Scalar.toReal x = .ok x' → Scalar.toReal y = .error e →
      (t.isDown = true → Segment.isFinite ⟨t.x, t.y, x, y⟩ = .ok false) → BreaksOff t (.goTo x y) x'

/-- A step that is broken off fails, with the column taken over. -/
theorem BreaksOff.exists_error {s : Scene Argument Canvas} (hc : s.surface.IsReached)
    {step : Step Argument} {x' : Argument} (h : step.BreaksOff s.turtle x') :
    ∃ e, step.perform s = .error e { s with turtle := { s.turtle with x := x' } } := by
  have hput : ∀ {x y : Argument} {e : Fault}, Scalar.toReal x = .ok x' →
      Scalar.toReal y = .error e → (Turtle.setPosition x y : Action (Scene Argument Canvas) Unit) s =
        .error e { s with turtle := { s.turtle with x := x' } } := by
    intro x y e hx hy
    rw [Turtle.setPosition, hx, hy]
    rfl
  cases h with
  | setPosition hx hy => exact ⟨_, hput hx hy⟩
  | @goTo x y _ e hx hy hfinite =>
    have hline : Turtle.lineTo x y s = .ok () s := by
      cases hdown : s.turtle.isDown with
      | false => exact Turtle.lineTo_of_up hdown x y
      | true =>
        rw [Turtle.lineTo_of_down hdown]
        exact Turtle.onSurface_of_ok (Canvas.drawLine_of_isFinite hc (hfinite hdown) _ _)
    exact ⟨e, (Action.bind_of_ok hline).trans (hput hx hy)⟩

/-- The step draws a line in a colour that cannot be made out. -/
structure Misdraws (t : Turtle Argument) (step : Step Argument) : Prop where
  drawsLine : step.drawsLine = true
  isDown : t.isDown = true
  misread : Canvas.canMakeOut t.penColour = false

/-- What a step leaves that fails: the scene as it was, or with the column of a point to which the
turtle did not come, or with a line on the canvas that is not counted. -/
inductive LeavesOff (s : Scene Argument Canvas) (step : Step Argument) :
    Scene Argument Canvas → Prop where
  | intact : LeavesOff s step s
  | halfway {x' : Argument} : step.BreaksOff s.turtle x' →
    LeavesOff s step { s with turtle := { s.turtle with x := x' } }
  | stained (picture : Picture) : step.Misdraws s.turtle →
    LeavesOff s step { s with surface := { s.surface with picture } }

variable {s s' : Scene Argument Canvas}

theorem LeavesOff.of_stains {step : Step Argument} (hline : step.drawsLine = true)
    (h : s' = s ∨ Turtle.Stains s s') : LeavesOff s step s' := by
  rcases h with rfl | ⟨⟨hdown, hmake⟩, picture, rfl⟩
  · exact .intact
  · exact .stained picture ⟨hline, hdown, hmake⟩

theorem LeavesOff.of_eq {step : Step Argument} (h : s' = s) : LeavesOff s step s' := h ▸ .intact

/-- Going to a point. -/
theorem leavesOff_goTo (x y : Argument) : (Turtle.goTo x y).FailsInto s (LeavesOff s (.goTo x y)) := by
  refine .bind (fun e s' h => .of_stains rfl (Turtle.failsInto_lineTo x y e s' h)) ?_
  intro _ t hline e s' h
  have hposition := Turtle.failsInto_setPosition x y e s' h
  rcases Turtle.isFinite_of_lineTo hline with hfinite | ⟨hdown, rfl⟩
  · -- The ends of the line were looked at, and so both coordinates can be read.
    have hx := isFinite_of_allFinite hfinite (v := x) (by simp)
    have hy := isFinite_of_allFinite hfinite (v := y) (by simp)
    obtain ⟨x', hx⟩ := Argument.exists_toReal_of_isFinite hx
    obtain ⟨y', hy⟩ := Argument.exists_toReal_of_isFinite hy
    have hok := Turtle.setPosition_of_real (s := t) hx hy
    exact nomatch hok.symm.trans h
  · rcases hposition with rfl | ⟨x', e', hx, hy, rfl⟩
    · exact .intact
    · exact .halfway (.goTo hx hy hdown)

/-- What every step but an arc leaves that fails. -/
theorem leavesOff_perform {step : Step Argument} (hstep : step.isElementary = true) :
    (step.perform).FailsInto s (LeavesOff s step) := by
  cases step with
  | penUp | penDown => exact .of_ok rfl
  | penSize size => exact .ofExcept_bind .intact fun _ _ => Turtle.failsInto_update _
  | colour ink => exact .ofExcept_bind .intact fun _ _ => Turtle.failsInto_update _
  | setHeading angle => exact .ofExcept_bind .intact fun _ _ => Turtle.failsInto_update _
  | setPosition x y =>
    intro e s' h
    rcases Turtle.failsInto_setPosition x y e s' h with rfl | ⟨x', e', hx, hy, rfl⟩
    · exact .intact
    · exact .halfway (.setPosition hx hy)
  | goTo x y => exact leavesOff_goTo x y
  | forward distance => exact fun e s' h => .of_stains rfl (Turtle.failsInto_forward distance e s' h)
  | back distance =>
    exact .ofExcept_bind .intact fun d _ e s' h => .of_stains rfl (Turtle.failsInto_forward d e s' h)
  | turn angle => exact fun e s' h => .of_eq (Turtle.failsInto_turn angle e s' h)
  | right angle => exact fun e s' h => .of_eq (Turtle.failsInto_turn angle e s' h)
  | left angle =>
    exact .ofExcept_bind .intact fun a _ e s' h => .of_eq (Turtle.failsInto_turn a e s' h)
  | dot size ink => exact fun e s' h => .of_eq (Turtle.failsInto_stamp size ink e s' h)
  | circle radius extent steps => exact nomatch hstep

/-- **What a step leaves that fails.**  Whatever the turtle, the canvas and the arguments, a step other
than an arc that fails leaves the scene as it was, unless it breaks off, and then it has changed no
more than the turtle's column, or misdraws, and then no more than pixels. -/
theorem leavesOff_of_error {step : Step Argument} (hstep : step.isElementary = true) {e : Fault}
    (h : step.perform s = .error e s') : LeavesOff s step s' ∧
      ((∀ x', ¬ step.BreaksOff s.turtle x') → ¬ step.Misdraws s.turtle → s' = s) := by
  have hleaves := leavesOff_perform hstep e s' h
  refine ⟨hleaves, fun hbreaks hmisdraws => ?_⟩
  cases hleaves with
  | intact => rfl
  | halfway hbreak => exact absurd hbreak (hbreaks _)
  | stained picture hmisdraw => exact absurd hmisdraw hmisdraws

/-- A turtle in the corner of a white canvas of two pixels, with its pen down. -/
def corner (colour : Colour) : Scene Argument Canvas :=
  ⟨⟨.real 0.0, .real 0.0, .real 0.0, true, 1, colour, 30⟩,
    ⟨.filled 2 1 ⟨255, 255, 255⟩, ⟨255, 255, 255⟩, 0⟩, none, 0, []⟩

/-- With the pen down a row that is no number is found out before the turtle goes. -/
theorem leavesOff_of_error_goTo :
    (goTo (.real 1.0) Argument.none).isElementary = true ∧
      ∃ e s', (goTo (.real 1.0) Argument.none).perform (corner .black) = .error e s' ∧
        s' = corner .black := by
  obtain ⟨e, h⟩ : ∃ e, (goTo (.real 1.0) Argument.none).perform (corner .black) = .error e
      ((goTo (.real 1.0) Argument.none).perform.after (corner .black)) :=
    Action.exists_error_of_isSome (by decide +kernel)
  refine ⟨rfl, e, _, h, (leavesOff_of_error rfl h).2 ?_ ?_⟩
  · intro x' hbreak
    cases hbreak with
    | goTo hx hy hfinite => exact absurd (congrArg Except.isOk (hfinite rfl)) (by decide +kernel)
  · intro hmisdraws
    exact absurd hmisdraws.misread (by decide +kernel)

/-- Put to a point whose row is no number, the turtle has moved to its column when that is found out;
and a line to a point in a colour that cannot be made out stays on the canvas, uncounted. -/
theorem not_intact_of_error :
    (∃ e s', (setPosition (.real 5.0) Argument.none).perform (corner .black) = .error e s' ∧
      s'.turtle.x ≠ (corner .black).turtle.x) ∧
    ∃ e s', (goTo (.real 1.0) (.real 0.0)).perform (corner ⟨10 ^ 400, 0, 0⟩) = .error e s' ∧
      s'.surface.picture ≠ (corner ⟨10 ^ 400, 0, 0⟩).surface.picture ∧
      s'.surface.generation = (corner ⟨10 ^ 400, 0, 0⟩).surface.generation := by
  constructor
  · refine ⟨.wrongKind, _, rfl, fun hx => ?_⟩
    have hreal : (5.0 : Float) = 0.0 := Number.real.inj (Argument.number.inj hx)
    exact absurd (congrArg Binary64.significand hreal) (by decide +kernel)
  · obtain ⟨e, h⟩ := Action.exists_error_of_isSome
      (a := (goTo (.real 1.0) (.real 0.0)).perform) (s := corner ⟨10 ^ 400, 0, 0⟩) (by decide +kernel)
    refine ⟨e, _, h, fun hpicture => ?_, by decide +kernel⟩
    exact absurd (congrArg (fun p => (p.pixel 0 0).green) hpicture) (by decide +kernel)

end Step

end TurtleCanvas
