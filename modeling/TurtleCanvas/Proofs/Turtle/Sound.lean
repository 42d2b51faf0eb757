import TurtleCanvas.Proofs.Rounded
import TurtleCanvas.Proofs.Turtle.Evolution
import TurtleCanvas.Turtle.Recorder

/-!
# Turtles in rounded arithmetic

Whatever a turtle is told in rounded arithmetic, with infinities and NaNs among what it is given and
with steps that fail halfway, it stays such that its next step can be worked out.

* `Turtle.Sound` is what a turtle is always like, and `Turtle.sound_of_evolves` says that it stays so;
* `Turtle.Steady` is what comes of that: headings have a cosine and a sine, and no quotient of an arc
  is by zero;
* `Step.Spoils` is a step that turns a finite heading, or looks, by an angle that is not finite;
* `Turtle.leave_sound` says all of this of every run, also in the middle of an arc, and that a
  heading is a NaN only if some step spoilt it.
-/

namespace TurtleCanvas

open Quantity Rounded

variable {K σ : Type} [Field K] [LinearOrder K] [IsStrictOrderedRing K] [FloorRing K]
variable [Rounding K] [LawfulRounding K]

namespace Turtle

/-- What a turtle is always like. -/
structure Sound (t : Turtle (Quantity K)) : Prop where
  /-- The heading is a NaN, or lies between 0 and 360 and is not 360. -/
  heading : t.heading = .real .nan ∨ ∃ x, t.heading = .real (.finite x) ∧ 0 ≤ x ∧ x < 360
  penSize : 1 ≤ t.penSize
  arcSteps : 1 ≤ t.arcSteps

/-- Nothing stands in the way of a turtle's next step but numbers beyond the largest real. -/
structure Steady (t : Turtle (Quantity K)) : Prop where
  cos : ∃ c, Scalar.cos t.heading = .ok c
  sin : ∃ c, Scalar.sin t.heading = .ok c
  /-- An arc has chords, and neither their length nor the turn after them is a quotient by zero. -/
  chords : ∀ {count n}, t.arcChords count = .ok n → 1 ≤ n ∧
    ∀ (radius extent : Quantity K) (e : Fault), chordLength radius extent n = .error e ∨
      Scalar.div extent (Scalar.int n) = .error e → e = .beyondReal ∨ e = .quotientBeyondReal

theorem sound_create {x y heading : Quantity K} {arcSteps : Except Fault Int}
    {t : Turtle (Quantity K)} (h : create x y heading arcSteps = .ok t) : t.Sound := by
  obtain ⟨_, -, h⟩ := Except.bind_eq_ok_iff.1 h
  obtain ⟨_, -, h⟩ := Except.bind_eq_ok_iff.1 h
  obtain ⟨heading, hfold, h⟩ := Except.bind_eq_ok_iff.1 h
  obtain ⟨n, -, h⟩ := Except.bind_eq_ok_iff.1 h
  obtain rfl := Except.ok.inj h
  refine ⟨?_, le_refl 1, ?_⟩
  · rcases foldHeading_spec hfold with ⟨-, hfinite⟩ | ⟨-, hnan⟩
    · exact .inr hfinite
    · exact .inl hnan
  · show 1 ≤ (max 1 n).toNat
    omega

theorem sound_of_evolves {t u : Turtle (Quantity K)} (ht : t.Sound) (h : t.Evolves u) :
    u.Sound where
  heading := by
    rcases h.heading with hsame | ⟨angle, hfold⟩
    · rw [hsame]
      exact ht.heading
    · rcases foldHeading_spec hfold with ⟨-, hfinite⟩ | ⟨-, hnan⟩
      · exact .inr hfinite
      · exact .inl hnan
  penSize := h.penSize ht.penSize
  arcSteps := h.arcSteps ▸ ht.arcSteps

omit [IsStrictOrderedRing K] [LawfulRounding K] in
theorem mul_error {a b : Quantity K} {e : Fault} (h : Scalar.mul a b = .error e) :
    e = .beyondReal := lift_error h

/-- The length of a chord fails at most beyond the largest real. -/
theorem chordLength_error {n : ℕ} (hn : 1 ≤ n) {radius extent : Quantity K} {e : Fault}
    (h : chordLength radius extent n = .error e) : e = .beyondReal ∨ e = .quotientBeyondReal := by
  rcases Except.bind_eq_error_iff.1 h with h | ⟨diameter, -, h⟩
  · exact .inl (mul_error h)
  rcases Except.bind_eq_error_iff.1 h with h | ⟨circumference, -, h⟩
  · exact .inl (mul_error h)
  rcases Except.bind_eq_error_iff.1 h with h | ⟨arc, -, h⟩
  · exact .inl (mul_error h)
  rcases Except.bind_eq_error_iff.1 h with h | ⟨turns, hturns, h⟩
  · exact .inl (mul_error h)
  · exact div_error (nonZero_turns (by omega) hturns) h

omit [FloorRing K] in
/-- The heading of a sound turtle has any function of the circle. -/
theorem exists_onCircle_of_sound (f : K → K) {t : Turtle (Quantity K)} (ht : t.Sound) :
    ∃ v, (do return Quantity.real (← (← t.heading.toReal).onCircle f)) =
      Except.ok (ε := Fault) v := by
  rcases ht.heading with hnan | ⟨x, hx, h0, h360⟩
  · exact ⟨.real .nan, by rw [hnan]; rfl⟩
  · obtain ⟨v, hv⟩ := exists_onCircle f h0 h360.le
    refine ⟨.real v, ?_⟩
    rw [hx]
    show (do return Quantity.real (← (finite x).onCircle f)) = _
    rw [hv]
    rfl

theorem steady_of_sound {t : Turtle (Quantity K)} (ht : t.Sound) : t.Steady where
  cos := exists_onCircle_of_sound Rounding.cos ht
  sin := exists_onCircle_of_sound Rounding.sin ht
  chords := by
    intro count n hn
    have hpos : 1 ≤ n := by
      cases count with
      | none => exact Except.ok.inj hn ▸ ht.arcSteps
      | some steps =>
        obtain ⟨m, -, hm⟩ := Except.bind_eq_ok_iff.1 hn
        obtain rfl := Except.ok.inj hm
        omega
    refine ⟨hpos, fun radius extent e h => ?_⟩
    rcases h with hchord | hangle
    · exact chordLength_error hpos hchord
    · exact div_error (nonZero_whole (by omega)) hangle

end Turtle

/-- A step spoils a heading: the turtle looks in a direction that is not finite, or turns from a
finite heading to an angle that is not. -/
inductive Step.Spoils [Surface (Quantity K) σ] (s : Scene (Quantity K) σ) :
    Step (Quantity K) → Prop where
  | looks {angle : Quantity K} : Scalar.isFinite angle = .ok false → Spoils s (.setHeading angle)
  | turns {step : Step (Quantity K)} {u : Turtle (Quantity K)} {angle sum : Quantity K} :
    Step.Turns s step u angle → Scalar.isFinite u.heading = .ok true →
      Scalar.add u.heading angle = .ok sum → Scalar.isFinite sum = .ok false → Spoils s step

namespace Turtle

variable [Surface (Quantity K) σ]

theorem spoils_of_brings {s : Scene (Quantity K) σ} {step : Step (Quantity K)}
    (hs : s.turtle.Sound) (h : Step.Brings (· = .real .nan) s step) : Step.Spoils s step := by
  have hspoilt {angle heading : Quantity K} (hfold : foldHeading angle = .ok heading)
      (hnan : heading = .real .nan) : Scalar.isFinite angle = .ok false := by
    rcases foldHeading_spec hfold with ⟨-, x, hx, -⟩ | ⟨hfinite, -⟩
    · exact nomatch hx.symm.trans hnan
    · exact hfinite
  cases h with
  | looks hfold hnan => exact .looks (hspoilt hfold hnan)
  | turns hturns hheading hturned hnan =>
    obtain ⟨sum, hsum, hfold⟩ := Except.bind_eq_ok_iff.1 hturned
    refine .turns hturns ?_ hsum (hspoilt hfold hnan)
    rcases (sound_of_evolves hs hturns.evolves).heading with hnan' | ⟨x, hx, -⟩
    · exact absurd hnan' hheading
    · rw [hx]
      rfl

/-- **A turtle stays sound.**  Whatever a turtle is told in rounded arithmetic, on whatever surface
and whichever pauses and steps fail: after every run, and after every number of chords from there,
its heading is a NaN or lies between 0 and 360 and is not 360, the width of its pen and the number of
chords of its arcs are at least one, the heading has a cosine and a sine, and no quotient of an arc
is by zero.  And its heading is a NaN only if it was made with one that is not finite, or if a step
spoilt it. -/
theorem leave_sound {x y heading : Quantity K} {arcSteps : Except Fault Int}
    {t : Turtle (Quantity K)} (ht : create x y heading arcSteps = .ok t) (surface : σ)
    (delay : Delay) (steps : List (Step (Quantity K))) :
    let s₀ : Scene (Quantity K) σ := ⟨t, surface, delay, 0, []⟩
    let s := Step.leave s₀ steps
    (∀ chord angle k, let u := ((chords chord angle k).after s).turtle
      u.Sound ∧ u.Steady) ∧
    (s.turtle.heading = .real .nan → Scalar.isFinite heading = .ok false ∨
      ∃ before step after, steps = before ++ step :: after ∧
        Step.Spoils (Step.leave s₀ before) step) := by
  intro s₀ s
  have hcreated : s₀.turtle.Sound := sound_create ht
  have hrun (run : List (Step (Quantity K))) : (Step.leave s₀ run).turtle.Sound :=
    sound_of_evolves hcreated (Step.evolves_leave s₀ run)
  refine ⟨fun chord angle k => ?_, fun hnan => ?_⟩
  · have hsound := sound_of_evolves (hrun steps) (evolves_chords chord angle k s)
    exact ⟨hsound, steady_of_sound hsound⟩
  · by_cases hmade : s₀.turtle.heading = .real .nan
    · left
      obtain ⟨_, -, h⟩ := Except.bind_eq_ok_iff.1 ht
      obtain ⟨_, -, h⟩ := Except.bind_eq_ok_iff.1 h
      obtain ⟨_, hfold, h⟩ := Except.bind_eq_ok_iff.1 h
      obtain ⟨_, -, h⟩ := Except.bind_eq_ok_iff.1 h
      obtain rfl := Except.ok.inj h
      rcases foldHeading_spec hfold with ⟨-, x, hx, -⟩ | ⟨hfinite, -⟩
      · exact nomatch hx.symm.trans hmade
      · exact hfinite
    · right
      obtain ⟨before, step, after, hsteps, hbrings⟩ :=
        Step.brings_of_leave (P := (· = Quantity.real Rounded.nan)) hmade hnan
      exact ⟨before, step, after, hsteps, spoils_of_brings (hrun before) hbrings⟩

/-! ### A coarse arithmetic -/

/-- Rounding up to whole numbers, with functions of the circle that are right for the angle zero. -/
scoped instance instRoundingUp : Rounding ℚ where
  round x := ((⌈x⌉ : ℚ) : WithTop ℚ)
  ofInt n := some n
  pi := 3
  degree := 1 / 57
  cos x := 1 - x * x / 2
  sin x := x

instance instLawfulRoundingUp : LawfulRounding ℚ where
  monotone_round x y h := by
    show (((⌈x⌉ : ℚ) : WithTop ℚ) : WithBot (WithTop ℚ)) ≤ ((⌈y⌉ : ℚ) : WithTop ℚ)
    exact_mod_cast Int.ceil_mono h
  round_zero := by
    show (((⌈(0 : ℚ)⌉ : ℚ) : WithTop ℚ) : WithBot (WithTop ℚ)) = _
    simp
  round_turn := by
    show (((⌈(360 : ℚ)⌉ : ℚ) : WithTop ℚ) : WithBot (WithTop ℚ)) = _
    simp
  one_le_ofInt {n x} hn h := by
    obtain rfl := Option.some.inj h
    exact_mod_cast hn
  degree_nonneg := by show (0 : ℚ) ≤ 1 / 57; norm_num
  degree_le_one := by show (1 / 57 : ℚ) ≤ 1; norm_num

/-- A turtle that was made to look half a degree below zero: this is rounded up to a full turn, and
so is the heading 0. -/
def almostTurned : Turtle (Quantity ℚ) :=
  ⟨.real (.finite 0), .real (.finite 0), .real (.finite 0), true, 1, Colour.black, 4⟩

/-- The scene of that turtle, with nothing drawn yet. -/
def almostTurnedScene : Scene (Quantity ℚ) (Recorder (Quantity ℚ)) :=
  ⟨almostTurned, ⟨[]⟩, none, 0, []⟩

/-- A turtle that is rounded to the heading 0 stays sound, and has a heading that is a NaN once it
has turned by an infinity, by which that was spoilt. -/
theorem leave_sound_upward :
    create (.whole 0) (.whole 0) (.real (.finite (-1 / 2))) (.ok 4) = .ok almostTurned ∧
      (Step.leave almostTurnedScene [.turn (.real (.infinite false))]).turtle.heading =
        .real .nan ∧
      ∃ before step after, [Step.turn (.real (.infinite false))] = before ++ step :: after ∧
        Step.Spoils (Step.leave almostTurnedScene before) step := by
  have hcreate : create (.whole 0) (.whole 0) (.real (.finite (-1 / 2))) (.ok 4) =
      .ok almostTurned := by
    have hfold : foldHeading (Quantity.real (.finite (-1 / 2 : ℚ))) =
        .ok (.real (.finite 0)) := by
      rw [foldHeading_eq]
      exact congrArg (Except.ok ∘ Quantity.real) (by decide +kernel)
    show (foldHeading (Quantity.real (.finite (-1 / 2 : ℚ))) >>= _) = _
    rw [hfold]
    rfl
  have hturned : almostTurned.turned (.real (.infinite false)) = .ok (.real .nan) :=
    foldHeading_not_finite (v := .infinite false) rfl
  have hnan : (Step.leave almostTurnedScene
      [.turn (.real (.infinite false))]).turtle.heading = .real .nan := by
    have hask : ask (σ := Recorder (Quantity ℚ)) (fun t => t.turned (.real (.infinite false)))
        almostTurnedScene = .ok (.real .nan) almostTurnedScene := by
      simp only [ask, almostTurnedScene, hturned]
    show ((turn (.real (.infinite false))).after almostTurnedScene).turtle.heading = _
    rw [turn, Action.after_bind_of_ok hask]
    rfl
  refine ⟨hcreate, hnan, ?_⟩
  refine ((leave_sound hcreate _ none [.turn (.real (.infinite false))]).2 hnan).resolve_left ?_
  exact fun h => absurd (Except.ok.inj h) (by decide : ¬ true = false)

end Turtle

end TurtleCanvas
