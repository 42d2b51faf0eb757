import TurtleCanvas.Proofs.Exact
import TurtleCanvas.Proofs.Turtle.Composition

/-!
# Well-formed turtles

* `Turtle.WellFormed` says of a turtle in exact arithmetic that its heading is folded and that it draws
  arcs with at least one chord;
* `Turtle.wellFormed_create` and `Turtle.wellFormed_leave` say that a turtle is made well-formed and
  stays so, whatever it is told.
-/

namespace TurtleCanvas

open scoped Exact

variable {K : Type} [Field K] [LinearOrder K] [IsStrictOrderedRing K] [FloorRing K] [Trig K]

/-- The heading of a turtle is folded, and it draws arcs with at least one chord. -/
structure Turtle.WellFormed (t : Turtle K) : Prop where
  nonneg : 0 ≤ t.heading
  lt_full : t.heading < 360
  one_le : 1 ≤ t.arcSteps

namespace Turtle

theorem wellFormed_create {x y heading : K} {arcSteps : Except Fault Int} {t : Turtle K}
    (h : create x y heading arcSteps = .ok t) : t.WellFormed := by
  unfold create at h
  simp only [Except.bind_eq_ok_iff] at h
  obtain ⟨x', -, y', -, heading', hheading, n, -, h⟩ := h
  obtain rfl := Except.ok.inj h
  obtain rfl := Except.ok.inj ((Exact.foldHeading_eq heading).symm.trans hheading)
  exact ⟨folded_nonneg heading, folded_lt heading, by simp only; omega⟩

/-- Between two turtles nothing made one of them ill-formed. -/
def KeepsWellFormed (t : Turtle K) (_ : List (Event K)) (u : Turtle K) : Prop :=
  t.WellFormed → u.WellFormed

theorem composes_keepsWellFormed : Walk.Composes (KeepsWellFormed (K := K)) where
  append h h' := fun ht => h' (h ht)
  move t x y := fun ht => ⟨ht.nonneg, ht.lt_full, ht.one_le⟩
  turn t angle heading hfold := by
    obtain rfl := Except.ok.inj ((Exact.foldHeading_eq angle).symm.trans hfold)
    exact fun ht => ⟨folded_nonneg angle, folded_lt angle, ht.one_le⟩
  restyle t penSize penColour := fun ht => ⟨ht.nonneg, ht.lt_full, ht.one_le⟩
  drift x hup := fun ht => ⟨ht.nonneg, ht.lt_full, ht.one_le⟩

/-- Whatever a turtle is told, it stays well-formed. -/
theorem wellFormed_leave {s : Scene K (Recorder K)} (hs : s.turtle.WellFormed)
    (steps : List (Step K)) : (Step.leave s steps).turtle.WellFormed := by
  rw [(Step.leave_eq steps (Exact.isReal s.turtle)).1]
  refine Step.related_walkAll composes_keepsWellFormed s.delay (fun step _ t => ?_) s.turtle
    s.pauses hs
  cases step with
  | penUp | penDown => exact fun ht => ⟨ht.nonneg, ht.lt_full, ht.one_le⟩
  | setPosition x y => exact fun _ _ ht => ⟨ht.nonneg, ht.lt_full, ht.one_le⟩
  | dot size ink => exact fun _ _ ht => ht
  | _ => trivial

end Turtle

end TurtleCanvas
