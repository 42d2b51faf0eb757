import TurtleCanvas.Proofs.Exact.Plane
import TurtleCanvas.Proofs.Exact.Real
import TurtleCanvas.Proofs.Turtle.Arc
import TurtleCanvas.Proofs.Turtle.Motion

/-!
# Arcs in exact arithmetic

In exact arithmetic an arc is known beforehand: where the turtle stands and looks after each of its
chords is told here without the turtle, and folding the heading after every chord is the same as
folding it once.

* `Arc.heading` and `Arc.vertex` are where a turtle looks and stands after a number of chords, and
  `Arc.sceneAfter` is the scene after them;
* `Turtle.afterChords_eq` says that chords lead there;
* `Arc.IsRun` says that an action draws an arc, chord by chord with a pause after each, and
  `Turtle.isRun_circle` that this is what is done for an arc;
* `Scene.DrawsArc` is the contract of arcs, and `Turtle.circle_contract` says that they keep it.
-/

namespace TurtleCanvas

open scoped Exact

/-- The number of chords of an arc, which is that of the turtle unless one is given. -/
def Turtle.chordCount {α : Type} (t : Turtle α) : Option ℤ → ℕ
  | none => t.arcSteps
  | some n => (max 1 n).toNat

namespace Turtle

theorem arcChords_eq {α : Type} (t : Turtle α) (steps : Option ℤ) :
    t.arcChords (steps.map .ok) = .ok (t.chordCount steps) := by
  cases steps with
  | none => rfl
  | some n => rfl

theorem one_le_chordCount {α : Type} {t : Turtle α} (ht : 1 ≤ t.arcSteps) (steps : Option ℤ) :
    1 ≤ t.chordCount steps := by
  cases steps with
  | none => exact ht
  | some n => simp only [chordCount]; omega

end Turtle

/-- None of the next pauses fails. -/
def Scene.PausesReturn {α σ : Type} (s : Scene α σ) (n : ℕ) : Prop :=
  ∀ outcome, s.delay = some outcome → ∀ j, s.pauses < j → j ≤ s.pauses + n → outcome j = none

section

variable {K : Type} [Field K] [LinearOrder K] [FloorRing K]

/-! ### The way along an arc -/

namespace Arc

/-- Where the turtle looks after a number of chords, each with its turn. -/
def heading (a : Arc K) (t : Turtle K) : ℕ → K
  | 0 => t.heading
  | k + 1 => folded (t.heading + (k + 1 : ℕ) * a.angle)

variable [Trig K]

/-- Where the turtle stands after a number of chords. -/
def vertex (a : Arc K) (t : Turtle K) : ℕ → K × K
  | 0 => t.position
  | k + 1 =>
    ((a.vertex t k).1 + a.chord * Trig.cos (a.heading t k),
      (a.vertex t k).2 + a.chord * Trig.sin (a.heading t k))

/-- The turtle after a number of chords, each with its turn. -/
def turtleAfter (a : Arc K) (t : Turtle K) (k : ℕ) : Turtle K :=
  { t with x := (a.vertex t k).1, y := (a.vertex t k).2, heading := a.heading t k }

/-- The segments of the first chords. -/
def segments (a : Arc K) (t : Turtle K) (k : ℕ) : List (Segment K) :=
  (List.range k).map fun j =>
    ⟨(a.vertex t j).1, (a.vertex t j).2, (a.vertex t (j + 1)).1, (a.vertex t (j + 1)).2⟩

/-- The moves of the first chords. -/
def moves (a : Arc K) (t : Turtle K) (k : ℕ) : List (Turtle K × Turtle K) :=
  (List.range k).map fun j => (a.turtleAfter t j, { a.turtleAfter t j with
    x := (a.vertex t (j + 1)).1, y := (a.vertex t (j + 1)).2 })

/-- The scene after a number of chords, each with its turn and its pause: with the pen down their
lines have been drawn, in order. -/
def sceneAfter (a : Arc K) (s : Scene K (Recorder K)) (k : ℕ) : Scene K (Recorder K) :=
  { s with
    turtle := a.turtleAfter s.turtle k
    surface := ⟨(if s.turtle.isDown then (a.segments s.turtle k).map s.turtle.lineOf
      else []).reverse ++ s.surface.drawn⟩
    pauses := s.pauses + Walk.pausesMade s.delay k }

/-- An action draws an arc.  It returns after all chords if no pause fails; and if the pause after a
chord is the first that does, it is left just after that chord and its turn. -/
structure IsRun (a : Arc K) (s : Scene K (Recorder K)) (run : Action (Scene K (Recorder K)) Unit) :
    Prop where
  returned : s.PausesReturn a.count → run s = .ok () (a.sceneAfter s a.count)
  interrupted : ∀ outcome k e, s.delay = some outcome → k < a.count → s.PausesReturn k →
    outcome (s.pauses + k + 1) = some e → run s = .error e (a.sceneAfter s (k + 1))

/-- What is drawn of the first chords. -/
theorem drawn_moves (a : Arc K) (t : Turtle K) (k : ℕ) :
    ((a.moves t k).map fun m => Event.move m.1 m.2).flatMap Event.drawn =
      if t.isDown then (a.segments t k).map t.lineOf else [] := by
  have hpen : Walk.DrawnWith t (a.moves t k) := by
    intro m hm
    obtain ⟨j, -, rfl⟩ := List.mem_map.1 hm
    exact ⟨rfl, rfl, rfl⟩
  rw [Walk.drawn_of_moves hpen]
  simp only [moves, segments, List.map_map]
  rfl

variable [IsStrictOrderedRing K]

omit [Trig K] in
/-- A turn after a chord. -/
theorem folded_heading_add (a : Arc K) (t : Turtle K) (k : ℕ) :
    folded (a.heading t k + a.angle) = a.heading t (k + 1) := by
  cases k with
  | zero => simp [heading]
  | succ k =>
    rw [heading, folded_folded_add, heading]
    push_cast
    ring_nf

omit [Trig K] in
/-- The heading of a well-formed turtle is folded before the first chord, too. -/
theorem heading_eq_folded (a : Arc K) {t : Turtle K} (h0 : 0 ≤ t.heading) (h360 : t.heading < 360)
    (k : ℕ) : a.heading t k = folded (t.heading + k * a.angle) := by
  cases k with
  | zero => simp [heading, folded_of_mem h0 h360]
  | succ k => rfl

end Arc

/-! ### Chords lead along the arc -/

namespace Turtle

variable [Trig K] [IsStrictOrderedRing K]

theorem afterChords_turtleAfter (a : Arc K) (t : Turtle K) (k n : ℕ) :
    afterChords a.chord a.angle n (a.turtleAfter t k) = .ok (a.turtleAfter t (k + n)) := by
  induction n generalizing k with
  | zero => rfl
  | succ n ih =>
    have hahead : (a.turtleAfter t k).ahead a.chord = .ok (a.vertex t (k + 1)) := rfl
    have hturned : turned { a.turtleAfter t k with
        x := (a.vertex t (k + 1)).1, y := (a.vertex t (k + 1)).2 } a.angle =
          .ok (a.heading t (k + 1)) := by
      rw [Exact.turned_eq]
      exact congrArg _ (a.folded_heading_add t k)
    rw [afterChords, hahead, Except.ok_bind]
    show (turned _ a.angle >>= _) = _
    rw [hturned, Except.ok_bind, Nat.add_comm n, ← Nat.add_assoc]
    exact ih (k + 1)

/-- Chords lead a turtle along their arc. -/
theorem afterChords_eq (a : Arc K) (t : Turtle K) (n : ℕ) :
    afterChords a.chord a.angle n t = .ok (a.turtleAfter t n) := by
  have h := afterChords_turtleAfter a t 0 n
  rwa [Nat.zero_add] at h

/-- The moves of an arc are known beforehand. -/
theorem moves_eq {a : Arc K} {t : Turtle K} {moves : List (Turtle K × Turtle K)}
    (h : Walk.ChordMoves a.chord a.angle t moves) : moves = a.moves t moves.length := by
  refine List.ext_getElem (by simp [Arc.moves]) fun j hj _ => ?_
  obtain ⟨hafter, p, hp, hmove⟩ := h j moves[j] (List.getElem?_eq_getElem hj)
  have hbefore : moves[j].1 = a.turtleAfter t j :=
    Except.ok.inj (hafter.symm.trans (afterChords_eq a t j))
  rw [hbefore] at hp hmove
  obtain rfl : a.vertex t (j + 1) = p := Except.ok.inj hp
  simp only [Arc.moves, List.getElem_map, List.getElem_range]
  exact Prod.ext hbefore hmove

/-- An arc with chords is drawn chord by chord. -/
theorem isRun_circle {s : Scene K (Recorder K)} {radius extent : K} (hextent : extent ≠ 0)
    (hradius : radius ≠ 0) {steps : Option (Except Fault ℤ)} {a : Arc K}
    (ha : s.turtle.arc radius extent steps = .ok a) : a.IsRun s (circle radius extent steps) := by
  have hwalk := walk_circle (decide_eq_false hextent) (decide_eq_false hradius) ha s.delay s.pauses
  have hrun := (Step.circle radius extent steps).perform_eq (Exact.isReal s.turtle)
  rw [hwalk] at hrun
  constructor
  case returned =>
    intro hfree
    obtain ⟨moves, hlength, hmoves, hchords⟩ :=
      Walk.chords_of_free (afterChords_eq a s.turtle a.count) hfree
    rw [hchords, moves_eq hmoves, hlength] at hrun
    refine hrun.trans ((Walk.on_of_none rfl s).trans ?_)
    rw [Walk.sceneAfter, Walk.drawn, Arc.drawn_moves]
    rfl
  case interrupted =>
    intro outcome k e hdelay hk hfree hfail
    obtain ⟨moves, hlength, hmoves, hchords⟩ :=
      Walk.chords_of_abort hk (afterChords_eq a s.turtle (k + 1)) (hfree outcome hdelay) hfail
    rw [hdelay, hchords, moves_eq hmoves, hlength] at hrun
    refine hrun.trans ((Walk.on_of_some rfl s).trans ?_)
    rw [Walk.sceneAfter, Walk.drawn, Arc.drawn_moves, Arc.sceneAfter, hdelay]
    rfl

end Turtle

/-! ### The contract of arcs -/

namespace Arc

variable [Trig K] [IsStrictOrderedRing K]

/-- The line of a chord is as long as the chord. -/
theorem hasLength_segments [PythagoreanTrig K] (a : Arc K) (t : Turtle K)
    (k : ℕ) : List.Forall₂ Segment.HasLength (a.segments t k) (List.replicate k |a.chord|) := by
  refine List.forall₂_iff_get.2 ⟨by simp [segments], fun j _ _ => ?_⟩
  simp only [segments, List.get_eq_getElem, List.getElem_map, List.getElem_range,
    List.getElem_replicate]
  refine ⟨abs_nonneg _, ?_⟩
  simp only [distSq, Segment.start, Segment.stop, vertex, sq_abs]
  linear_combination a.chord ^ 2 * PythagoreanTrig.cos_sq_add_sin_sq (a.heading t j)

end Arc

namespace Exact

variable [Trig K] [IsStrictOrderedRing K]

/-- The chords are walked backward when radius and extent have different signs. -/
theorem arc_chord_neg_iff (hpi : 0 < (Trig.pi : K)) {n : ℕ} (hn : 1 ≤ n) (radius extent : K) :
    (arc radius extent n).chord < 0 ↔ radius * extent < 0 := by
  have hn0 : (0 : K) < n := by exact_mod_cast hn
  have hfactor : 2 * Trig.pi * radius * extent / (360 * n) =
      2 * Trig.pi / (360 * n) * (radius * extent) := by ring
  rw [arc_chord, hfactor, ← smul_eq_mul, smul_neg_iff_of_pos_left (by positivity)]

/-- The chords are together as long as their arc. -/
theorem sum_arc_chords (hpi : 0 < (Trig.pi : K)) {n : ℕ} (hn : 1 ≤ n) (radius extent : K) :
    (List.replicate n |(arc radius extent n).chord|).sum =
      2 * Trig.pi * |radius| * |extent| / 360 := by
  have hn0 : (n : K) ≠ 0 := by exact_mod_cast Nat.one_le_iff_ne_zero.1 hn
  rw [List.sum_replicate, nsmul_eq_mul, arc_chord, abs_div, abs_mul, abs_mul, abs_mul, abs_mul,
    abs_of_pos hpi, Nat.abs_cast, abs_of_pos (by norm_num : (0 : K) < 2),
    abs_of_pos (by norm_num : (0 : K) < 360)]
  field_simp

omit [IsStrictOrderedRing K] in
/-- The turns of an arc add up to its extent. -/
theorem arc_heading {n : ℕ} (hn : 1 ≤ n) (radius extent : K) (t : Turtle K) :
    (arc radius extent n).heading t n = folded (t.heading + extent) := by
  obtain ⟨k, rfl⟩ := Nat.exists_eq_add_of_le' hn
  have hn0 : ((k + 1 : ℕ) : K) ≠ 0 := by exact_mod_cast Nat.succ_ne_zero k
  rw [Arc.heading, arc, mul_div_cancel₀ _ hn0]

end Exact

namespace Scene

variable [Trig K]

/-- The contract of an arc of a radius, an extent and, if it is given, a number of chords. -/
structure DrawsArc (s : Scene K (Recorder K)) (radius extent : K) (steps : Option ℤ) (a : Arc K) :
    Prop where
  count : a.count = s.turtle.chordCount steps
  one_le : 1 ≤ a.count
  chord : a.chord = 2 * Trig.pi * radius * extent / (360 * a.count)
  /-- The chords are walked backward when radius and extent have different signs. -/
  backward : a.chord < 0 ↔ radius * extent < 0
  angle : a.angle = extent / a.count
  run : a.IsRun s (Turtle.circle radius extent (steps.map .ok))
  /-- The lines of the chords are equally long, and together as long as the arc. -/
  lengths : ∃ l, List.Forall₂ Segment.HasLength (a.segments s.turtle a.count)
      (List.replicate a.count l) ∧
    (List.replicate a.count l).sum = 2 * Trig.pi * |radius| * |extent| / 360
  heading : a.heading s.turtle a.count = folded (s.turtle.heading + extent)

end Scene

namespace Turtle

variable [Trig K] [IsStrictOrderedRing K]

theorem arc_eq {t : Turtle K} (ht : 1 ≤ t.arcSteps) (radius extent : K) (steps : Option ℤ) :
    t.arc radius extent (steps.map .ok) =
      .ok (Exact.arc radius extent (t.chordCount steps)) :=
  Exact.arc_of_chords (arcChords_eq t steps) (one_le_chordCount ht steps) radius extent

/-- **The contract of arcs.**  An arc of no extent does nothing, and one of no radius only turns.  Any
other is drawn as a number of chords of one length, each along the heading that the turns after those
before it lead to, with one pause after each chord and its turn; their lines are together as long as
the arc, and in the end the turtle has turned by the extent, whole turns aside. -/
theorem circle_contract [PythagoreanTrig K] (hpi : 0 < (Trig.pi : K)) (s : Scene K (Recorder K))
    (hs : 1 ≤ s.turtle.arcSteps) (radius extent : K) (steps : Option ℤ) :
    (extent = 0 → circle radius extent (steps.map .ok) s = .ok () s) ∧
    (extent ≠ 0 → radius = 0 → circle radius extent (steps.map .ok) s =
      .ok () { s with turtle :=
        { s.turtle with heading := folded (s.turtle.heading + extent) } }) ∧
    (extent ≠ 0 → radius ≠ 0 → ∃ a, s.DrawsArc radius extent steps a) := by
  refine ⟨fun hextent => ?_, fun hextent hradius => ?_, fun hextent hradius => ?_⟩
  · have hzero : Scalar.isZero extent = true := decide_eq_true hextent
    rw [circle, if_pos hzero]
    rfl
  · have hnone : Scalar.isZero extent ≠ true := fun h => hextent (of_decide_eq_true h)
    have hzero : Scalar.isZero radius = true := decide_eq_true hradius
    have hturned : (ask fun t => t.turned extent : Action (Scene K (Recorder K)) K) s =
        .ok (folded (s.turtle.heading + extent)) s := by
      simp only [ask, Exact.turned_eq]
    rw [circle, if_neg hnone, if_pos hzero]
    exact Action.bind_of_ok hturned
  · have hn := one_le_chordCount hs steps
    exact ⟨Exact.arc radius extent (s.turtle.chordCount steps), rfl, hn, Exact.arc_chord _ _ _,
      Exact.arc_chord_neg_iff hpi hn radius extent, rfl,
      isRun_circle hextent hradius (arc_eq hs radius extent steps),
      ⟨_, Arc.hasLength_segments _ _ _, Exact.sum_arc_chords hpi hn radius extent⟩,
      Exact.arc_heading hn radius extent s.turtle⟩

/-- A full circle of four chords is a square. -/
theorem circle_contract_square :
    let s : Scene ℝ (Recorder ℝ) := ⟨⟨0, 0, 0, true, 1, Colour.black, 4⟩, ⟨[]⟩, none, 0, []⟩
    (0 : ℝ) < Trig.pi ∧ 1 ≤ s.turtle.arcSteps ∧
      ∃ a, s.DrawsArc 10 360 none a ∧ a.count = 4 ∧ a.chord = 5 * Real.pi ∧ a.angle = 90 ∧
        circle 10 360 none s = .ok () (a.sceneAfter s 4) := by
  intro s
  have hpi : (0 : ℝ) < Trig.pi := Real.pi_pos
  have hs : 1 ≤ s.turtle.arcSteps := by decide
  obtain ⟨-, -, hdraws⟩ := circle_contract hpi s hs 10 360 none
  obtain ⟨a, ha⟩ := hdraws (by norm_num) (by norm_num)
  have hcount : a.count = 4 := ha.count
  have hchord : a.chord = 2 * Real.pi * 10 * 360 / (360 * a.count) := ha.chord
  have hreturned := ha.run.returned fun outcome houtcome => nomatch houtcome
  rw [hcount] at hchord hreturned
  refine ⟨hpi, hs, a, ha, hcount, ?_, ?_, hreturned⟩
  · rw [hchord]; push_cast; ring
  · rw [ha.angle, hcount]; norm_num

end Turtle

end

end TurtleCanvas
