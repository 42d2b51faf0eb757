import Mathlib.Data.PNat.Basic
import TurtleCanvas.Proofs.Exact.Arc

/-!
# Motions can be undone

In exact arithmetic a straight step is undone by the step back, and a turn by the opposite turn, if
the heading before it was folded.  So a run of steps and turns is undone by their inverses in reverse
order, and on the way back the turtle passes every point of the way there.

An arc is such a run, in which a turn follows each chord.  Its inverses in reverse order begin with a
turn; the arc of the opposite extent begins with a chord and ends with a turn.  A turn before it and
the opposite turn after it make up for that.

* `Stride` is a straight step or a turn, `Stride.run` and `Stride.moves` are where strides lead and
  how, and `Stride.run_undo` and `Stride.moves_undo` say that their inverses in reverse order lead
  back the same way;
* `Stride.Same` says that two lists of strides cannot be told apart, and `Motion.same_undo` that what
  undoes a motion is the same as the inverses of its strides;
* `Motion.walkProgram_eq` says that a program of motions walks their strides, and `Motion.undone` that
  every program of motions can be undone.
-/

namespace TurtleCanvas

open scoped Exact

/-- The segment with its ends exchanged. -/
def Segment.exchanged {α : Type} (g : Segment α) : Segment α := ⟨g.x1, g.y1, g.x0, g.y0⟩

/-- What a recorder keeps after some more was drawn, in order. -/
def Recorder.drew {α : Type} (r : Recorder α) (drawn : List (Drawn α)) : Recorder α :=
  ⟨drawn.reverse ++ r.drawn⟩

/-! ### Strides -/

/-- A step straight on, backward if it is negative, or a turn. -/
inductive Stride (K : Type) where
  | forward (distance : K)
  | turn (angle : K)

namespace Stride

variable {K : Type} [Field K] [LinearOrder K] [FloorRing K] [Trig K]

/-- The turtle after a stride. -/
def after (t : Turtle K) : Stride K → Turtle K
  | forward distance =>
    { t with x := t.x + distance * Trig.cos t.heading, y := t.y + distance * Trig.sin t.heading }
  | turn angle => { t with heading := folded (t.heading + angle) }

/-- The turtle after some strides. -/
def run (t : Turtle K) (strides : List (Stride K)) : Turtle K := strides.foldl after t

/-- The steps among some strides, each with the turtle before and after it. -/
def moves (t : Turtle K) : List (Stride K) → List (Turtle K × Turtle K)
  | [] => []
  | forward distance :: rest =>
    (t, (forward distance).after t) :: moves ((forward distance).after t) rest
  | turn angle :: rest => moves ((turn angle).after t) rest

/-- The segments that are drawn on the way, which are none with the pen up. -/
def segments (t : Turtle K) (strides : List (Stride K)) : List (Segment K) :=
  if t.isDown then (moves t strides).map fun m => ⟨m.1.x, m.1.y, m.2.x, m.2.y⟩ else []

/-- The stride that leads back. -/
def inverse : Stride K → Stride K
  | forward distance => .forward (-distance)
  | turn angle => .turn (-angle)

/-- The strides that lead back. -/
def undo (strides : List (Stride K)) : List (Stride K) := (strides.map inverse).reverse

/-- A number of chords, with a turn after each. -/
def chords (chord angle : K) (n : ℕ) : List (Stride K) :=
  (List.replicate n [forward chord, turn angle]).flatten

/-- The walk of some strides. -/
def walk (t : Turtle K) (strides : List (Stride K)) (pauses : ℕ) : Walk K :=
  ⟨(moves t strides).map fun m => .move m.1 m.2, run t strides, pauses, none⟩

variable {t : Turtle K} {a b a' b' : List (Stride K)}

theorem run_append : run t (a ++ b) = run (run t a) b := List.foldl_append

theorem moves_append : moves t (a ++ b) = moves t a ++ moves (run t a) b := by
  induction a generalizing t with
  | nil => rfl
  | cons stride rest ih =>
    cases stride with
    | forward distance => exact congrArg (_ :: ·) ih
    | turn angle => exact ih

omit [LinearOrder K] [FloorRing K] [Trig K] in
theorem undo_append : undo (a ++ b) = undo b ++ undo a := by
  rw [undo, List.map_append, List.reverse_append]
  rfl

/-- A walk that goes on with strides. -/
theorem walk_andThen {pauses pauses' : ℕ} {next : Turtle K → ℕ → Walk K}
    (h : next (run t a) pauses = walk (run t a) b pauses') :
    (walk t a pauses).andThen next = walk t (a ++ b) pauses' := by
  have hnext : next (walk t a pauses).turtle (walk t a pauses).pauses = walk (run t a) b pauses' := h
  rw [Walk.andThen_of_none rfl, hnext]
  simp only [walk, moves_append, run_append, List.map_append]

/-- Strides do not change the pen. -/
theorem pen_run (t : Turtle K) (strides : List (Stride K)) :
    (run t strides).isDown = t.isDown ∧ (run t strides).lineOf = t.lineOf := by
  induction strides generalizing t with
  | nil => exact ⟨rfl, rfl⟩
  | cons stride rest ih =>
    cases stride with
    | forward distance => exact ih _
    | turn angle => exact ih _

theorem drawnWith_moves (t : Turtle K) (strides : List (Stride K)) :
    Walk.DrawnWith t (moves t strides) := by
  induction strides generalizing t with
  | nil => exact fun _ h => absurd h List.not_mem_nil
  | cons stride rest ih =>
    cases stride with
    | forward distance =>
      have hrest := ih ((forward distance).after t)
      exact List.forall_mem_cons.2 ⟨⟨rfl, rfl, rfl⟩, hrest⟩
    | turn angle =>
      have hrest := ih ((turn angle).after t)
      exact hrest

theorem drawn_walk (t : Turtle K) (strides : List (Stride K)) (pauses : ℕ) :
    (walk t strides pauses).drawn = (segments t strides).map t.lineOf := by
  refine (Walk.drawn_of_moves (drawnWith_moves t strides)).trans ?_
  rw [segments]
  split <;> rfl

variable [IsStrictOrderedRing K]

/-! ### The way back -/

/-- A stride keeps headings folded. -/
theorem folded_after (stride : Stride K) (ht : folded t.heading = t.heading) :
    folded (stride.after t).heading = (stride.after t).heading := by
  cases stride with
  | forward distance => exact ht
  | turn angle => exact folded_of_mem (folded_nonneg _) (folded_lt _)

theorem folded_run (ht : folded t.heading = t.heading) (strides : List (Stride K)) :
    folded (run t strides).heading = (run t strides).heading := by
  induction strides generalizing t with
  | nil => exact ht
  | cons stride rest ih => exact ih (folded_after stride ht)

theorem after_turn_turn (t : Turtle K) (x y : K) :
    (turn y).after ((turn x).after t) = (turn (x + y)).after t := by
  simp only [after, folded_folded_add, add_assoc]

omit [IsStrictOrderedRing K] in
theorem after_turn_zero (ht : folded t.heading = t.heading) : (turn 0).after t = t := by
  simp only [after, add_zero, ht]

/-- A stride is undone by its inverse. -/
theorem after_inverse (ht : folded t.heading = t.heading) (stride : Stride K) :
    stride.inverse.after (stride.after t) = t := by
  cases stride with
  | forward distance =>
    simp only [inverse, after, neg_mul, add_neg_cancel_right]
  | turn angle =>
    rw [inverse, after_turn_turn, add_neg_cancel]
    exact after_turn_zero ht

theorem moves_inverse (ht : folded t.heading = t.heading) (stride : Stride K) :
    moves (stride.after t) [stride.inverse] = (moves t [stride]).map Prod.swap := by
  have hback := after_inverse ht stride
  cases stride with
  | forward distance => exact congrArg (fun u => [((forward distance).after t, u)]) hback
  | turn angle => rfl

/-- **The inverses of strides, in reverse order, lead back.** -/
theorem run_undo (ht : folded t.heading = t.heading) (strides : List (Stride K)) :
    run (run t strides) (undo strides) = t := by
  induction strides generalizing t with
  | nil => rfl
  | cons stride rest ih =>
    have hrest := ih (folded_after stride ht)
    rw [← List.singleton_append, undo_append, run_append, run_append]
    show run (run (run (stride.after t) rest) (undo rest)) [stride.inverse] = t
    rw [hrest]
    exact after_inverse ht stride

/-- **The way back** is the way there, each step the other way round. -/
theorem moves_undo (ht : folded t.heading = t.heading) (strides : List (Stride K)) :
    moves (run t strides) (undo strides) = (moves t strides).reverse.map Prod.swap := by
  induction strides generalizing t with
  | nil => rfl
  | cons stride rest ih =>
    have hfolded := folded_after stride ht
    have hrest := ih hfolded
    have hback := run_undo hfolded rest
    rw [← List.singleton_append, undo_append, run_append, moves_append, moves_append,
      List.reverse_append, List.map_append, List.map_reverse, List.map_reverse]
    show moves (run (stride.after t) rest) (undo rest) ++
      moves (run (run (stride.after t) rest) (undo rest)) [stride.inverse] = _
    rw [hrest, hback, moves_inverse ht, List.map_reverse]
    cases stride <;> rfl

omit [IsStrictOrderedRing K] in
/-- Steps that are made the other way round draw the segments with their ends exchanged. -/
theorem segments_of_moves {u : Turtle K} (hdown : u.isDown = t.isDown)
    (h : moves u b = (moves t a).reverse.map Prod.swap) :
    segments u b = (segments t a).reverse.map Segment.exchanged := by
  rw [segments, segments, hdown, h]
  split
  · rw [List.map_map, ← List.map_reverse, List.map_map]
    rfl
  · rfl

/-! ### Strides that cannot be told apart -/

/-- Two lists of strides take a turtle with a folded heading the same way. -/
def Same (a b : List (Stride K)) : Prop :=
  ∀ t : Turtle K, folded t.heading = t.heading → run t a = run t b ∧ moves t a = moves t b

namespace Same

omit [IsStrictOrderedRing K] in
theorem refl (a : List (Stride K)) : Same a a := fun _ _ => ⟨rfl, rfl⟩

omit [IsStrictOrderedRing K] in
theorem trans {c : List (Stride K)} (h : Same a b) (h' : Same b c) : Same a c := by
  intro t ht
  obtain ⟨hrun, hmoves⟩ := h t ht
  obtain ⟨hrun', hmoves'⟩ := h' t ht
  exact ⟨hrun.trans hrun', hmoves.trans hmoves'⟩

theorem append (h : Same a a') (h' : Same b b') : Same (a ++ b) (a' ++ b') := by
  intro t ht
  obtain ⟨hrun, hmoves⟩ := h t ht
  obtain ⟨hrun', hmoves'⟩ := h' (run t a') (folded_run ht a')
  rw [run_append, run_append, moves_append, moves_append, hrun, hmoves, hrun', hmoves']
  exact ⟨rfl, rfl⟩

/-- Two turns are one. -/
theorem turns (x y : K) : Same [turn x, turn y] [turn (x + y)] :=
  fun t _ => ⟨after_turn_turn t x y, rfl⟩

omit [IsStrictOrderedRing K] in
theorem turn_zero : Same (K := K) [turn 0] [] := fun _ ht => ⟨after_turn_zero ht, rfl⟩

/-- A turn with the opposite one after it does nothing. -/
theorem turn_back {x y : K} (h : x + y = 0) : Same [turn x, turn y] [] := by
  have hturns := turns x y
  rw [h] at hturns
  exact hturns.trans turn_zero

end Same

end Stride

/-! ### Motions -/

/-- A motion that can be undone.  An arc is told with its number of chords. -/
inductive Motion (K : Type) where
  | forward (distance : K)
  | back (distance : K)
  | turn (angle : K)
  | left (angle : K)
  | right (angle : K)
  | circle (radius extent : K) (count : ℕ+)

namespace Motion

variable {K : Type} [Field K] [LinearOrder K] [FloorRing K] [Trig K]

/-- What the turtle is told. -/
def step : Motion K → Step K
  | forward distance => .forward distance
  | back distance => .back distance
  | turn angle => .turn angle
  | left angle => .left angle
  | right angle => .right angle
  | circle radius extent count => .circle radius extent (some (.ok count))

/-- What a motion is undone by. -/
inductive Undoes : Motion K → List (Motion K) → Prop
  | forward (distance : K) : Undoes (.forward distance) [.forward (-distance)]
  | forward_back (distance : K) : Undoes (.forward distance) [.back distance]
  | back (distance : K) : Undoes (.back distance) [.back (-distance)]
  | back_forward (distance : K) : Undoes (.back distance) [.forward distance]
  | turn (angle : K) : Undoes (.turn angle) [.turn (-angle)]
  | left (angle : K) : Undoes (.left angle) [.right angle]
  | right (angle : K) : Undoes (.right angle) [.left angle]
  | circle (radius extent : K) (count : ℕ+) : Undoes (.circle radius extent count)
    [.turn (-extent / count), .circle radius (-extent) count, .turn (extent / count)]

/-- The strides of a motion. -/
def strides : Motion K → List (Stride K)
  | forward distance => [.forward distance]
  | back distance => [.forward (-distance)]
  | turn angle => [.turn angle]
  | left angle => [.turn (-angle)]
  | right angle => [.turn angle]
  | circle radius extent count =>
    if extent = 0 then []
    else if radius = 0 then [.turn extent]
    else
      let a := Exact.arc radius extent count
      Stride.chords a.chord a.angle a.count

/-- The number of pauses during a motion. -/
def pauseCount : Motion K → ℕ
  | circle radius extent count => if extent = 0 then 0 else if radius = 0 then 0 else count
  | forward _ | back _ | turn _ | left _ | right _ => 0

/-! ### What undoes a motion -/

omit [FloorRing K] [Trig K] in
theorem pauses_undo {m : Motion K} {us : List (Motion K)} (h : Undoes m us) :
    (us.map pauseCount).sum = m.pauseCount := by
  cases h with
  | circle radius extent count => simp [pauseCount]
  | _ => rfl

omit [FloorRing K] [Trig K] in
/-- What undoes a program makes as many pauses. -/
theorem pauses_undo_all {ms : List (Motion K)} {us : List (List (Motion K))}
    (h : List.Forall₂ Undoes ms us) :
    (us.reverse.flatten.map pauseCount).sum = (ms.map pauseCount).sum := by
  induction h with
  | nil => rfl
  | @cons m u ms us hm _ ih =>
    rw [List.reverse_cons, List.flatten_concat, List.map_append, List.sum_append, ih,
      pauses_undo hm, List.map_cons, List.sum_cons, add_comm]

variable [IsStrictOrderedRing K]

/-- A turn before chords that end with it may be made after chords that begin with it. -/
theorem cons_replicate_flatten {α : Type} (x y : α) (n : ℕ) :
    x :: (List.replicate n [y, x]).flatten = (List.replicate n [x, y]).flatten ++ [x] := by
  induction n with
  | zero => rfl
  | succ n ih =>
    rw [List.replicate_succ, List.replicate_succ, List.flatten_cons, List.flatten_cons]
    exact congrArg (fun l => x :: y :: l) ih

/-- **Chords and turns are undone** by chords with the opposite turns, a turn before them and the
opposite one after them. -/
theorem same_undo_chords (chord angle : K) (n : ℕ) :
    Stride.Same (.turn (-angle) :: (Stride.chords (-chord) (-angle) n ++ [.turn angle]))
      (Stride.undo (Stride.chords chord angle n)) := by
  have hundo : Stride.undo (Stride.chords chord angle n) =
      (List.replicate n [Stride.turn (-angle), .forward (-chord)]).flatten := by
    rw [Stride.undo, Stride.chords, List.map_flatten, List.map_replicate, List.reverse_flatten,
      List.map_replicate, List.reverse_replicate]
    rfl
  have hsame := (Stride.Same.refl (Stride.undo (Stride.chords chord angle n))).append
    (.turn_back (neg_add_cancel angle))
  rw [List.append_nil] at hsame
  rw [← List.cons_append, Stride.chords, cons_replicate_flatten, ← hundo, List.append_assoc]
  exact hsame

/-- **What undoes a motion** is the same as the inverses of its strides. -/
theorem same_undo {m : Motion K} {us : List (Motion K)} (h : Undoes m us) :
    Stride.Same (us.flatMap strides) (Stride.undo m.strides) := by
  cases h with
  | forward distance => exact .refl _
  | forward_back distance => exact .refl _
  | back distance => exact .refl _
  | back_forward distance =>
    show Stride.Same [.forward distance] [.forward (- -distance)]
    rw [neg_neg]
    exact .refl _
  | turn angle => exact .refl _
  | left angle =>
    show Stride.Same [.turn angle] [.turn (- -angle)]
    rw [neg_neg]
    exact .refl _
  | right angle => exact .refl _
  | circle radius extent count =>
    have hneg : -extent / (count : ℕ) = (-(extent / (count : ℕ)) : K) := neg_div _ _
    have hchord : (Exact.arc radius (-extent) count).chord =
        -(Exact.arc radius extent count).chord := by
      rw [Exact.arc_chord, Exact.arc_chord, mul_neg, neg_div]
    show Stride.Same (.turn (-extent / (count : ℕ)) ::
      ((circle radius (-extent) count).strides ++ [.turn (extent / (count : ℕ))])) _
    rw [strides, strides]
    by_cases hextent : extent = 0
    · rw [if_pos hextent, if_pos (neg_eq_zero.2 hextent)]
      exact .turn_back (by rw [hneg, neg_add_cancel])
    rw [if_neg hextent, if_neg (neg_ne_zero.2 hextent)]
    by_cases hradius : radius = 0
    · -- Without a chord the turn of the arc stands between the two others.
      rw [if_pos hradius, if_pos hradius]
      have hturns := (Stride.Same.turns (-extent / (count : ℕ)) (-extent)).append
        (Stride.Same.refl [.turn (extent / (count : ℕ))])
      have hall := hturns.trans (.turns _ _)
      have hsum : -extent / (count : ℕ) + -extent + extent / (count : ℕ) = (-extent : K) := by ring
      rwa [hsum] at hall
    · rw [if_neg hradius, if_neg hradius]
      have hchords := same_undo_chords (Exact.arc radius extent count).chord
        (extent / (count : ℕ)) count
      rwa [← hchord, ← hneg] at hchords

/-- **What undoes a program** is the same as the inverses of its strides. -/
theorem same_undo_all {ms : List (Motion K)} {us : List (List (Motion K))}
    (h : List.Forall₂ Undoes ms us) :
    Stride.Same (us.reverse.flatten.flatMap strides) (Stride.undo (ms.flatMap strides)) := by
  induction h with
  | nil => exact .refl _
  | @cons m u ms us hm _ ih =>
    rw [List.reverse_cons, List.flatten_concat, List.flatMap_append, List.flatMap_cons,
      Stride.undo_append]
    exact ih.append (same_undo hm)

/-! ### Programs of motions -/

theorem walk_turn (angle : K) (t : Turtle K) (pauses : ℕ) :
    Walk.turn angle t pauses = Stride.walk t [.turn angle] pauses := by
  rw [Walk.turn, Exact.turned_eq]
  rfl

/-- Chords are walked as their strides if no pause fails. -/
theorem chords_eq (chord angle : K) (n : ℕ) {delay : Delay} {pauses : ℕ} (t : Turtle K)
    (h : Walk.PausesReturn delay pauses n) :
    Walk.chords delay chord angle n t pauses =
      Stride.walk t (Stride.chords chord angle n) (pauses + Walk.pausesMade delay n) := by
  induction n generalizing t pauses with
  | zero => rw [Walk.pausesMade, ite_self]; rfl
  | succ n ih =>
    rw [Nat.add_comm n 1] at h
    have hforward : Walk.forward chord t pauses = Stride.walk t [.forward chord] pauses := rfl
    rw [Walk.chords, hforward]
    refine Stride.walk_andThen (b := .turn angle :: Stride.chords chord angle n) ?_
    rw [walk_turn]
    refine Stride.walk_andThen (a := [.turn angle]) ?_
    rw [h.first.pause_eq, Walk.still_andThen, ih _ h.rest, Nat.add_assoc, ← Walk.pausesMade_add,
      Nat.add_comm 1 n]
    rfl

/-- A motion walks its strides if no pause fails. -/
theorem walk_eq (m : Motion K) {delay : Delay} {pauses : ℕ} (t : Turtle K)
    (h : Walk.PausesReturn delay pauses m.pauseCount) :
    m.step.walk delay t pauses =
      Stride.walk t m.strides (pauses + Walk.pausesMade delay m.pauseCount) := by
  have hnone : pauses + Walk.pausesMade delay 0 = pauses := by rw [Walk.pausesMade, ite_self]; rfl
  cases m with
  | forward distance => rw [pauseCount, hnone]; rfl
  | back distance => rw [pauseCount, hnone]; rfl
  | turn angle => rw [pauseCount, hnone]; exact walk_turn angle t pauses
  | right angle => rw [pauseCount, hnone]; exact walk_turn angle t pauses
  | left angle => rw [pauseCount, hnone]; exact walk_turn (-angle) t pauses
  | circle radius extent count =>
    rw [pauseCount] at h ⊢
    rw [strides]
    by_cases hextent : extent = 0
    · rw [if_pos hextent, if_pos hextent, hnone]
      exact if_pos (decide_eq_true hextent)
    rw [if_neg hextent] at h ⊢
    rw [if_neg hextent]
    by_cases hradius : radius = 0
    · rw [if_pos hradius, if_pos hradius, hnone, ← walk_turn]
      exact (if_neg (Bool.eq_false_iff.1 (decide_eq_false hextent))).trans
        (if_pos (decide_eq_true hradius))
    · rw [if_neg hradius] at h ⊢
      rw [if_neg hradius]
      have hcount : t.arcChords (some (.ok (count : ℕ))) = .ok (count : ℕ) := by
        have hpos := count.pos
        exact congrArg Except.ok (by omega)
      have harc := Exact.arc_of_chords hcount count.pos radius extent
      have hwalk := Turtle.walk_circle (decide_eq_false hextent) (decide_eq_false hradius) harc
        delay pauses
      exact hwalk.trans (chords_eq _ _ count t h)

/-- **A program of motions walks their strides** if no pause fails. -/
theorem walkProgram_eq (ms : List (Motion K)) {delay : Delay} {pauses : ℕ} (t : Turtle K)
    (h : Walk.PausesReturn delay pauses (ms.map Motion.pauseCount).sum) :
    Step.walkProgram delay (ms.map step) t pauses = Stride.walk t (ms.flatMap strides)
      (pauses + Walk.pausesMade delay (ms.map Motion.pauseCount).sum) := by
  induction ms generalizing t pauses with
  | nil => simp [Step.walkProgram, Walk.still, Stride.walk, Stride.moves, Stride.run, Walk.pausesMade]
  | cons m rest ih =>
    rw [List.map_cons, List.sum_cons] at h
    rw [List.map_cons, List.map_cons, List.sum_cons, List.flatMap_cons, Step.walkProgram,
      walk_eq m t h.first]
    refine Stride.walk_andThen ?_
    rw [ih _ h.rest, Nat.add_assoc, ← Walk.pausesMade_add]

/-- What a program of motions leaves if no pause fails. -/
theorem performAll_eq (ms : List (Motion K)) {s : Scene K (Recorder K)}
    (h : Walk.PausesReturn s.delay s.pauses (ms.map pauseCount).sum) :
    Step.performAll (ms.map step) s = .ok () { s with
      turtle := Stride.run s.turtle (ms.flatMap strides)
      surface := s.surface.drew ((Stride.segments s.turtle (ms.flatMap strides)).map s.turtle.lineOf)
      pauses := s.pauses + Walk.pausesMade s.delay (ms.map pauseCount).sum } := by
  have hrun : Step.performAll (ms.map step) s =
      (Step.walkProgram s.delay (ms.map step) s.turtle s.pauses).on s :=
    (Step.follows_performAll (ms.map step) s (Exact.isReal _)).1
  rw [walkProgram_eq ms s.turtle h, Walk.on_of_none rfl, Walk.sceneAfter, Stride.drawn_walk] at hrun
  exact hrun

end Motion

/-! ### Undoing -/

section

variable {K : Type} [Field K] [LinearOrder K] [IsStrictOrderedRing K] [FloorRing K] [Trig K]

/-- A program of motions that was performed on a scene, and is undone by others. -/
structure Scene.Undone (s : Scene K (Recorder K)) (ms us : List (Motion K)) (s' : Scene K (Recorder K))
    (lines : List (Segment K)) : Prop where
  /-- The program returns and has drawn some lines with the pen, -/
  there : Step.performAll (ms.map Motion.step) s = .ok () s' ∧
    s'.surface = s.surface.drew (lines.map s.turtle.lineOf)
  /-- and what undoes it brings the turtle back to where it stood, with its heading and pen, and draws
  the same lines the other way round, the last one first. -/
  back : Step.performAll (us.map Motion.step) s' = .ok ()
    { s with
      surface := s'.surface.drew ((lines.reverse.map Segment.exchanged).map s.turtle.lineOf)
      pauses := s'.pauses + (s'.pauses - s.pauses) }
  /-- With the pen up there are no lines. -/
  up : s.turtle.isDown = false → lines = []

/-- **Every program of motions can be undone.** -/
theorem Motion.undone {s : Scene K (Recorder K)} (h0 : 0 ≤ s.turtle.heading)
    (h360 : s.turtle.heading < 360) {ms : List (Motion K)} {us : List (List (Motion K))}
    (hundo : List.Forall₂ Undoes ms us) (hpauses : s.PausesReturn (2 * (ms.map pauseCount).sum)) :
    ∃ s' lines, s.Undone ms us.reverse.flatten s' lines := by
  let n := (ms.map pauseCount).sum
  let strides := ms.flatMap strides
  have hfolded : folded s.turtle.heading = s.turtle.heading := folded_of_mem h0 h360
  have hpauses : Walk.PausesReturn s.delay s.pauses (n + n) := two_mul n ▸ hpauses
  let s' : Scene K (Recorder K) := { s with
    turtle := Stride.run s.turtle strides
    surface := s.surface.drew ((Stride.segments s.turtle strides).map s.turtle.lineOf)
    pauses := s.pauses + Walk.pausesMade s.delay n }
  have hthere : Step.performAll (ms.map step) s = .ok () s' := performAll_eq ms hpauses.first
  -- Back the turtle makes the strides that lead back, or others which cannot be told from them.
  have hcount : (us.reverse.flatten.map pauseCount).sum = n := pauses_undo_all hundo
  have hrest : Walk.PausesReturn s'.delay s'.pauses (us.reverse.flatten.map pauseCount).sum :=
    hcount.symm ▸ hpauses.rest
  have hback := performAll_eq us.reverse.flatten hrest
  obtain ⟨hrun, hmoves⟩ := same_undo_all hundo s'.turtle (Stride.folded_run hfolded strides)
  obtain ⟨hdown, hpen⟩ : s'.turtle.isDown = s.turtle.isDown ∧ s'.turtle.lineOf = s.turtle.lineOf :=
    Stride.pen_run s.turtle strides
  have hsegments := Stride.segments_of_moves hdown
    (hmoves.trans (Stride.moves_undo hfolded strides))
  have hmade : s'.pauses + (s'.pauses - s.pauses) = s'.pauses + Walk.pausesMade s.delay n :=
    congrArg (s'.pauses + ·) (Nat.add_sub_cancel_left _ _)
  refine ⟨s', Stride.segments s.turtle strides, ⟨hthere, rfl⟩, ?_, fun hup => ?_⟩
  · rw [hback, hcount, hrun.trans (Stride.run_undo hfolded strides), hsegments, hpen, hmade]
  · rw [Stride.segments, hup]
    rfl

end

/-- A step, a square that is drawn as an arc with a pause after each side, and a turn are undone. -/
theorem Motion.undone_square :
    let s : Scene ℝ (Recorder ℝ) :=
      ⟨⟨3, 4, 90, true, 1, Colour.black, 30⟩, ⟨[]⟩, some fun _ => none, 0, []⟩
    let ms : List (Motion ℝ) := [.forward 10, .circle 10 360 4, .left 30]
    let us : List (List (Motion ℝ)) :=
      [[.back 10], [.turn (-360 / 4), .circle 10 (-360) 4, .turn (360 / 4)], [.right 30]]
    0 ≤ s.turtle.heading ∧ s.turtle.heading < 360 ∧ List.Forall₂ Undoes ms us ∧
      s.PausesReturn (2 * (ms.map pauseCount).sum) ∧
      ∃ s' lines, s.Undone ms us.reverse.flatten s' lines := by
  intro s ms us
  have h0 : 0 ≤ s.turtle.heading := by norm_num [s]
  have h360 : s.turtle.heading < 360 := by norm_num [s]
  have hundo : List.Forall₂ Undoes ms us :=
    .cons (.forward_back 10) (.cons (.circle 10 360 4) (.cons (.left 30) .nil))
  have hpauses : s.PausesReturn (2 * (ms.map pauseCount).sum) := by
    intro outcome hsome j _ _
    obtain rfl := Option.some.inj hsome
    rfl
  exact ⟨h0, h360, hundo, hpauses, undone h0 h360 hundo hpauses⟩

end TurtleCanvas
