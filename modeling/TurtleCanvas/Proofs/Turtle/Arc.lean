import TurtleCanvas.Proofs.Turtle.Trace

/-!
# Arcs

* `Turtle.afterChords` is a turtle after a number of chords, each with the turn after it;
* `Walk.ChordMoves` says which moves the chords of an arc are, and `Walk.PausesReturn` that the pauses
  between them do not fail;
* `Walk.chords_of_free` is the walk of an arc whose pauses do not fail, and `Walk.chords_of_abort`
  that of an arc whose pause fails.
-/

namespace TurtleCanvas

variable {α : Type} [Scalar α]

/-- The turtle after a number of chords, each with the turn after it. -/
def Turtle.afterChords (chord angle : α) : Nat → Turtle α → Except Fault (Turtle α)
  | 0, t => pure t
  | n + 1, t => do
    let p ← t.ahead chord
    let t := { t with x := p.1, y := p.2 }
    let heading ← t.turned angle
    afterChords chord angle n { t with heading }

theorem Turtle.afterChords_succ {chord angle : α} {n : Nat} {t v : Turtle α}
    (h : afterChords chord angle (n + 1) t = .ok v) : ∃ p heading, t.ahead chord = .ok p ∧
      turned { t with x := p.1, y := p.2 } angle = .ok heading ∧
      afterChords chord angle n { t with x := p.1, y := p.2, heading } = .ok v := by
  obtain ⟨p, hp, h⟩ := Except.bind_eq_ok_iff.1 h
  obtain ⟨heading, hh, h⟩ := Except.bind_eq_ok_iff.1 h
  exact ⟨p, heading, hp, hh, h⟩

/-- Some chords are walked one part after the other. -/
theorem Turtle.afterChords_add {chord angle : α} {n k : Nat} {t v : Turtle α}
    (h : afterChords chord angle (n + k) t = .ok v) :
    ∃ u, afterChords chord angle n t = .ok u ∧ afterChords chord angle k u = .ok v := by
  induction n generalizing t with
  | zero => exact ⟨t, rfl, by rwa [Nat.zero_add] at h⟩
  | succ n ih =>
    rw [Nat.add_right_comm] at h
    obtain ⟨p, heading, hp, hh, h⟩ := afterChords_succ h
    obtain ⟨u, hu, hv⟩ := ih h
    refine ⟨u, ?_, hv⟩
    rw [afterChords, hp, Except.ok_bind]
    exact Except.bind_eq_ok_iff.2 ⟨heading, hh, hu⟩

/-- Chords do not change the pen. -/
theorem Turtle.pen_afterChords {chord angle : α} {n : Nat} {t u : Turtle α}
    (h : afterChords chord angle n t = .ok u) :
    u.isDown = t.isDown ∧ u.penColour = t.penColour ∧ u.penSize = t.penSize := by
  induction n generalizing t with
  | zero =>
    obtain rfl := Except.ok.inj h
    exact ⟨rfl, rfl, rfl⟩
  | succ n ih =>
    obtain ⟨p, heading, -, -, h⟩ := afterChords_succ h
    have hrest := ih h
    exact hrest

namespace Walk

/-- An arc goes on, after its first chord and turn, with a pause and the other chords. -/
theorem chords_succ {chord angle heading : α} {t : Turtle α} {p : α × α}
    (hp : t.ahead chord = .ok p)
    (hh : Turtle.turned { t with x := p.1, y := p.2 } angle = .ok heading) (delay : Delay)
    (n pauses : Nat) :
    let u : Turtle α := { t with x := p.1, y := p.2, heading }
    let rest := (pause delay u pauses).andThen (chords delay chord angle n)
    chords delay chord angle (n + 1) t pauses =
      { rest with events := .move t { t with x := p.1, y := p.2 } :: rest.events } := by
  intro u rest
  have hforward : forward chord t pauses = move t pauses p := by rw [forward, hp, upon]
  have hturn : turn angle { t with x := p.1, y := p.2 } pauses = still u pauses := by
    rw [turn, hh, upon]
  simp only [chords, hforward, move_andThen, hturn, still_andThen]
  rfl

/-- The number of pauses that are counted of those that a turtle is to make. -/
def pausesMade (delay : Delay) (n : Nat) : Nat := if delay.isSome then n else 0

theorem pausesMade_add (delay : Delay) (m n : Nat) :
    pausesMade delay (m + n) = pausesMade delay m + pausesMade delay n := by
  simp only [pausesMade]
  split <;> rfl

/-- None of the next pauses fails. -/
def PausesReturn (delay : Delay) (pauses n : Nat) : Prop :=
  ∀ outcome, delay = some outcome → ∀ j, pauses < j → j ≤ pauses + n → outcome j = none

namespace PausesReturn

variable {delay : Delay} {pauses m n : Nat}

theorem first (h : PausesReturn delay pauses (m + n)) : PausesReturn delay pauses m :=
  fun outcome hsome j hj hj' => h outcome hsome j hj (by omega)

/-- After some pauses the others do not fail either. -/
theorem rest (h : PausesReturn delay pauses (m + n)) :
    PausesReturn delay (pauses + pausesMade delay m) n := by
  intro outcome hsome j hj hj'
  have hmade : pausesMade delay m = m := by rw [hsome]; rfl
  exact h outcome hsome j (by omega) (by omega)

omit [Scalar α] in
/-- A pause that does not fail is counted, and that is all. -/
theorem pause_eq (h : PausesReturn delay pauses 1) (t : Turtle α) :
    pause delay t pauses = still t (pauses + pausesMade delay 1) := by
  cases delay with
  | none => rfl
  | some outcome =>
    have hnone := h outcome rfl (pauses + 1) (by omega) (by omega)
    simp only [pause, hnone]
    rfl

end PausesReturn

/-- The moves of chords with a pen. -/
def DrawnWith (t : Turtle α) (moves : List (Turtle α × Turtle α)) : Prop :=
  ∀ m ∈ moves, m.1.isDown = t.isDown ∧ m.1.penColour = t.penColour ∧ m.1.penSize = t.penSize

/-- The moves of chords from a turtle on: each is made by the turtle after the chords before it. -/
def ChordMoves (chord angle : α) (t : Turtle α) (moves : List (Turtle α × Turtle α)) : Prop :=
  ∀ j m, moves[j]? = some m → Turtle.afterChords chord angle j t = .ok m.1 ∧
    ∃ p, m.1.ahead chord = .ok p ∧ m.2 = { m.1 with x := p.1, y := p.2 }

namespace ChordMoves

variable {chord angle : α} {t : Turtle α} {moves : List (Turtle α × Turtle α)}

theorem drawnWith (h : ChordMoves chord angle t moves) : DrawnWith t moves := by
  intro m hm
  obtain ⟨j, hj⟩ := List.mem_iff_getElem?.1 hm
  exact Turtle.pen_afterChords (h j m hj).1

/-- A chord before others. -/
theorem cons {p : α × α} {heading : α} (hp : t.ahead chord = .ok p)
    (hh : Turtle.turned { t with x := p.1, y := p.2 } angle = .ok heading)
    (h : ChordMoves chord angle { t with x := p.1, y := p.2, heading } moves) :
    ChordMoves chord angle t ((t, { t with x := p.1, y := p.2 }) :: moves) := by
  intro j m hm
  cases j with
  | zero =>
    obtain rfl := Option.some.inj hm
    exact ⟨rfl, p, hp, rfl⟩
  | succ j =>
    obtain ⟨hafter, hmove⟩ := h j m hm
    refine ⟨?_, hmove⟩
    rw [Turtle.afterChords, hp, Except.ok_bind]
    exact Except.bind_eq_ok_iff.2 ⟨heading, hh, hafter⟩

/-- A chord after others. -/
theorem concat (h : ChordMoves chord angle t moves) {u : Turtle α}
    (hu : Turtle.afterChords chord angle moves.length t = .ok u) {p : α × α}
    (hp : u.ahead chord = .ok p) :
    ChordMoves chord angle t (moves ++ [(u, { u with x := p.1, y := p.2 })]) := by
  intro j m hm
  rcases Nat.lt_trichotomy j moves.length with hj | rfl | hj
  · exact h j m (List.getElem?_append_left hj ▸ hm)
  · rw [List.getElem?_concat_length] at hm
    obtain rfl := Option.some.inj hm
    exact ⟨hu, p, hp, rfl⟩
  · rw [List.getElem?_eq_none (by simp; omega)] at hm
    cases hm

end ChordMoves

/-- An arc none of whose first pauses fails walks that many chords, and then the others. -/
theorem chords_add {delay : Delay} {chord angle : α} {k : Nat} (m : Nat) {t v : Turtle α}
    (hv : Turtle.afterChords chord angle k t = .ok v) {pauses : Nat}
    (hfree : PausesReturn delay pauses k) :
    ∃ moves, moves.length = k ∧ ChordMoves chord angle t moves ∧
      chords delay chord angle (k + m) t pauses =
        { chords delay chord angle m v (pauses + pausesMade delay k) with
          events := (moves.map fun m => .move m.1 m.2) ++
            (chords delay chord angle m v (pauses + pausesMade delay k)).events } := by
  induction k generalizing t pauses with
  | zero =>
    obtain rfl := Except.ok.inj hv
    have hmade : pausesMade delay 0 = 0 := by rw [pausesMade, ite_self]
    refine ⟨[], rfl, fun _ _ h => (nomatch h), ?_⟩
    rw [hmade, Nat.zero_add]
    rfl
  | succ k ih =>
    obtain ⟨p, heading, hp, hh, hv⟩ := Turtle.afterChords_succ hv
    rw [Nat.add_comm k 1] at hfree
    -- The first chord is walked and its pause made, and the others are walked from there.
    obtain ⟨moves, hlength, hmoves, hrest⟩ := ih hv hfree.rest
    refine ⟨(t, { t with x := p.1, y := p.2 }) :: moves, by simp [hlength], hmoves.cons hp hh, ?_⟩
    rw [Nat.add_right_comm k 1 m, chords_succ hp hh, hfree.first.pause_eq, still_andThen, hrest,
      Nat.add_assoc pauses, ← pausesMade_add, Nat.add_comm 1 k]
    rfl

/-- **An arc whose pauses do not fail** walks all its chords. -/
theorem chords_of_free {delay : Delay} {chord angle : α} {n : Nat} {t v : Turtle α}
    (hv : Turtle.afterChords chord angle n t = .ok v) {pauses : Nat}
    (hfree : PausesReturn delay pauses n) :
    ∃ moves, moves.length = n ∧ ChordMoves chord angle t moves ∧
      chords delay chord angle n t pauses =
        ⟨moves.map fun m => .move m.1 m.2, v, pauses + pausesMade delay n, none⟩ := by
  obtain ⟨moves, hlength, hmoves, hrest⟩ := chords_add 0 hv hfree
  refine ⟨moves, hlength, hmoves, hrest.trans ?_⟩
  simp only [chords, still, List.append_nil]

/-- **An arc whose pause fails** is left after as many chords and turns as pauses were made. -/
theorem chords_of_abort {outcome : Nat → Option Fault} {e : Fault} {chord angle : α} {k n : Nat}
    (hk : k < n) {t v : Turtle α} (hv : Turtle.afterChords chord angle (k + 1) t = .ok v)
    {pauses : Nat} (hfree : ∀ j, pauses < j → j ≤ pauses + k → outcome j = none)
    (hfail : outcome (pauses + k + 1) = some e) :
    ∃ moves, moves.length = k + 1 ∧ ChordMoves chord angle t moves ∧
      chords (some outcome) chord angle n t pauses =
        ⟨moves.map fun m => .move m.1 m.2, v, pauses + (k + 1), some e⟩ := by
  -- `k` chords whose pauses go well, the chord whose pause fails, and `m` that are not reached.
  obtain ⟨m, rfl⟩ : ∃ m, n = k + (m + 1) := ⟨n - (k + 1), by omega⟩
  obtain ⟨u, hu, hlast⟩ := Turtle.afterChords_add hv
  obtain ⟨p, heading, hp, hh, hv⟩ := Turtle.afterChords_succ hlast
  obtain rfl := Except.ok.inj hv
  have hfree' : PausesReturn (some outcome) pauses k :=
    fun _ hsome => Option.some.inj hsome ▸ hfree
  obtain ⟨moves, hlength, hmoves, hrest⟩ := chords_add (m + 1) hu hfree'
  refine ⟨moves ++ [(u, { u with x := p.1, y := p.2 })], by simp [hlength],
    hmoves.concat (hlength ▸ hu) hp, ?_⟩
  rw [hrest, chords_succ hp hh]
  simp only [pause, pausesMade, Option.isSome_some, if_true, hfail, stuck_andThen]
  simp [stuck, Nat.add_assoc]

end Walk

end TurtleCanvas
