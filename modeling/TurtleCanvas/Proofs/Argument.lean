import TurtleCanvas.Proofs.Turtle.Arc

/-!
# Arguments that are numbers

* `Argument.FitsReal` says that an argument is a number and fits a double, and `Argument.Reads`
  which double;
* `Argument.instLawfulReal` says that doubles stay doubles;
* `Turtle.exists_create`, `Turtle.exists_ahead` say that a turtle can be made from such arguments
  and can go such a distance.
-/

namespace TurtleCanvas

namespace Argument

/-- A number that fits a double. -/
def FitsReal (a : Argument) : Prop := ∃ n x, a.number? = some n ∧ n.toReal = .ok x

/-- A number that is read as a double. -/
def Reads (a : Argument) (x : Float) : Prop := ∃ n, a.number? = some n ∧ n.toReal = .ok x

theorem fitsReal_iff {a : Argument} : a.FitsReal ↔ ∃ x, a.Reads x := exists_comm

theorem toNumber_of_number? {a : Argument} {n : Number} (h : a.number? = some n) :
    a.toNumber = .ok n := by
  rw [toNumber, h]

theorem toReal_of_number? {a : Argument} {n : Number} (h : a.number? = some n) :
    a.toReal = n.toReal := by
  cases a with
  | none => exact nomatch h
  | text s => exact nomatch h
  | list items => exact nomatch h
  | flag b => rw [toReal, toNumber_of_number? h]; rfl; simp
  | number m => rw [toReal, toNumber_of_number? h]; rfl; simp

/-- What is read as a real is a double. -/
theorem scalar_toReal_eq_ok {a b : Argument} (h : Scalar.toReal a = .ok b) :
    ∃ x, b = .real x := by
  obtain ⟨x, -, h⟩ := Except.bind_eq_ok_iff.1 h
  exact ⟨x, (Except.ok.inj h).symm⟩

theorem scalar_toReal_real (x : Float) : Scalar.toReal (real x) = .ok (real x) := rfl

theorem FitsReal.exists_toReal {a : Argument} (h : a.FitsReal) :
    ∃ x, Scalar.toReal a = .ok (real x) := by
  obtain ⟨n, x, hn, hx⟩ := h
  exact ⟨x, Except.bind_eq_ok_iff.2 ⟨x, (toReal_of_number? hn).trans hx, rfl⟩⟩

theorem reads_real (x : Float) : (real x).Reads x := ⟨.real x, rfl, rfl⟩

theorem fitsReal_real (x : Float) : (real x).FitsReal := ⟨.real x, x, rfl, rfl⟩

end Argument

namespace Number

theorem exists_lift_real {f : Int → Int → Int} {g : Float → Float → Float} {n : Number}
    {x : Float} (h : n.toReal = .ok x) (y : Float) :
    lift f g n (.real y) = .ok (.real (g x y)) := by
  cases n with
  | int n => show (do return Number.real (g (← (int n).toReal) y)) = _; rw [h]; rfl
  | real x' => obtain rfl := Except.ok.inj h; rfl

theorem lift_real_eq_ok {f : Int → Int → Int} {g : Float → Float → Float} {x : Float}
    {m n : Number} (h : lift f g (.real x) m = .ok n) : ∃ y, n = .real y := by
  rw [lift] at h
  · obtain ⟨x', -, h⟩ := Except.bind_eq_ok_iff.1 h
    obtain ⟨y, -, h⟩ := Except.bind_eq_ok_iff.1 h
    exact ⟨_, (Except.ok.inj h).symm⟩
  · exact fun _ _ hx => nomatch hx

theorem exists_real_lift {f : Int → Int → Int} {g : Float → Float → Float} {n : Number}
    (x : Float) {y : Float} (h : n.toReal = .ok y) :
    lift f g (.real x) n = .ok (.real (g x y)) := by
  cases n with
  | int n => show (do return Number.real (g x (← (int n).toReal))) = _; rw [h]; rfl
  | real y' => obtain rfl := Except.ok.inj h; rfl

/-- A quotient is a double. -/
theorem div_eq_ok {m n q : Number} (h : div m n = .ok q) : ∃ x, q = .real x := by
  unfold div at h
  split at h
  · split at h
    · exact nomatch h
    · split at h
      · exact ⟨_, (Except.ok.inj h).symm⟩
      · exact nomatch h
  · obtain ⟨x, -, h⟩ := Except.bind_eq_ok_iff.1 h
    obtain ⟨y, -, h⟩ := Except.bind_eq_ok_iff.1 h
    split at h
    · exact nomatch h
    · exact ⟨_, (Except.ok.inj h).symm⟩

/-- Whether a quotient is beyond the largest double does not depend on its sign. -/
theorem isSome_ofRatio? (negative negative' : Bool) (num den : Nat) :
    (Binary64.ofRatio? negative num den).isSome = (Binary64.ofRatio? negative' num den).isSome := by
  unfold Binary64.ofRatio?
  -- The bound is kept closed, so that nothing counts up to it.
  generalize Binary64.nearestBits num den = bits, 2047 * 2 ^ 52 = bound
  by_cases h : bits < bound
  · simp only [if_pos h, Option.isSome_some]
  · simp only [if_neg h, Option.isSome_none]

theorem exists_toReal_neg {n : Number} {x : Float} (h : n.toReal = .ok x) :
    ∃ y, n.neg.toReal = .ok y := by
  cases n with
  | real x' => exact ⟨-x', rfl⟩
  | int k =>
    -- A whole number fits a double just when its negative does.
    have hsome : (Binary64.ofInt? k).isSome = true := by
      rw [toReal] at h
      split at h
      · rename_i hk; rw [hk]; rfl
      · exact nomatch h
    rw [Binary64.ofInt?, isSome_ofRatio? _ (decide (-k < 0)), ← Int.natAbs_neg k] at hsome
    obtain ⟨y, hy⟩ := Option.isSome_iff_exists.1 hsome
    refine ⟨y, ?_⟩
    show (Number.int (-k)).toReal = .ok y
    rw [toReal, Binary64.ofInt?, hy]

end Number

namespace Argument

theorem lift_real_eq_ok {f : Int → Int → Int} {g : Float → Float → Float} {x : Float}
    {b c : Argument} (h : lift (Number.lift f g) (real x) b = .ok c) :
    ∃ y, c = real y := by
  obtain ⟨n, hn, h⟩ := Except.bind_eq_ok_iff.1 h
  obtain ⟨m, hm, h⟩ := Except.bind_eq_ok_iff.1 h
  obtain ⟨k, hk, h⟩ := Except.bind_eq_ok_iff.1 h
  obtain rfl := Except.ok.inj hn
  obtain ⟨y, rfl⟩ := Number.lift_real_eq_ok hk
  exact ⟨y, (Except.ok.inj h).symm⟩

theorem Reads.lift_real {f : Int → Int → Int} {g : Float → Float → Float} {a : Argument} {x : Float}
    (h : a.Reads x) (y : Float) : lift (Number.lift f g) a (real y) = .ok (real (g x y)) := by
  obtain ⟨n, hn, hx⟩ := h
  exact Except.bind_eq_ok_iff.2 ⟨n, toNumber_of_number? hn, Except.bind_eq_ok_iff.2 ⟨.real y, rfl,
    Except.bind_eq_ok_iff.2 ⟨_, Number.exists_lift_real hx y, rfl⟩⟩⟩

theorem Reads.real_lift {f : Int → Int → Int} {g : Float → Float → Float} {b : Argument} {y : Float}
    (h : b.Reads y) (x : Float) : lift (Number.lift f g) (real x) b = .ok (real (g x y)) := by
  obtain ⟨n, hn, hy⟩ := h
  exact Except.bind_eq_ok_iff.2 ⟨.real x, rfl, Except.bind_eq_ok_iff.2 ⟨n, toNumber_of_number? hn,
    Except.bind_eq_ok_iff.2 ⟨_, Number.exists_real_lift x hy, rfl⟩⟩⟩

/-- A product with a number is one of numbers. -/
theorem times_eq_lift {a b : Argument} {m : Number} (hb : b.number? = some m) :
    times a b = lift Number.mul a b := by
  unfold times
  split
  · exact nomatch hb
  · rfl

theorem Reads.mul_real {a : Argument} {x : Float} (h : a.Reads x) (y : Float) :
    Scalar.mul a (real y) = .ok (real (x * y)) :=
  (times_eq_lift rfl).trans (h.lift_real y)

theorem Reads.real_mul {b : Argument} {y : Float} (h : b.Reads y) (x : Float) :
    Scalar.mul (real x) b = .ok (real (x * y)) :=
  (times_eq_lift h.choose_spec.1).trans (h.real_lift x)

/-- A quotient is a double. -/
theorem div_eq_ok {a b c : Argument} (h : Scalar.div a b = .ok c) : ∃ x, c = real x := by
  obtain ⟨m, -, h⟩ := Except.bind_eq_ok_iff.1 h
  obtain ⟨n, -, h⟩ := Except.bind_eq_ok_iff.1 h
  obtain ⟨q, hq, h⟩ := Except.bind_eq_ok_iff.1 h
  obtain ⟨x, rfl⟩ := Number.div_eq_ok hq
  exact ⟨x, (Except.ok.inj h).symm⟩

instance instLawfulReal : LawfulReal Argument where
  toReal_toReal h := by
    obtain ⟨x, rfl⟩ := scalar_toReal_eq_ok h
    exact scalar_toReal_real x
  toReal_real n := rfl
  toReal_add ha h := by
    obtain ⟨x, rfl⟩ := scalar_toReal_eq_ok ha
    obtain ⟨y, rfl⟩ := lift_real_eq_ok h
    exact scalar_toReal_real y
  toReal_rem h := by
    obtain ⟨m, -, h⟩ := Except.bind_eq_ok_iff.1 h
    obtain ⟨x, -, h⟩ := Except.bind_eq_ok_iff.1 h
    obtain ⟨n, -, h⟩ := Except.bind_eq_ok_iff.1 h
    obtain ⟨y, -, h⟩ := Except.bind_eq_ok_iff.1 h
    obtain rfl := Except.ok.inj h
    exact scalar_toReal_real _

/-- The number with the other sign fits a double if the number does. -/
theorem FitsReal.exists_neg {a : Argument} (h : a.FitsReal) :
    ∃ b : Argument, Scalar.neg a = .ok b ∧ b.FitsReal := by
  obtain ⟨n, x, hn, hx⟩ := h
  refine ⟨.number n.neg, Except.bind_eq_ok_iff.2 ⟨n, toNumber_of_number? hn, rfl⟩, ?_⟩
  obtain ⟨y, hy⟩ := Number.exists_toReal_neg hx
  exact ⟨n.neg, y, rfl, hy⟩

end Argument

namespace Turtle

open Argument

/-- Where a turtle comes to that goes a distance. -/
theorem ahead_eq {t : Turtle Argument} {x y heading : Float} (hx : t.x = real x) (hy : t.y = real y)
    (hh : t.heading = real heading) {distance : Argument} {r : Float} (hr : distance.Reads r) :
    t.ahead distance = .ok (real (x + r * keepingNaN (withinOne Float.cos) (radians heading)),
      real (y + r * keepingNaN (withinOne Float.sin) (radians heading))) := by
  simp only [ahead, hx, hy, hh, Except.bind_eq_ok_iff]
  exact ⟨_, rfl, _, hr.mul_real _, _, (reads_real x).lift_real _, _, rfl, _, hr.mul_real _, _,
    (reads_real y).lift_real _, rfl⟩

/-- A turtle at reals can go any distance that fits a double. -/
theorem exists_ahead {t : Turtle Argument} (ht : t.IsReal) {distance : Argument}
    (hd : distance.FitsReal) : ∃ p, t.ahead distance = .ok p := by
  obtain ⟨x, hx⟩ := scalar_toReal_eq_ok ht.x
  obtain ⟨y, hy⟩ := scalar_toReal_eq_ok ht.y
  obtain ⟨heading, hh⟩ := scalar_toReal_eq_ok ht.heading
  obtain ⟨r, hr⟩ := fitsReal_iff.1 hd
  exact ⟨_, ahead_eq hx hy hh hr⟩

theorem exists_unlessFull (r : Float) : ∃ heading, (do
    if ← Scalar.le (Scalar.real 360) (Argument.real r) then pure (Scalar.real 0)
    else pure (Argument.real r)) = Except.ok (ε := Fault) heading := by
  have hle : ∃ full, Scalar.le (Scalar.real 360) (Argument.real r) = .ok full := ⟨_, rfl⟩
  obtain ⟨full, hfull⟩ := hle
  rw [hfull]
  cases full with
  | false => exact ⟨_, rfl⟩
  | true => exact ⟨_, rfl⟩

/-- Every double can be folded to a heading. -/
theorem exists_foldHeading {angle : Argument} (h : angle.FitsReal) :
    ∃ heading, foldHeading angle = .ok heading := by
  obtain ⟨x, hx⟩ := h.exists_toReal
  obtain ⟨r, hr⟩ : ∃ r, Scalar.rem (real x) (Scalar.real 360) = .ok (real r) := ⟨_, rfl⟩
  obtain ⟨below, hbelow⟩ : ∃ below, Scalar.lt (real r) (Scalar.real 0) = .ok below := ⟨_, rfl⟩
  obtain ⟨r', hr'⟩ : ∃ r', Scalar.add (real r) (Scalar.real 360) = .ok (real r') := ⟨_, rfl⟩
  rw [foldHeading, hx, Except.ok_bind, hr, Except.ok_bind, hbelow, Except.ok_bind]
  by_cases hzero : Scalar.isZero (real r) = true
  · rw [if_pos hzero]
    exact exists_unlessFull (Argument.realOf 0)
  · rw [if_neg hzero]
    cases below with
    | true => rw [if_pos rfl, hr']; exact exists_unlessFull r'
    | false => rw [if_neg (by decide)]; exact exists_unlessFull r

theorem exists_create {x y heading : Argument} (hx : x.FitsReal) (hy : y.FitsReal)
    (hheading : heading.FitsReal) (n : Int) :
    ∃ t, create x y heading (.ok n) = .ok t := by
  obtain ⟨x', hx'⟩ := hx.exists_toReal
  obtain ⟨y', hy'⟩ := hy.exists_toReal
  obtain ⟨heading', hh⟩ := exists_foldHeading hheading
  exact ⟨⟨real x', real y', heading', true, 1, Colour.black, (max 1 n).toNat⟩,
    by simp only [create, hx', hy', hh]; rfl⟩

/-- A turtle at reals can turn by any angle that fits a double. -/
theorem exists_turned {t : Turtle Argument} (ht : t.IsReal) {angle : Argument}
    (ha : angle.FitsReal) : ∃ heading, t.turned angle = .ok heading := by
  obtain ⟨x, y, heading, isDown, penSize, penColour, arcSteps⟩ := t
  obtain ⟨heading, rfl⟩ := scalar_toReal_eq_ok ht.heading
  obtain ⟨turn, hturn⟩ := fitsReal_iff.1 ha
  obtain ⟨heading', h⟩ := exists_foldHeading (fitsReal_real (heading + turn))
  exact ⟨heading', Except.bind_eq_ok_iff.2 ⟨_, hturn.real_lift heading, h⟩⟩

/-- The chords of an arc and the turns after them are doubles. -/
theorem fitsReal_arc {t : Turtle Argument} {radius extent : Argument}
    {steps : Option (Except Fault Int)} {a : Arc Argument}
    (h : t.arc radius extent steps = .ok a) : a.chord.FitsReal ∧ a.angle.FitsReal := by
  obtain ⟨count, -, h⟩ := Except.bind_eq_ok_iff.1 h
  obtain ⟨chord, hchord, h⟩ := Except.bind_eq_ok_iff.1 h
  obtain ⟨angle, hangle, h⟩ := Except.bind_eq_ok_iff.1 h
  obtain rfl := Except.ok.inj h
  obtain ⟨angle, rfl⟩ := div_eq_ok hangle
  simp only [chordLength, Except.bind_eq_ok_iff] at hchord
  obtain ⟨_, -, _, -, _, -, _, -, hchord⟩ := hchord
  obtain ⟨chord, rfl⟩ := div_eq_ok hchord
  exact ⟨fitsReal_real chord, fitsReal_real angle⟩

/-- A turtle at reals can walk any number of chords. -/
theorem exists_afterChords {chord angle : Argument} (hc : chord.FitsReal) (ha : angle.FitsReal)
    (n : Nat) {t : Turtle Argument} (ht : t.IsReal) :
    ∃ v, afterChords chord angle n t = .ok v := by
  induction n generalizing t with
  | zero => exact ⟨t, rfl⟩
  | succ n ih =>
    obtain ⟨p, hp⟩ := exists_ahead ht hc
    obtain ⟨hx, hy⟩ := real_ahead ht hp
    have hmoved : IsReal { t with x := p.1, y := p.2 } := ⟨hx, hy, ht.heading⟩
    obtain ⟨heading, hh⟩ := exists_turned hmoved ha
    obtain ⟨v, hv⟩ := ih (t := { t with x := p.1, y := p.2, heading }) ⟨hx, hy, real_turned hh⟩
    refine ⟨v, ?_⟩
    rw [afterChords, hp, Except.ok_bind]
    exact Except.bind_eq_ok_iff.2 ⟨heading, hh, hv⟩

end Turtle

end TurtleCanvas
