import Mathlib.Order.WithBot
import TurtleCanvas.Heading
import TurtleCanvas.Proofs.Action
import TurtleCanvas.Proofs.Exact

/-!
# Rounded arithmetic

Reals that are rounded after every operation are an arithmetic for coordinates, whatever the way to
round: a result may become an infinity, and infinities and NaNs go through the operations as they do
in IEEE arithmetic.  Whole numbers of any size stay exact until they meet a real.

* `Rounding` is a way to round, with the constants and functions of the circle, and `LawfulRounding`
  says that it keeps the order and rounds neither 0 nor 360;
* `Rounded` is a real, an infinity or a NaN, and `Quantity` a whole number or one of these;
* `Quantity.instScalar` is the arithmetic;
* `Quantity.foldHeading_spec` says what the heading of an angle is: between 0 and 360, or a NaN just
  when the angle is not finite.
-/

namespace TurtleCanvas

/-- A way to round the results of a field, and the constants and functions of the circle. -/
class Rounding (K : Type) where
  /-- The rounded result, which may be an infinity. -/
  round : K → WithBot (WithTop K)
  /-- A whole number as a real, unless it is beyond the largest one. -/
  ofInt : ℤ → Option K
  /-- The ratio of a circle's circumference to its diameter. -/
  pi : K
  /-- A degree in radians. -/
  degree : K
  /-- The cosine of an angle in radians. -/
  cos : K → K
  /-- The sine of an angle in radians. -/
  sin : K → K

/-- The order is kept, and neither 0 nor 360 is rounded.  A whole number above zero does not become
less than one, and a degree is no more than a radian. -/
class LawfulRounding (K : Type) [Field K] [LinearOrder K] [Rounding K] : Prop where
  monotone_round : Monotone (Rounding.round : K → WithBot (WithTop K))
  round_zero : Rounding.round (0 : K) = ((0 : K) : WithTop K)
  round_turn : Rounding.round (360 : K) = ((360 : K) : WithTop K)
  one_le_ofInt {n : ℤ} {x : K} : 1 ≤ n → Rounding.ofInt n = some x → 1 ≤ x
  degree_nonneg : (0 : K) ≤ Rounding.degree
  degree_le_one : (Rounding.degree : K) ≤ 1

/-- A real, an infinity or a NaN. -/
inductive Rounded (K : Type) where
  | finite (x : K)
  | infinite (negative : Bool)
  | nan
  deriving DecidableEq, Repr

/-- A whole number of any size, or a real. -/
inductive Quantity (K : Type) where
  | whole (n : ℤ)
  | real (v : Rounded K)
  deriving DecidableEq, Repr

variable {K : Type} [Field K] [LinearOrder K]

namespace Rounded

/-- Neither infinite nor a NaN. -/
def isFinite : Rounded K → Bool
  | finite _ => true
  | _ => false

/-- A bound or a value in between as a real. -/
def ofBounded : WithBot (WithTop K) → Rounded K
  | ⊥ => infinite true
  | some ⊤ => infinite false
  | some (some x) => finite x

/-- An infinity with the sign of a product or quotient. -/
def unbounded (negative negative' : Bool) : Rounded K := infinite (negative != negative')

/-- The value with the other sign. -/
def neg : Rounded K → Rounded K
  | finite x => finite (-x)
  | infinite negative => infinite (!negative)
  | nan => nan

/-- Strictly below; a NaN is not. -/
def lt : Rounded K → Rounded K → Bool
  | finite x, finite y => x < y
  | finite _, infinite negative => !negative
  | infinite negative, finite _ => negative
  | infinite negative, infinite negative' => negative && !negative'
  | _, _ => false

/-- The remainder of the division that truncates its quotient, which is not rounded. -/
def rem [FloorRing K] : Rounded K → Rounded K → Rounded K
  | finite x, finite y => if y = 0 then nan else finite (x - y * Exact.trunc (x / y))
  | finite x, infinite _ => finite x
  | _, _ => nan

/-- A whole number from a real; infinities and NaNs have none. -/
def toInt (f : K → ℤ) : Rounded K → Except Fault ℤ
  | finite x => .ok (f x)
  | infinite _ => .error .infinityToInt
  | nan => .error .nanToInt

variable [Rounding K]

/-- The rounded result. -/
def rounded (x : K) : Rounded K := ofBounded (Rounding.round x)

/-- The sum. -/
def add : Rounded K → Rounded K → Rounded K
  | finite x, finite y => rounded (x + y)
  | finite _, infinite negative => infinite negative
  | infinite negative, finite _ => infinite negative
  | infinite negative, infinite negative' =>
    if negative = negative' then infinite negative else nan
  | _, _ => nan

/-- The product. -/
def mul : Rounded K → Rounded K → Rounded K
  | finite x, finite y => rounded (x * y)
  | finite x, infinite negative => if x = 0 then nan else unbounded (x < 0) negative
  | infinite negative, finite y => if y = 0 then nan else unbounded negative (y < 0)
  | infinite negative, infinite negative' => unbounded negative negative'
  | _, _ => nan

/-- The quotient by something that is not zero. -/
def div : Rounded K → Rounded K → Rounded K
  | finite x, finite y => rounded (x / y)
  | finite _, infinite _ => finite 0
  | infinite negative, finite y => unbounded negative (y < 0)
  | _, _ => nan

/-- A function of the circle of an angle in degrees.  An infinite angle in radians has none. -/
def onCircle (f : K → K) (v : Rounded K) : Except Fault (Rounded K) :=
  match v.mul (finite Rounding.degree) with
  | finite x => .ok (rounded (f x))
  | infinite _ => .error (.raised "ValueError" "math domain error")
  | nan => .ok nan

end Rounded

namespace Quantity

open Rounded

/-- The exact value of a quantity, a whole number of any size included. -/
def exactly : Quantity K → Rounded K
  | whole n => finite n
  | real v => v

variable [Rounding K]

/-- The quantity as a real. -/
def toReal : Quantity K → Except Fault (Rounded K)
  | whole n =>
    match Rounding.ofInt n with
    | some x => .ok (finite x)
    | none => .error .beyondReal
  | real v => .ok v

/-- Apply an operation on whole numbers to two whole numbers, and otherwise its counterpart on
reals. -/
def lift (onInt : ℤ → ℤ → ℤ) (onReal : Rounded K → Rounded K → Rounded K) :
    Quantity K → Quantity K → Except Fault (Quantity K)
  | whole m, whole n => .ok (whole (onInt m n))
  | a, b => do return real (onReal (← a.toReal) (← b.toReal))

/-- The quotient, a real.  That of two whole numbers is rounded only once. -/
def div : Quantity K → Quantity K → Except Fault (Quantity K)
  | whole m, whole n =>
    if n = 0 then .error .divisionByZero
    else
      match (rounded ((m : K) / n) : Rounded K) with
      | infinite _ => .error .quotientBeyondReal
      | v => .ok (real v)
  | a, b => do
    let x ← a.toReal
    let y ← b.toReal
    if y = finite 0 then .error .realDivisionByZero else return real (x.div y)

/-- Whole numbers and rounded reals as coordinates. -/
instance instScalar [FloorRing K] : Scalar (Quantity K) where
  int := whole
  real n := real (finite n)
  pi := real (finite Rounding.pi)
  isFinite a := do return (← a.toReal).isFinite
  add := lift (· + ·) add
  sub := lift (· - ·) fun x y => x.add y.neg
  mul := lift (· * ·) mul
  div := div
  neg
    | whole n => .ok (whole (-n))
    | real v => .ok (real v.neg)
  lt a b := .ok (a.exactly.lt b.exactly)
  le a b := .ok (a.exactly.lt b.exactly || (a.exactly = b.exactly && a.exactly ≠ nan))
  isZero a := a.exactly = finite 0
  isOne a := a.exactly = finite 1
  round a := a.exactly.toInt roundHalfEven
  trunc a := a.exactly.toInt Exact.trunc
  toReal a := do return real (← a.toReal)
  rem a b := do return real ((← a.toReal).rem (← b.toReal))
  cos a := do return real (← (← a.toReal).onCircle Rounding.cos)
  sin a := do return real (← (← a.toReal).onCircle Rounding.sin)

end Quantity

/-! ### Rounding -/

namespace Rounded

variable [Rounding K] [LawfulRounding K]

/-- What lies between 0 and 360 is rounded to something that does. -/
theorem exists_rounded {x : K} (h0 : 0 ≤ x) (h360 : x ≤ 360) :
    ∃ y, rounded x = finite y ∧ 0 ≤ y ∧ y ≤ 360 := by
  have hlow := LawfulRounding.monotone_round h0
  have hhigh := LawfulRounding.monotone_round h360
  rw [LawfulRounding.round_zero] at hlow
  rw [LawfulRounding.round_turn] at hhigh
  rw [rounded]
  -- Between two reals there is neither infinity.
  generalize Rounding.round x = bounded at hlow hhigh
  induction bounded using WithBot.recBotCoe with
  | bot => exact absurd hlow (WithBot.not_coe_le_bot _)
  | coe bounded =>
    induction bounded using WithTop.recTopCoe with
    | top => exact absurd (WithBot.coe_le_coe.1 hhigh) (WithTop.not_top_le_coe _)
    | coe y =>
      exact ⟨y, rfl, WithTop.coe_le_coe.1 (WithBot.coe_le_coe.1 hlow),
        WithTop.coe_le_coe.1 (WithBot.coe_le_coe.1 hhigh)⟩

variable [IsStrictOrderedRing K]

/-- What is at least 360 is rounded to something that is not zero. -/
theorem rounded_ne_zero {x : K} (h : 360 ≤ x) : rounded x ≠ finite 0 := by
  have hround := LawfulRounding.monotone_round h
  rw [LawfulRounding.round_turn] at hround
  rw [rounded]
  generalize Rounding.round x = bounded at hround
  induction bounded using WithBot.recBotCoe with
  | bot => exact nofun
  | coe bounded =>
    induction bounded using WithTop.recTopCoe with
    | top => exact nofun
    | coe y =>
      have hy := WithTop.coe_le_coe.1 (WithBot.coe_le_coe.1 hround)
      intro hzero
      obtain rfl := Rounded.finite.inj hzero
      exact absurd hy (by norm_num)

/-- An angle that is not infinite in degrees, and no more than a turn, has a cosine and a sine. -/
theorem exists_onCircle (f : K → K) {x : K} (h0 : 0 ≤ x) (h360 : x ≤ 360) :
    ∃ v, (finite x).onCircle f = .ok v := by
  have hlow : 0 ≤ x * Rounding.degree := mul_nonneg h0 LawfulRounding.degree_nonneg
  have hhigh : x * Rounding.degree ≤ 360 :=
    (mul_le_of_le_one_right h0 LawfulRounding.degree_le_one).trans h360
  obtain ⟨y, hy, -⟩ := exists_rounded hlow hhigh
  refine ⟨rounded (f y), ?_⟩
  simp only [onCircle, mul, hy]

end Rounded

/-! ### Headings -/

namespace Quantity

open Rounded

variable [IsStrictOrderedRing K] [FloorRing K] [Rounding K] [LawfulRounding K]

/-- An angle below zero is moved up by a full turn. -/
def lifted (full r : Rounded K) : Rounded K := if r.lt (finite 0) then r.add full else r

omit [Rounding K] in
/-- A full turn, or more, is none. -/
def unlessFull (full r : Rounded K) : Rounded K := if full.lt r ∨ r = full then finite 0 else r

omit [IsStrictOrderedRing K] [LawfulRounding K] in
theorem pure_unlessFull (r : Rounded K) : (do
    if ← Scalar.le (real (finite 360)) (real r) then pure (real (finite 0)) else pure (real r)) =
      Except.ok (ε := Fault) (real (unlessFull (finite 360) r)) := by
  have hle : Scalar.le (real (finite 360)) (real r) =
      Except.ok (decide ((finite 360).lt r ∨ r = finite 360)) := by
    show Except.ok ((finite 360).lt r || (decide (finite 360 = r) && decide (finite 360 ≠ nan))) = _
    simp only [ne_eq, reduceCtorEq, not_false_eq_true, decide_true, Bool.and_true, Bool.decide_or,
      Bool.decide_eq_true, @eq_comm _ (finite 360) r]
  rw [hle, Except.ok_bind, unlessFull]
  by_cases hfull : (finite 360).lt r ∨ r = finite 360
  · rw [if_pos (decide_eq_true hfull), if_pos hfull]; rfl
  · rw [if_neg (by simpa using hfull), if_neg hfull]; rfl

omit [IsStrictOrderedRing K] [LawfulRounding K] in
/-- The heading of an angle by its remainder. -/
theorem foldHeading_eq (v : Rounded K) :
    foldHeading (real v) = .ok (real (unlessFull (finite 360) (lifted (finite 360) (v.rem (finite 360))))) := by
  have h0 : (Scalar.real 0 : Quantity K) = real (finite 0) :=
    congrArg (real ∘ finite) Int.cast_zero
  have h360 : (Scalar.real 360 : Quantity K) = real (finite 360) :=
    congrArg (real ∘ finite) (by norm_num)
  have hreal : Scalar.toReal (real v) = Except.ok (real v) := rfl
  have hrem : Scalar.rem (real v) (real (finite 360)) = Except.ok (real (v.rem (finite 360))) := rfl
  have hlt (r : Rounded K) :
      Scalar.lt (real r) (real (finite 0)) = Except.ok (r.lt (finite 0)) := rfl
  rw [foldHeading, h0, h360, hreal, Except.ok_bind, hrem, Except.ok_bind, hlt, Except.ok_bind]
  generalize v.rem (finite 360) = r
  dsimp only
  by_cases hzero : r = finite 0
  · subst hzero
    have hlift : lifted (finite 360) (finite 0 : Rounded K) = finite 0 := by simp [lifted, lt]
    have hiszero : Scalar.isZero (real (finite 0 : Rounded K)) = true := decide_eq_true rfl
    rw [hlift, if_pos hiszero]
    exact pure_unlessFull _
  · have hiszero : Scalar.isZero (real r) = false := decide_eq_false hzero
    rw [if_neg (Bool.eq_false_iff.1 hiszero), lifted]
    by_cases hneg : r.lt (finite 0) = true
    · rw [if_pos hneg, if_pos hneg]
      exact pure_unlessFull _
    · rw [if_neg hneg, if_neg hneg]
      exact pure_unlessFull _

/-- **The heading of a real** lies between 0 and 360, and is not 360. -/
theorem foldHeading_finite (x : K) :
    ∃ h, foldHeading (real (finite x)) = .ok (real (finite h)) ∧ 0 ≤ h ∧ h < 360 := by
  have hfold := Exact.folded_eq_of_trunc x
  have hpos := folded_nonneg x
  have hlt := folded_lt x
  have hrem : (finite x).rem (finite 360) = finite (x - 360 * (Exact.trunc (x / 360) : K)) := by
    rw [rem, if_neg (by norm_num)]
  -- Moved up by a turn and rounded, a remainder may be a full turn, but it is never beyond one.
  have hlift : ∃ y, lifted (finite 360) ((finite x).rem (finite 360)) = finite y ∧
      0 ≤ y ∧ y ≤ 360 := by
    rw [hrem, lifted]
    generalize x - 360 * (Exact.trunc (x / 360) : K) = r at hfold
    by_cases hneg : r < 0
    · rw [if_pos hneg] at hfold
      have hlow : (finite r).lt (finite 0) = true := decide_eq_true hneg
      rw [if_pos hlow]
      exact exists_rounded (hfold ▸ hpos) (hfold ▸ hlt.le)
    · rw [if_neg hneg] at hfold
      rw [if_neg (by simpa [lt] using hneg)]
      exact ⟨r, rfl, hfold ▸ hpos, hfold ▸ hlt.le⟩
  obtain ⟨y, hy, hy0, hy360⟩ := hlift
  rw [foldHeading_eq, hy, unlessFull]
  by_cases hfull : y = 360
  · subst hfull
    exact ⟨0, by rw [if_pos (.inr rfl)], le_refl _, by norm_num⟩
  · refine ⟨y, ?_, hy0, lt_of_le_of_ne hy360 hfull⟩
    rw [if_neg]
    simp [lt, hy360, hfull]

omit [IsStrictOrderedRing K] [LawfulRounding K] in
/-- The heading of an infinity or a NaN is a NaN. -/
theorem foldHeading_not_finite {v : Rounded K} (h : v.isFinite = false) :
    foldHeading (real v) = .ok (real nan) := by
  have hrem : v.rem (finite 360) = nan := by
    cases v with
    | finite x => exact nomatch h
    | infinite negative => rfl
    | nan => rfl
  rw [foldHeading_eq, hrem]
  simp [lifted, unlessFull, lt]

omit [IsStrictOrderedRing K] [LawfulRounding K] in
theorem foldHeading_of_toReal {a : Quantity K} {v : Rounded K} (h : a.toReal = .ok v) :
    foldHeading a = foldHeading (real v) := by
  have ha : Scalar.toReal a = .ok (real v) := Except.bind_eq_ok_iff.2 ⟨v, h, rfl⟩
  have hv : Scalar.toReal (real v) = .ok (real v) := rfl
  rw [foldHeading, foldHeading, ha, hv]

/-- **What the heading of an angle is.**  It lies between 0 and 360 and is not 360 when the angle is
finite, and is a NaN when it is not. -/
theorem foldHeading_spec {a heading : Quantity K} (h : foldHeading a = .ok heading) :
    (Scalar.isFinite a = .ok true ∧ ∃ x, heading = real (finite x) ∧ 0 ≤ x ∧ x < 360) ∨
      (Scalar.isFinite a = .ok false ∧ heading = real nan) := by
  obtain ⟨w, hw, -⟩ := Except.bind_eq_ok_iff.1 h
  obtain ⟨v, hv, -⟩ := Except.bind_eq_ok_iff.1 hw
  have hfinite : Scalar.isFinite a = .ok v.isFinite := Except.bind_eq_ok_iff.2 ⟨v, hv, rfl⟩
  rw [foldHeading_of_toReal hv] at h
  cases hv' : v.isFinite with
  | true =>
    obtain ⟨x, rfl⟩ : ∃ x, v = finite x := by
      cases v with
      | finite x => exact ⟨x, rfl⟩
      | infinite negative => exact nomatch hv'
      | nan => exact nomatch hv'
    obtain ⟨y, hy, hy0, hy360⟩ := foldHeading_finite x
    exact .inl ⟨hfinite.trans (congrArg _ hv'), y, Except.ok.inj (h.symm.trans hy), hy0, hy360⟩
  | false =>
    exact .inr ⟨hfinite.trans (congrArg _ hv'),
      Except.ok.inj (h.symm.trans (foldHeading_not_finite hv'))⟩

end Quantity

/-! ### Quotients -/

namespace Quantity

open Rounded

variable [Rounding K]

/-- Something that can be divided by: neither the whole number zero nor a real that is zero. -/
def NonZero (a : Quantity K) : Prop := a ≠ whole 0 ∧ a.toReal ≠ .ok (finite 0)

omit [Field K] [LinearOrder K] in
theorem toReal_error {a : Quantity K} {e : Fault} (h : a.toReal = .error e) : e = .beyondReal := by
  cases a with
  | whole n =>
    rw [toReal] at h
    split at h
    · exact nomatch h
    · exact (Except.error.inj h).symm
  | real v => exact nomatch h

omit [Field K] [LinearOrder K] in
theorem lift_error {f : ℤ → ℤ → ℤ} {g : Rounded K → Rounded K → Rounded K} {a b : Quantity K}
    {e : Fault} (h : lift f g a b = .error e) : e = .beyondReal := by
  have hreals : (do return real (g (← a.toReal) (← b.toReal))) = Except.error e →
      e = .beyondReal := by
    cases ha : a.toReal with
    | error e' => exact fun h => Except.error.inj h ▸ toReal_error ha
    | ok x =>
      cases hb : b.toReal with
      | error e' => exact fun h => Except.error.inj h ▸ toReal_error hb
      | ok y => exact fun h => nomatch h
  cases a with
  | real v => exact hreals h
  | whole m =>
    cases b with
    | whole n => exact nomatch h
    | real w => exact hreals h

/-- **A quotient by something that is not zero** fails at most beyond the largest real. -/
theorem div_error {a b : Quantity K} {e : Fault} (hb : b.NonZero) (h : div a b = .error e) :
    e = .beyondReal ∨ e = .quotientBeyondReal := by
  have hreals : (do
      let x ← a.toReal
      let y ← b.toReal
      if y = finite 0 then .error .realDivisionByZero else return real (x.div y)) = Except.error e →
      e = .beyondReal ∨ e = .quotientBeyondReal := by
    cases ha : a.toReal with
    | error e' => exact fun h => .inl (Except.error.inj h ▸ toReal_error ha)
    | ok x =>
      cases hy : b.toReal with
      | error e' => exact fun h => .inl (Except.error.inj h ▸ toReal_error hy)
      | ok y =>
        have hne : y ≠ finite 0 := fun hzero => hb.2 (hy.trans (congrArg _ hzero))
        rw [Except.ok_bind, Except.ok_bind, if_neg hne]
        exact fun h => nomatch h
  cases a with
  | real v => exact hreals h
  | whole m =>
    cases b with
    | real w => exact hreals h
    | whole n =>
      have hne : n ≠ 0 := fun hzero => hb.1 (congrArg _ hzero)
      rw [div, if_neg hne] at h
      split at h
      · exact .inr (Except.error.inj h).symm
      · exact nomatch h

variable [LawfulRounding K]

theorem one_le_toReal {n : ℤ} (hn : 1 ≤ n) {v : Rounded K} (h : (whole n).toReal = .ok v) :
    ∃ x : K, v = finite x ∧ 1 ≤ x := by
  rw [toReal] at h
  split at h
  · rename_i x hx
    exact ⟨x, (Except.ok.inj h).symm, LawfulRounding.one_le_ofInt hn hx⟩
  · exact nomatch h

variable [IsStrictOrderedRing K]

/-- A whole number above zero can be divided by, before and after it is taken for a real. -/
theorem nonZero_whole {n : ℤ} (hn : 1 ≤ n) : (whole n : Quantity K).NonZero := by
  refine ⟨fun h => ?_, fun h => ?_⟩
  · have := Quantity.whole.inj h
    omega
  · obtain ⟨x, hx, hx1⟩ := one_le_toReal hn h
    obtain rfl := Rounded.finite.inj hx
    exact absurd hx1 (by norm_num)

variable [FloorRing K]

/-- A number of turns in degrees can be divided by. -/
theorem nonZero_turns {n : ℤ} (hn : 1 ≤ n) {d : Quantity K}
    (h : Scalar.mul (Scalar.real 360) (whole n) = .ok d) : d.NonZero := by
  obtain ⟨v, hv, h⟩ := Except.bind_eq_ok_iff.1 h
  obtain rfl := Except.ok.inj h
  obtain ⟨x, rfl, hx⟩ := one_le_toReal hn hv
  refine ⟨nofun, fun h => ?_⟩
  have hproduct : (360 : K) ≤ ((360 : ℤ) : K) * x := by
    push_cast
    linarith
  exact rounded_ne_zero hproduct (Except.ok.inj h)

end Quantity

end TurtleCanvas
