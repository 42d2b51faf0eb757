import Mathlib.Algebra.Order.Field.Power
import TurtleCanvas.Proofs.Binary64.Bits

/-!
# Doubles beside a number

The result of an operation on doubles is a rounded number.  Of the rounding no more is used than
that it never passes a double: the result is at least every double that the number is at least, and
at most every double that it is at most.  So a number that is a double is not rounded at all, and
one between two doubles stays between them.

* `Binary64.Beside` says that a double is a rounded number;
* `Binary64.Rounds` says the same of a significand and an exponent without bounds;
* `Binary64.Holds` says that a double holds a significand and an exponent, and `Holds.beside` that
  it is then beside the number that they are rounded from;
* `Beside.value_eq` says that a number that is a double is not rounded, and `Beside.abs_value_le` that
  a rounded number is within the bounds of the number.
-/

namespace TurtleCanvas

namespace Binary64

open Float.Model Float.Model.UnpackedFloat

/-- A rational number that is the value of a double. -/
def Representable (r : ℚ) : Prop :=
  ∃ (n : ℤ) (e : ℤ), n.natAbs < 2 ^ 53 ∧ -1074 ≤ e ∧ e ≤ 971 ∧ r = n * 2 ^ e

/-- A double is at least a rational number, as positive infinity is. -/
def AtLeast (r : ℚ) (x : Float) : Prop :=
  isFinite x = true ∧ r ≤ value x ∨ isFinite x = false ∧ isNaN x = false ∧ sign x = .positive

/-- A double is at most a rational number, as negative infinity is. -/
def AtMost (r : ℚ) (x : Float) : Prop :=
  isFinite x = true ∧ value x ≤ r ∨ isFinite x = false ∧ isNaN x = false ∧ sign x = .negative

/-- A double is a rounded rational number: it lies on no other side of a double than the number. -/
structure Beside (q : ℚ) (x : Float) : Prop where
  atLeast : ∀ r, Representable r → r ≤ q → AtLeast r x
  atMost : ∀ r, Representable r → q ≤ r → AtMost r x

/-- `m` units of `2 ^ e` are a rounded number: the number has 53 bits in these units, unless they
are the least, and is cut off to one of the two multiples next to it. -/
structure Rounds (q : ℚ) (m : ℕ) (e : ℤ) : Prop where
  least : -1074 ≤ e
  lt : q < 2 ^ 53 * 2 ^ e
  full : e = -1074 ∨ 2 ^ 52 * 2 ^ e ≤ q
  le_of_le : ∀ k : ℕ, k * 2 ^ e ≤ q → k ≤ m
  ge_of_ge : ∀ k : ℕ, q ≤ k * 2 ^ e → m ≤ k

/-- A number with a sign. -/
def signed (s : Sign) (q : ℚ) : ℚ :=
  match s with
  | .negative => -q
  | .positive => q

theorem apply_eq (s : Sign) (m : ℕ) (u : ℚ) : ((s.apply m : ℤ) : ℚ) * u = signed s (m * u) := by
  cases s with
  | negative => show ((-(m : ℤ) : ℤ) : ℚ) * u = -(m * u); push_cast; ring
  | positive => exact_mod_cast rfl

/-- `m` units of `2 ^ e` are in the range of doubles. -/
def InRange (m : ℕ) (e : ℤ) : Prop := e < 971 ∨ e = 971 ∧ m < 2 ^ 53

/-- A double is `m` units of `2 ^ e` with a sign, or the infinity of that sign if these are out of
the range of doubles. -/
structure Holds (x : Float) (s : Sign) (m : ℕ) (e : ℤ) : Prop where
  sign : Binary64.sign x = s
  inRange : InRange m e → isFinite x = true ∧ value x = signed s (m * 2 ^ e)
  beyond : ¬ InRange m e → isFinite x = false ∧ isNaN x = false

theorem two_pow_mul (u : ℚ) : ((2 ^ 53 : ℕ) : ℚ) * u = (2 ^ 52 : ℕ) * (2 * u) := by
  push_cast
  ring

theorem two_mul_zpow_le {e f : ℤ} (h : f < e) : 2 * (2 : ℚ) ^ f ≤ 2 ^ e := by
  rw [mul_comm, ← zpow_add_one₀ two_ne_zero]
  exact zpow_le_zpow_right₀ one_le_two (by omega)

theorem exists_mul_zpow_eq {e f : ℤ} (h : e ≤ f) (k : ℕ) :
    ∃ n : ℕ, (k : ℚ) * 2 ^ f = n * 2 ^ e := by
  refine ⟨k * 2 ^ (f - e).toNat, ?_⟩
  push_cast
  rw [mul_assoc, ← zpow_natCast, Int.toNat_of_nonneg (by omega), ← zpow_add₀ two_ne_zero,
    sub_add_cancel]

namespace Rounds

variable {q : ℚ} {m : ℕ} {e : ℤ}

theorem le_two_pow (h : Rounds q m e) : m ≤ 2 ^ 53 :=
  h.ge_of_ge _ (by exact_mod_cast h.lt.le)

theorem le_or_least (h : Rounds q m e) : 2 ^ 52 ≤ m ∨ e = -1074 := by
  rcases h.full with he | hq
  · exact .inr he
  · exact .inl (h.le_of_le _ (by exact_mod_cast hq))

/-- A number with no more bits than a double stays below a rounded number that it is below. -/
theorem le_of_scaled_le (h : Rounds q m e) {k : ℕ} {f : ℤ} (hk : k < 2 ^ 53) (hf : -1074 ≤ f)
    (hle : (k : ℚ) * 2 ^ f ≤ q) : (k : ℚ) * 2 ^ f ≤ m * 2 ^ e := by
  rcases le_or_gt e f with hef | hef
  · obtain ⟨n, hn⟩ := exists_mul_zpow_eq hef k
    rw [hn] at hle ⊢
    have hm : (n : ℚ) ≤ m := by exact_mod_cast h.le_of_le n hle
    gcongr
  · -- In smaller units the number is less than `2 ^ 52` units of `2 ^ e`.
    have hm : ((2 ^ 52 : ℕ) : ℚ) ≤ m := by exact_mod_cast h.le_or_least.resolve_right (by omega)
    have hk' : (k : ℚ) ≤ (2 ^ 53 : ℕ) := by exact_mod_cast hk.le
    calc (k : ℚ) * 2 ^ f ≤ (2 ^ 53 : ℕ) * 2 ^ f := by gcongr
      _ = (2 ^ 52 : ℕ) * (2 * 2 ^ f) := two_pow_mul _
      _ ≤ (2 ^ 52 : ℕ) * 2 ^ e := by gcongr; exact two_mul_zpow_le hef
      _ ≤ m * 2 ^ e := by gcongr

/-- A number with no more bits than a double stays above a rounded number that it is above. -/
theorem scaled_le_of_le (h : Rounds q m e) {k : ℕ} {f : ℤ} (hk : k < 2 ^ 53) (hf : -1074 ≤ f)
    (hle : q ≤ (k : ℚ) * 2 ^ f) : (m : ℚ) * 2 ^ e ≤ k * 2 ^ f := by
  rcases le_or_gt e f with hef | hef
  · obtain ⟨n, hn⟩ := exists_mul_zpow_eq hef k
    rw [hn] at hle ⊢
    have hm : (m : ℚ) ≤ n := by exact_mod_cast h.ge_of_ge n hle
    gcongr
  · have hq : (2 ^ 52 : ℕ) * 2 ^ e ≤ q := by exact_mod_cast h.full.resolve_left (by omega)
    have hk' : (k : ℚ) < (2 ^ 53 : ℕ) := by exact_mod_cast hk
    have hlt : (k : ℚ) * 2 ^ f < (2 ^ 52 : ℕ) * 2 ^ e :=
      calc (k : ℚ) * 2 ^ f < (2 ^ 53 : ℕ) * 2 ^ f := by gcongr
        _ = (2 ^ 52 : ℕ) * (2 * 2 ^ f) := two_pow_mul _
        _ ≤ (2 ^ 52 : ℕ) * 2 ^ e := by gcongr; exact two_mul_zpow_le hef
    linarith

/-- A rounded number is out of the range of doubles only if the number is above all of them. -/
theorem inRange_of_le (h : Rounds q m e) {k : ℕ} {f : ℤ} (hk : k < 2 ^ 53) (hf : -1074 ≤ f)
    (hf' : f ≤ 971) (hle : q ≤ (k : ℚ) * 2 ^ f) : InRange m e := by
  by_contra hrange
  have hm : (m : ℚ) * 2 ^ e ≤ k * 2 ^ f := h.scaled_le_of_le hk hf hle
  have hk' : (k : ℚ) < (2 ^ 53 : ℕ) := by exact_mod_cast hk
  have hgreatest : (k : ℚ) * 2 ^ f < (2 ^ 53 : ℕ) * 2 ^ (971 : ℤ) :=
    calc (k : ℚ) * 2 ^ f < (2 ^ 53 : ℕ) * 2 ^ f := by gcongr
      _ ≤ (2 ^ 53 : ℕ) * 2 ^ (971 : ℤ) := by
        gcongr
        exact one_le_two
  have hbeyond : ((2 ^ 53 : ℕ) : ℚ) * 2 ^ (971 : ℤ) ≤ m * 2 ^ e := by
    rcases lt_trichotomy e 971 with he | rfl | he
    · exact absurd (.inl he) hrange
    · have hm53 : 2 ^ 53 ≤ m := not_lt.1 fun hlt => hrange (.inr ⟨rfl, hlt⟩)
      have : ((2 ^ 53 : ℕ) : ℚ) ≤ m := by exact_mod_cast hm53
      gcongr
    · have hm52 : ((2 ^ 52 : ℕ) : ℚ) ≤ m := by
        exact_mod_cast h.le_or_least.resolve_right (by omega)
      calc ((2 ^ 53 : ℕ) : ℚ) * 2 ^ (971 : ℤ) = (2 ^ 52 : ℕ) * (2 * 2 ^ (971 : ℤ)) :=
            two_pow_mul _
        _ ≤ (2 ^ 52 : ℕ) * 2 ^ e := by gcongr; exact two_mul_zpow_le he
        _ ≤ m * 2 ^ e := by gcongr
  linarith

theorem le_of_representable (h : Rounds q m e) {r : ℚ} (hr : Representable r) (hle : r ≤ q) :
    r ≤ m * 2 ^ e := by
  obtain ⟨n, f, hn, hf, -, rfl⟩ := hr
  rcases le_total n 0 with hsign | hsign
  · have hn : (n : ℚ) ≤ 0 := by exact_mod_cast hsign
    calc (n : ℚ) * 2 ^ f ≤ 0 := mul_nonpos_of_nonpos_of_nonneg hn (by positivity)
      _ ≤ m * 2 ^ e := by positivity
  · lift n to ℕ using hsign
    exact_mod_cast h.le_of_scaled_le hn hf hle

theorem representable_le (h : Rounds q m e) (hq : 0 ≤ q) {r : ℚ} (hr : Representable r)
    (hle : q ≤ r) : InRange m e ∧ m * 2 ^ e ≤ r := by
  obtain ⟨n, f, hn, hf, hf', rfl⟩ := hr
  have hsign : 0 ≤ n := by
    by_contra hneg
    have : (n : ℚ) < 0 := by exact_mod_cast not_le.1 hneg
    have : (n : ℚ) * 2 ^ f < 0 := mul_neg_of_neg_of_pos this (by positivity)
    linarith
  lift n to ℕ using hsign
  exact ⟨h.inRange_of_le hn hf hf' (by exact_mod_cast hle),
    by exact_mod_cast h.scaled_le_of_le hn hf hle⟩

end Rounds

theorem Representable.neg {r : ℚ} (h : Representable r) : Representable (-r) := by
  obtain ⟨n, e, hn, he, he', rfl⟩ := h
  exact ⟨-n, e, by rwa [Int.natAbs_neg], he, he', by push_cast; ring⟩

theorem representable_int {n : ℤ} (h : n.natAbs < 2 ^ 53) : Representable n :=
  ⟨n, 0, h, by decide, by decide, by rw [zpow_zero, mul_one]⟩

theorem representable_zero : Representable 0 := by
  have := representable_int (n := 0) (by decide)
  rwa [Int.cast_zero] at this

theorem representable_one : Representable 1 := by
  have := representable_int (n := 1) (by decide)
  rwa [Int.cast_one] at this

theorem representable_half {n : ℤ} (h : n.natAbs < 2 ^ 53) : Representable (n / 2) :=
  ⟨n, -1, h, by decide, by decide, by rw [zpow_neg_one, div_eq_mul_inv]⟩

theorem representable_abs {r : ℚ} (h : Representable r) : Representable |r| := by
  rcases abs_choice r with habs | habs
  · rwa [habs]
  · rw [habs]; exact h.neg

/-- **A double that holds a rounded number is beside it.** -/
theorem Holds.beside {x : Float} {s : Sign} {q : ℚ} {m : ℕ} {e : ℤ} (hx : Holds x s m e)
    (hr : Rounds q m e) (hq : 0 ≤ q) : Beside (signed s q) x := by
  by_cases hrange : InRange m e
  · obtain ⟨hfinite, hvalue⟩ := hx.inRange hrange
    cases s with
    | positive =>
      refine ⟨fun r h hle => .inl ⟨hfinite, ?_⟩, fun r h hle => .inl ⟨hfinite, ?_⟩⟩
      · rw [hvalue]; exact hr.le_of_representable h hle
      · rw [hvalue]; exact (hr.representable_le hq h hle).2
    | negative =>
      refine ⟨fun r h hle => .inl ⟨hfinite, ?_⟩, fun r h hle => .inl ⟨hfinite, ?_⟩⟩
      · rw [hvalue]; exact le_neg_of_le_neg (hr.representable_le hq h.neg (le_neg_of_le_neg hle)).2
      · rw [hvalue]; exact neg_le_of_neg_le (hr.le_of_representable h.neg (neg_le_of_neg_le hle))
  · obtain ⟨hfinite, hnan⟩ := hx.beyond hrange
    cases s with
    | positive =>
      exact ⟨fun r h hle => .inr ⟨hfinite, hnan, hx.sign⟩,
        fun r h hle => absurd (hr.representable_le hq h hle).1 hrange⟩
    | negative =>
      exact ⟨fun r h hle =>
          absurd (hr.representable_le hq h.neg (le_neg_of_le_neg hle)).1 hrange,
        fun r h hle => .inr ⟨hfinite, hnan, hx.sign⟩⟩

/-! ### Doubles that hold a rounded number -/

theorem packed_infinity (s : Sign) : sign (packed (.infinity s)) = s ∧
    isFinite (packed (.infinity s)) = false ∧ isNaN (packed (.infinity s)) = false := by
  obtain ⟨hs, hexp, hfrac⟩ := fields_of_toBits (s := s) (f := 2047) (g := 0) (by decide)
    (by decide) (toBits_packed_infinity s)
  exact ⟨hs, by simp [isFinite, hexp], by simp [isNaN, hfrac]⟩

theorem holds_of_toBits {x : Float} {s : Sign} {m : ℕ} {e : ℤ} (hle : m ≤ 2 ^ 53)
    (hleast : -1074 ≤ e) (hfull : 2 ^ 52 ≤ m ∨ e = -1074) (hrange : InRange m e)
    (h : x.toBits.toNat = signBit s + (e + 1074).toNat * 2 ^ 52 + m) : Holds x s m e := by
  obtain ⟨hs, hfinite, hvalue⟩ := value_of_toBits hle hleast hfull hrange h
  exact ⟨hs, fun _ => ⟨hfinite, hvalue.trans (apply_eq s m _)⟩, fun hn => absurd hrange hn⟩

theorem holds_infinity {s : Sign} {m : ℕ} {e : ℤ} (hrange : ¬ InRange m e) :
    Holds (packed (.infinity s)) s m e := by
  obtain ⟨hs, hfinite, hnan⟩ := packed_infinity s
  exact ⟨hs, fun h => absurd h hrange, fun _ => ⟨hfinite, hnan⟩⟩

/-- The parts of the double that holds `m` units of `2 ^ e`, one of which may be carried. -/
def held (s : Sign) (m : ℕ) (e : ℤ) : UnpackedFloat :=
  if h : m = 0 then .zero s
  else if m < 2 ^ 53 then .finite s m e (Nat.pos_of_ne_zero h)
  else .finite s (2 ^ 52) (e + 1) (by decide)

theorem holds_held (s : Sign) {m : ℕ} {e : ℤ} (hle : m ≤ 2 ^ 53) (hleast : -1074 ≤ e)
    (hfull : 2 ^ 52 ≤ m ∨ e = -1074) : Holds (packed (held s m e)) s m e := by
  by_cases hzero : m = 0
  · subst hzero
    obtain rfl : e = -1074 := hfull.resolve_left (by decide)
    rw [held, dif_pos rfl]
    exact holds_of_toBits hle hleast hfull (.inl (by decide)) (toBits_packed_zero s)
  by_cases hlt : m < 2 ^ 53
  · rw [held, dif_neg hzero, if_pos hlt]
    rcases le_or_gt e 971 with he | he
    · have hrange : InRange m e := he.lt_or_eq.imp_right fun he => ⟨he, hlt⟩
      exact holds_of_toBits hle hleast hfull hrange
        (toBits_packed_finite s (Nat.pos_of_ne_zero hzero) hlt hleast he hfull)
    · rw [packed_finite_of_lt s _ he]
      exact holds_infinity (by rintro (h | ⟨h, -⟩) <;> omega)
  · obtain rfl : m = 2 ^ 53 := by omega
    rw [held, dif_neg hzero, if_neg hlt]
    rcases le_or_gt (e + 1) 971 with he | he
    · refine holds_of_toBits hle hleast hfull (.inl (by omega)) ?_
      rw [toBits_packed_finite s _ (by decide) (by omega) he (.inl le_rfl)]
      omega
    · rw [packed_finite_of_lt s _ he]
      exact holds_infinity (by rintro (h | ⟨-, h⟩) <;> omega)

/-! ### What being beside a number says -/

theorem representable_value (x : Float) (h : isFinite x = true) : Representable (value x) :=
  ⟨significand x, exponent x, by
    rw [significand_eq]
    have := magnitude_lt x
    cases sign x with
    | negative => show (-(magnitude x : ℤ)).natAbs < _; omega
    | positive => exact this, exponent_ge x, exponent_le h, rfl⟩

theorem isFinite_of_atLeast_of_atMost {r r' : ℚ} {x : Float} (h : AtLeast r x)
    (h' : AtMost r' x) : isFinite x = true ∧ r ≤ value x ∧ value x ≤ r' := by
  rcases h with ⟨hfinite, hle⟩ | ⟨hinf, -, hpos⟩
  · rcases h' with ⟨-, hle'⟩ | ⟨hinf, -, -⟩
    · exact ⟨hfinite, hle, hle'⟩
    · exact absurd (hfinite.symm.trans hinf) (by decide)
  · rcases h' with ⟨hfinite, -⟩ | ⟨-, -, hneg⟩
    · exact absurd (hfinite.symm.trans hinf) (by decide)
    · exact nomatch hpos.symm.trans hneg

/-- A number that is the value of a double is not rounded. -/
theorem Beside.value_eq {q : ℚ} {x : Float} (h : Beside q x) (hq : Representable q) :
    isFinite x = true ∧ value x = q := by
  obtain ⟨hfinite, hle, hge⟩ :=
    isFinite_of_atLeast_of_atMost (h.atLeast q hq le_rfl) (h.atMost q hq le_rfl)
  exact ⟨hfinite, le_antisymm hge hle⟩

/-- A rounded number is within the bounds of the number. -/
theorem Beside.abs_value_le {b q : ℚ} {x : Float} (h : Beside q x) (hb : Representable b) (hq : |q| ≤ b) :
    isFinite x = true ∧ |value x| ≤ b := by
  obtain ⟨hlow, hhigh⟩ := abs_le.1 hq
  obtain ⟨hfinite, hlow, hhigh⟩ :=
    isFinite_of_atLeast_of_atMost (h.atLeast _ hb.neg hlow) (h.atMost _ hb hhigh)
  exact ⟨hfinite, abs_le.2 ⟨hlow, hhigh⟩⟩

end Binary64
end TurtleCanvas
