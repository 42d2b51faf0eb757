import TurtleCanvas.Proofs.Argument.Near

/-!
# On which side of a bound an argument lies

A difference of doubles is rounded, but never to zero unless it is zero: every double is a multiple
of the least one.  So the sign of a difference is exact, and subtracting a bound is as good as
comparing with it.  A whole number that is no double is far from every bound of a moderate size, and
rounding it to one does not move it to the other side.

* `Binary64.Representable.sub_le_of_lt` says that doubles are not nearer to each other than the
  least one, unless they are equal;
* `Argument.Denotes.exists_sub_bound` says that the difference of a number and a bound is negative
  just when the number is below, and the other way round;
* `Argument.Denotes.exists_sub_self` says that a number less itself is zero.
-/

namespace TurtleCanvas

namespace Binary64

variable {p q r : ℚ} {x : Float}

/-- Every double is a multiple of the least one. -/
theorem Representable.exists_units (h : Representable r) : ∃ k : ℤ, r = k * 2 ^ (-1074 : ℤ) := by
  obtain ⟨n, e, -, he, -, rfl⟩ := h
  refine ⟨n * 2 ^ (e + 1074).toNat, ?_⟩
  rw [Int.cast_mul, Int.cast_pow, Int.cast_ofNat, mul_assoc, ← zpow_natCast,
    Int.toNat_of_nonneg (by omega), ← zpow_add₀ two_ne_zero, add_neg_cancel_right]

theorem Representable.sub_le_of_lt (hp : Representable p) (hq : Representable q) (h : p < q) :
    p - q ≤ -2 ^ (-1074 : ℤ) := by
  obtain ⟨j, rfl⟩ := hp.exists_units
  obtain ⟨k, rfl⟩ := hq.exists_units
  have hunit : (0 : ℚ) < 2 ^ (-1074 : ℤ) := by positivity
  have hlt : j < k := by exact_mod_cast lt_of_mul_lt_mul_right h hunit.le
  have hle : (j : ℚ) + 1 ≤ k := by exact_mod_cast hlt
  have hscaled := mul_le_mul_of_nonneg_right hle hunit.le
  linarith

theorem representable_least : Representable (2 ^ (-1074 : ℤ)) :=
  ⟨1, -1074, by decide, by decide, by decide, by rw [Int.cast_one, one_mul]⟩

theorem lt_zero_of_atLeast (h : AtLeast 0 x) : (Number.real x).lt (.int 0) = false := by
  rcases h with ⟨hfinite, hle⟩ | ⟨hinf, hnan, hsign⟩
  · rw [Number.Denotes.lt_int_eq (n := .real x) ⟨hfinite, rfl⟩, Int.cast_zero,
      decide_eq_false_iff_not]
    exact not_lt.2 hle
  · have hpositive : isNegative x = false := by simpa [sign] using hsign
    simp [Number.lt, Number.compare, compareInt, hinf, hnan, hpositive]

theorem lt_zero_of_atMost (h : AtMost r x) (hr : r < 0) : (Number.real x).lt (.int 0) = true := by
  rcases h with ⟨hfinite, hle⟩ | ⟨hinf, hnan, hsign⟩
  · rw [Number.Denotes.lt_int_eq (n := .real x) ⟨hfinite, rfl⟩, Int.cast_zero, decide_eq_true_eq]
    exact hle.trans_lt hr
  · have hnegative : isNegative x = true := by simpa [sign] using hsign
    simp [Number.lt, Number.compare, compareInt, hinf, hnan, hnegative]

/-- **The sign of a difference of doubles is exact.** -/
theorem Beside.lt_zero_eq (h : Beside (p - q) x) (hp : Representable p) (hq : Representable q) :
    (Number.real x).lt (.int 0) = decide (p < q) := by
  have hleast : (0 : ℚ) < 2 ^ (-1074 : ℤ) := by positivity
  rcases lt_or_ge p q with hlt | hge
  · rw [decide_eq_true hlt]
    exact lt_zero_of_atMost
      (h.atMost _ representable_least.neg (hp.sub_le_of_lt hq hlt)) (neg_neg_of_pos hleast)
  · rw [decide_eq_false (not_lt.2 hge)]
    exact lt_zero_of_atLeast (h.atLeast 0 representable_zero (sub_nonneg.2 hge))

end Binary64

open Binary64

namespace Number

variable {m n : Number} {p q r : ℚ}

theorem Denotes.representable_of_abs_lt (h : n.Denotes q) (hq : |q| < 2 ^ 53) :
    Representable q := by
  cases n with
  | int k =>
    obtain rfl : (k : ℚ) = q := h
    rw [← Int.cast_abs, Int.abs_eq_natAbs] at hq
    exact representable_int (by exact_mod_cast hq)
  | real x => exact h.2 ▸ representable_value x h.1

theorem Denotes.hasValue (h : n.Denotes q) (hq : |q| < 2 ^ 53) : n.HasValue q := by
  cases n with
  | int k => exact ⟨h, h.representable_of_abs_lt hq⟩
  | real x => exact h

/-- A number does not pass a bound of a moderate size on its way to a double. -/
theorem Denotes.value_lt_iff (h : n.Denotes q) {x : Float} (hx : n.toReal = .ok x)
    (hr : |r| < 2 ^ 53) : (value x < r ↔ q < r) ∧ (r < value x ↔ r < q) := by
  obtain ⟨hfinite, hbeside⟩ := h.beside hx
  have hbound : Representable (2 ^ 53) := by
    have := representable_units (n := 2 ^ 53) (e := 0) (by decide) (by decide) (by decide)
    rwa [zpow_zero, mul_one, Int.cast_pow, Int.cast_ofNat] at this
  obtain ⟨hlow, hhigh⟩ := abs_lt.1 hr
  rcases lt_or_ge |q| (2 ^ 53) with hq | hq
  · rw [(hbeside.value_eq (h.representable_of_abs_lt hq)).2]
    exact ⟨Iff.rfl, Iff.rfl⟩
  · -- The number is beyond the greatest bound, and so is the double.
    rcases le_abs.1 hq with hq | hq
    · rcases hbeside.atLeast _ hbound hq with ⟨-, hle⟩ | ⟨hinf, -⟩
      · constructor <;> constructor <;> intro <;> linarith
      · exact absurd (hfinite.symm.trans hinf) (by decide)
    · rcases hbeside.atMost _ hbound.neg (by linarith) with ⟨-, hle⟩ | ⟨hinf, -⟩
      · constructor <;> constructor <;> intro <;> linarith
      · exact absurd (hfinite.symm.trans hinf) (by decide)

/-- A difference is one of whole numbers or one of doubles. -/
theorem sub_cases {x y : Float} (hx : m.toReal = .ok x) (hy : n.toReal = .ok y) :
    (∃ j k : ℤ, m = .int j ∧ n = .int k ∧ sub m n = .ok (.int (j - k))) ∨
      sub m n = .ok (.real (x - y)) := by
  cases n with
  | real y' =>
    obtain rfl := Except.ok.inj hy
    exact .inr (exists_lift_real hx y')
  | int k =>
    cases m with
    | real x' =>
      obtain rfl := Except.ok.inj hx
      exact .inr (exists_real_lift x' hy)
    | int j => exact .inl ⟨j, k, rfl, rfl, rfl⟩

theorem int_sub_lt_zero (j k : ℤ) :
    (int (j - k)).lt (.int 0) = decide ((j : ℚ) < k) := by
  have hdenotes : (int (j - k)).Denotes ((j - k : ℤ) : ℚ) := rfl
  rw [hdenotes.lt_int_eq, Int.cast_sub, Int.cast_zero, decide_eq_decide]
  exact sub_neg

/-- **Subtracting a bound is as good as comparing with it.** -/
theorem Denotes.exists_sub_bound (hm : m.Denotes p) {x : Float} (hx : m.toReal = .ok x)
    (hn : n.HasValue r) (hr : |r| < 2 ^ 53) :
    (∃ k, sub m n = .ok k ∧ k.lt (.int 0) = decide (p < r)) ∧
      ∃ k, sub n m = .ok k ∧ k.lt (.int 0) = decide (r < p) := by
  obtain ⟨y, hy, hyfinite, rfl⟩ := hn.exists_toReal
  obtain ⟨hxfinite, -⟩ := hm.beside hx
  obtain ⟨hbelow, habove⟩ := hm.value_lt_iff hx hr
  have hx' := representable_value x hxfinite
  have hy' := representable_value y hyfinite
  constructor
  · rcases sub_cases hx hy with ⟨j, k, rfl, rfl, hsub⟩ | hsub
    · exact ⟨_, hsub, by rw [int_sub_lt_zero, ← hm, ← hn.1]⟩
    · refine ⟨_, hsub, ?_⟩
      rw [(beside_sub hxfinite hyfinite).lt_zero_eq hx' hy', decide_eq_decide]
      exact hbelow
  · rcases sub_cases hy hx with ⟨k, j, rfl, rfl, hsub⟩ | hsub
    · exact ⟨_, hsub, by rw [int_sub_lt_zero, ← hm, ← hn.1]⟩
    · refine ⟨_, hsub, ?_⟩
      rw [(beside_sub hyfinite hxfinite).lt_zero_eq hy' hx', decide_eq_decide]
      exact habove

theorem Denotes.exists_sub_self (h : n.Denotes q) : ∃ k, sub n n = .ok k ∧ k.HasValue 0 := by
  cases n with
  | int j => exact ⟨.int (j - j), rfl, by rw [sub_self, Int.cast_zero], representable_zero⟩
  | real x =>
    have hbeside := beside_sub h.1 h.1
    rw [sub_self] at hbeside
    exact ⟨_, exists_lift_real rfl x, hbeside.value_eq representable_zero⟩

end Number

namespace Argument

variable {a b : Argument} {p q r : ℚ}

theorem Denotes.hasValue (h : a.Denotes q) (hq : |q| < 2 ^ 53) : a.HasValue q := by
  obtain ⟨n, hn, hnq⟩ := h
  exact ⟨n, hn, hnq.hasValue hq⟩

theorem lt_zero_number (k : Number) :
    Scalar.lt (.number k : Argument) (Scalar.int 0) = .ok (k.lt (.int 0)) := rfl

theorem Denotes.exists_sub_bound (ha : a.Denotes p) (hfits : a.FitsReal) (hb : b.HasValue r)
    (hr : |r| < 2 ^ 53) :
    (∃ c, Scalar.sub a b = .ok c ∧ Scalar.lt c (Scalar.int 0) = .ok (decide (p < r))) ∧
      ∃ c, Scalar.sub b a = .ok c ∧ Scalar.lt c (Scalar.int 0) = .ok (decide (r < p)) := by
  obtain ⟨m, hm, hmp⟩ := ha
  obtain ⟨m', x, hm', hx⟩ := hfits
  obtain rfl := Option.some.inj (hm.symm.trans hm')
  obtain ⟨n, hn, hnr⟩ := hb
  obtain ⟨⟨j, hj, hbelow⟩, k, hk, habove⟩ := hmp.exists_sub_bound hx hnr hr
  constructor
  · exact ⟨.number j, Except.bind_eq_ok_iff.2 ⟨m, toNumber_of_number? hm,
      Except.bind_eq_ok_iff.2 ⟨n, toNumber_of_number? hn, Except.bind_eq_ok_iff.2 ⟨j, hj, rfl⟩⟩⟩,
      by rw [lt_zero_number, hbelow]⟩
  · exact ⟨.number k, Except.bind_eq_ok_iff.2 ⟨n, toNumber_of_number? hn,
      Except.bind_eq_ok_iff.2 ⟨m, toNumber_of_number? hm, Except.bind_eq_ok_iff.2 ⟨k, hk, rfl⟩⟩⟩,
      by rw [lt_zero_number, habove]⟩

theorem Denotes.exists_sub_self (h : a.Denotes q) : ∃ c, Scalar.sub a a = .ok c ∧ c.HasValue 0 := by
  obtain ⟨n, hn, hnq⟩ := h
  obtain ⟨k, hk, hk0⟩ := hnq.exists_sub_self
  exact ⟨.number k, Except.bind_eq_ok_iff.2 ⟨n, toNumber_of_number? hn,
    Except.bind_eq_ok_iff.2 ⟨n, toNumber_of_number? hn, Except.bind_eq_ok_iff.2 ⟨k, hk, rfl⟩⟩⟩,
    k, rfl, hk0⟩

end Argument

end TurtleCanvas
