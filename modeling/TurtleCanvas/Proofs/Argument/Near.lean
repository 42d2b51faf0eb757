import TurtleCanvas.Proofs.Argument.Value
import TurtleCanvas.Proofs.Binary64.Error

/-!
# Arguments near to a number

Where the result of an operation on arguments with exact values is not a double, it is near to one:
it is rounded once, by no more than the bound of the result allows.

* `Argument.HasValue.exists_sub_near` says how near a difference is, and
  `Argument.HasValue.exists_div` that a quotient is rounded once;
* `Argument.HasValue.isZero_eq`, `Argument.HasValue.lt_int_eq` and
  `Argument.HasValue.round_eq_roundHalfEven` say that arguments are compared and rounded by their
  exact values.
-/

namespace TurtleCanvas

open Binary64

namespace Binary64

/-- The quotient of two whole numbers by their signs and magnitudes. -/
theorem signed_div (m n : ℤ) :
    signed (signIf (decide (m < 0) != decide (n < 0))) (m.natAbs / n.natAbs) = m / n := by
  rw [Nat.cast_natAbs, Nat.cast_natAbs, Int.cast_abs, Int.cast_abs]
  have hm : (m : ℚ) < 0 ↔ m < 0 := Int.cast_lt_zero
  have hn : (n : ℚ) < 0 ↔ n < 0 := Int.cast_lt_zero
  by_cases hm0 : m < 0
  · by_cases hn0 : n < 0
    · simp [signIf, signed, hm0, hn0, abs_of_neg (hm.2 hm0), abs_of_neg (hn.2 hn0)]
    · simp [signIf, signed, hm0, hn0, abs_of_neg (hm.2 hm0),
        abs_of_nonneg (not_lt.1 (mt hn.1 hn0)), neg_div]
  · by_cases hn0 : n < 0
    · simp [signIf, signed, hm0, hn0, abs_of_nonneg (not_lt.1 (mt hm.1 hm0)),
        abs_of_neg (hn.2 hn0), div_neg]
    · simp [signIf, signed, hm0, hn0, abs_of_nonneg (not_lt.1 (mt hm.1 hm0)),
        abs_of_nonneg (not_lt.1 (mt hn.1 hn0))]

end Binary64

namespace Number

variable {m n : Number} {p q : ℚ}

/-- **A quotient is rounded once.** -/
theorem HasValue.exists_div (hm : m.HasValue p) (hn : n.HasValue q) (hq : q ≠ 0) :
    ∃ z, div m n = .ok (.real z) ∧ Beside (p / q) z := by
  obtain ⟨x, hx, hxfinite, rfl⟩ := hm.exists_toReal
  obtain ⟨y, hy, hyfinite, rfl⟩ := hn.exists_toReal
  by_cases hreal : (∃ x', m = .real x') ∨ ∃ y', n = .real y'
  · have hdoubles : m = .real x ∨ n = .real y := by
      rcases hreal with ⟨x', rfl⟩ | ⟨y', rfl⟩
      · exact .inl (congrArg _ (Except.ok.inj hx))
      · exact .inr (congrArg _ (Except.ok.inj hy))
    exact ⟨_, div_of_real hdoubles hx hy (beq_zero fun _ => hq), beside_div hxfinite hyfinite hq⟩
  · cases m with
    | real x' => exact absurd (.inl ⟨x', rfl⟩) hreal
    | int a =>
      cases n with
      | real y' => exact absurd (.inr ⟨y', rfl⟩) hreal
      | int b =>
        obtain ⟨ha, hrepresentable⟩ := hm
        have hb : b ≠ 0 := by
          rintro rfl
          exact hq (hn.1.symm.trans Int.cast_zero)
        have hle : ((a.natAbs : ℕ) : ℚ) / b.natAbs ≤ |(a : ℚ)| := by
          rw [Nat.cast_natAbs, Int.cast_abs]
          refine div_le_self (abs_nonneg _) ?_
          exact_mod_cast Int.natAbs_pos.2 hb
        obtain ⟨z, hz⟩ := exists_ofRatio? (decide (a < 0) != decide (b < 0))
          (Int.natAbs_pos.2 hb) (representable_abs (ha ▸ hrepresentable)) hle
        refine ⟨z, ?_, ?_⟩
        · rw [div, if_neg hb, hz]
        · have hbeside := (beside_of_ofRatio? (Int.natAbs_pos.2 hb) hz).2
          rwa [signed_div, ha, hn.1] at hbeside

theorem HasValue.eq_zero_eq (h : n.HasValue q) : n.eq (.int 0) = decide (q = 0) := by
  rw [eq, h.denotes.compare_eq, Int.cast_zero, Bool.eq_iff_iff, beq_iff_eq, Option.some.injEq,
    compare_eq_iff_eq, decide_eq_true_eq]

end Number

namespace Argument

variable {a b : Argument} {p q : ℚ}

theorem HasValue.isZero_eq (ha : a.HasValue q) : Scalar.isZero a = decide (q = 0) := by
  obtain ⟨n, hn, hq⟩ := ha
  show (a.number?.any fun n => n.eq (.int 0)) = _
  rw [hn]
  exact hq.eq_zero_eq

theorem HasValue.lt_int_eq (ha : a.HasValue q) (k : ℤ) :
    Scalar.lt a (Scalar.int k) = .ok (decide (q < k)) := by
  obtain ⟨n, hn, hq⟩ := ha
  exact Except.bind_eq_ok_iff.2 ⟨n, toNumber_of_number? hn,
    Except.bind_eq_ok_iff.2 ⟨.int k, rfl, congrArg Except.ok (hq.denotes.lt_int_eq k)⟩⟩

/-- An argument is rounded by its exact value. -/
theorem HasValue.round_eq_roundHalfEven (ha : a.HasValue q) :
    Scalar.round a = .ok (roundHalfEven q) := ha.denotes.round_eq

theorem HasValue.exists_div (ha : a.HasValue p) (hb : b.HasValue q) (hq : q ≠ 0) :
    ∃ z, Scalar.div a b = .ok (real z) ∧ Beside (p / q) z := by
  obtain ⟨m, hm, hmp⟩ := ha
  obtain ⟨n, hn, hnq⟩ := hb
  obtain ⟨z, hz, hbeside⟩ := hmp.exists_div hnq hq
  exact ⟨z, Except.bind_eq_ok_iff.2 ⟨m, toNumber_of_number? hm,
    Except.bind_eq_ok_iff.2 ⟨n, toNumber_of_number? hn,
      Except.bind_eq_ok_iff.2 ⟨_, hz, rfl⟩⟩⟩, hbeside⟩

/-- **The difference of two arguments is near to that of their values**, and within its bound. -/
theorem HasValue.exists_sub_near (ha : a.HasValue p) (hb : b.HasValue q) {e : ℤ} (he : -1074 ≤ e)
    (he' : e ≤ 0) (hle : |p - q| ≤ 2 ^ 53 * 2 ^ e) :
    ∃ c r, Scalar.sub a b = .ok c ∧ c.HasValue r ∧ |r| ≤ 2 ^ 53 * 2 ^ e ∧
      |r - (p - q)| ≤ 2 ^ e := by
  obtain ⟨m, hm, hmp⟩ := ha
  obtain ⟨n, hn, hnq⟩ := hb
  have hlift : ∀ k, Number.sub m n = .ok k → Scalar.sub a b = .ok (.number k) := fun k hk =>
    Except.bind_eq_ok_iff.2 ⟨m, toNumber_of_number? hm,
      Except.bind_eq_ok_iff.2 ⟨n, toNumber_of_number? hn, Except.bind_eq_ok_iff.2 ⟨k, hk, rfl⟩⟩⟩
  rcases hmp.lift_spec (o := (· - ·)) (fun _ _ => Int.cast_sub _ _) (fun _ _ => beside_sub) hnq with
    ⟨k, hk, hvalue⟩ | ⟨z, hz, hbeside⟩
  · -- A whole number of this size is a double.
    have hone : (2 : ℚ) ^ e ≤ 1 := zpow_le_one_of_nonpos₀ one_le_two he'
    have hk53 : |(k : ℚ)| ≤ 2 ^ 53 := by
      rw [hvalue]
      linarith
    have hrepresentable : Representable k := by
      have := representable_units (n := k) (e := 0) (by
        rw [← Int.cast_abs, Int.abs_eq_natAbs] at hk53
        exact_mod_cast hk53) (by decide) (by decide)
      rwa [zpow_zero, mul_one] at this
    refine ⟨_, k, hlift _ hk, ⟨_, rfl, rfl, hrepresentable⟩, hvalue ▸ hle, ?_⟩
    rw [hvalue, sub_self, abs_zero]
    positivity
  · obtain ⟨hfinite, herror⟩ := hbeside.abs_value_sub_le he (by omega) hle
    have hbound : Representable (((2 ^ 53 : ℤ) : ℚ) * 2 ^ e) :=
      representable_units (by decide) he (by omega)
    rw [Int.cast_pow, Int.cast_ofNat] at hbound
    exact ⟨_, value z, hlift _ hz, ⟨_, rfl, hfinite, rfl⟩, (hbeside.abs_value_le hbound hle).2, herror⟩

end Argument

end TurtleCanvas
