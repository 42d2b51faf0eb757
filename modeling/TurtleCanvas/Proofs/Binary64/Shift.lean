import TurtleCanvas.Proofs.Binary64.Beside

/-!
# Mantissas that are shifted and rounded

Core's model of doubles shifts a mantissa to the units of the result, remembers in two bits what was
cut off, and rounds.

* `Binary64.Approximates` says what a mantissa with an accuracy stands for;
* `Binary64.rounds_shift` says that the shift rounds, and `Binary64.beside_roundWithAccuracy` that
  the double put together is beside the number.
-/

namespace TurtleCanvas

namespace Binary64

open Float.Model Float.Model.UnpackedFloat

/-! ### Shifting -/

/-- Nothing was cut off an extended mantissa. -/
def IsExact (em : ExtendedMantissa) : Prop := em.roundBit = false ∧ em.stickyBit = false

theorem shiftRight_succ (em : ExtendedMantissa) (k : ℕ) :
    em >>> (k + 1) = (em >>> k).shiftRightOne := rfl

theorem mantissa_shiftRight (em : ExtendedMantissa) (k : ℕ) :
    (em >>> k).mantissa = em.mantissa / 2 ^ k := by
  induction k with
  | zero => exact (Nat.div_one _).symm
  | succ k ih =>
    rw [shiftRight_succ, Nat.pow_succ, ← Nat.div_div_eq_div_mul, ← ih]
    rfl

theorem isExact_shiftRight_iff (em : ExtendedMantissa) (k : ℕ) :
    IsExact (em >>> k) ↔ em.mantissa % 2 ^ k = 0 ∧ IsExact em := by
  induction k with
  | zero => simp only [Nat.pow_zero, Nat.mod_one, true_and]; rfl
  | succ k ih =>
    have hone : IsExact (em >>> k).shiftRightOne ↔
        (em >>> k).mantissa % 2 = 0 ∧ IsExact (em >>> k) := by
      simp [IsExact, ExtendedMantissa.shiftRightOne]
    rw [shiftRight_succ, hone, ih, mantissa_shiftRight, Nat.pow_succ, Nat.mod_mul, ← and_assoc,
      Nat.add_eq_zero_iff, Nat.mul_eq_zero, or_iff_right (Nat.two_pow_pos k).ne',
      and_comm (a := em.mantissa % 2 ^ k = 0)]

/-- A mantissa is rounded to itself or to its successor, and to itself if nothing was cut off. -/
theorem roundedMantissa_bounds (em : ExtendedMantissa) :
    em.mantissa ≤ em.roundedMantissa ∧ em.roundedMantissa ≤ em.mantissa + 1 ∧
      (IsExact em → em.roundedMantissa = em.mantissa) := by
  obtain ⟨m, round, sticky⟩ := em
  cases round with
  | false =>
    cases sticky with
    | false => exact ⟨le_rfl, Nat.le_succ m, fun _ => rfl⟩
    | true => exact ⟨le_rfl, Nat.le_succ m, fun h => absurd h.2 (by simp)⟩
  | true =>
    cases sticky with
    | false =>
      show m ≤ m + m % 2 ∧ m + m % 2 ≤ m + 1 ∧ _
      exact ⟨by omega, by omega, fun h => absurd h.1 (by simp)⟩
    | true => exact ⟨Nat.le_succ m, le_rfl, fun h => absurd h.1 (by simp)⟩

theorem mantissa_ofMantissaAndAccuracy (m : ℕ) (a : Accuracy) :
    (ExtendedMantissa.ofMantissaAndAccuracy m a).mantissa = m := by
  rcases a with _ | (_ | _ | _) <;> rfl

theorem isExact_ofMantissaAndAccuracy_iff (m : ℕ) (a : Accuracy) :
    IsExact (ExtendedMantissa.ofMantissaAndAccuracy m a) ↔ a = .exact := by
  rcases a with _ | (_ | _ | _) <;> simp [IsExact, ExtendedMantissa.ofMantissaAndAccuracy]

/-- `m` units of `2 ^ e`, and as much of the next unit as an accuracy says, are a number. -/
structure Approximates (m : ℕ) (e : ℤ) (a : Accuracy) (q : ℚ) : Prop where
  le : m * 2 ^ e ≤ q
  lt : q < (m + 1) * 2 ^ e
  exact_iff : a = .exact ↔ q = m * 2 ^ e

theorem targetExponent_eq (m : ℕ) (e : ℤ) :
    Format.binary64.targetExponent (totalExponent m e) = max (m.log2 + e - 52) (-1074) := by
  show max ((m.log2 : ℤ) + 1 + e - ((1 + 52 : ℕ) : ℤ)) (3 - 2 ^ (11 - 1) - ((1 + 52 : ℕ) : ℤ)) = _
  have : (3 - 2 ^ (11 - 1) - ((1 + 52 : ℕ) : ℤ)) = -1074 := by norm_num
  rw [this]
  congr 1
  push_cast
  ring

/-- A mantissa that is shifted by `k` bits and rounded is cut off to a multiple of `2 ^ k`. -/
theorem roundedMantissa_shift {q : ℚ} {m : ℕ} {e : ℤ} {a : Accuracy} (h : Approximates m e a q)
    (k j : ℕ) :
    let r := (ExtendedMantissa.ofMantissaAndAccuracy m a >>> k).roundedMantissa
    (j * 2 ^ (e + k) ≤ q → j ≤ r) ∧ (q ≤ j * 2 ^ (e + k) → r ≤ j) := by
  obtain ⟨hle, hle', hexact⟩ :=
    roundedMantissa_bounds (ExtendedMantissa.ofMantissaAndAccuracy m a >>> k)
  rw [isExact_shiftRight_iff, isExact_ofMantissaAndAccuracy_iff] at hexact
  rw [mantissa_shiftRight, mantissa_ofMantissaAndAccuracy] at hle hle' hexact
  have hu : (0 : ℚ) < 2 ^ e := by positivity
  have hscale : (j : ℚ) * 2 ^ (e + k) = (j * 2 ^ k : ℕ) * 2 ^ e := by
    rw [zpow_add₀ two_ne_zero, zpow_natCast]
    push_cast
    ring
  rw [hscale]
  dsimp only
  constructor
  · intro hj
    have hlt : ((j * 2 ^ k : ℕ) : ℚ) < (m + 1 : ℕ) := by
      have := hj.trans_lt h.lt
      rw [mul_lt_mul_iff_of_pos_right hu] at this
      exact_mod_cast this
    have hjm : j * 2 ^ k ≤ m := Nat.lt_succ_iff.1 (by exact_mod_cast hlt)
    exact ((Nat.le_div_iff_mul_le (Nat.two_pow_pos k)).2 hjm).trans hle
  · intro hj
    have hmj : m ≤ j * 2 ^ k := by
      have := h.le.trans hj
      rw [mul_le_mul_iff_of_pos_right hu] at this
      exact_mod_cast this
    by_cases heq : m = j * 2 ^ k
    · -- A multiple that the mantissa already is bounds it only if nothing more was cut off.
      have hq : q = m * 2 ^ e := le_antisymm (by rw [heq]; exact hj) h.le
      have hdiv : m / 2 ^ k = j := by rw [heq, Nat.mul_div_cancel _ (Nat.two_pow_pos k)]
      rw [hexact ⟨by rw [heq, Nat.mul_mod_left], h.exact_iff.2 hq⟩, hdiv]
    · have hlt : m / 2 ^ k < j :=
        (Nat.div_lt_iff_lt_mul (Nat.two_pow_pos k)).2 (lt_of_le_of_ne hmj heq)
      omega

/-- **The first shift rounds.**  It needs a mantissa that has all bits of a double, or that is in
the least units already. -/
theorem rounds_shift {q : ℚ} {m : ℕ} {e : ℤ} {a : Accuracy} (h : Approximates m e a q)
    (hbits : 52 ≤ m.log2 ∨ e ≤ -1074) :
    Rounds q (shiftToTargetExponent Format.binary64 m e a).1.roundedMantissa
      (shiftToTargetExponent Format.binary64 m e a).2 := by
  rw [shiftToTargetExponent, targetExponent_eq, shiftToExponent]
  dsimp only
  obtain ⟨k, hk⟩ : ∃ k, k = (max ((m.log2 : ℤ) + e - 52) (-1074) - e).toNat := ⟨_, rfl⟩
  rw [← hk]
  have hm : ((m + 1 : ℕ) : ℚ) ≤ 2 ^ (m.log2 + 1) := by exact_mod_cast Nat.lt_log2_self
  refine ⟨by omega, ?_, ?_, fun j => (roundedMantissa_shift h k j).1,
    fun j => (roundedMantissa_shift h k j).2⟩
  · calc q < (m + 1 : ℕ) * 2 ^ e := by exact_mod_cast h.lt
      _ ≤ 2 ^ (m.log2 + 1) * 2 ^ e := by gcongr
      _ = 2 ^ (((m.log2 + 1 : ℕ) : ℤ) + e) := by rw [zpow_add₀ two_ne_zero, zpow_natCast]
      _ ≤ 2 ^ (53 + (e + k)) := zpow_le_zpow_right₀ one_le_two (by omega)
      _ = 2 ^ 53 * 2 ^ (e + (k : ℤ)) := by rw [zpow_add₀ two_ne_zero]; norm_num
  · rcases le_or_gt ((m.log2 : ℤ) + e - 52) (-1074) with hleast | hleast
    · exact .inl (by omega)
    · right
      have hpos : m ≠ 0 := by
        rintro rfl
        rw [Nat.log2_zero] at hbits hleast
        omega
      have hlog : (2 : ℚ) ^ m.log2 ≤ m := by exact_mod_cast Nat.log2_self_le hpos
      calc (2 : ℚ) ^ 52 * 2 ^ (e + (k : ℤ)) = 2 ^ (52 + (e + (k : ℤ))) := by
            rw [zpow_add₀ two_ne_zero 52]; norm_num
        _ = 2 ^ ((m.log2 : ℤ) + e) := by congr 1; omega
        _ = 2 ^ m.log2 * 2 ^ e := by rw [zpow_add₀ two_ne_zero, zpow_natCast]
        _ ≤ m * 2 ^ e := by gcongr
        _ ≤ q := h.le

/-! ### Rounding -/

/-- A mantissa in its own units is not shifted. -/
theorem shift_of_lt {m : ℕ} {e : ℤ} (hm : m < 2 ^ 53) (he : -1074 ≤ e) :
    shiftToTargetExponent Format.binary64 m e .exact = (⟨m, false, false⟩, e) := by
  have hlog : m.log2 ≤ 52 := by
    rcases Nat.eq_zero_or_pos m with rfl | hpos
    · decide
    · have := (Nat.log2_lt hpos.ne').2 hm
      omega
  have hk : (max ((m.log2 : ℤ) + e - 52) (-1074) - e).toNat = 0 := by omega
  rw [shiftToTargetExponent, targetExponent_eq, shiftToExponent, hk]
  show (_, e + ((0 : ℕ) : ℤ)) = _
  rw [Nat.cast_zero, add_zero]
  rfl

/-- A mantissa that rounding has carried is shifted once more. -/
theorem shift_of_carried {e : ℤ} (he : -1074 ≤ e) :
    shiftToTargetExponent Format.binary64 (2 ^ 53) e .exact = (⟨2 ^ 52, false, false⟩, e + 1) := by
  have hk : (max (((2 ^ 53).log2 : ℤ) + e - 52) (-1074) - e).toNat = 1 := by
    rw [Nat.log2_two_pow]
    omega
  rw [shiftToTargetExponent, targetExponent_eq, shiftToExponent, hk]
  rfl

theorem roundWithAccuracy_eq {q : ℚ} {s : Sign} {m : ℕ} {e : ℤ} {a : Accuracy}
    (h : Rounds q (shiftToTargetExponent Format.binary64 m e a).1.roundedMantissa
      (shiftToTargetExponent Format.binary64 m e a).2) :
    roundWithAccuracy Format.binary64 s m e a =
      held s (shiftToTargetExponent Format.binary64 m e a).1.roundedMantissa
        (shiftToTargetExponent Format.binary64 m e a).2 := by
  rw [roundWithAccuracy]
  generalize shiftToTargetExponent Format.binary64 m e a = first at h ⊢
  obtain ⟨em, e₁⟩ := first
  dsimp only at h ⊢
  rw [held]
  by_cases hlt : em.roundedMantissa < 2 ^ 53
  · rw [shift_of_lt hlt h.least]
    dsimp only
    by_cases hzero : em.roundedMantissa = 0
    · rw [dif_pos hzero, dif_pos hzero]
    · rw [dif_neg hzero, dif_neg hzero, if_pos hlt]
  · have hcarried : em.roundedMantissa = 2 ^ 53 := le_antisymm h.le_two_pow (not_lt.1 hlt)
    have hshift := shift_of_carried h.least
    rw [← hcarried] at hshift
    rw [hshift]
    dsimp only
    rw [dif_neg (by decide), dif_neg (by omega), if_neg hlt]

/-- **A rounded mantissa is beside the number that it approximates.** -/
theorem beside_roundWithAccuracy {q : ℚ} {m : ℕ} {e : ℤ} {a : Accuracy} (s : Sign)
    (h : Approximates m e a q) (hbits : 52 ≤ m.log2 ∨ e ≤ -1074) :
    Beside (signed s q) (packed (roundWithAccuracy Format.binary64 s m e a)) := by
  have hround := rounds_shift h hbits
  have hq : 0 ≤ q := le_trans (by positivity) h.le
  rw [roundWithAccuracy_eq hround]
  exact (holds_held s hround.le_two_pow hround.least hround.le_or_least).beside hround hq

end Binary64
end TurtleCanvas
