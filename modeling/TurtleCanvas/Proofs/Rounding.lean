import Mathlib.Algebra.Order.Floor.Ring
import Mathlib.Algebra.Order.Archimedean.Basic
import Mathlib.Data.Rat.Floor
import Mathlib.Tactic.Linarith
import Mathlib.Tactic.FieldSimp
import Mathlib.Tactic.Ring
import TurtleCanvas.Scalar

/-!
# Rounding to whole numbers

`roundHalfEven` is the nearest whole number of an exact value, a half going to the even neighbour.

* `roundHalfEven_eq_iff` says what tells it apart from all other whole numbers;
* `Binary64.value` is the exact value of a finite double, and `Binary64.round_eq` says that a double
  is rounded by its exact value.
-/

namespace TurtleCanvas

variable {K : Type*} [Field K] [LinearOrder K] [IsStrictOrderedRing K] [FloorRing K]

/-- The nearest whole number, a half going to the even neighbour. -/
def roundHalfEven (x : K) : ℤ :=
  if Int.fract x < 1 / 2 then ⌊x⌋
  else if 1 / 2 < Int.fract x then ⌊x⌋ + 1
  else if Even ⌊x⌋ then ⌊x⌋ else ⌊x⌋ + 1

theorem roundHalfEven_spec (x : K) :
    |x - roundHalfEven x| ≤ 1 / 2 ∧ (|x - roundHalfEven x| = 1 / 2 → Even (roundHalfEven x)) := by
  have h0 := Int.fract_nonneg x
  have h1 := Int.fract_lt_one x
  have hx := Int.self_sub_floor x
  have low : |x - ⌊x⌋| = Int.fract x := by rw [hx, abs_of_nonneg h0]
  have high : |x - (⌊x⌋ + 1 : ℤ)| = 1 - Int.fract x := by
    have : x - (⌊x⌋ + 1 : ℤ) = -(1 - Int.fract x) := by push_cast; linarith
    rw [this, abs_neg, abs_of_nonneg (by linarith)]
  unfold roundHalfEven
  split_ifs with h h' he
  · rw [low]; exact ⟨h.le, fun e => absurd e h.ne⟩
  · rw [high]; exact ⟨by linarith, fun e => absurd e (by linarith)⟩
  · rw [low]; exact ⟨not_lt.1 h', fun _ => he⟩
  · rw [high]; exact ⟨by linarith [not_lt.1 h], fun _ => Int.even_add_one.2 he⟩

/-- Two whole numbers at most a half away from a value are neighbours, and only one is even. -/
theorem eq_of_nearest {x : K} {m n : ℤ} (hm : |x - m| ≤ 1 / 2) (hn : |x - n| ≤ 1 / 2)
    (hm' : |x - m| = 1 / 2 → Even m) (hn' : |x - n| = 1 / 2 → Even n) : m = n := by
  wlog hlt : m < n generalizing m n with key
  · rcases lt_trichotomy m n with h | h | h
    · exact key hm hn hm' hn' h
    · exact h
    · exact (key hn hm hn' hm' h).symm
  have hle : (m : K) + 1 ≤ n := by exact_mod_cast hlt
  obtain ⟨-, hm2⟩ := abs_le.1 hm
  obtain ⟨hn1, -⟩ := abs_le.1 hn
  -- As they are one apart, both are just a half away.
  have em : x - m = 1 / 2 := by linarith
  have en : x - n = -(1 / 2) := by linarith
  have hnm : n = m + 1 := by
    have : (n : K) = m + 1 := by linarith
    exact_mod_cast this
  have e1 : Even m := hm' (by rw [em, abs_of_pos (by norm_num)])
  have e2 : Even n := hn' (by rw [en, abs_neg, abs_of_pos (by norm_num)])
  rw [hnm, Int.even_add_one] at e2
  exact absurd e1 e2

/-- **The rounded value is the nearest whole number**, and the even one of two. -/
theorem roundHalfEven_eq_iff {x : K} {n : ℤ} :
    roundHalfEven x = n ↔ |x - n| ≤ 1 / 2 ∧ (|x - n| = 1 / 2 → Even n) := by
  constructor
  · rintro rfl; exact roundHalfEven_spec x
  · rintro ⟨h, h'⟩
    exact eq_of_nearest (roundHalfEven_spec x).1 h (roundHalfEven_spec x).2 h'

theorem roundHalfEven_bounds (x : K) : x - 1 / 2 ≤ roundHalfEven x ∧ roundHalfEven x ≤ x + 1 / 2 := by
  have h := abs_le.1 (roundHalfEven_spec x).1
  constructor <;> linarith [h.1, h.2]

/-- No whole number is nearer than the rounded value. -/
theorem abs_roundHalfEven_sub_le (x : K) (n : ℤ) : |(roundHalfEven x : K) - x| ≤ |(n : K) - x| := by
  obtain ⟨hnear, -⟩ := roundHalfEven_spec x
  rw [abs_sub_comm] at hnear
  rcases eq_or_ne n (roundHalfEven x) with rfl | hn
  · exact le_rfl
  · -- Another whole number is at least one away from the rounded value.
    have hone : (1 : K) ≤ |(n : K) - roundHalfEven x| := by
      exact_mod_cast Int.one_le_abs (sub_ne_zero.2 hn)
    have htriangle := abs_sub_le (n : K) x (roundHalfEven x)
    rw [abs_sub_comm x] at htriangle
    linarith

@[simp] theorem roundHalfEven_intCast (n : ℤ) : roundHalfEven (n : K) = n := by
  rw [roundHalfEven_eq_iff]; simp

theorem roundHalfEven_of_eq {x : K} {n : ℤ} (h : x = n) : roundHalfEven x = n := by
  rw [h, roundHalfEven_intCast]

/-! ### Doubles -/

/-- A rounded quotient is at most half a divisor away, and even when it is just that. -/
theorem divRoundEven_spec (num : ℕ) {den : ℕ} (hden : 0 < den) :
    2 * num ≤ 2 * (divRoundEven num den * den) + den ∧
      2 * (divRoundEven num den * den) ≤ 2 * num + den ∧
      (2 * num = 2 * (divRoundEven num den * den) + den ∨
        2 * (divRoundEven num den * den) = 2 * num + den → Even (divRoundEven num den)) := by
  have hdm : num / den * den + num % den = num := Nat.div_add_mod' num den
  have hlt := Nat.mod_lt num hden
  have succ : (num / den + 1) * den = num / den * den + den := Nat.succ_mul _ _
  unfold divRoundEven
  dsimp only
  split_ifs with h h'
  · exact ⟨by omega, by omega, fun e => absurd e (by omega)⟩
  · rw [succ]; exact ⟨by omega, by omega, fun e => absurd e (by omega)⟩
  · rcases Nat.mod_two_eq_zero_or_one (num / den) with e | e
    · rw [e, Nat.add_zero]; exact ⟨by omega, by omega, fun _ => Nat.even_iff.2 e⟩
    · rw [e, succ]
      exact ⟨by omega, by omega, fun _ => Nat.even_add_one.2 (Nat.not_even_iff.2 e)⟩

theorem roundHalfEven_natDiv (num : ℕ) {den : ℕ} (hden : 0 < den) :
    roundHalfEven ((num : ℚ) / den) = divRoundEven num den := by
  obtain ⟨h1, h2, h3⟩ := divRoundEven_spec num hden
  generalize divRoundEven num den = q at h1 h2 h3 ⊢
  have hd : (0 : ℚ) < den := by exact_mod_cast hden
  have e : (num : ℚ) / den - (q : ℤ) = (num - q * den) / den := by
    rw [Int.cast_natCast, sub_div, mul_div_cancel_right₀ _ hd.ne']
  have e1 : (2 : ℚ) * num ≤ 2 * (q * den) + den := by exact_mod_cast h1
  have e2 : (2 : ℚ) * (q * den) ≤ 2 * num + den := by exact_mod_cast h2
  rw [roundHalfEven_eq_iff, e, abs_div, abs_of_pos hd, div_le_div_iff₀ hd (by norm_num),
    div_eq_div_iff hd.ne' (by norm_num)]
  constructor
  · have : |(num : ℚ) - q * den| ≤ den / 2 := abs_le.2 ⟨by linarith, by linarith⟩
    linarith
  · intro he
    -- The quotient is a half away just when twice the remainder is the divisor.
    have key : 2 * num = 2 * (q * den) + den ∨ 2 * (q * den) = 2 * num + den := by
      rcases abs_choice ((num : ℚ) - q * den) with h | h
      · left
        have : (2 : ℚ) * num = 2 * (q * den) + den := by rw [h] at he; linarith
        exact_mod_cast this
      · right
        have : (2 : ℚ) * (q * den) = 2 * num + den := by rw [h] at he; linarith
        exact_mod_cast this
    exact (Int.even_coe_nat q).2 (h3 key)

theorem roundHalfEven_neg (x : K) : roundHalfEven (-x) = -roundHalfEven x := by
  obtain ⟨h, h'⟩ := roundHalfEven_spec x
  have e : -x - ((-roundHalfEven x : ℤ) : K) = -(x - roundHalfEven x) := by push_cast; ring
  rw [roundHalfEven_eq_iff, e, abs_neg, even_neg]
  exact ⟨h, h'⟩

namespace Binary64

/-- The exact value of a finite double. -/
def value (x : Float) : ℚ := significand x * 2 ^ exponent x

theorem value_of_exponent_nonneg {x : Float} (h : 0 ≤ exponent x) :
    value x = (significand x * 2 ^ (exponent x).toNat : ℤ) := by
  have : (2 : ℚ) ^ exponent x = 2 ^ (exponent x).toNat := by
    rw [← zpow_natCast, Int.toNat_of_nonneg h]
  rw [value, this]; push_cast; rfl

theorem value_of_exponent_neg {x : Float} (h : exponent x < 0) :
    value x = significand x / ((2 ^ (-exponent x).toNat : ℕ) : ℚ) := by
  have : (2 : ℚ) ^ exponent x = (2 ^ (-exponent x).toNat)⁻¹ := by
    rw [← zpow_natCast, Int.toNat_of_nonneg (by omega), ← zpow_neg, neg_neg]
  rw [value, this, div_eq_mul_inv]; push_cast; rfl

/-- A double is rounded by its exact value. -/
theorem round_eq (x : Float) : round x = roundHalfEven (value x) := by
  unfold round
  dsimp only
  split_ifs with he hm
  · rw [value_of_exponent_nonneg he, roundHalfEven_intCast]
  · have hs : (significand x : ℚ) = -((significand x).natAbs : ℚ) := by
      have : significand x = -((significand x).natAbs : ℤ) := by omega
      rw [← Int.cast_natCast, ← Int.cast_neg, ← this]
    rw [value_of_exponent_neg (not_le.1 he), hs, neg_div, roundHalfEven_neg,
      roundHalfEven_natDiv _ (Nat.two_pow_pos _)]
  · have hs : (significand x : ℚ) = ((significand x).natAbs : ℚ) := by
      have : ((significand x).natAbs : ℤ) = significand x := by omega
      rw [← Int.cast_natCast, this]
    rw [value_of_exponent_neg (not_le.1 he), hs, roundHalfEven_natDiv _ (Nat.two_pow_pos _)]

end Binary64

/-- A double as a coordinate is rounded by its exact value; an infinity or a NaN cannot be. -/
theorem round_real_iff {x : Float} {n : ℤ} :
    (Scalar.round (Argument.real x) : Except Fault ℤ) = .ok n ↔
      Binary64.isFinite x = true ∧ n = roundHalfEven (Binary64.value x) := by
  have e : (Scalar.round (Argument.real x) : Except Fault ℤ) = (Number.real x).round := rfl
  rw [e, Number.round, Number.wholeOf, Binary64.round_eq]
  split_ifs with h h' <;> simp [h, eq_comm]

end TurtleCanvas
