import Mathlib.Data.Nat.Sqrt
import TurtleCanvas.Proofs.Binary64.Error
import TurtleCanvas.Proofs.Binary64.Nearest
import TurtleCanvas.Raster.Rounded

/-!
# Bounds of rounded geometry

The drawing rules round some lengths and crossings to the precision of a double on the way to a whole
number.  Each rounding may be off by one part in `2 ^ 52`, which is too little to make up a pixel: a
crossing stays between the ends of its line, and a length is not off by more than one.

* `isqrt_eq_sqrt` says that the whole part of a square root is what it should be;
* `Binary64.Dyadic.IsRounded` says that a scaled number is a rounded one, and
  `Binary64.Dyadic.isRounded_nearest`, `Binary64.Dyadic.isRounded_mul` and
  `Binary64.Dyadic.isRounded_div` that the results of the operations are;
* `Binary64.Dyadic.le_value_sqrt` is a bound of a rounded square root, and
  `Binary64.Dyadic.round_share_le` one of a length that is shared out by it;
* `crossing_between` says that a line meets a coordinate between its ends.
-/

namespace TurtleCanvas

/-- The whole part of a square root is found from that of a quarter, whose double is off by one at
most. -/
theorem isqrt_eq_sqrt (n : ℕ) : isqrt n = n.sqrt := by
  induction n using Nat.strong_induction_on with
  | _ n ih =>
    rcases Nat.eq_zero_or_pos n with rfl | hn
    · rw [isqrt, if_pos rfl, Nat.sqrt_zero]
    obtain ⟨hlow, hhigh⟩ := Nat.eq_sqrt.1 (ih (n / 4) (by omega))
    rw [isqrt, if_neg hn.ne']
    generalize isqrt (n / 4) = k at hlow hhigh ⊢
    have hlow' : 2 * k * (2 * k) ≤ n := by
      have : 2 * k * (2 * k) = 4 * (k * k) := by ring
      omega
    have hhigh' : n < (2 * k + 1 + 1) * (2 * k + 1 + 1) := by
      have : (2 * k + 1 + 1) * (2 * k + 1 + 1) = 4 * ((k + 1) * (k + 1)) := by ring
      omega
    dsimp only
    split_ifs with h
    · exact Nat.eq_sqrt.2 ⟨h, hhigh'⟩
    · exact Nat.eq_sqrt.2 ⟨hlow', not_le.1 h⟩

namespace Binary64

namespace Dyadic

/-- The exact value. -/
def value (d : Dyadic) : ℚ := d.magnitude * 2 ^ d.scale

theorem value_of_scale_nonneg {d : Dyadic} (h : 0 ≤ d.scale) :
    d.value = (d.magnitude * 2 ^ d.scale.toNat : ℕ) := by
  rw [value, ← two_zpow_mul _ h, Nat.cast_mul]

theorem value_of_scale_neg {d : Dyadic} (h : d.scale < 0) :
    d.value = d.magnitude / (2 ^ (-d.scale).toNat : ℕ) := by
  rw [two_zpow_mul _ (by omega), value, zpow_neg, div_inv_eq_mul]

/-- The whole part is not above the value. -/
theorem floor_le_value (d : Dyadic) : (d.floor : ℚ) ≤ d.value := by
  rw [floor]
  split_ifs with h
  · rw [value_of_scale_nonneg h]
  · rw [value_of_scale_neg (not_le.1 h)]
    exact Nat.cast_div_le

/-- Rounding to a whole number does not pass one. -/
theorem round_le {d : Dyadic} {k : ℕ} (h : d.value ≤ k) : d.round ≤ k := by
  rw [round]
  split_ifs with hscale
  · rw [value_of_scale_nonneg hscale] at h
    exact_mod_cast h
  · have hpos : 0 < 2 ^ (-d.scale).toNat := Nat.two_pow_pos _
    rw [value_of_scale_neg (not_le.1 hscale), div_le_iff₀ (by exact_mod_cast hpos)] at h
    exact (divRoundEven_bounds _ hpos k).2 (by exact_mod_cast h)

/-! ### Rounded numbers -/

/-- A scaled number is a rounded number: it lies on no other side of a double than the number, and is
not far above it. -/
structure IsRounded (q : ℚ) (d : Dyadic) : Prop where
  le_of_le : ∀ r, Representable r → r ≤ q → r ≤ d.value
  ge_of_ge : ∀ r, Representable r → q ≤ r → d.value ≤ r
  value_le : d.value ≤ q + q / 2 ^ 52 + 2 ^ (-1074 : ℤ)

theorem isRounded_nearest (num : ℕ) {den : ℕ} (hden : 0 < den) :
    IsRounded (num / den) (nearest num den) := by
  rcases Nat.eq_zero_or_pos num with rfl | hnum
  · have hzero : (nearest 0 den).value = 0 := by simp [nearest, nearestWith, value]
    rw [Nat.cast_zero, zero_div]
    exact ⟨fun r _ h => h.trans hzero.ge, fun r _ h => hzero.le.trans h, by rw [hzero]; positivity⟩
  · have h := rounds_nearest hnum hden
    have hq : (0 : ℚ) ≤ num / den := by positivity
    exact ⟨fun r => h.le_of_representable, fun r hr hle => (h.representable_le hq hr hle).2,
      h.scaled_le_add hq⟩

theorem isRounded_ofScaledRatio (num : ℕ) {den : ℕ} (hden : 0 < den) (e : ℤ) :
    IsRounded (num / den * 2 ^ e) (ofScaledRatio num den e) := by
  rw [ofScaledRatio]
  split_ifs with h
  · have hscaled : (num : ℚ) / den * 2 ^ e = (num * 2 ^ e.toNat : ℕ) / den := by
      rw [Nat.cast_mul, two_zpow_mul e h, div_mul_eq_mul_div]
    rw [hscaled]
    exact isRounded_nearest _ hden
  · have hscaled : (num : ℚ) / den * 2 ^ e = num / (den * 2 ^ (-e).toNat : ℕ) := by
      rw [Nat.cast_mul, two_zpow_mul (-e) (by omega), zpow_neg, ← div_div, div_inv_eq_mul]
    rw [hscaled]
    exact isRounded_nearest _ (by positivity)

/-- A product is rounded once. -/
theorem isRounded_mul (a b : Dyadic) : IsRounded (a.value * b.value) (a.mul b) := by
  have h := isRounded_ofScaledRatio (a.magnitude * b.magnitude) one_pos (a.scale + b.scale)
  have hvalue : ((a.magnitude * b.magnitude : ℕ) : ℚ) / (1 : ℕ) * 2 ^ (a.scale + b.scale) =
      a.value * b.value := by
    rw [value, value, zpow_add₀ two_ne_zero]
    push_cast
    ring
  rwa [hvalue] at h

/-- A quotient is rounded once. -/
theorem isRounded_div (a : Dyadic) {b : Dyadic} (hb : 0 < b.value) :
    IsRounded (a.value / b.value) (a.div b) := by
  have hpos : 0 < b.magnitude := by
    refine Nat.pos_of_ne_zero fun hzero => hb.ne' ?_
    rw [value, hzero, Nat.cast_zero, zero_mul]
  have h := isRounded_ofScaledRatio a.magnitude hpos (a.scale - b.scale)
  have hvalue : (a.magnitude : ℚ) / b.magnitude * 2 ^ (a.scale - b.scale) = a.value / b.value := by
    rw [value, value, zpow_sub₀ two_ne_zero, div_mul_div_comm]
  rwa [hvalue] at h

/-- A natural number that is not too large is not rounded. -/
theorem value_ofNat {n : ℕ} (hn : n < 2 ^ 53) : (ofNat n).value = n := by
  have h := isRounded_nearest n one_pos
  rw [Nat.cast_one, div_one] at h
  have hn : Representable n := by exact_mod_cast representable_int (n := n) hn
  exact le_antisymm (h.ge_of_ge _ hn le_rfl) (h.le_of_le _ hn le_rfl)

/-- The least double is small against one. -/
theorem least_le : (2 : ℚ) ^ (-1074 : ℤ) ≤ 1 / 2 ^ 54 := by
  have h : (2 : ℚ) ^ (-1074 : ℤ) ≤ 2 ^ (-54 : ℤ) := zpow_le_zpow_right₀ one_le_two (by decide)
  exact h.trans_eq (by norm_num)

/-! ### Lengths -/

/-- The rounded length of a line is not below its extent along an axis. -/
theorem le_value_sqrt {n d : ℕ} (hd : d < 2 ^ 53) (hle : d * d ≤ n) : (d : ℚ) ≤ (sqrt n).value := by
  have hroot : d * 2 ^ 60 ≤ isqrt (n * 4 ^ 60) := by
    rw [isqrt_eq_sqrt, Nat.le_sqrt]
    calc d * 2 ^ 60 * (d * 2 ^ 60) = d * d * 4 ^ 60 := by ring
      _ ≤ n * 4 ^ 60 := Nat.mul_le_mul_right _ hle
  rw [sqrt]
  generalize isqrt (n * 4 ^ 60) = root at hroot ⊢
  generalize (if root * root = n * 4 ^ 60 then 0 else 1) = rest
  have hd' : Representable d := by exact_mod_cast representable_int (n := d) hd
  have hden : 0 < 2 ^ 61 := by positivity
  refine (isRounded_nearest (2 * root + rest) hden).le_of_le _ hd' ?_
  rw [le_div_iff₀ (by positivity)]
  have hdouble : d * 2 ^ 61 ≤ 2 * root + rest :=
    calc d * 2 ^ 61 = 2 * (d * 2 ^ 60) := by ring
      _ ≤ 2 * root := Nat.mul_le_mul_left 2 hroot
      _ ≤ 2 * root + rest := Nat.le_add_right _ _
  exact_mod_cast hdouble

/-- **A share of a length is no more than one above it**: that of an extent `d` in a line at least as
long. -/
theorem round_share_le {n d total : ℕ} (hn : 0 < n) (hd : d < 2 ^ 53) (hle : d * d ≤ n)
    (htotal : total ≤ 2 ^ 50) : ((ofNat d).mul ((ofNat total).div (sqrt n))).round ≤ total + 1 := by
  have hpos : (1 : ℕ) ≤ (sqrt n).value := le_value_sqrt (by decide) (by omega)
  have hlength : (0 : ℚ) < (sqrt n).value := by
    rw [Nat.cast_one] at hpos
    linarith
  have hd' : (d : ℚ) ≤ 2 ^ 53 := by exact_mod_cast hd.le
  have htotal' : (total : ℚ) ≤ 2 ^ 50 := by exact_mod_cast htotal
  have hratio := (isRounded_div (ofNat total) hlength).value_le
  rw [value_ofNat (by omega)] at hratio
  generalize (ofNat total).div (sqrt n) = ratio at hratio ⊢
  -- Without rounding the share is at most all of it.
  have hshare : (d : ℚ) * (total / (sqrt n).value) ≤ total := by
    rw [mul_div_left_comm]
    exact mul_le_of_le_one_right (by positivity) ((div_le_one hlength).2 (le_value_sqrt hd hle))
  have hproduct : (d : ℚ) * ratio.value ≤ (total + 1 : ℕ) :=
    calc (d : ℚ) * ratio.value
        ≤ d * (total / (sqrt n).value + total / (sqrt n).value / 2 ^ 52 + 1 / 2 ^ 54) := by
          gcongr
          exact hratio.trans (by linarith [least_le])
      _ = d * (total / (sqrt n).value) + d * (total / (sqrt n).value) / 2 ^ 52 + d / 2 ^ 54 := by
          ring
      _ ≤ (total + 1 : ℕ) := by
          push_cast
          linarith
  have hwhole : Representable ((total + 1 : ℕ) : ℚ) := by
    exact_mod_cast representable_int (n := (total + 1 : ℕ)) (by omega)
  have h := isRounded_mul (ofNat d) ratio
  rw [value_ofNat hd] at h
  exact round_le (h.ge_of_ge _ hwhole hproduct)

end Dyadic

end Binary64

open Binary64 Dyadic

/-! ### Crossings -/

/-- A part of a length that is taken as a quotient is not above it. -/
theorem floor_quotient_le {a b c : ℕ} (ha : 0 < a) (hac : a ≤ c) (hc : c < 2 ^ 53)
    (hb : b ≤ 2 ^ 50) : (((ofNat a).mul (ofNat b)).div (ofNat c)).floor ≤ b := by
  have hc1 : (1 : ℚ) ≤ c := by exact_mod_cast ha.trans_le hac
  have hb' : (b : ℚ) ≤ 2 ^ 50 := by exact_mod_cast hb
  have hac' : (a : ℚ) ≤ c := by exact_mod_cast hac
  have hproduct := (isRounded_mul (ofNat a) (ofNat b)).value_le
  rw [value_ofNat (hac.trans_lt hc), value_ofNat (by omega)] at hproduct
  generalize (ofNat a).mul (ofNat b) = product at hproduct ⊢
  -- Two roundings add less than a half to the exact part.
  have hhalf : product.value / c ≤ ((2 * b + 1 : ℤ) : ℚ) / 2 := by
    rw [div_le_iff₀ (by linarith)]
    calc product.value ≤ a * b + a * b / 2 ^ 52 + 1 / 2 ^ 54 := by linarith [least_le]
      _ ≤ c * b + c * 2 ^ 50 / 2 ^ 52 + 1 / 2 ^ 54 := by gcongr
      _ ≤ ((2 * b + 1 : ℤ) : ℚ) / 2 * c := by
        push_cast
        linarith
  have hvalue := value_ofNat hc
  have hquotient := isRounded_div product (b := ofNat c) (by rw [hvalue]; linarith)
  rw [hvalue] at hquotient
  have hle := hquotient.ge_of_ge _ (representable_half (by omega)) hhalf
  have hfloor := (floor_le_value (product.div (ofNat c))).trans hle
  push_cast at hfloor
  have : ((product.div (ofNat c)).floor : ℚ) < (b + 1 : ℕ) := by
    push_cast
    linarith
  exact Nat.lt_succ_iff.1 (by exact_mod_cast this)

/-- **A line meets a coordinate between its ends**, if that is a part of the way. -/
theorem crossing_between {a b c : ℤ} (h : 0 < a ∧ a ≤ c ∨ c ≤ a ∧ a < 0) (hc : c.natAbs < 2 ^ 53)
    (hb : b.natAbs ≤ 2 ^ 50) : min 0 b ≤ crossing a b c ∧ crossing a b c ≤ max 0 b := by
  have hfloor := floor_quotient_le (a := a.natAbs) (by omega) (by omega) hc hb
  -- The signs of the way and of its part cancel.
  have hsign : ((decide (a < 0) != decide (b < 0)) != decide (c < 0)) = decide (b < 0) := by
    rcases h with h | h
    · rw [decide_eq_false (by omega : ¬ a < 0), decide_eq_false (by omega : ¬ c < 0)]
      simp
    · rw [decide_eq_true h.2, decide_eq_true (by omega : c < 0)]
      simp
  rw [crossing, hsign, withSign]
  generalize Dyadic.floor _ = n at hfloor ⊢
  by_cases hneg : b < 0
  · rw [decide_eq_true hneg, if_pos rfl]
    omega
  · rw [decide_eq_false hneg, if_neg (by decide)]
    omega

end TurtleCanvas
