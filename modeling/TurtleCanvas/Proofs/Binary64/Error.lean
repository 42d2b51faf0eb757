import TurtleCanvas.Proofs.Binary64.Order

/-!
# How far doubles are from the numbers they are rounded from

A double that is beside a number lies between any two doubles that the number lies between.  The
multiples of a power of two are doubles as long as there are significands for them, so that a rounded
number is less than that power of two away.

* `Binary64.representable_units` says which multiples of a power of two are doubles;
* `Binary64.Beside.abs_value_sub_le` bounds the error of a rounding by the bound of the number, and
  `Binary64.Beside.abs_value_sub_le_of_unit` by that of the double, for one between 0 and 1;
* `Binary64.Rounds.scaled_le_add` bounds what a rounding adds by the number itself.
-/

namespace TurtleCanvas

namespace Binary64

variable {q : ℚ} {x : Float} {e : ℤ}

theorem representable_units {n : ℤ} (hn : n.natAbs ≤ 2 ^ 53) (he : -1074 ≤ e) (he' : e ≤ 970) :
    Representable (n * 2 ^ e) := by
  rcases hn.lt_or_eq with hlt | heq
  · exact ⟨n, e, hlt, he, by omega, rfl⟩
  · -- There are half as many units that are twice as large.
    obtain ⟨k, rfl⟩ : ∃ k, n = 2 * k := ⟨n / 2, by omega⟩
    refine ⟨k, e + 1, by omega, by omega, by omega, ?_⟩
    rw [zpow_add_one₀ two_ne_zero]
    push_cast
    ring

/-- **The error of a rounding.**  A number of at most `2 ^ 53` units is rounded by at most one. -/
theorem Beside.abs_value_sub_le (h : Beside q x) (he : -1074 ≤ e) (he' : e ≤ 970)
    (hq : |q| ≤ 2 ^ 53 * 2 ^ e) : isFinite x = true ∧ |value x - q| ≤ 2 ^ e := by
  have hunit : (0 : ℚ) < 2 ^ e := by positivity
  have hscaled : |q / 2 ^ e| ≤ 2 ^ 53 := by rwa [abs_div, abs_of_pos hunit, div_le_iff₀ hunit]
  obtain ⟨hlow, hhigh⟩ := abs_le.1 hscaled
  have hfloor : ⌊q / 2 ^ e⌋.natAbs ≤ 2 ^ 53 := by
    have : -2 ^ 53 ≤ ⌊q / 2 ^ e⌋ := Int.le_floor.2 (by exact_mod_cast hlow)
    have : ⌊q / 2 ^ e⌋ ≤ 2 ^ 53 := Int.floor_le_iff.2 (by push_cast; linarith)
    omega
  have hceil : ⌈q / 2 ^ e⌉.natAbs ≤ 2 ^ 53 := by
    have : -2 ^ 53 ≤ ⌈q / 2 ^ e⌉ := Int.le_ceil_iff.2 (by push_cast; linarith)
    have : ⌈q / 2 ^ e⌉ ≤ 2 ^ 53 := Int.ceil_le.2 (by exact_mod_cast hhigh)
    omega
  have hbelow : ⌊q / 2 ^ e⌋ * 2 ^ e ≤ q := (le_div_iff₀ hunit).1 (Int.floor_le _)
  have habove : q ≤ ⌈q / 2 ^ e⌉ * 2 ^ e := (div_le_iff₀ hunit).1 (Int.le_ceil _)
  obtain ⟨hfinite, hxlow, hxhigh⟩ := isFinite_of_atLeast_of_atMost
    (h.atLeast _ (representable_units hfloor he he') hbelow)
    (h.atMost _ (representable_units hceil he he') habove)
  -- The two multiples are the same or next to each other.
  have hgap : (⌈q / 2 ^ e⌉ : ℚ) * 2 ^ e ≤ ⌊q / 2 ^ e⌋ * 2 ^ e + 2 ^ e := by
    have : (⌈q / 2 ^ e⌉ : ℚ) ≤ ⌊q / 2 ^ e⌋ + 1 := by exact_mod_cast Int.ceil_le_floor_add_one _
    calc (⌈q / 2 ^ e⌉ : ℚ) * 2 ^ e ≤ (⌊q / 2 ^ e⌋ + 1) * 2 ^ e := by gcongr
      _ = ⌊q / 2 ^ e⌋ * 2 ^ e + 2 ^ e := by ring
  exact ⟨hfinite, abs_le.2 ⟨by linarith, by linarith⟩⟩

/-- The bound on the error of a double between 0 and 1. -/
def unitError : ℚ := 2 ^ (-52 : ℤ)

theorem Beside.abs_value_sub_le_of_unit (h : Beside q x) (hx : isFinite x = true)
    (h0 : 0 ≤ value x) (h1 : value x ≤ 1) : |value x - q| ≤ unitError := by
  have htwo : Representable 2 := by exact_mod_cast representable_int (n := 2) (by decide)
  -- The number is not far outside, or the double would be so too.
  have hq : |q| ≤ 2 := by
    refine abs_le.2 ⟨not_lt.1 fun hlt => ?_, not_lt.1 fun hlt => ?_⟩
    · rcases h.atMost _ htwo.neg hlt.le with ⟨-, hle⟩ | ⟨hinf, -⟩
      · linarith
      · exact nomatch hx.symm.trans hinf
    · rcases h.atLeast _ htwo hlt.le with ⟨-, hle⟩ | ⟨hinf, -⟩
      · linarith
      · exact nomatch hx.symm.trans hinf
  exact (h.abs_value_sub_le (by decide) (by decide) (hq.trans (by norm_num))).2

/-- A rounded number is off by less than one unit of its scale, which is small against it. -/
theorem Rounds.scaled_le_add {m : ℕ} (h : Rounds q m e) (hq : 0 ≤ q) :
    (m : ℚ) * 2 ^ e ≤ q + q / 2 ^ 52 + 2 ^ (-1074 : ℤ) := by
  have hunit : (0 : ℚ) < 2 ^ e := by positivity
  have hceil : m ≤ ⌈q / 2 ^ e⌉₊ := h.ge_of_ge _ ((div_le_iff₀ hunit).1 (Nat.le_ceil _))
  have hnext : (m : ℚ) ≤ q / 2 ^ e + 1 := by
    have : (m : ℚ) ≤ ⌈q / 2 ^ e⌉₊ := by exact_mod_cast hceil
    exact this.trans (Nat.ceil_lt_add_one (by positivity)).le
  have hone : (m : ℚ) * 2 ^ e ≤ q + 2 ^ e :=
    calc (m : ℚ) * 2 ^ e ≤ (q / 2 ^ e + 1) * 2 ^ e := by gcongr
      _ = q + 2 ^ e := by rw [add_mul, div_mul_cancel₀ _ hunit.ne', one_mul]
  rcases h.full with rfl | hfull
  · have : 0 ≤ q / 2 ^ 52 := by positivity
    linarith
  · have hsmall : (2 : ℚ) ^ e ≤ q / 2 ^ 52 := (le_div_iff₀' (by positivity)).2 hfull
    have : (0 : ℚ) < 2 ^ (-1074 : ℤ) := by positivity
    linarith

end Binary64

end TurtleCanvas
