import TurtleCanvas.Proofs.Binary64.Arithmetic

/-!
# The order of doubles

* `Binary64.lt_iff_of_isFinite` says that finite doubles are compared by their exact values;
* `Binary64.not_lt_of_isNaN` says that nothing is below a NaN;
* `Binary64.isFinite_of_lt_of_not_lt` says that what lies between finite doubles is finite;
* `Binary64.IsPositive` says that a double is above zero, and `Binary64.isPositive_iff` that this is
  what a comparison with the whole number zero finds out;
* `Binary64.isPositive_inverse` says what one divided by such a double is.
-/

namespace TurtleCanvas

namespace Binary64

open Float.Model Float.Model.UnpackedFloat

/-! ### Comparing the parts of doubles -/

theorem scaled_lt {m n : ℕ} {e f : ℤ} (hm : m < 2 ^ 53) (hn : 2 ^ 52 ≤ n) (h : e < f) :
    (m : ℚ) * 2 ^ e < n * 2 ^ f := by
  have hm' : (m : ℚ) < (2 ^ 53 : ℕ) := by exact_mod_cast hm
  have hn' : ((2 ^ 52 : ℕ) : ℚ) ≤ n := by exact_mod_cast hn
  calc (m : ℚ) * 2 ^ e < (2 ^ 53 : ℕ) * 2 ^ e := by gcongr
    _ = (2 ^ 52 : ℕ) * (2 * 2 ^ e) := two_pow_mul _
    _ ≤ (2 ^ 52 : ℕ) * 2 ^ f := by gcongr; exact two_mul_zpow_le h
    _ ≤ n * 2 ^ f := by gcongr

/-- Significands with all their bits are compared after their exponents. -/
theorem compare_scaled {m n : ℕ} {e f : ℤ} (hm : m < 2 ^ 53) (he : -1074 ≤ e)
    (hfull : 2 ^ 52 ≤ m ∨ e = -1074) (hn : n < 2 ^ 53) (hf : -1074 ≤ f)
    (hfull' : 2 ^ 52 ≤ n ∨ f = -1074) :
    (compare e f).then (compare m n) = compare ((m : ℚ) * 2 ^ e) (n * 2 ^ f) := by
  rcases lt_trichotomy e f with h | rfl | h
  · rw [compare_lt_iff_lt.2 h]
    exact (compare_lt_iff_lt.2 (scaled_lt hm (hfull'.resolve_right (by omega)) h)).symm
  · rw [compare_eq_iff_eq.2 rfl]
    exact compare_congr (by simp [zpow_pos]) (by simp [zpow_pos])
  · rw [compare_gt_iff_gt.2 h]
    exact (compare_gt_iff_gt.2 (scaled_lt hn (hfull.resolve_right (by omega)) h)).symm

theorem scaled_pos {m : ℕ} (hm : 0 < m) (e : ℤ) : (0 : ℚ) < m * 2 ^ e := by
  have : (0 : ℚ) < m := by exact_mod_cast hm
  positivity

/-- The parts of finite doubles are compared by their exact values. -/
theorem compare_of_canonical {u v : UnpackedFloat} (hu : Canonical u) (hv : Canonical v) :
    u.compare v = some (compare (worth u) (worth v)) := by
  cases u with
  | notANumber => exact hu.elim
  | infinity s => exact hu.elim
  | zero s =>
    cases v with
    | notANumber => exact hv.elim
    | infinity t => exact hv.elim
    | zero t => exact congrArg some (compare_eq_iff_eq.2 rfl).symm
    | finite t n f hn =>
      have hpos := scaled_pos hn f
      cases t with
      | positive => exact congrArg some (compare_lt_iff_lt.2 hpos).symm
      | negative => exact congrArg some (compare_gt_iff_gt.2 (neg_lt_zero.2 hpos)).symm
  | finite s m e hm =>
    have hpos := scaled_pos hm e
    cases v with
    | notANumber => exact hv.elim
    | infinity t => exact hv.elim
    | zero t =>
      cases s with
      | positive => exact congrArg some (compare_gt_iff_gt.2 hpos).symm
      | negative => exact congrArg some (compare_lt_iff_lt.2 (neg_lt_zero.2 hpos)).symm
    | finite t n f hn =>
      have hpos' := scaled_pos hn f
      have hscaled := compare_scaled hu.1 hu.2.1 hu.2.2.2 hv.1 hv.2.1 hv.2.2.2
      cases s with
      | positive =>
        cases t with
        | positive => exact congrArg some hscaled
        | negative =>
          exact congrArg some (compare_gt_iff_gt.2 ((neg_lt_zero.2 hpos').trans hpos)).symm
      | negative =>
        cases t with
        | positive =>
          exact congrArg some (compare_lt_iff_lt.2 ((neg_lt_zero.2 hpos).trans hpos')).symm
        | negative =>
          -- Of two negative doubles the one with the smaller magnitude is greater.
          refine congrArg some ((congrArg Ordering.swap hscaled).trans ?_)
          rw [← Std.OrientedOrd.eq_swap]
          exact compare_congr neg_lt_neg_iff.symm neg_lt_neg_iff.symm

/-! ### Comparing doubles -/

variable {x y z : Float}

theorem lt_iff_compare : x < y ↔ (unpacked x).compare (unpacked y) = some .lt := by
  have hmodel : x < y ↔ UnpackedFloat.lt (unpacked x) (unpacked y) = true := decide_eq_true_iff
  rw [hmodel, UnpackedFloat.lt, beq_iff_eq]

/-- **Finite doubles are compared by their exact values.** -/
theorem lt_iff_of_isFinite (hx : isFinite x = true) (hy : isFinite y = true) :
    x < y ↔ value x < value y := by
  obtain ⟨hu, hux⟩ := canonical_unpacked hx
  obtain ⟨hv, hvy⟩ := canonical_unpacked hy
  rw [lt_iff_compare, compare_of_canonical hu hv, hux, hvy, Option.some.injEq, compare_lt_iff_lt]

theorem not_lt_of_isNaN (h : isNaN x = true ∨ isNaN y = true) : ¬ x < y := by
  have hnan : ∀ {x : Float}, isNaN x = true → unpacked x = .notANumber := by
    intro x h
    rcases unpacked_of_isFinite_eq_false (isFinite_of_isNaN h) with ⟨-, hu⟩ | ⟨hnan, -⟩
    · exact hu
    · exact absurd (h.symm.trans hnan) (by decide)
  rw [lt_iff_compare]
  rcases h with h | h
  · rw [hnan h]
    exact nofun
  · rw [hnan h]
    cases unpacked x with
    | notANumber | zero s => exact nofun
    | infinity s | finite s m e hm => cases s <;> exact nofun

theorem unpacked_infinite (hy : isFinite y = false) (hnan : isNaN y = false) :
    unpacked y = .infinity (sign y) := by
  rcases unpacked_of_isFinite_eq_false hy with ⟨h, -⟩ | ⟨-, hu⟩
  · exact absurd (hnan.symm.trans h) (by decide)
  · exact hu

/-- An infinity is above or below all finite doubles, by its sign. -/
theorem lt_infinite_iff (hx : isFinite x = true) (hy : isFinite y = false)
    (hnan : isNaN y = false) : (x < y ↔ sign y = .positive) ∧ (y < x ↔ sign y = .negative) := by
  have hv := unpacked_infinite hy hnan
  obtain ⟨hu, -⟩ := canonical_unpacked hx
  rw [lt_iff_compare, lt_iff_compare, hv]
  generalize unpacked x = u at hu
  cases u with
  | notANumber => exact hu.elim
  | infinity s => exact hu.elim
  | zero s | finite s m e hm => cases sign y <;> cases s <;> simp [UnpackedFloat.compare]

/-- A double that is above a finite one, and above another finite one not, is finite. -/
theorem isFinite_of_lt_of_not_lt (hx : isFinite x = true) (hz : isFinite z = true) (hlt : x < y)
    (hnot : ¬ z < y) : isFinite y = true ∧ value x < value y ∧ value y ≤ value z := by
  have hy : isFinite y = true := by
    by_contra hinf
    have hinf : isFinite y = false := Bool.eq_false_iff.2 hinf
    have hnan : isNaN y = false := Bool.eq_false_iff.2 fun h => not_lt_of_isNaN (.inr h) hlt
    exact hnot ((lt_infinite_iff hz hinf hnan).1.2 ((lt_infinite_iff hx hinf hnan).1.1 hlt))
  rw [lt_iff_of_isFinite hx hy] at hlt
  rw [lt_iff_of_isFinite hz hy, not_lt] at hnot
  exact ⟨hy, hlt, hnot⟩

/-- A double that is below a finite one, and below another finite one not, is finite. -/
theorem isFinite_of_gt_of_not_gt (hx : isFinite x = true) (hz : isFinite z = true) (hgt : y < x)
    (hnot : ¬ y < z) : isFinite y = true ∧ value z ≤ value y ∧ value y < value x := by
  have hy : isFinite y = true := by
    by_contra hinf
    have hinf : isFinite y = false := Bool.eq_false_iff.2 hinf
    have hnan : isNaN y = false := Bool.eq_false_iff.2 fun h => not_lt_of_isNaN (.inl h) hgt
    exact hnot ((lt_infinite_iff hz hinf hnan).2.2 ((lt_infinite_iff hx hinf hnan).2.1 hgt))
  rw [lt_iff_of_isFinite hy hx] at hgt
  rw [lt_iff_of_isFinite hy hz, not_lt] at hnot
  exact ⟨hy, hnot, hgt⟩

/-! ### Positive doubles -/

theorem isNaN_of_isFinite (h : isFinite x = true) : isNaN x = false := by
  by_contra hnan
  exact absurd (h.symm.trans (isFinite_of_isNaN (by simpa using hnan))) (by decide)

theorem isNaN_of_compareInt {n : ℤ} (h : compareInt x n = none) : isNaN x = true := by
  cases hfinite : isFinite x with
  | true =>
    rw [compareInt_of_isFinite hfinite] at h
    cases h
  | false =>
    cases hnan : isNaN x with
    | true => rfl
    | false =>
      rw [compareInt, hfinite, hnan] at h
      cases h

/-- The double is above zero: it may be infinite, but is no NaN. -/
structure IsPositive (x : Float) : Prop where
  isNaN : isNaN x = false
  sign : sign x = .positive
  value : isFinite x = true → 0 < value x

theorem sign_of_value_pos (h : 0 < value x) : sign x = .positive := by
  cases hs : sign x with
  | positive => rfl
  | negative =>
    have hneg : value x = -(magnitude x * 2 ^ exponent x) := by
      rw [value, significand_eq, apply_eq, hs]
      rfl
    have : (0 : ℚ) ≤ magnitude x * 2 ^ exponent x := by positivity
    linarith

theorem isPositive_of_value_pos (hx : isFinite x = true) (h : 0 < value x) : IsPositive x where
  isNaN := isNaN_of_isFinite hx
  sign := sign_of_value_pos h
  value _ := h

/-- A double is above zero when it compares so with the whole number. -/
theorem isPositive_iff : IsPositive x ↔ compareInt x 0 = some .gt := by
  cases hx : isFinite x with
  | true =>
    rw [compareInt_of_isFinite hx, Option.some.injEq, compare_gt_iff_gt, Int.cast_zero]
    exact ⟨fun h => h.value hx, isPositive_of_value_pos hx⟩
  | false =>
    have hcompare : compareInt x 0 =
        if isNaN x then none else some (if isNegative x then .lt else .gt) := by
      rw [compareInt, hx]
      rfl
    have hsign : sign x = .positive ↔ isNegative x = false := by
      rw [sign]
      cases isNegative x <;> simp
    rw [hcompare]
    constructor
    · intro h
      rw [h.isNaN, hsign.1 h.sign]
      rfl
    · intro h
      cases hnan : isNaN x with
      | true => simp [hnan] at h
      | false =>
        refine ⟨hnan, hsign.2 ?_, fun hfinite => absurd (hx.symm.trans hfinite) (by decide)⟩
        cases hneg : isNegative x with
        | true => simp [hnan, hneg] at h
        | false => rfl

theorem isPositive_one : IsPositive 1.0 := isPositive_iff.2 rfl

/-! ### Infinities -/

/-- A finite double divided by an infinity is zero. -/
theorem div_infinite (hx : isFinite x = true) (hy : isFinite y = false) (hnan : isNaN y = false) :
    isFinite (x / y) = true ∧ value (x / y) = 0 := by
  have hv := unpacked_infinite hy hnan
  obtain ⟨hu, -⟩ := canonical_unpacked hx
  have hdiv : ∃ s, x / y = packed (.zero s) := by
    show ∃ s, packed (UnpackedFloat.div Format.binary64 (unpacked x) (unpacked y)) = _
    rw [hv]
    generalize unpacked x = u at hu
    cases u with
    | notANumber => exact hu.elim
    | infinity s => exact hu.elim
    | zero s => exact ⟨_, rfl⟩
    | finite s m e hm => exact ⟨_, rfl⟩
  obtain ⟨s, hs⟩ := hdiv
  rw [hs]
  exact value_packed (u := .zero s) trivial

/-- An infinity times a finite double that is not zero is an infinity. -/
theorem mul_infinite (hx : isFinite x = true) (hne : value x ≠ 0) (hy : isFinite y = false)
    (hnan : isNaN y = false) : isFinite (x * y) = false ∧ isNaN (x * y) = false := by
  have hv := unpacked_infinite hy hnan
  obtain ⟨hu, hworth⟩ := canonical_unpacked hx
  rw [← hworth] at hne
  have hmul : ∃ s, x * y = packed (.infinity s) := by
    show ∃ s, packed (UnpackedFloat.mul Format.binary64 (unpacked x) (unpacked y)) = _
    rw [hv]
    generalize unpacked x = u at hu hne
    cases u with
    | notANumber => exact hu.elim
    | infinity s => exact hu.elim
    | zero s => exact absurd rfl hne
    | finite s m e hm => exact ⟨_, rfl⟩
  obtain ⟨s, hs⟩ := hmul
  rw [hs]
  exact (packed_infinity s).2

/-! ### Inverses -/

theorem representable_two_zpow {e : ℤ} (h : -1074 ≤ e) (h' : e ≤ 1023) : Representable (2 ^ e) := by
  by_cases hsmall : e ≤ 971
  · exact ⟨1, e, by decide, h, hsmall, by rw [Int.cast_one, one_mul]⟩
  · refine ⟨2 ^ 52, e - 52, by decide, by omega, by omega, ?_⟩
    rw [Int.cast_pow, Int.cast_ofNat, ← zpow_natCast, ← zpow_add₀ two_ne_zero]
    congr 1
    omega

/-- Whole numbers with as many bits as a significand are less than greater powers of two. -/
theorem natCast_lt_two_zpow {n : ℕ} (hn : n < 2 ^ 53) {e : ℤ} (he : 53 ≤ e) : (n : ℚ) < 2 ^ e :=
  calc (n : ℚ) < (2 ^ 53 : ℕ) := by exact_mod_cast hn
    _ = 2 ^ (53 : ℤ) := by rw [Nat.cast_pow, Nat.cast_ofNat]; rfl
    _ ≤ 2 ^ e := zpow_le_zpow_right₀ one_le_two he

/-- Finite doubles are less than `2 ^ 1024`. -/
theorem value_lt (hx : isFinite x = true) : value x < 2 ^ (1024 : ℤ) := by
  obtain ⟨n, e, hn, -, he, hvalue⟩ := representable_value x hx
  have hn' : (n : ℚ) < 2 ^ (53 : ℤ) := by
    refine (Int.cast_le.2 Int.le_natAbs).trans_lt ?_
    exact_mod_cast natCast_lt_two_zpow hn le_rfl
  calc value x = n * 2 ^ e := hvalue
    _ < 2 ^ (53 : ℤ) * 2 ^ e := by gcongr
    _ ≤ 2 ^ (53 : ℤ) * 2 ^ (971 : ℤ) := by gcongr; exact one_le_two
    _ = 2 ^ (1024 : ℤ) := by rw [← zpow_add₀ two_ne_zero]; rfl

/-- A double above `2 ^ -1024` is so by at least the least of all positive doubles. -/
theorem least_add_le (h : 2 ^ (-1024 : ℤ) < value x) :
    (2 ^ 50 + 1) * 2 ^ (-1074 : ℤ) ≤ value x := by
  have hunit : (0 : ℚ) < 2 ^ (-1074 : ℤ) := by positivity
  -- All doubles are multiples of the least one.
  obtain ⟨n, hn⟩ : ∃ n : ℤ, value x = n * 2 ^ (-1074 : ℤ) := by
    refine ⟨significand x * 2 ^ (exponent x + 1074).toNat, ?_⟩
    have hge := exponent_ge x
    rw [value, Int.cast_mul, Int.cast_pow, Int.cast_ofNat, mul_assoc, ← zpow_natCast,
      Int.toNat_of_nonneg (by omega), ← zpow_add₀ two_ne_zero]
    congr 2
    omega
  have hsplit : (2 : ℚ) ^ (-1024 : ℤ) = (2 ^ 50 : ℤ) * 2 ^ (-1074 : ℤ) := by
    rw [Int.cast_pow, Int.cast_ofNat, ← zpow_natCast, ← zpow_add₀ two_ne_zero]
    rfl
  rw [hn, hsplit, mul_lt_mul_iff_left₀ hunit] at h
  have hle : 2 ^ 50 + 1 ≤ n := by exact_mod_cast h
  rw [hn]
  gcongr
  exact_mod_cast hle

/-- One divided by a positive finite double is positive, and finite unless that is among the very
least. -/
theorem isPositive_inverse (hone : isFinite x = true) (hvalue : value x = 1) (hy : IsPositive y)
    (hfinite : isFinite y = true) :
    IsPositive (x / y) ∧ (2 ^ (-1024 : ℤ) < value y → isFinite (x / y) = true) := by
  have hpos := hy.value hfinite
  have hbeside := beside_div hone hfinite hpos.ne'
  rw [hvalue] at hbeside
  have hleast : (2 : ℚ) ^ (-1024 : ℤ) ≤ 1 / value y := by
    rw [le_div_iff₀ hpos, zpow_neg, inv_mul_le_iff₀ (by positivity), mul_one]
    exact (value_lt hfinite).le
  have hlow := hbeside.atLeast _ (representable_two_zpow (by decide) (by decide)) hleast
  have hlowpos : (0 : ℚ) < 2 ^ (-1024 : ℤ) := by positivity
  constructor
  · rcases hlow with ⟨hfin, hle⟩ | ⟨hinf, hnan, hsign⟩
    · exact isPositive_of_value_pos hfin (hlowpos.trans_le hle)
    · exact ⟨hnan, hsign, fun h => absurd (h.symm.trans hinf) (by decide)⟩
  · intro hbig
    have hgreatest : Representable ((2 ^ 53 - 1 : ℤ) * 2 ^ (971 : ℤ)) :=
      ⟨2 ^ 53 - 1, 971, by decide, by decide, le_rfl, rfl⟩
    refine (isFinite_of_atLeast_of_atMost hlow (hbeside.atMost _ hgreatest ?_)).1
    rw [div_le_iff₀ hpos]
    have hscale : (2 : ℚ) ^ (971 : ℤ) * 2 ^ (-1074 : ℤ) = 1 / 2 ^ 103 := by
      rw [← zpow_add₀ two_ne_zero]
      norm_num
    calc (1 : ℚ) ≤ (2 ^ 53 - 1) * (2 ^ 50 + 1) * (1 / 2 ^ 103) := by norm_num
      _ = ((2 ^ 53 - 1 : ℤ) * 2 ^ (971 : ℤ)) * ((2 ^ 50 + 1) * 2 ^ (-1074 : ℤ)) := by
        rw [mul_mul_mul_comm, hscale]
        norm_num
      _ ≤ ((2 ^ 53 - 1 : ℤ) * 2 ^ (971 : ℤ)) * value y :=
        mul_le_mul_of_nonneg_left (least_add_le hbig) (mul_nonneg (by norm_num) (by positivity))

/-- What one gives when it is divided by a positive double is no NaN. -/
theorem isNaN_inverse (hone : isFinite x = true) (hvalue : value x = 1) (hy : IsPositive y) :
    isNaN (x / y) = false := by
  cases hfinite : isFinite y with
  | true => exact (isPositive_inverse hone hvalue hy hfinite).1.isNaN
  | false => exact isNaN_of_isFinite (div_infinite hone hfinite hy.isNaN).1

end Binary64

end TurtleCanvas
