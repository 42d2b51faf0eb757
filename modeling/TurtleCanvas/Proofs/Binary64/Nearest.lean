import TurtleCanvas.Proofs.Binary64.Beside

/-!
# The double nearest to a quotient

* `Binary64.rounds_nearest` says that the nearest significand and exponent are a rounded quotient;
* `Binary64.beside_of_ofRatio?` and `Binary64.beside_of_ofInt?` say that a double made from a
  quotient, and one made from a whole number, is beside it;
* `Binary64.exists_ofRatio?` says that a quotient below a double can be made a double.
-/

namespace TurtleCanvas

/-- A rounded quotient does not pass a whole number. -/
theorem divRoundEven_bounds (num : ℕ) {den : ℕ} (hden : 0 < den) (k : ℕ) :
    (k * den ≤ num → k ≤ divRoundEven num den) ∧ (num ≤ k * den → divRoundEven num den ≤ k) := by
  obtain ⟨h, h', -⟩ := divRoundEven_spec num hden
  generalize divRoundEven num den = d at h h' ⊢
  constructor
  · intro hk
    by_contra hlt
    have : (d + 1) * den ≤ k * den := Nat.mul_le_mul_right _ (not_le.1 hlt)
    rw [Nat.succ_mul] at this
    omega
  · intro hk
    by_contra hlt
    have : (k + 1) * den ≤ d * den := Nat.mul_le_mul_right _ (not_le.1 hlt)
    rw [Nat.succ_mul] at this
    omega

namespace Binary64

open Float.Model.UnpackedFloat (Sign)

theorem two_zpow_mul (e : ℤ) (he : 0 ≤ e) : ((2 ^ e.toNat : ℕ) : ℚ) = 2 ^ e := by
  push_cast
  rw [← zpow_natCast, Int.toNat_of_nonneg he]

/-- A scaled quotient as one of natural numbers. -/
theorem scaled_quotient (num : ℕ) {den : ℕ} (hden : 0 < den) (e : ℤ) :
    (0 ≤ e → ((num : ℚ) / den) = (num / (den * 2 ^ e.toNat : ℕ)) * 2 ^ e) ∧
      (e < 0 → ((num : ℚ) / den) = ((num * 2 ^ (-e).toNat : ℕ) / den) * 2 ^ e) := by
  have hd : (den : ℚ) ≠ 0 := by exact_mod_cast hden.ne'
  have hu : (2 : ℚ) ^ e ≠ 0 := zpow_ne_zero _ two_ne_zero
  constructor
  · intro he
    rw [Nat.cast_mul, two_zpow_mul e he]
    field_simp
  · intro he
    rw [Nat.cast_mul, two_zpow_mul (-e) (by omega), zpow_neg]
    field_simp

/-- The order of a quotient and a power of two, on natural numbers. -/
theorem two_zpow_le_quotient_iff {num den : ℕ} (hden : 0 < den) (e : ℤ) :
    (0 ≤ e → (2 ^ e ≤ (num : ℚ) / den ↔ den * 2 ^ e.toNat ≤ num)) ∧
      (e < 0 → (2 ^ e ≤ (num : ℚ) / den ↔ den ≤ num * 2 ^ (-e).toNat)) := by
  have hd : (0 : ℚ) < den := by exact_mod_cast hden
  constructor
  · intro he
    rw [le_div_iff₀ hd, ← two_zpow_mul e he, mul_comm]
    exact_mod_cast Iff.rfl
  · intro he
    have hu : (0 : ℚ) < (2 ^ (-e).toNat : ℕ) := by positivity
    rw [le_div_iff₀ hd, ← neg_neg e, zpow_neg, ← two_zpow_mul (-e) (by omega), ← div_eq_inv_mul,
      div_le_iff₀ hu, neg_neg]
    exact_mod_cast Iff.rfl

/-- The bits of two numbers tell those of their quotient up to one. -/
theorem log2_quotient {num den : ℕ} (hnum : 0 < num) (hden : 0 < den) :
    (2 : ℚ) ^ ((num.log2 : ℤ) - den.log2 - 1) ≤ (num : ℚ) / den ∧
      (num : ℚ) / den < 2 ^ ((num.log2 : ℤ) - den.log2 + 1) := by
  have hd : (0 : ℚ) < den := by exact_mod_cast hden
  have hn1 : (2 : ℚ) ^ num.log2 ≤ num := by exact_mod_cast Nat.log2_self_le hnum.ne'
  have hn2 : (num : ℚ) < 2 ^ (num.log2 + 1) := by exact_mod_cast Nat.lt_log2_self
  have hd1 : (2 : ℚ) ^ den.log2 ≤ den := by exact_mod_cast Nat.log2_self_le hden.ne'
  have hd2 : (den : ℚ) < 2 ^ (den.log2 + 1) := by exact_mod_cast Nat.lt_log2_self
  constructor
  · rw [le_div_iff₀ hd]
    calc (2 : ℚ) ^ ((num.log2 : ℤ) - den.log2 - 1) * den
        ≤ 2 ^ ((num.log2 : ℤ) - den.log2 - 1) * 2 ^ (den.log2 + 1) := by gcongr
      _ = 2 ^ num.log2 := by
        rw [← zpow_natCast, ← zpow_natCast, ← zpow_add₀ two_ne_zero]
        congr 1
        push_cast
        ring
      _ ≤ num := hn1
  · rw [div_lt_iff₀ hd]
    calc (num : ℚ) < 2 ^ (num.log2 + 1) := hn2
      _ = 2 ^ ((num.log2 : ℤ) - den.log2 + 1) * 2 ^ den.log2 := by
        rw [← zpow_natCast, ← zpow_natCast, ← zpow_add₀ two_ne_zero]
        congr 1
        push_cast
        ring
      _ ≤ 2 ^ ((num.log2 : ℤ) - den.log2 + 1) * den := by gcongr

/-- A rounded quotient, scaled. -/
theorem rounds_divRoundEven {q : ℚ} {num den : ℕ} {e : ℤ} (hden : 0 < den)
    (hq : q = num / den * 2 ^ e) (hleast : -1074 ≤ e) (hlt : q < 2 ^ 53 * 2 ^ e)
    (hfull : e = -1074 ∨ 2 ^ 52 * 2 ^ e ≤ q) : Rounds q (divRoundEven num den) e := by
  have hd : (0 : ℚ) < den := by exact_mod_cast hden
  have hu : (0 : ℚ) < 2 ^ e := by positivity
  refine ⟨hleast, hlt, hfull, fun k hk => ?_, fun k hk => ?_⟩
  · rw [hq, mul_le_mul_iff_of_pos_right hu, le_div_iff₀ hd] at hk
    exact (divRoundEven_bounds num hden k).1 (by exact_mod_cast hk)
  · rw [hq, mul_le_mul_iff_of_pos_right hu, div_le_iff₀ hd] at hk
    exact (divRoundEven_bounds num hden k).2 (by exact_mod_cast hk)

/-- The place of the leading bit of a quotient, as `nearestWith` finds it. -/
def leading (num den : ℕ) : ℤ :=
  let guess : ℤ := (num.log2 : ℤ) - den.log2
  let atLeast : Bool :=
    if 0 ≤ guess then decide (den * 2 ^ guess.toNat ≤ num)
    else decide (den ≤ num * 2 ^ (-guess).toNat)
  if atLeast then guess else guess - 1

theorem leading_spec {num den : ℕ} (hnum : 0 < num) (hden : 0 < den) :
    2 ^ leading num den ≤ (num : ℚ) / den ∧ (num : ℚ) / den < 2 ^ (leading num den + 1) := by
  obtain ⟨hlow, hhigh⟩ := log2_quotient hnum hden
  obtain ⟨hpos, hneg⟩ := @two_zpow_le_quotient_iff num _ hden ((num.log2 : ℤ) - den.log2)
  rw [leading]
  generalize (num.log2 : ℤ) - den.log2 = guess at hlow hhigh hpos hneg ⊢
  have hiff : (if 0 ≤ guess then decide (den * 2 ^ guess.toNat ≤ num)
      else decide (den ≤ num * 2 ^ (-guess).toNat)) = true ↔ 2 ^ guess ≤ (num : ℚ) / den := by
    split_ifs with h
    · rw [decide_eq_true_eq, hpos h]
    · rw [decide_eq_true_eq, hneg (not_le.1 h)]
  by_cases h : 2 ^ guess ≤ (num : ℚ) / den
  · simp only [hiff.2 h, if_true]
    exact ⟨h, hhigh⟩
  · simp only [Bool.eq_false_iff.2 (mt hiff.1 h)]
    exact ⟨hlow, by simpa using not_le.1 h⟩

theorem nearest_eq {num den : ℕ} (hnum : 0 < num) :
    nearest num den =
      let scale := max (leading num den - 52) (-1074)
      if 0 ≤ scale then ⟨divRoundEven num (den * 2 ^ scale.toNat), scale⟩
      else ⟨divRoundEven (num * 2 ^ (-scale).toNat) den, scale⟩ := by
  rw [nearest, nearestWith, if_neg hnum.ne']
  rfl

/-- **The nearest double is a rounded quotient.** -/
theorem rounds_nearest {num den : ℕ} (hnum : 0 < num) (hden : 0 < den) :
    Rounds ((num : ℚ) / den) (nearest num den).magnitude (nearest num den).scale := by
  obtain ⟨hlow, hhigh⟩ := leading_spec hnum hden
  rw [nearest_eq hnum]
  generalize leading num den = l at hlow hhigh ⊢
  obtain ⟨e, he⟩ : ∃ e, e = max (l - 52) (-1074) := ⟨_, rfl⟩
  have hlt : (num : ℚ) / den < 2 ^ 53 * 2 ^ e :=
    calc (num : ℚ) / den < 2 ^ (l + 1) := hhigh
      _ ≤ 2 ^ (53 + e) := zpow_le_zpow_right₀ one_le_two (by omega)
      _ = 2 ^ 53 * 2 ^ e := by rw [zpow_add₀ two_ne_zero]; norm_num
  have hfull : e = -1074 ∨ 2 ^ 52 * 2 ^ e ≤ (num : ℚ) / den := by
    rcases le_or_gt (l - 52) (-1074) with hl | hl
    · exact .inl (by omega)
    · have hl' : l = 52 + e := by omega
      rw [hl', zpow_add₀ two_ne_zero] at hlow
      exact .inr (by exact_mod_cast hlow)
  have hleast : -1074 ≤ e := by omega
  obtain ⟨hpos, hneg⟩ := scaled_quotient num hden e
  dsimp only
  rw [← he]
  split_ifs with hsign
  · exact rounds_divRoundEven (by positivity) (hpos hsign) hleast hlt hfull
  · exact rounds_divRoundEven hden (hneg (not_le.1 hsign)) hleast hlt hfull

/-! ### Doubles nearest to a quotient -/

theorem rounds_zero : Rounds 0 0 (-1074) :=
  ⟨le_rfl, by positivity, .inl rfl, fun k hk => by
    by_contra hpos
    have : (0 : ℚ) < k := by exact_mod_cast not_le.1 hpos
    have : (0 : ℚ) < k * 2 ^ (-1074 : ℤ) := by positivity
    linarith, fun _ _ => Nat.zero_le _⟩

/-- The bits of a nearest double are a rounded quotient and its scale. -/
theorem exists_nearestBits (num : ℕ) {den : ℕ} (hden : 0 < den) : ∃ m e,
    Rounds ((num : ℚ) / den) m e ∧ nearestBits num den = (e + 1074).toNat * 2 ^ 52 + m := by
  rcases Nat.eq_zero_or_pos num with rfl | hnum
  · exact ⟨0, -1074, by simpa using rounds_zero, rfl⟩
  · exact ⟨_, _, rounds_nearest hnum hden, by rw [nearestBits, if_neg hnum.ne']⟩

theorem nearestBits_lt_iff {q : ℚ} {m : ℕ} {e : ℤ} (h : Rounds q m e) :
    (e + 1074).toNat * 2 ^ 52 + m < 2047 * 2 ^ 52 ↔ InRange m e := by
  have hle := h.le_two_pow
  have hfull := h.le_or_least
  have hleast := h.least
  rw [InRange]
  omega

/-- The sign of a number that is negative or not. -/
def signIf (negative : Bool) : Sign := if negative then .negative else .positive

theorem toBits_ofSignedBits (negative : Bool) {bits : ℕ} (h : bits < 2047 * 2 ^ 52) :
    (Float.ofBits (UInt64.ofNat (if negative then bits + 2 ^ 63 else bits))).toBits.toNat =
      signBit (signIf negative) + bits := by
  cases negative with
  | true =>
    have hnat : (UInt64.ofNat (bits + 2 ^ 63)).toNat = bits + 2 ^ 63 :=
      UInt64.toNat_ofNat_of_lt (by show _ < 2 ^ 64; omega)
    rw [if_pos rfl, toBits_ofBits (by rw [hnat]; omega), hnat]
    exact Nat.add_comm _ _
  | false =>
    have hnat : (UInt64.ofNat bits).toNat = bits :=
      UInt64.toNat_ofNat_of_lt (by show _ < 2 ^ 64; omega)
    rw [if_neg (by decide), toBits_ofBits (by rw [hnat]; omega), hnat]
    exact (Nat.zero_add _).symm

/-- **A double made from a quotient is beside it**, and finite. -/
theorem beside_of_ofRatio? {negative : Bool} {num den : ℕ} (hden : 0 < den) {x : Float}
    (h : ofRatio? negative num den = some x) :
    isFinite x = true ∧ Beside (signed (signIf negative) (num / den)) x := by
  obtain ⟨m, e, hr, hbits⟩ := exists_nearestBits num hden
  have hlt : (e + 1074).toNat * 2 ^ 52 + m < 2047 * 2 ^ 52 := by
    by_contra hlt
    rw [ofRatio?, hbits, if_neg hlt] at h
    exact nomatch h
  rw [ofRatio?, hbits, if_pos hlt] at h
  have hrange : InRange m e := (nearestBits_lt_iff hr).1 hlt
  have hx : Holds x (signIf negative) m e := by
    refine holds_of_toBits hr.le_two_pow hr.least hr.le_or_least hrange ?_
    rw [← Option.some.inj h, toBits_ofSignedBits negative hlt, ← Nat.add_assoc]
  exact ⟨(hx.inRange hrange).1, hx.beside hr (by positivity)⟩

/-- A quotient that is not above all doubles can be made a double. -/
theorem exists_ofRatio? (negative : Bool) {num den : ℕ} (hden : 0 < den) {r : ℚ}
    (hr : Representable r) (hle : (num : ℚ) / den ≤ r) :
    ∃ x, ofRatio? negative num den = some x := by
  obtain ⟨m, e, hround, hbits⟩ := exists_nearestBits num hden
  have hrange : InRange m e := (hround.representable_le (by positivity) hr hle).1
  rw [ofRatio?, hbits]
  exact ⟨_, if_pos ((nearestBits_lt_iff hround).2 hrange)⟩

theorem signed_natAbs (n : ℤ) : signed (signIf (decide (n < 0))) (n.natAbs / (1 : ℕ)) = n := by
  rw [Nat.cast_one, div_one, Nat.cast_natAbs]
  by_cases h : n < 0
  · rw [signIf, decide_eq_true h, if_pos rfl, abs_of_neg h]
    show -((-n : ℤ) : ℚ) = n
    push_cast
    ring
  · rw [signIf, decide_eq_false h, if_neg (by decide), abs_of_nonneg (not_lt.1 h)]
    rfl

/-- A double made from a whole number is beside it, and finite. -/
theorem beside_of_ofInt? {n : ℤ} {x : Float} (h : ofInt? n = some x) :
    isFinite x = true ∧ Beside n x := by
  obtain ⟨hfinite, hx⟩ := beside_of_ofRatio? one_pos h
  rw [signed_natAbs] at hx
  exact ⟨hfinite, hx⟩

/-- A whole number that is the value of a double can be made that double. -/
theorem exists_ofInt? {n : ℤ} (h : Representable n) :
    ∃ x, ofInt? n = some x ∧ isFinite x = true ∧ value x = n := by
  have habs : (n.natAbs : ℚ) / (1 : ℕ) = |(n : ℚ)| := by
    rw [Nat.cast_one, div_one, Nat.cast_natAbs, Int.cast_abs]
  obtain ⟨x, hx⟩ := exists_ofRatio? (decide (n < 0)) one_pos (representable_abs h) habs.le
  exact ⟨x, hx, (beside_of_ofInt? hx).2.value_eq h⟩

end Binary64
end TurtleCanvas
