import TurtleCanvas.Proofs.Binary64.Shift

/-!
# Arithmetic of doubles

* `Binary64.isFinite_add`, `Binary64.isFinite_mul`, … : an operation on an infinity or a NaN gives
  one again;
* `Binary64.beside_add`, `Binary64.beside_sub`, `Binary64.beside_mul` and `Binary64.beside_div` say
  that an operation on finite doubles gives a double beside the exact result;
* `Binary64.compareInt_of_isFinite` says that a finite double is compared by its exact value.
-/

namespace TurtleCanvas

namespace Binary64

open Float.Model Float.Model.UnpackedFloat

/-! ### Infinities and NaNs -/

/-- The parts of an infinity or a NaN. -/
def IsSpecial : UnpackedFloat → Prop
  | .notANumber | .infinity _ => True
  | .zero _ | .finite .. => False

theorem isSpecial_unpacked {x : Float} (h : isFinite x = false) : IsSpecial (unpacked x) := by
  rcases unpacked_of_isFinite_eq_false h with ⟨-, hu⟩ | ⟨-, hu⟩
  · rw [hu]; trivial
  · rw [hu]; trivial

theorem isFinite_packed_of_isSpecial {u : UnpackedFloat} (h : IsSpecial u) :
    isFinite (packed u) = false := by
  cases u with
  | notANumber => rfl
  | infinity s => exact (packed_infinity s).2.1
  | zero s => exact h.elim
  | finite s m e hm => exact h.elim

variable {x y : Float}

theorem isSpecial_add {u v : UnpackedFloat} (h : IsSpecial u ∨ IsSpecial v) :
    IsSpecial (UnpackedFloat.add Format.binary64 u v) := by
  cases u <;> cases v <;> simp_all [IsSpecial, UnpackedFloat.add]
  split_ifs <;> trivial

theorem isSpecial_mul {u v : UnpackedFloat} (h : IsSpecial u ∨ IsSpecial v) :
    IsSpecial (UnpackedFloat.mul Format.binary64 u v) := by
  cases u <;> cases v <;> simp_all [IsSpecial, UnpackedFloat.mul]

theorem isSpecial_div {u v : UnpackedFloat} (h : IsSpecial u) :
    IsSpecial (UnpackedFloat.div Format.binary64 u v) := by
  cases u <;> cases v <;> simp_all [IsSpecial, UnpackedFloat.div]

theorem isSpecial_neg {u : UnpackedFloat} (h : IsSpecial u) : IsSpecial u.neg := by
  cases u <;> simp_all [IsSpecial, UnpackedFloat.neg]

theorem isFinite_add (h : isFinite x = false ∨ isFinite y = false) : isFinite (x + y) = false :=
  isFinite_packed_of_isSpecial (isSpecial_add (h.imp isSpecial_unpacked isSpecial_unpacked))

theorem isFinite_mul (h : isFinite x = false ∨ isFinite y = false) : isFinite (x * y) = false :=
  isFinite_packed_of_isSpecial (isSpecial_mul (h.imp isSpecial_unpacked isSpecial_unpacked))

theorem isFinite_div (h : isFinite x = false) : isFinite (x / y) = false :=
  isFinite_packed_of_isSpecial (isSpecial_div (isSpecial_unpacked h))

theorem isFinite_neg (h : isFinite x = false) : isFinite (-x) = false :=
  isFinite_packed_of_isSpecial (isSpecial_neg (isSpecial_unpacked h))

theorem isFinite_of_isNaN (h : isNaN x = true) : isFinite x = false := by
  rw [isNaN, Bool.and_eq_true, beq_iff_eq] at h
  simp [isFinite, h.1]

theorem isNaN_mul (h : isNaN x = true) : isNaN (x * y) = true := by
  have hx : unpacked x = .notANumber := by
    rcases unpacked_of_isFinite_eq_false (isFinite_of_isNaN h) with ⟨-, hu⟩ | ⟨hnan, -⟩
    · exact hu
    · exact absurd (h.symm.trans hnan) (by decide)
  show isNaN (packed (UnpackedFloat.mul Format.binary64 (unpacked x) (unpacked y))) = true
  rw [hx, UnpackedFloat.mul]
  rfl

/-! ### Finite doubles -/

/-- The exact value of parts. -/
def worth : UnpackedFloat → ℚ
  | .finite s m e _ => signed s (m * 2 ^ e)
  | .zero _ | .infinity _ | .notANumber => 0

@[simp] theorem worth_zero (s : Sign) : worth (.zero s) = 0 := rfl

theorem worth_finite (s : Sign) {m : ℕ} (e : ℤ) (hm : 0 < m) :
    worth (.finite s m e hm) = signed s (m * 2 ^ e) := rfl

theorem signed_zero (s : Sign) : signed s 0 = 0 := by
  cases s with
  | negative => exact neg_zero
  | positive => rfl

/-- Parts as those of a finite double. -/
def Canonical : UnpackedFloat → Prop
  | .finite _ m e _ => m < 2 ^ 53 ∧ -1074 ≤ e ∧ e ≤ 971 ∧ (2 ^ 52 ≤ m ∨ e = -1074)
  | .zero _ => True
  | .infinity _ | .notANumber => False

theorem canonical_unpacked (h : isFinite x = true) :
    Canonical (unpacked x) ∧ worth (unpacked x) = value x := by
  have hvalue : value x = signed (sign x) (magnitude x * 2 ^ exponent x) := by
    rw [value, significand_eq, apply_eq]
  rcases unpacked_of_isFinite h with ⟨hzero, hu⟩ | ⟨hm, hu⟩
  · rw [hu, hvalue, hzero, Nat.cast_zero, zero_mul, signed_zero]
    exact ⟨trivial, rfl⟩
  · rw [hu, hvalue]
    exact ⟨⟨magnitude_lt x, exponent_ge x, exponent_le h, le_magnitude x⟩, rfl⟩

theorem value_packed {u : UnpackedFloat} (h : Canonical u) :
    isFinite (packed u) = true ∧ value (packed u) = worth u := by
  cases u with
  | notANumber => exact h.elim
  | infinity s => exact h.elim
  | zero s =>
    obtain ⟨hfinite, hvalue⟩ := (holds_of_toBits (m := 0) (e := -1074) (Nat.zero_le _) le_rfl
      (.inr rfl) (.inl (by decide)) (toBits_packed_zero s)).inRange (.inl (by decide))
    rw [Nat.cast_zero, zero_mul, signed_zero] at hvalue
    exact ⟨hfinite, hvalue⟩
  | finite s m e hm =>
    obtain ⟨hlt, hleast, hgreatest, hfull⟩ := h
    have hrange : InRange m e := hgreatest.lt_or_eq.imp_right fun he => ⟨he, hlt⟩
    exact (holds_of_toBits hlt.le hleast hfull hrange
      (toBits_packed_finite s hm hlt hleast hgreatest hfull)).inRange hrange

theorem beside_value (h : isFinite x = true) : Beside (value x) x :=
  ⟨fun _ _ hle => .inl ⟨h, hle⟩, fun _ _ hle => .inl ⟨h, hle⟩⟩

/-- Parts of a double are not rounded when they are put together. -/
theorem beside_packed {u : UnpackedFloat} (h : Canonical u) : Beside (worth u) (packed u) := by
  obtain ⟨hfinite, hvalue⟩ := value_packed h
  rw [← hvalue]
  exact beside_value hfinite

theorem approximates_exact (m : ℕ) (e : ℤ) : Approximates m e .exact (m * 2 ^ e) :=
  ⟨le_rfl, by gcongr; exact lt_add_one _, by simp⟩

theorem le_log2_of_le {m k : ℕ} (h : 2 ^ k ≤ m) : k ≤ m.log2 :=
  (Nat.le_log2 (by have := Nat.two_pow_pos k; omega)).2 h

/-! #### Products and quotients -/

theorem signed_mul_signed (s t : Sign) (a b : ℚ) :
    signed s a * signed t b = signed (s * t) (a * b) := by
  cases s <;> cases t
  · exact neg_mul_neg a b
  · exact neg_mul a b
  · exact mul_neg a b
  · rfl

theorem beside_packed_mul {u v : UnpackedFloat} (hu : Canonical u) (hv : Canonical v) :
    Beside (worth u * worth v) (packed (UnpackedFloat.mul Format.binary64 u v)) := by
  have zero : ∀ s : Sign, Beside 0 (packed (.zero s)) :=
    fun s => beside_packed (u := .zero s) trivial
  cases u with
  | notANumber => exact hu.elim
  | infinity s => exact hu.elim
  | zero s =>
    cases v with
    | notANumber => exact hv.elim
    | infinity t => exact hv.elim
    | zero t => rw [worth_zero, zero_mul]; exact zero _
    | finite t n f hn => rw [worth_zero, zero_mul]; exact zero _
  | finite s m e hm =>
    cases v with
    | notANumber => exact hv.elim
    | infinity t => exact hv.elim
    | zero t => rw [worth_zero, mul_zero]; exact zero _
    | finite t n f hn =>
      have hq : worth (.finite s m e hm) * worth (.finite t n f hn) =
          signed (s * t) ((m * n : ℕ) * 2 ^ (e + f)) := by
        rw [worth_finite, worth_finite, signed_mul_signed, zpow_add₀ two_ne_zero]
        congr 1
        push_cast
        ring
      rw [hq]
      refine beside_roundWithAccuracy (s * t) (approximates_exact _ _) ?_
      obtain ⟨-, -, -, hfull⟩ := hu
      obtain ⟨-, -, -, hfull'⟩ := hv
      rcases hfull with hm52 | he
      · exact .inl (le_log2_of_le (hm52.trans (Nat.le_mul_of_pos_right m hn)))
      · rcases hfull' with hn52 | hf
        · exact .inl (le_log2_of_le (hn52.trans (Nat.le_mul_of_pos_left n hm)))
        · exact .inr (by omega)

/-! #### Sums and differences -/

theorem beside_round (s : Sign) {m : ℕ} (hm : 0 < m) (e : ℤ) :
    Beside (signed s (m * 2 ^ e)) (packed (UnpackedFloat.round Format.binary64 s m e)) := by
  rw [UnpackedFloat.round, targetExponent_eq, decreaseExponent]
  dsimp only
  obtain ⟨k, hk⟩ : ∃ k, k = (e - max ((m.log2 : ℤ) + e - 52) (-1074)).toNat := ⟨_, rfl⟩
  rw [← hk, Nat.shiftLeft_eq]
  have hq : (m : ℚ) * 2 ^ e = (m * 2 ^ k : ℕ) * 2 ^ (e - k) := by
    rw [zpow_sub₀ two_ne_zero, zpow_natCast]
    push_cast
    field_simp
  rw [hq]
  refine beside_roundWithAccuracy s (approximates_exact _ _) ?_
  have hlog : m.log2 + k ≤ (m * 2 ^ k).log2 := by
    refine le_log2_of_le ?_
    rw [Nat.pow_add]
    exact Nat.mul_le_mul_right _ (Nat.log2_self_le hm.ne')
  omega

theorem beside_normalize (n : ℤ) (e : ℤ) (s : Sign) :
    Beside (n * 2 ^ e) (packed (UnpackedFloat.normalize Format.binary64 n e s)) := by
  rw [UnpackedFloat.normalize]
  rcases lt_trichotomy n 0 with h | rfl | h
  · rw [Int.compare_eq_lt.2 h]
    have hq : (n : ℚ) * 2 ^ e = signed .negative ((-n).toNat * 2 ^ e) := by
      have : (((-n).toNat : ℤ) : ℚ) = ((-n : ℤ) : ℚ) := by rw [Int.toNat_of_nonneg (by omega)]
      rw [Int.cast_natCast] at this
      rw [signed, this]
      push_cast
      ring
    rw [hq]
    exact beside_round .negative (by omega) e
  · rw [Int.cast_zero, zero_mul]
    exact beside_packed (u := .zero s) trivial
  · rw [Int.compare_eq_gt.2 h]
    have hq : (n : ℚ) * 2 ^ e = signed .positive (n.toNat * 2 ^ e) := by
      have : ((n.toNat : ℤ) : ℚ) = n := by rw [Int.toNat_of_nonneg h.le]
      rw [Int.cast_natCast] at this
      rw [signed, this]
    rw [hq]
    exact beside_round .positive (by omega) e

/-- The parts of a sum in the smaller of the two units. -/
theorem signed_eq_scaled (s : Sign) (m : ℕ) {e f : ℤ} (h : f ≤ e) :
    signed s (m * 2 ^ e) = (s.apply (m <<< (e - f).toNat : ℕ) : ℤ) * 2 ^ f := by
  rw [apply_eq, Nat.shiftLeft_eq]
  congr 1
  push_cast
  rw [mul_assoc, ← zpow_natCast, Int.toNat_of_nonneg (by omega), ← zpow_add₀ two_ne_zero,
    sub_add_cancel]

theorem beside_packed_add {u v : UnpackedFloat} (hu : Canonical u) (hv : Canonical v) :
    Beside (worth u + worth v) (packed (UnpackedFloat.add Format.binary64 u v)) := by
  cases u with
  | notANumber => exact hu.elim
  | infinity s => exact hu.elim
  | zero s =>
    cases v with
    | notANumber => exact hv.elim
    | infinity t => exact hv.elim
    | zero t =>
      rw [worth_zero, worth_zero, zero_add, UnpackedFloat.add]
      split_ifs
      · exact beside_packed (u := .zero _) trivial
      · exact beside_packed (u := .zero _) trivial
    | finite t n f hn => rw [worth_zero, zero_add]; exact beside_packed hv
  | finite s m e hm =>
    cases v with
    | notANumber => exact hv.elim
    | infinity t => exact hv.elim
    | zero t => rw [worth_zero, add_zero]; exact beside_packed hu
    | finite t n f hn =>
      have hq : worth (.finite s m e hm) + worth (.finite t n f hn) =
          ((s.apply (m <<< (e - min e f).toNat : ℕ) + t.apply (n <<< (f - min e f).toNat : ℕ) : ℤ) :
            ℚ) * 2 ^ min e f := by
        rw [worth_finite, worth_finite, signed_eq_scaled s m (min_le_left e f),
          signed_eq_scaled t n (min_le_right e f)]
        push_cast
        ring
      rw [hq]
      exact beside_normalize _ _ _

theorem apply_neg (s : Sign) (n : ℤ) : (-s).apply n = -s.apply n := by
  cases s with
  | negative => exact (neg_neg n).symm
  | positive => rfl

/-- A difference is the sum with the other sign. -/
theorem sub_eq_add (u v : UnpackedFloat) :
    UnpackedFloat.sub Format.binary64 u v = UnpackedFloat.add Format.binary64 u v.neg := by
  cases u <;> cases v <;>
    simp [UnpackedFloat.sub, UnpackedFloat.add, UnpackedFloat.neg, apply_neg, Int.sub_eq_add_neg]

theorem worth_neg (u : UnpackedFloat) : worth u.neg = -worth u := by
  cases u with
  | notANumber => exact neg_zero.symm
  | infinity s => exact neg_zero.symm
  | zero s => exact neg_zero.symm
  | finite s m e hm =>
    cases s with
    | negative => exact (neg_neg _).symm
    | positive => rfl

theorem canonical_neg {u : UnpackedFloat} (h : Canonical u) : Canonical u.neg := by
  cases u <;> exact h

theorem beside_packed_sub {u v : UnpackedFloat} (hu : Canonical u) (hv : Canonical v) :
    Beside (worth u - worth v) (packed (UnpackedFloat.sub Format.binary64 u v)) := by
  rw [sub_eq_add, sub_eq_add_neg, ← worth_neg]
  exact beside_packed_add hu (canonical_neg hv)

/-! #### Quotients -/

theorem signed_div_signed (s t : Sign) (a b : ℚ) :
    signed s a / signed t b = signed (s / t) (a / b) := by
  cases s <;> cases t
  · exact neg_div_neg_eq a b
  · exact neg_div b a
  · exact div_neg a
  · rfl

/-- A quotient that is cut off, with the accuracy of what was cut off. -/
theorem approximates_quotient (m : ℕ) {n : ℕ} (hn : 0 < n) (e : ℤ) :
    Approximates (m / n) e (accuracyOfFraction (m % n) n) ((m : ℚ) / n * 2 ^ e) := by
  have hn' : (0 : ℚ) < n := by exact_mod_cast hn
  have hu : (0 : ℚ) < 2 ^ e := by positivity
  have hle : m / n * n ≤ m := Nat.div_mul_le_self m n
  have hlt : m < (m / n + 1) * n := by
    rw [mul_comm]
    exact Nat.lt_mul_div_succ m hn
  refine ⟨?_, ?_, ?_⟩
  · rw [mul_le_mul_iff_of_pos_right hu, le_div_iff₀ hn']
    exact_mod_cast hle
  · rw [mul_lt_mul_iff_of_pos_right hu, div_lt_iff₀ hn']
    exact_mod_cast hlt
  · rw [mul_eq_mul_right_iff, or_iff_left hu.ne', div_eq_iff hn'.ne', accuracyOfFraction]
    have hmod : m % n = 0 ↔ (m : ℚ) = (m / n : ℕ) * n := by
      have := Nat.div_add_mod' m n
      constructor
      · intro h
        rw [h, Nat.add_zero] at this
        exact_mod_cast this.symm
      · intro h
        have : m = m / n * n := by exact_mod_cast h
        omega
    rw [← hmod]
    split_ifs with h
    · exact ⟨fun _ => h, fun _ => rfl⟩
    · exact ⟨(nomatch ·), fun h' => absurd h' h⟩

/-- The quotient of two mantissas is taken with enough bits. -/
theorem beside_divCore (s : Sign) {m n : ℕ} (hm : 0 < m) (hn : 0 < n) (e f : ℤ) :
    let core := divCore Format.binary64 m e n f
    Beside (signed s (m * 2 ^ e / (n * 2 ^ f)))
      (packed (roundWithAccuracy Format.binary64 s core.1 core.2.1 core.2.2)) := by
  obtain ⟨t, ht⟩ : ∃ t, t = min (e - f)
      (max ((m.log2 : ℤ) + 1 + e - (n.log2 + 1 + f) - 53) (-1074)) := ⟨_, rfl⟩
  have hcore : divCore Format.binary64 m e n f =
      (m <<< (e - f - t).toNat / n, t,
        accuracyOfFraction (m <<< (e - f - t).toNat % n) n) := by
    rw [ht]
    rfl
  dsimp only
  rw [hcore, Nat.shiftLeft_eq]
  dsimp only
  obtain ⟨k, hk⟩ : ∃ k, k = (e - f - t).toNat := ⟨_, rfl⟩
  rw [← hk]
  have hq : (m : ℚ) * 2 ^ e / (n * 2 ^ f) = ((m * 2 ^ k : ℕ) : ℚ) / n * 2 ^ t := by
    have hek : e = t + f + k := by omega
    have hn' : (n : ℚ) ≠ 0 := by exact_mod_cast hn.ne'
    rw [hek, zpow_add₀ two_ne_zero, zpow_add₀ two_ne_zero, zpow_natCast]
    push_cast
    field_simp
  rw [hq]
  refine beside_roundWithAccuracy s (approximates_quotient _ hn t) ?_
  rcases le_or_gt t (-1074) with hleast | hleast
  · exact .inr hleast
  · left
    refine le_log2_of_le ((Nat.le_div_iff_mul_le hn).2 ?_)
    have hbits : 52 + (n.log2 + 1) ≤ m.log2 + k := by omega
    calc 2 ^ 52 * n ≤ 2 ^ 52 * 2 ^ (n.log2 + 1) := Nat.mul_le_mul_left _ Nat.lt_log2_self.le
      _ = 2 ^ (52 + (n.log2 + 1)) := (Nat.pow_add 2 52 _).symm
      _ ≤ 2 ^ (m.log2 + k) := Nat.pow_le_pow_right (by decide) hbits
      _ = 2 ^ m.log2 * 2 ^ k := Nat.pow_add 2 _ _
      _ ≤ m * 2 ^ k := Nat.mul_le_mul_right _ (Nat.log2_self_le hm.ne')

theorem beside_packed_div {u v : UnpackedFloat} (hu : Canonical u) (hv : Canonical v)
    (hne : worth v ≠ 0) :
    Beside (worth u / worth v) (packed (UnpackedFloat.div Format.binary64 u v)) := by
  cases v with
  | notANumber => exact hv.elim
  | infinity t => exact hv.elim
  | zero t => exact absurd rfl hne
  | finite t n f hn =>
    cases u with
    | notANumber => exact hu.elim
    | infinity s => exact hu.elim
    | zero s =>
      rw [worth_zero, zero_div]
      exact beside_packed (u := .zero _) trivial
    | finite s m e hm =>
      rw [worth_finite, worth_finite, signed_div_signed]
      exact beside_divCore (s / t) hm hn e f

/-! ### Operations on doubles -/

/-- **A sum of finite doubles is beside the exact sum.** -/
theorem beside_add (hx : isFinite x = true) (hy : isFinite y = true) :
    Beside (value x + value y) (x + y) := by
  obtain ⟨hu, hux⟩ := canonical_unpacked hx
  obtain ⟨hv, hvy⟩ := canonical_unpacked hy
  rw [← hux, ← hvy]
  exact beside_packed_add hu hv

/-- A difference of finite doubles is beside the exact difference. -/
theorem beside_sub (hx : isFinite x = true) (hy : isFinite y = true) :
    Beside (value x - value y) (x - y) := by
  obtain ⟨hu, hux⟩ := canonical_unpacked hx
  obtain ⟨hv, hvy⟩ := canonical_unpacked hy
  rw [← hux, ← hvy]
  exact beside_packed_sub hu hv

/-- A product of finite doubles is beside the exact product. -/
theorem beside_mul (hx : isFinite x = true) (hy : isFinite y = true) :
    Beside (value x * value y) (x * y) := by
  obtain ⟨hu, hux⟩ := canonical_unpacked hx
  obtain ⟨hv, hvy⟩ := canonical_unpacked hy
  rw [← hux, ← hvy]
  exact beside_packed_mul hu hv

/-- A quotient of finite doubles is beside the exact quotient. -/
theorem beside_div (hx : isFinite x = true) (hy : isFinite y = true) (hne : value y ≠ 0) :
    Beside (value x / value y) (x / y) := by
  obtain ⟨hu, hux⟩ := canonical_unpacked hx
  obtain ⟨hv, hvy⟩ := canonical_unpacked hy
  rw [← hvy] at hne
  rw [← hux, ← hvy]
  exact beside_packed_div hu hv hne

/-- The other sign of a finite double is exact. -/
theorem value_neg (h : isFinite x = true) : isFinite (-x) = true ∧ value (-x) = -value x := by
  obtain ⟨hu, hux⟩ := canonical_unpacked h
  rw [← hux, ← worth_neg]
  exact value_packed (canonical_neg hu)

theorem compare_congr {α β : Type*} [LinearOrder α] [LinearOrder β] {a b : α} {c d : β}
    (hlt : a < b ↔ c < d) (hgt : b < a ↔ d < c) : compare a b = compare c d := by
  rcases lt_trichotomy a b with h | rfl | h
  · rw [compare_lt_iff_lt.2 h, compare_lt_iff_lt.2 (hlt.1 h)]
  · have hcd : c = d := le_antisymm (not_lt.1 (mt hgt.2 (lt_irrefl a)))
      (not_lt.1 (mt hlt.2 (lt_irrefl a)))
    rw [compare_eq_iff_eq.2 rfl, compare_eq_iff_eq.2 hcd]
  · rw [compare_gt_iff_gt.2 h, compare_gt_iff_gt.2 (hgt.1 h)]

/-- A finite double is compared with a whole number by its exact value. -/
theorem compareInt_of_isFinite (h : isFinite x = true) (n : ℤ) :
    compareInt x n = some (compare (value x) n) := by
  rw [compareInt, if_pos h]
  dsimp only
  split_ifs with he
  · rw [value_of_exponent_nonneg he]
    exact congrArg some (compare_congr Int.cast_lt.symm Int.cast_lt.symm)
  · have hpos : (0 : ℚ) < ((2 ^ (-exponent x).toNat : ℕ) : ℚ) := by positivity
    rw [value_of_exponent_neg (not_le.1 he)]
    refine congrArg some (compare_congr ?_ ?_)
    · rw [div_lt_iff₀ hpos]
      exact_mod_cast Iff.rfl
    · rw [lt_div_iff₀ hpos]
      exact_mod_cast Iff.rfl

theorem unpacked_zero : unpacked 0.0 = .zero .positive := by rfl

/-- A double is compared with zero by its exact value. -/
theorem beq_zero (h : isFinite x = true → value x ≠ 0) : (x == 0.0) = false := by
  show UnpackedFloat.beq (unpacked x) (unpacked 0.0) = false
  rw [unpacked_zero]
  cases hfinite : isFinite x with
  | true =>
    rcases unpacked_of_isFinite hfinite with ⟨hzero, -⟩ | ⟨hm, hu⟩
    · refine absurd ?_ (h hfinite)
      rw [value, significand_eq, apply_eq, hzero, Nat.cast_zero, zero_mul, signed_zero]
    · rw [hu]
      cases sign x <;> rfl
  | false =>
    rcases unpacked_of_isFinite_eq_false hfinite with ⟨-, hu⟩ | ⟨-, hu⟩
    · rw [hu]
      rfl
    · rw [hu]
      cases sign x <;> rfl

/-- A double that is at least a positive number is not zero. -/
theorem AtLeast.value_ne {r : ℚ} (h : AtLeast r x) (hr : 0 < r) (hfinite : isFinite x = true) :
    value x ≠ 0 := by
  rcases h with ⟨-, hle⟩ | ⟨hinf, -, -⟩
  · exact (hr.trans_le hle).ne'
  · exact absurd (hfinite.symm.trans hinf) (by decide)

end Binary64
end TurtleCanvas
