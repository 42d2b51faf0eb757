import Mathlib
import TurtleCanvas.Proofs.Rounding

/-!
# Doubles and their bits

The arithmetic of doubles is defined on doubles taken apart, and the numbers of this library are
read off their bits.  Here the two ways to look at a double are brought together.

* `Binary64.unpacked`, `Binary64.packed` take a double apart and put one together;
* `Binary64.unpacked_of_isFinite` and `Binary64.unpacked_of_isFinite_eq_false` say what the parts of
  a double are;
* `Binary64.value_of_toBits` reads the exact value off the bits.
-/

namespace TurtleCanvas

namespace Binary64

open Float.Model Float.Model.UnpackedFloat

/-- A double taken apart by core's model of doubles. -/
def unpacked (x : Float) : UnpackedFloat := x.toModel.unpack

/-- The double that core's model of doubles puts together. -/
def packed (u : UnpackedFloat) : Float := .ofModel (.pack u)

/-- The sign that the sign bit stands for. -/
def sign (x : Float) : Sign := if isNegative x then .negative else .positive

/-! ### Taking apart -/

theorem exponentField_eq (x : Float) : exponentField x = x.toBits.toNat / 2 ^ 52 % 2048 := by
  rw [exponentField, UInt64.toNat_shiftRight, Nat.shiftRight_eq_div_pow]
  rfl

theorem toNat_unpackExponent (x : Float) :
    (@unpackExponent Format.binary64 x.toModel.toBits.toBitVec).toNat =
      exponentField x := by
  rw [exponentField_eq, unpackExponent, BitVec.toNat_cast, BitVec.extractLsb_toNat,
    Nat.shiftRight_eq_div_pow]
  rfl

theorem toNat_unpackMantissa (x : Float) :
    (@unpackMantissa Format.binary64 x.toModel.toBits.toBitVec).toNat =
      fractionField x := by
  rw [fractionField, unpackMantissa, BitVec.toNat_cast, BitVec.extractLsb_toNat]
  rfl

theorem toNat_unpackSign (x : Float) :
    (@unpackSign Format.binary64 x.toModel.toBits.toBitVec).toNat =
      x.toBits.toNat / 2 ^ 63 := by
  have h : x.toBits.toNat < 2 ^ 64 := x.toBits.toNat_lt
  have h' : x.toBits.toNat / 2 ^ 63 < 2 := by omega
  rw [unpackSign, BitVec.toNat_cast, BitVec.extractLsb_toNat, Nat.shiftRight_eq_div_pow]
  exact Nat.mod_eq_of_lt h'

theorem ofBitVec_unpackSign (x : Float) :
    Sign.ofBitVec (@unpackSign Format.binary64 x.toModel.toBits.toBitVec) = sign x := by
  have h : x.toBits.toNat < 2 ^ 64 := x.toBits.toNat_lt
  have hbit := toNat_unpackSign x
  have hzero : @unpackSign Format.binary64 x.toModel.toBits.toBitVec = 0#1 ↔
      ¬ isNegative x = true := by
    rw [← BitVec.toNat_inj, hbit, isNegative, decide_eq_true_eq, not_le, BitVec.toNat_ofNat]
    omega
  by_cases hneg : isNegative x = true
  · rw [Sign.ofBitVec, if_neg (fun h => hzero.1 h hneg), sign, if_pos hneg]
  · rw [Sign.ofBitVec, if_pos (hzero.2 hneg), sign, if_neg hneg]

theorem exponentField_lt (x : Float) : exponentField x < 2048 := Nat.mod_lt _ (by decide)

theorem fractionField_lt (x : Float) : fractionField x < 2 ^ 52 := Nat.mod_lt _ (by decide)

theorem unpacked_of_isFinite_eq_false {x : Float} (h : isFinite x = false) :
    isNaN x = true ∧ unpacked x = .notANumber ∨
      isNaN x = false ∧ unpacked x = .infinity (sign x) := by
  have hfield : exponentField x = 2047 := by simpa [isFinite] using h
  have hexp : @unpackExponent Format.binary64 x.toModel.toBits.toBitVec = -1#_ := by
    rw [← BitVec.toNat_inj, toNat_unpackExponent, hfield]; rfl
  have hfrac : @unpackMantissa Format.binary64 x.toModel.toBits.toBitVec = 0#_ ↔
      fractionField x = 0 := by
    rw [← BitVec.toNat_inj, toNat_unpackMantissa]; rfl
  by_cases hzero : fractionField x = 0
  · refine .inr ⟨by simp [isNaN, hzero], ?_⟩
    rw [unpacked, Float.Model.unpack, UnpackedFloat.unpack, if_pos hexp, if_pos (hfrac.2 hzero),
      ofBitVec_unpackSign]
  · refine .inl ⟨by simp [isNaN, hzero, hfield], ?_⟩
    rw [unpacked, Float.Model.unpack, UnpackedFloat.unpack, if_pos hexp,
      if_neg (fun h => hzero (hfrac.1 h))]

/-- The significand without its sign. -/
def magnitude (x : Float) : ℕ :=
  if exponentField x = 0 then fractionField x else fractionField x + 2 ^ 52

theorem significand_eq (x : Float) : significand x = (sign x).apply (magnitude x) := by
  cases h : isNegative x with
  | true => rw [significand, sign, h]; rfl
  | false => rw [significand, sign, h]; rfl

theorem magnitude_lt (x : Float) : magnitude x < 2 ^ 53 := by
  have := fractionField_lt x
  rw [magnitude]
  split_ifs <;> omega

theorem exponent_ge (x : Float) : -1074 ≤ exponent x := by
  rw [exponent]
  omega

theorem exponent_le {x : Float} (h : isFinite x = true) : exponent x ≤ 971 := by
  have hlt := exponentField_lt x
  have hfield : exponentField x ≠ 2047 := by simpa [isFinite] using h
  rw [exponent]
  omega

/-- The significand has all its bits unless the exponent is the least. -/
theorem le_magnitude (x : Float) : 2 ^ 52 ≤ magnitude x ∨ exponent x = -1074 := by
  rw [magnitude, exponent]
  split_ifs with h
  · right; rw [h]; rfl
  · left; omega

theorem unpacked_of_isFinite {x : Float} (h : isFinite x = true) :
    magnitude x = 0 ∧ unpacked x = .zero (sign x) ∨
      ∃ hm, unpacked x = .finite (sign x) (magnitude x) (exponent x) hm := by
  have hfield : exponentField x ≠ 2047 := by simpa [isFinite] using h
  have hexp : @unpackExponent Format.binary64 x.toModel.toBits.toBitVec ≠ -1#_ := by
    intro hexp
    rw [← BitVec.toNat_inj, toNat_unpackExponent] at hexp
    exact hfield hexp
  have hexp0 : @unpackExponent Format.binary64 x.toModel.toBits.toBitVec = 0#_ ↔
      exponentField x = 0 := by
    rw [← BitVec.toNat_inj, toNat_unpackExponent]; rfl
  have hfrac : @unpackMantissa Format.binary64 x.toModel.toBits.toBitVec = 0#_ ↔
      fractionField x = 0 := by
    rw [← BitVec.toNat_inj, toNat_unpackMantissa]; rfl
  rw [unpacked, Float.Model.unpack, UnpackedFloat.unpack, if_neg hexp]
  by_cases hzero : exponentField x = 0
  · have hmag : magnitude x = fractionField x := if_pos hzero
    rw [if_pos (hexp0.2 hzero)]
    by_cases hfrac0 : fractionField x = 0
    · left
      rw [dif_pos (hfrac.2 hfrac0), ofBitVec_unpackSign]
      exact ⟨hmag.trans hfrac0, rfl⟩
    · right
      refine ⟨by omega, ?_⟩
      rw [dif_neg (fun h => hfrac0 (hfrac.1 h)), UnpackedFloat.finite.injEq, ofBitVec_unpackSign,
        toNat_unpackMantissa, toNat_unpackExponent, hmag, exponent, hzero]
      exact ⟨rfl, rfl, rfl⟩
  · right
    have hmag : magnitude x = fractionField x + 2 ^ 52 := if_neg hzero
    refine ⟨by omega, ?_⟩
    rw [if_neg (fun h => hzero (hexp0.1 h)), UnpackedFloat.finite.injEq, ofBitVec_unpackSign,
      toNat_unpackExponent, BitVec.toNat_append, toNat_unpackMantissa, hmag, exponent,
      ← Nat.shiftLeft_add_eq_or_of_lt (fractionField_lt x)]
    refine ⟨rfl, Nat.add_comm _ _, ?_⟩
    show (exponentField x : ℤ) - 1075 = _
    omega

/-! ### Putting together -/

/-- The sign bit of a sign, at its place. -/
def signBit : Sign → ℕ
  | .negative => 2 ^ 63
  | .positive => 0

theorem toNat_packComponents (s : Sign) (e : BitVec 11) (m : BitVec 52) :
    (packComponents Format.binary64 s e m).toNat = signBit s + e.toNat * 2 ^ 52 + m.toNat := by
  have he := e.isLt
  have hm := m.isLt
  rw [packComponents, BitVec.toNat_append, BitVec.toNat_append,
    ← Nat.shiftLeft_add_eq_or_of_lt he, ← Nat.shiftLeft_add_eq_or_of_lt hm,
    Nat.shiftLeft_eq, Nat.shiftLeft_eq]
  cases s with
  | negative => show (1 * 2 ^ 11 + e.toNat) * 2 ^ 52 + m.toNat = 2 ^ 63 + _ + _; omega
  | positive => show (0 * 2 ^ 11 + e.toNat) * 2 ^ 52 + m.toNat = 0 + _ + _; omega

theorem toBits_packed (u : UnpackedFloat) :
    (packed u).toBits.toNat = (UnpackedFloat.pack Format.binary64 u).toNat := rfl

theorem toBits_packed_infinity (s : Sign) :
    (packed (.infinity s)).toBits.toNat = signBit s + 2047 * 2 ^ 52 :=
  toNat_packComponents s _ _

theorem toBits_packed_zero (s : Sign) : (packed (.zero s)).toBits.toNat = signBit s :=
  toNat_packComponents s _ _

theorem toBits_packed_finite (s : Sign) {m : ℕ} {e : ℤ} (hm : 0 < m) (hlt : m < 2 ^ 53)
    (hleast : -1074 ≤ e) (hgreatest : e ≤ 971) (hnormal : 2 ^ 52 ≤ m ∨ e = -1074) :
    (packed (.finite s m e hm)).toBits.toNat =
      signBit s + (e + 1074).toNat * 2 ^ 52 + m := by
  have hbias : (e + Format.binary64.exponentBias + Format.binary64.mantissaBitsWithoutImplicit) =
      e + 1075 := by
    show e + ((2 ^ (11 - 1) - 1 : ℕ) : ℤ) + ((52 : ℕ) : ℤ) = _
    omega
  have hfits : ¬ 2 ^ Format.binary64.exponentBits ≤ (e + 1075).toNat + 1 := by
    show ¬ 2 ^ 11 ≤ _
    omega
  rw [toBits_packed, UnpackedFloat.pack, hbias, if_neg hfits]
  have hlog : m.log2 + 1 = Format.binary64.mantissaBits ↔ 2 ^ 52 ≤ m := by
    show m.log2 + 1 = 53 ↔ _
    rw [← Nat.le_log2 hm.ne']
    have := (Nat.log2_lt hm.ne').2 hlt
    omega
  by_cases hnorm : 2 ^ 52 ≤ m
  · rw [if_pos (hlog.2 hnorm), toNat_packComponents, BitVec.toNat_ofNat, BitVec.toNat_ofNat]
    omega
  · rw [if_neg (fun h => hnorm (hlog.1 h)), toNat_packComponents, BitVec.toNat_ofNat,
      BitVec.toNat_ofNat]
    omega

theorem toBits_eq (x : Float) : x.toBits.toNat =
    signBit (sign x) + (exponent x + 1074).toNat * 2 ^ 52 + magnitude x := by
  have hlt : x.toBits.toNat < 2 ^ 64 := x.toBits.toNat_lt
  have hsign : signBit (sign x) = x.toBits.toNat / 2 ^ 63 * 2 ^ 63 := by
    rw [sign, isNegative]
    by_cases hneg : 2 ^ 63 ≤ x.toBits.toNat
    · have : x.toBits.toNat / 2 ^ 63 = 1 := by omega
      rw [this, if_pos (decide_eq_true hneg)]
      rfl
    · have : x.toBits.toNat / 2 ^ 63 = 0 := by omega
      rw [this, if_neg (by simpa using hneg)]
      rfl
  have hfields : x.toBits.toNat = x.toBits.toNat / 2 ^ 63 * 2 ^ 63 +
      exponentField x * 2 ^ 52 + fractionField x := by
    rw [exponentField_eq, fractionField]
    omega
  rw [hsign]
  by_cases h : exponentField x = 0
  · have hscale : (exponent x + 1074).toNat = 0 := by rw [exponent, h]; rfl
    rw [hscale, magnitude, if_pos h, Nat.zero_mul]
    rwa [h, Nat.zero_mul] at hfields
  · obtain ⟨f, hf⟩ := Nat.exists_eq_add_one_of_ne_zero h
    have hscale : (exponent x + 1074).toNat = f := by rw [exponent, hf]; omega
    rw [hscale, magnitude, if_neg h]
    rw [hf] at hfields
    exact hfields.trans (by ring)

/-- A double is told by its bits. -/
theorem eq_of_toBits {x y : Float} (h : x.toBits.toNat = y.toBits.toNat) : x = y := by
  obtain ⟨⟨bits, _⟩⟩ := x
  obtain ⟨⟨bits', _⟩⟩ := y
  obtain rfl : bits = bits' := UInt64.toNat_inj.1 h
  rfl

theorem packed_finite_of_lt (s : Sign) {m : ℕ} {e : ℤ} (hm : 0 < m) (h : 971 < e) :
    packed (.finite s m e hm) = packed (.infinity s) := by
  have hbias : (e + Format.binary64.exponentBias + Format.binary64.mantissaBitsWithoutImplicit) =
      e + 1075 := by
    show e + ((2 ^ (11 - 1) - 1 : ℕ) : ℤ) + ((52 : ℕ) : ℤ) = _
    omega
  have hfits : 2 ^ Format.binary64.exponentBits ≤ (e + 1075).toNat + 1 := by
    show 2 ^ 11 ≤ _
    omega
  apply eq_of_toBits
  rw [toBits_packed, UnpackedFloat.pack, hbias, if_pos hfits]
  rfl

theorem packed_unpacked {x : Float} (h : isFinite x = true) : packed (unpacked x) = x := by
  apply eq_of_toBits
  rw [toBits_eq x]
  rcases unpacked_of_isFinite h with ⟨hzero, hu⟩ | ⟨hm, hu⟩
  · have hexp : exponent x = -1074 := (le_magnitude x).resolve_left (by omega)
    rw [hu, toBits_packed_zero, hzero, hexp]
    rfl
  · rw [hu, toBits_packed_finite _ hm (magnitude_lt x) (exponent_ge x) (exponent_le h)
      (le_magnitude x)]

/-- Bits that are not those of an infinity or a NaN are kept. -/
theorem toBits_ofBits {b : UInt64} (h : b.toNat / 2 ^ 52 % 2048 ≠ 2047) :
    (Float.ofBits b).toBits = b := by
  have hexp : @unpackExponent Format.binary64 b.toBitVec ≠ -1#_ := by
    intro hexp
    rw [← BitVec.toNat_inj, unpackExponent, BitVec.toNat_cast, BitVec.extractLsb_toNat,
      Nat.shiftRight_eq_div_pow] at hexp
    exact h hexp
  -- The bits are those of a double, which is taken apart and put together again.
  let x : Float := .ofModel ⟨b, ⟨fun h' => absurd h' hexp⟩⟩
  have hx : isFinite x = true := by
    have hfield : exponentField x ≠ 2047 := by rwa [exponentField_eq]
    simpa [isFinite] using hfield
  have hpacked : Float.ofBits b = packed (unpacked x) := rfl
  rw [hpacked, packed_unpacked hx]
  rfl

/-! ### Fields -/

theorem fields_of_toBits {x : Float} {s : Sign} {f g : ℕ} (hf : f < 2048) (hg : g < 2 ^ 52)
    (h : x.toBits.toNat = signBit s + f * 2 ^ 52 + g) :
    sign x = s ∧ exponentField x = f ∧ fractionField x = g := by
  cases s with
  | negative =>
    have hbits : x.toBits.toNat = 2 ^ 63 + f * 2 ^ 52 + g := h
    rw [sign, isNegative, exponentField_eq, fractionField, hbits]
    exact ⟨if_pos (decide_eq_true (by omega)), by omega, by omega⟩
  | positive =>
    have hbits : x.toBits.toNat = f * 2 ^ 52 + g := h.trans (by simp [signBit])
    rw [sign, isNegative, exponentField_eq, fractionField, hbits]
    exact ⟨if_neg (by simp only [decide_eq_true_eq]; omega), by omega, by omega⟩

/-- The value of a double with the sign `s`, the exponent `e` and the significand `m`, which may be
carried into the exponent. -/
theorem value_of_toBits {x : Float} {s : Sign} {m : ℕ} {e : ℤ} (hle : m ≤ 2 ^ 53)
    (hleast : -1074 ≤ e) (hnormal : 2 ^ 52 ≤ m ∨ e = -1074)
    (hfits : e < 971 ∨ e = 971 ∧ m < 2 ^ 53)
    (h : x.toBits.toNat = signBit s + (e + 1074).toNat * 2 ^ 52 + m) :
    sign x = s ∧ isFinite x = true ∧ value x = (s.apply m : ℤ) * 2 ^ e := by
  -- The value is read off the fields, whatever they are.
  have read : ∀ f g : ℕ, f < 2047 → g < 2 ^ 52 →
      f * 2 ^ 52 + g = (e + 1074).toNat * 2 ^ 52 + m →
      ((if f = 0 then g else g + 2 ^ 52 : ℕ) : ℚ) * 2 ^ (((max 1 f : ℕ) : ℤ) - 1075) =
        m * 2 ^ e →
      sign x = s ∧ isFinite x = true ∧ value x = (s.apply m : ℤ) * 2 ^ e := by
    intro f g hf hg hfg hvalue
    obtain ⟨hs, hexp, hfrac⟩ := fields_of_toBits (s := s) (f := f) (by omega) hg
      (h.trans (by rw [Nat.add_assoc, ← hfg, ← Nat.add_assoc]))
    refine ⟨hs, by simp [isFinite, hexp, hf.ne], ?_⟩
    rw [value, significand_eq, magnitude, exponent, hexp, hfrac, hs]
    cases s with
    | negative =>
      show ((-((if f = 0 then g else g + 2 ^ 52 : ℕ) : ℤ) : ℤ) : ℚ) * _ = ((-(m : ℤ) : ℤ) : ℚ) * _
      rw [Int.cast_neg, Int.cast_natCast, neg_mul, hvalue, Int.cast_neg, Int.cast_natCast, neg_mul]
    | positive => exact_mod_cast hvalue
  rcases lt_or_ge m (2 ^ 52) with hsub | hnorm
  · obtain rfl : e = -1074 := hnormal.resolve_left (by omega)
    exact read 0 m (by decide) hsub (by simp) (by norm_num)
  · have hf : ((max 1 (e + 1075).toNat : ℕ) : ℤ) - 1075 = e := by omega
    have hf' : ((max 1 (e + 1076).toNat : ℕ) : ℤ) - 1075 = e + 1 := by omega
    rcases hle.lt_or_eq with hlt | rfl
    · refine read (e + 1075).toNat (m - 2 ^ 52) (by omega) (by omega) (by omega) ?_
      rw [if_neg (by omega), Nat.sub_add_cancel hnorm, hf]
    · refine read (e + 1076).toNat 0 (by omega) (by decide) (by omega) ?_
      rw [if_neg (by omega), hf', zpow_add_one₀ two_ne_zero]
      push_cast
      ring

end Binary64
end TurtleCanvas
