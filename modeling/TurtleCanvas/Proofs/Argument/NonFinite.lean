import TurtleCanvas.Proofs.Argument.Value

/-!
# Arguments that are not finite

An infinity or a NaN is never lost on its way through double arithmetic: a sum or a product of one,
and a quotient with one above the line, is one again.

* `Argument.IsNonFinite` says that an argument is an infinity or a NaN;
* `Argument.allFinite_of_isNonFinite` says that one such argument among others is noticed;
* `Argument.exists_div_count` says that what fits a double can be divided by a count.
-/

namespace TurtleCanvas

open Binary64 (Representable representable_int value realOf_spec)

/-! ### Quotients by a count -/

namespace Binary64

/-- A count that fits a double is a double that is not zero. -/
theorem count_spec {n : ℕ} (hn : 1 ≤ n) {y : Float} (h : ofInt? n = some y) :
    isFinite y = true ∧ 1 ≤ value y := by
  obtain ⟨hfinite, hbeside⟩ := beside_of_ofInt? h
  have hone : (1 : ℚ) ≤ ((n : ℤ) : ℚ) := by exact_mod_cast hn
  rcases hbeside.atLeast 1 representable_one hone with ⟨-, hle⟩ | ⟨hinf, -⟩
  · exact ⟨hfinite, hle⟩
  · exact absurd (hfinite.symm.trans hinf) (by decide)

theorem beq_zero_of_pos {y : Float} (h : 0 < value y) : (y == 0.0) = false :=
  beq_zero fun _ => h.ne'

/-- A whole number that fits a double is less than `2 ^ 1024`. -/
theorem natAbs_lt_of_ofInt? {n : ℤ} {x : Float} (h : ofInt? n = some x) :
    (n.natAbs : ℚ) < 2 ^ 1024 := by
  obtain ⟨m, e, hround, hbits⟩ := exists_nearestBits n.natAbs one_pos
  have hlt : (e + 1074).toNat * 2 ^ 52 + m < 2047 * 2 ^ 52 := by
    rw [← hbits]
    by_contra hge
    rw [ofInt?, ofRatio?, if_neg hge] at h
    cases h
  have hrange := (nearestBits_lt_iff hround).1 hlt
  have he : e ≤ 971 := by rcases hrange with he | ⟨he, -⟩ <;> omega
  have hq := hround.lt
  rw [Nat.cast_one, div_one] at hq
  calc (n.natAbs : ℚ) < 2 ^ 53 * 2 ^ e := hq
    _ ≤ 2 ^ 53 * 2 ^ (971 : ℤ) := by
      gcongr
      exact one_le_two
    _ = 2 ^ 1024 := by rw [zpow_ofNat, ← pow_add]

/-- A whole number that fits a double can be divided by a count. -/
theorem exists_ofRatio?_count (negative : Bool) {m : ℤ} {x : Float} (hm : ofInt? m = some x) {n : ℕ}
    (hn : 1 ≤ n) : ∃ z, ofRatio? negative m.natAbs n = some z := by
  rcases hn.eq_or_lt with rfl | hn
  · rw [← Option.isSome_iff_exists, Number.isSome_ofRatio? negative (decide (m < 0))]
    exact Option.isSome_iff_exists.2 ⟨x, hm⟩
  · -- Half of a number that fits a double is at most `2 ^ 1023`, which is a double.
    have hrep : Representable (2 ^ 1023) := ⟨2 ^ 52, 971, by decide, by decide, by decide, by
      rw [Int.cast_pow, Int.cast_ofNat, zpow_ofNat, ← pow_add]⟩
    refine exists_ofRatio? negative (by omega) hrep ?_
    have htwo : (2 : ℚ) ≤ n := by exact_mod_cast hn
    calc (m.natAbs : ℚ) / n ≤ m.natAbs / 2 := by gcongr
      _ ≤ 2 ^ 1024 / 2 := by gcongr; exact (natAbs_lt_of_ofInt? hm).le
      _ = 2 ^ 1023 := by rw [pow_succ (2 : ℚ) 1023, mul_div_cancel_right₀ _ two_ne_zero]

end Binary64

namespace Number

theorem ofInt?_of_toReal {n : ℤ} {x : Float} (h : (int n).toReal = .ok x) :
    Binary64.ofInt? n = some x := by
  rw [toReal] at h
  split at h
  · rename_i y hy
    rw [hy, Except.ok.inj h]
  · cases h

/-- What fits a double can be divided by a count that fits one. -/
theorem exists_div_count {k : Number} {x : Float} (hk : k.toReal = .ok x) {n : ℕ} (hn : 1 ≤ n)
    {y : Float} (hy : (int n).toReal = .ok y) : ∃ q, k.div (.int n) = .ok q := by
  cases k with
  | real x' =>
    have hpos := (Binary64.count_spec hn (ofInt?_of_toReal hy)).2
    exact ⟨_, div_of_real (.inl rfl) rfl hy (Binary64.beq_zero_of_pos (by linarith))⟩
  | int m =>
    obtain ⟨z, hz⟩ := Binary64.exists_ofRatio?_count
      (decide (m < 0) != decide ((n : ℤ) < 0)) (ofInt?_of_toReal hk) hn
    refine ⟨.real z, ?_⟩
    rw [div, if_neg (by omega), Int.natAbs_natCast, hz]

end Number

namespace Argument

variable {a b : Argument} {x y : Float}

theorem fitsReal_int {n : ℤ} (h : n.natAbs < 2 ^ 53) : (int n).FitsReal := by
  obtain ⟨x, hx, -⟩ := Binary64.exists_ofInt? (representable_int h)
  exact ⟨.int n, x, rfl, by rw [Number.toReal, hx]⟩

/-- An infinity or a NaN. -/
def IsNonFinite (a : Argument) : Prop := ∃ x, a = real x ∧ Binary64.isFinite x = false

theorem IsNonFinite.fitsReal (h : a.IsNonFinite) : a.FitsReal := by
  obtain ⟨x, rfl, -⟩ := h
  exact fitsReal_real x

theorem IsNonFinite.reads (h : a.IsNonFinite) (hx : a.Reads x) : Binary64.isFinite x = false := by
  obtain ⟨x', rfl, hfinite⟩ := h
  obtain ⟨n, hn, hx⟩ := hx
  obtain rfl := Option.some.inj hn
  obtain rfl := Except.ok.inj hx
  exact hfinite

theorem isNonFinite_real (h : Binary64.isFinite x = false) : (real x).IsNonFinite := ⟨x, rfl, h⟩

/-! ### Noticing -/

theorem Reads.isFinite (h : a.Reads x) : Scalar.isFinite a = .ok (Binary64.isFinite x) := by
  obtain ⟨n, hn, hx⟩ := h
  exact Except.bind_eq_ok_iff.2 ⟨n, toNumber_of_number? hn, Except.bind_eq_ok_iff.2 ⟨x, hx, rfl⟩⟩

/-- **An argument that is not finite is noticed** among others that fit doubles. -/
theorem allFinite_of_isNonFinite {l : List Argument} (hfits : ∀ v ∈ l, v.FitsReal)
    (h : ∃ v ∈ l, v.IsNonFinite) : Scalar.allFinite l = .ok false := by
  induction l with
  | nil => exact absurd h (by simp)
  | cons v rest ih =>
    obtain ⟨x, hx⟩ := fitsReal_iff.1 (hfits v (List.mem_cons_self ..))
    rw [Scalar.allFinite, hx.isFinite]
    show (if Binary64.isFinite x = true then Scalar.allFinite rest else .ok false) = _
    split_ifs with hfinite
    · refine ih (fun w hw => hfits w (List.mem_cons_of_mem _ hw)) ?_
      obtain ⟨w, hw, hnon⟩ := h
      rcases List.mem_cons.1 hw with rfl | hw
      · exact absurd (hfinite.symm.trans (hnon.reads hx)) (by decide)
      · exact ⟨w, hw, hnon⟩
    · rfl

/-- What comes after an argument that is not finite is not looked at. -/
theorem allFinite_append {l : List Argument} (h : Scalar.allFinite l = .ok false)
    (rest : List Argument) : Scalar.allFinite (l ++ rest) = .ok false := by
  induction l with
  | nil => exact nomatch h
  | cons v l ih =>
    obtain ⟨finite, hv, h⟩ := Except.bind_eq_ok_iff.1 h
    rw [List.cons_append, Scalar.allFinite, hv]
    cases finite with
    | true => exact ih h
    | false => rfl

/-- An infinity or a NaN has no nearest whole number. -/
theorem IsNonFinite.round_eq (h : a.IsNonFinite) :
    Scalar.round a = .error .nanToInt ∨ Scalar.round a = .error .infinityToInt := by
  obtain ⟨x, rfl, hfinite⟩ := h
  have hround : Scalar.round (real x) =
      if Binary64.isNaN x then .error .nanToInt else .error .infinityToInt := by
    show (if Binary64.isFinite x = true then _ else _) = _
    rw [hfinite]
    rfl
  rw [hround]
  split_ifs
  · exact .inl rfl
  · exact .inr rfl

/-- A number that is neither an infinity nor a NaN has a nearest whole number. -/
theorem exists_round_of_not_isNonFinite (h : a.FitsReal) (hfinite : ¬ a.IsNonFinite) :
    ∃ i, Scalar.round a = .ok i := by
  obtain ⟨n, -, hn, -⟩ := h
  have hround : Scalar.round a = n.round :=
    (congrArg (· >>= Number.round) (toNumber_of_number? hn)).trans (Except.ok_bind n _)
  rw [hround]
  cases n with
  | int i => exact ⟨i, rfl⟩
  | real x =>
    have hx : Binary64.isFinite x = true := by
      by_contra hinf
      refine hfinite ⟨x, ?_, Bool.eq_false_iff.2 hinf⟩
      cases a with
      | number n => exact congrArg Argument.number (Option.some.inj hn)
      | none | flag b | text s | list items => exact nomatch hn
    exact ⟨Binary64.round x, by rw [Number.round, Number.wholeOf, if_pos hx]⟩

/-! ### Keeping -/

theorem real_div_real (x : Float) (hy : (y == 0.0) = false) :
    Scalar.div (real x) (real y) = .ok (real (x / y)) := by
  have hdiv : Number.div (.real x) (.real y) = .ok (.real (x / y)) :=
    Number.div_of_real (.inl rfl) rfl rfl hy
  show (Number.div (.real x) (.real y) >>= fun n => pure (number n)) = _
  rw [hdiv]
  rfl

/-- The other sign of what is not finite is not finite. -/
theorem IsNonFinite.neg (h : a.IsNonFinite) (hneg : Scalar.neg a = .ok b) : b.IsNonFinite := by
  obtain ⟨x, rfl, hfinite⟩ := h
  obtain rfl := Except.ok.inj hneg
  exact isNonFinite_real (Binary64.isFinite_neg hfinite)

/-- What fits a double can be divided by a count that fits one. -/
theorem exists_div_count (ha : a.FitsReal) {n : ℕ} (hn : 1 ≤ n) (hfits : (int n).FitsReal) :
    ∃ c : Argument, Scalar.div a (Scalar.int n) = .ok c := by
  obtain ⟨k, x, hk, hx⟩ := ha
  obtain ⟨k', y, hk', hy⟩ := hfits
  obtain rfl := Option.some.inj hk'
  obtain ⟨q, hq⟩ := Number.exists_div_count hx hn hy
  exact ⟨.number q, Except.bind_eq_ok_iff.2 ⟨k, toNumber_of_number? hk,
    Except.bind_eq_ok_iff.2 ⟨.int n, rfl, Except.bind_eq_ok_iff.2 ⟨q, hq, rfl⟩⟩⟩⟩

end Argument

end TurtleCanvas
