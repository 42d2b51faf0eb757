import TurtleCanvas.Proofs.Argument.Denotes

/-!
# Arguments with an exact value

* `Argument.HasValue` says that an argument is a number whose exact value is also that of a double;
* `HasValue.exists_add` and `HasValue.exists_mul` say that an operation on such arguments is exact if
  its result is the value of a double;
* `HasValue.round_eq` and `HasValue.lt_zero` say that such arguments are rounded and compared by
  their exact values.
-/

namespace TurtleCanvas

namespace Binary64

theorem realOf_spec {n : ℤ} (h : Representable n) :
    isFinite (Argument.realOf n) = true ∧ value (Argument.realOf n) = n := by
  obtain ⟨x, hx, hfinite, hvalue⟩ := exists_ofInt? h
  rw [Argument.realOf, hx]
  exact ⟨hfinite, hvalue⟩

end Binary64

open Binary64

namespace Number

/-- A number has an exact value that a double has too. -/
def HasValue (q : ℚ) : Number → Prop
  | int m => (m : ℚ) = q ∧ Representable q
  | real x => Binary64.isFinite x = true ∧ value x = q

variable {m n : Number} {p q : ℚ}

theorem HasValue.denotes (h : n.HasValue q) : n.Denotes q := by
  cases n with
  | int k => exact h.1
  | real x => exact h

theorem HasValue.representable (h : n.HasValue q) : Representable q := by
  cases n with
  | int k => exact h.2
  | real x => exact h.2 ▸ representable_value x h.1

theorem HasValue.exists_toReal (h : n.HasValue q) :
    ∃ x, n.toReal = .ok x ∧ Binary64.isFinite x = true ∧ value x = q := by
  cases n with
  | int k =>
    obtain ⟨rfl, hq⟩ := h
    obtain ⟨x, hx, hfinite, hvalue⟩ := exists_ofInt? hq
    exact ⟨x, by rw [toReal, hx], hfinite, hvalue⟩
  | real x => exact ⟨x, rfl, h⟩

/-- The result of an operation is exact for whole numbers, and is rounded once for others. -/
theorem HasValue.lift_spec {onInt : ℤ → ℤ → ℤ} {onReal : Float → Float → Float}
    {o : ℚ → ℚ → ℚ} (hint : ∀ a b, ((onInt a b : ℤ) : ℚ) = o a b)
    (hreal : ∀ x y, Binary64.isFinite x = true → Binary64.isFinite y = true →
      Beside (o (value x) (value y)) (onReal x y))
    (hm : m.HasValue p) (hn : n.HasValue q) :
    (∃ k : ℤ, lift onInt onReal m n = .ok (.int k) ∧ (k : ℚ) = o p q) ∨
      ∃ z, lift onInt onReal m n = .ok (.real z) ∧ Beside (o p q) z := by
  obtain ⟨x, hx, hxfinite, hxvalue⟩ := hm.exists_toReal
  obtain ⟨y, hy, hyfinite, hyvalue⟩ := hn.exists_toReal
  have hxy := hreal x y hxfinite hyfinite
  rw [hxvalue, hyvalue] at hxy
  cases n with
  | real y' =>
    obtain rfl := Except.ok.inj hy
    exact .inr ⟨_, exists_lift_real hx y', hxy⟩
  | int b =>
    cases m with
    | real x' =>
      obtain rfl := Except.ok.inj hx
      exact .inr ⟨_, exists_real_lift x' hy, hxy⟩
    | int a => exact .inl ⟨onInt a b, rfl, by rw [hint, hm.1, hn.1]⟩

/-- An operation whose exact result is the value of a double has that result. -/
theorem HasValue.exists_lift {onInt : ℤ → ℤ → ℤ} {onReal : Float → Float → Float}
    {o : ℚ → ℚ → ℚ} (hint : ∀ a b, ((onInt a b : ℤ) : ℚ) = o a b)
    (hreal : ∀ x y, Binary64.isFinite x = true → Binary64.isFinite y = true →
      Beside (o (value x) (value y)) (onReal x y))
    (hm : m.HasValue p) (hn : n.HasValue q) (hr : Representable (o p q)) :
    ∃ r, lift onInt onReal m n = .ok r ∧ r.HasValue (o p q) := by
  rcases hm.lift_spec hint hreal hn with ⟨k, hk, hvalue⟩ | ⟨z, hz, hbeside⟩
  · exact ⟨_, hk, hvalue, hr⟩
  · exact ⟨_, hz, hbeside.value_eq hr⟩

/-- A quotient one of whose parts is a double is one of doubles. -/
theorem div_of_real {x y : Float} (hreal : m = .real x ∨ n = .real y) (hx : m.toReal = .ok x)
    (hy : n.toReal = .ok y) (hne : (y == 0.0) = false) : div m n = .ok (.real (x / y)) := by
  have hdiv : div m n = do
      let x ← m.toReal
      let y ← n.toReal
      if y == 0.0 then .error .realDivisionByZero else return .real (x / y) := by
    rcases hreal with rfl | rfl
    · cases n <;> rfl
    · cases m <;> rfl
  rw [hdiv, hx, hy]
  show (if (y == 0.0) = true then _ else _) = _
  rw [hne]
  rfl

theorem HasValue.neg (h : n.HasValue q) : n.neg.HasValue (-q) := by
  cases n with
  | int m =>
    obtain ⟨rfl, hq⟩ := h
    exact ⟨Int.cast_neg m, hq.neg⟩
  | real x =>
    obtain ⟨hfinite, rfl⟩ := h
    exact value_neg hfinite

/-- A number that is not negative is not below zero. -/
theorem HasValue.lt_zero (h : n.HasValue q) (hq : 0 ≤ q) : n.lt (.int 0) = false := by
  rw [h.denotes.lt_int_eq, Int.cast_zero, decide_eq_false_iff_not]
  exact not_lt.2 hq

theorem HasValue.eq_zero (h : n.HasValue 0) : n.eq (.int 0) = true := by
  rw [eq, h.denotes.compare_eq, beq_iff_eq, Option.some.injEq, compare_eq_iff_eq, Int.cast_zero]

end Number

namespace Argument

/-- An argument is a number with an exact value that a double has too. -/
def HasValue (a : Argument) (q : ℚ) : Prop := ∃ n, a.number? = some n ∧ n.HasValue q

variable {a b : Argument} {p q : ℚ}

theorem hasValue_int {n : ℤ} (h : Representable n) : (int n).HasValue n :=
  ⟨.int n, rfl, rfl, h⟩

theorem HasValue.representable (h : a.HasValue q) : Representable q :=
  h.choose_spec.2.representable

theorem hasValue_real {n : ℤ} (h : Representable n) : (Scalar.real n : Argument).HasValue n :=
  ⟨_, rfl, realOf_spec h⟩

theorem HasValue.exists_lift {f : Number → Number → Except Fault Number} {r : ℚ}
    (hf : ∀ m n : Number, m.HasValue p → n.HasValue q → ∃ k, f m n = .ok k ∧ k.HasValue r)
    (ha : a.HasValue p) (hb : b.HasValue q) : ∃ c, lift f a b = .ok c ∧ c.HasValue r := by
  obtain ⟨m, hm, hmp⟩ := ha
  obtain ⟨n, hn, hnq⟩ := hb
  obtain ⟨k, hk, hkr⟩ := hf m n hmp hnq
  refine ⟨.number k, ?_, k, rfl, hkr⟩
  exact Except.bind_eq_ok_iff.2 ⟨m, toNumber_of_number? hm,
    Except.bind_eq_ok_iff.2 ⟨n, toNumber_of_number? hn, Except.bind_eq_ok_iff.2 ⟨k, hk, rfl⟩⟩⟩

theorem HasValue.exists_add (ha : a.HasValue p) (hb : b.HasValue q) (hr : Representable (p + q)) :
    ∃ c, Scalar.add a b = .ok c ∧ c.HasValue (p + q) :=
  HasValue.exists_lift (fun _ _ hm hn => hm.exists_lift (o := (· + ·)) (fun _ _ => Int.cast_add _ _)
    (fun _ _ => beside_add) hn hr) ha hb

theorem HasValue.exists_mul (ha : a.HasValue p) (hb : b.HasValue q) (hr : Representable (p * q)) :
    ∃ c, Scalar.mul a b = .ok c ∧ c.HasValue (p * q) := by
  have hmul : Scalar.mul a b = lift Number.mul a b := times_eq_lift hb.choose_spec.1
  rw [hmul]
  exact HasValue.exists_lift (fun _ _ hm hn => hm.exists_lift (o := (· * ·))
    (fun _ _ => Int.cast_mul _ _) (fun _ _ => beside_mul) hn hr) ha hb

theorem HasValue.exists_neg (ha : a.HasValue q) :
    ∃ c : Argument, Scalar.neg a = .ok c ∧ c.HasValue (-q) := by
  obtain ⟨n, hn, hq⟩ := ha
  exact ⟨.number n.neg, Except.bind_eq_ok_iff.2 ⟨n, toNumber_of_number? hn, rfl⟩,
    n.neg, rfl, hq.neg⟩

theorem HasValue.isZero (ha : a.HasValue 0) : Scalar.isZero a = true := by
  obtain ⟨n, hn, hq⟩ := ha
  show (a.number?.any fun n => n.eq (.int 0)) = true
  rw [hn]
  exact hq.eq_zero

/-- An argument with an exact value is read as a double of that value. -/
theorem HasValue.exists_reads (h : a.HasValue q) :
    ∃ x, a.Reads x ∧ Binary64.isFinite x = true ∧ value x = q := by
  obtain ⟨n, hn, hq⟩ := h
  obtain ⟨x, hx, hfinite, hvalue⟩ := hq.exists_toReal
  exact ⟨x, ⟨n, hn, hx⟩, hfinite, hvalue⟩

theorem HasValue.denotes (h : a.HasValue q) : a.Denotes q := by
  obtain ⟨n, hn, hq⟩ := h
  exact ⟨n, hn, hq.denotes⟩

theorem HasValue.fitsReal (h : a.HasValue q) : a.FitsReal := by
  obtain ⟨x, hx, -⟩ := h.exists_reads
  exact fitsReal_iff.2 ⟨x, hx⟩

theorem HasValue.isFinite (ha : a.HasValue q) : Scalar.isFinite a = .ok true :=
  ha.denotes.isFinite ha.fitsReal

/-- Numbers with exact values are finite. -/
theorem allFinite_of_hasValue {l : List Argument} (h : ∀ v ∈ l, ∃ q, v.HasValue q) :
    Scalar.allFinite l = .ok true :=
  (allFinite_of_denotes fun v hv => (h v hv).imp fun _ hq => hq.denotes).1 fun v hv =>
    (h v hv).elim fun _ hq => hq.fitsReal

theorem HasValue.round_eq {k : ℤ} (ha : a.HasValue k) : Scalar.round a = .ok k := by
  rw [ha.denotes.round_eq, roundHalfEven_intCast]

theorem HasValue.lt_zero (ha : a.HasValue q) (hq : 0 ≤ q) :
    Scalar.lt a (Scalar.int 0) = .ok false := by
  obtain ⟨n, hn, hnq⟩ := ha
  exact Except.bind_eq_ok_iff.2 ⟨n, toNumber_of_number? hn,
    Except.bind_eq_ok_iff.2 ⟨.int 0, rfl, congrArg Except.ok (hnq.lt_zero hq)⟩⟩

theorem HasValue.le_int (ha : a.HasValue q) {k : ℤ} (h : q ≤ k) :
    Scalar.le a (Scalar.int k) = .ok true := by
  rw [ha.denotes.le_int_eq, decide_eq_true h]

theorem HasValue.int_le (ha : a.HasValue q) {k : ℤ} (h : k ≤ q) :
    Scalar.le (Scalar.int k) a = .ok true := by
  rw [ha.denotes.int_le_eq, decide_eq_true h]

/-! ### Halves -/

/-- What is known to be finite is a number that a double is nearest to. -/
theorem exists_of_isFinite (h : Scalar.isFinite a = .ok true) :
    ∃ n x, a.number? = some n ∧ n.toReal = .ok x ∧ Binary64.isFinite x = true := by
  obtain ⟨n, hn, h⟩ := Except.bind_eq_ok_iff.1 h
  obtain ⟨x, hx, h⟩ := Except.bind_eq_ok_iff.1 h
  refine ⟨n, x, ?_, hx, Except.ok.inj h⟩
  unfold toNumber at hn
  split at hn
  · rename_i m hm
    rw [hm, Except.ok.inj hn]
  · exact nomatch hn

theorem div_two {n : Number} {x : Float} (hn : a.number? = some n) (hx : n.toReal = .ok x) :
    Scalar.div a (Scalar.real 2) = .ok (real (x / realOf 2)) := by
  obtain ⟨-, htwo⟩ := realOf_spec (n := 2) (representable_int (by decide))
  have hne : (realOf 2 == 0.0) = false := beq_zero fun _ => by rw [htwo]; decide
  exact Except.bind_eq_ok_iff.2 ⟨n, toNumber_of_number? hn,
    Except.bind_eq_ok_iff.2 ⟨.real (realOf 2), rfl,
      Except.bind_eq_ok_iff.2 ⟨_, Number.div_of_real (.inr rfl) hx rfl hne, rfl⟩⟩⟩

/-- A double is half another, rounded. -/
theorem beside_half {x : Float} (hx : Binary64.isFinite x = true) :
    Beside (value x / 2) (x / realOf 2) := by
  obtain ⟨hfinite, htwo⟩ := realOf_spec (n := 2) (representable_int (by decide))
  have h := beside_div hx hfinite (by rw [htwo]; decide)
  rw [htwo] at h
  exact_mod_cast h

theorem HasValue.exists_half (ha : a.HasValue q) (hr : Representable (q / 2)) :
    ∃ c : Argument, Scalar.div a (Scalar.real 2) = .ok c ∧ c.HasValue (q / 2) := by
  obtain ⟨n, hn, hq⟩ := ha
  obtain ⟨x, hx, hfinite, rfl⟩ := hq.exists_toReal
  exact ⟨_, div_two hn hx, _, rfl, (beside_half hfinite).value_eq hr⟩

/-- Half a finite number is finite. -/
theorem exists_half_of_isFinite (h : Scalar.isFinite a = .ok true) :
    ∃ x, Scalar.div a (Scalar.real 2) = .ok (real x) ∧ Binary64.isFinite x = true := by
  obtain ⟨n, x, hn, hx, hfinite⟩ := exists_of_isFinite h
  have hvalue := representable_value x hfinite
  have hhalf := beside_half hfinite
  refine ⟨_, div_two hn hx, ?_⟩
  -- The half lies between the double and its negative.
  obtain ⟨hlow, hhigh⟩ := abs_le.1 (show |value x / 2| ≤ |value x| by
    rw [abs_div, abs_of_pos (two_pos : (0 : ℚ) < 2)]
    exact half_le_self (abs_nonneg _))
  exact (isFinite_of_atLeast_of_atMost
    (hhalf.atLeast _ (representable_abs hvalue).neg hlow)
    (hhalf.atMost _ (representable_abs hvalue) hhigh)).1

end Argument

end TurtleCanvas
