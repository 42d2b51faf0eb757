import TurtleCanvas.Proofs.Argument
import TurtleCanvas.Proofs.Binary64.Arithmetic
import TurtleCanvas.Proofs.Binary64.Nearest

/-!
# The number that an argument is

A finite argument is an exact number, a whole number of any size or the value of a double.  It is
compared with whole numbers and rounded by that number, and no double is made for it.  Only some
whole numbers are near enough to a double to go into double arithmetic.

* `Argument.Denotes` says which number an argument is;
* `Argument.Denotes.le_int_eq`, `Argument.Denotes.int_le_eq` and `Argument.Denotes.round_eq` say
  that it is compared and rounded by it;
* `Argument.allFinite_of_denotes` says that it is found to be finite if it fits a double, and that
  asking fails if it does not.
-/

namespace TurtleCanvas

open Binary64

namespace Number

/-- A number is a rational one exactly: a whole number, or the value of a finite double. -/
def Denotes (q : ℚ) : Number → Prop
  | int m => (m : ℚ) = q
  | real x => Binary64.isFinite x = true ∧ value x = q

variable {n : Number} {q : ℚ}

theorem Denotes.compare_eq (h : n.Denotes q) (k : ℤ) :
    n.compare (.int k) = some (Ord.compare q (k : ℚ)) := by
  cases n with
  | int m =>
    obtain rfl : (m : ℚ) = q := h
    exact congrArg some (compare_congr Int.cast_lt.symm Int.cast_lt.symm)
  | real x =>
    obtain ⟨hfinite, rfl⟩ := h
    exact compareInt_of_isFinite hfinite k

theorem Denotes.int_compare (h : n.Denotes q) (k : ℤ) :
    compare (.int k) n = some (Ord.compare (k : ℚ) q) := by
  cases n with
  | int m =>
    obtain rfl : (m : ℚ) = q := h
    exact congrArg some (compare_congr Int.cast_lt.symm Int.cast_lt.symm)
  | real x =>
    obtain ⟨hfinite, rfl⟩ := h
    show (compareInt x k).map Ordering.swap = _
    rw [compareInt_of_isFinite hfinite, Std.OrientedOrd.eq_swap (a := (k : ℚ))]
    rfl

theorem Denotes.lt_int_eq (h : n.Denotes q) (k : ℤ) : n.lt (.int k) = decide (q < k) := by
  rw [lt, h.compare_eq, Bool.eq_iff_iff, beq_iff_eq, Option.some.injEq, compare_lt_iff_lt,
    decide_eq_true_eq]

theorem le_eq_of_compare {m : Number} {p q : ℚ} (h : m.compare n = some (Ord.compare p q)) :
    m.le n = decide (p ≤ q) := by
  rw [le, h, Bool.eq_iff_iff, Bool.or_eq_true, beq_iff_eq, beq_iff_eq, Option.some.injEq,
    Option.some.injEq, compare_lt_iff_lt, compare_eq_iff_eq, decide_eq_true_eq, le_iff_lt_or_eq]

/-- A number is rounded by its exact value. -/
theorem Denotes.round_eq (h : n.Denotes q) : n.round = .ok (roundHalfEven q) := by
  cases n with
  | int m =>
    obtain rfl : (m : ℚ) = q := h
    rw [roundHalfEven_intCast]
    rfl
  | real x => exact round_real_iff.2 ⟨h.1, by rw [h.2]⟩

/-- Only a whole number beyond all doubles goes into no double arithmetic. -/
theorem toReal_error {e : Fault} (h : n.toReal = .error e) : e = .beyondReal := by
  cases n with
  | int m =>
    cases hm : ofInt? m with
    | none => simpa [toReal, hm] using h.symm
    | some y => simp [toReal, hm] at h
  | real x => simp [toReal] at h

/-- The double that a number goes into double arithmetic as is finite, and is beside the number. -/
theorem Denotes.beside (h : n.Denotes q) {x : Float} (hx : n.toReal = .ok x) :
    Binary64.isFinite x = true ∧ Beside q x := by
  cases n with
  | int m =>
    obtain rfl : (m : ℚ) = q := h
    cases hm : ofInt? m with
    | none => simp [toReal, hm] at hx
    | some y =>
      rw [toReal, hm] at hx
      obtain rfl := Except.ok.inj hx
      exact beside_of_ofInt? hm
  | real y =>
    obtain rfl := Except.ok.inj hx
    obtain ⟨hfinite, rfl⟩ := h
    exact ⟨hfinite, fun _ _ hle => .inl ⟨hfinite, hle⟩, fun _ _ hle => .inl ⟨hfinite, hle⟩⟩

end Number

namespace Argument

/-- An argument is a rational number exactly. -/
def Denotes (a : Argument) (q : ℚ) : Prop := ∃ n, a.number? = some n ∧ n.Denotes q

variable {a : Argument} {q : ℚ}

theorem denotes_int (m : ℤ) : (int m).Denotes m := ⟨_, rfl, rfl⟩

theorem Denotes.le_int_eq (ha : a.Denotes q) (k : ℤ) :
    Scalar.le a (Scalar.int k) = .ok (decide (q ≤ k)) := by
  obtain ⟨n, hn, hq⟩ := ha
  exact Except.bind_eq_ok_iff.2 ⟨n, toNumber_of_number? hn, Except.bind_eq_ok_iff.2
    ⟨.int k, rfl, congrArg Except.ok (Number.le_eq_of_compare (hq.compare_eq k))⟩⟩

theorem Denotes.int_le_eq (ha : a.Denotes q) (k : ℤ) :
    Scalar.le (Scalar.int k) a = .ok (decide (k ≤ q)) := by
  obtain ⟨n, hn, hq⟩ := ha
  show liftOrder Number.le (int k) a = _
  rw [liftOrder, toNumber_of_number? hn]
  exact congrArg Except.ok (Number.le_eq_of_compare (hq.int_compare k))

theorem Denotes.round_eq (ha : a.Denotes q) : Scalar.round a = .ok (roundHalfEven q) := by
  obtain ⟨n, hn, hq⟩ := ha
  exact Except.bind_eq_ok_iff.2 ⟨n, toNumber_of_number? hn, hq.round_eq⟩

/-! ### Asking whether it is finite -/

theorem Denotes.isFinite (ha : a.Denotes q) (h : a.FitsReal) : Scalar.isFinite a = .ok true := by
  obtain ⟨n, hn, hq⟩ := ha
  obtain ⟨m, x, hm, hx⟩ := h
  obtain rfl := Option.some.inj (hn.symm.trans hm)
  exact Except.bind_eq_ok_iff.2 ⟨n, toNumber_of_number? hn,
    Except.bind_eq_ok_iff.2 ⟨x, hx, congrArg Except.ok (hq.beside hx).1⟩⟩

/-- A number that fits no double cannot be asked whether it is finite. -/
theorem Denotes.isFinite_error (ha : a.Denotes q) (h : ¬ a.FitsReal) :
    Scalar.isFinite a = .error .beyondReal := by
  obtain ⟨n, hn, -⟩ := ha
  have hfinite : Scalar.isFinite a = n.toReal >>= fun x => pure (Binary64.isFinite x) := by
    show Argument.isFinite a = _
    rw [Argument.isFinite, toNumber_of_number? hn, Except.ok_bind]
  cases hx : n.toReal with
  | ok x => exact absurd ⟨n, x, hn, hx⟩ h
  | error e => rw [hfinite, hx, Number.toReal_error hx]; rfl

/-- **Numbers are found to be finite if all of them fit doubles**, and asking fails otherwise. -/
theorem allFinite_of_denotes {l : List Argument} (h : ∀ v ∈ l, ∃ q, v.Denotes q) :
    ((∀ v ∈ l, v.FitsReal) → Scalar.allFinite l = .ok true) ∧
      ((∃ v ∈ l, ¬ v.FitsReal) → Scalar.allFinite l = .error .beyondReal) := by
  induction l with
  | nil => exact ⟨fun _ => rfl, fun ⟨_, hv, _⟩ => absurd hv List.not_mem_nil⟩
  | cons v rest ih =>
    obtain ⟨q, hq⟩ := h v List.mem_cons_self
    obtain ⟨hfits, hfails⟩ := ih fun w hw => h w (List.mem_cons_of_mem _ hw)
    rw [Scalar.allFinite]
    by_cases hv : v.FitsReal
    · rw [hq.isFinite hv, Except.ok_bind, if_pos rfl]
      refine ⟨fun hall => hfits fun w hw => hall w (List.mem_cons_of_mem _ hw), ?_⟩
      rintro ⟨w, hw, hnot⟩
      rcases List.mem_cons.1 hw with rfl | hw
      · exact absurd hv hnot
      · exact hfails ⟨w, hw, hnot⟩
    · rw [hq.isFinite_error hv]
      exact ⟨fun hall => absurd (hall v List.mem_cons_self) hv, fun _ => rfl⟩

end Argument

end TurtleCanvas
