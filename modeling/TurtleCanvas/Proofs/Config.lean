import TurtleCanvas.Config
import TurtleCanvas.Frame.Zoom
import TurtleCanvas.Pace
import TurtleCanvas.Proofs.Argument.NonFinite
import TurtleCanvas.Proofs.Binary64.Order
import TurtleCanvas.Proofs.CommandLine

/-!
# Settings that can be used

The speed and the scale that a command line asks for are doubles without bounds.  Several tests
along the way from there to a pause and to the size of a frame keep what cannot be used from getting
through, but for what is too large or too small.

* `Config.speedOf_real` and `Config.scaleOf_real` say what becomes of a speed and of a scale;
* `Pace.ofSpeed_real` says what pause fits a speed, and `Zoom.size_real` which sizes can be scaled;
* `Config.IsUsable` is what is asked of settings, and `Config.ofOptions_of_parse` says that it holds
  of the settings of every command line that there are settings for;
* `Config.scale_infinite` is a scale that is kept and that no size can be scaled by.
-/

namespace TurtleCanvas

open Argument (real realOf)
open Binary64 (IsPositive isPositive_iff compareInt infinity value representable_int
  representable_two_zpow natCast_lt_two_zpow)

/-! ### Comparing with zero -/

namespace Argument

variable {x : Float}

theorem zero_lt_real (x : Float) : ∃ above : Bool,
    Scalar.lt (Scalar.int 0) (real x) = .ok above ∧ (above = true ↔ IsPositive x) := by
  refine ⟨_, rfl, ?_⟩
  show Number.lt (.int 0) (.real x) = true ↔ _
  rw [Number.lt, Number.compare, beq_iff_eq, isPositive_iff]
  cases compareInt x 0 with
  | none => simp
  | some o => cases o <;> simp

/-- A double that is no NaN is above zero or not. -/
theorem real_le_zero (hnan : Binary64.isNaN x = false) : ∃ below : Bool,
    Scalar.le (real x) (Scalar.int 0) = .ok below ∧ (below = false ↔ IsPositive x) := by
  refine ⟨_, rfl, ?_⟩
  show Number.le (.real x) (.int 0) = false ↔ _
  rw [Number.le, Number.compare, isPositive_iff]
  cases hcompare : compareInt x 0 with
  | none =>
    rw [Binary64.isNaN_of_compareInt hcompare] at hnan
    cases hnan
  | some o => cases o <;> simp

theorem isTruthy_of_isPositive (h : IsPositive x) : (real x).isTruthy = true := by
  rw [isPositive_iff] at h
  simp [isTruthy, Number.eq, Number.compare, h]

end Argument

/-! ### What becomes of a speed and of a scale -/

namespace Config

/-- The speed is a double that is no NaN, and the one that was asked for if it is above zero. -/
theorem speedOf_real (x : Float) : ∃ v, speedOf (real x) = .ok (real v) ∧
    Binary64.isNaN v = false ∧ (IsPositive v → v = x) := by
  have hspeed : speedOf (real x) =
      if Number.lt (.real (realOf 0)) (.real x) then .ok (real x) else .ok (real (realOf 0)) := rfl
  rw [hspeed]
  split_ifs with hlt
  · refine ⟨x, rfl, ?_, fun _ => rfl⟩
    have hlt : realOf 0 < x := by
      by_contra hnot
      rw [Number.lt, Number.compare, if_neg hnot] at hlt
      split_ifs at hlt <;> cases hlt
    exact Bool.eq_false_iff.2 fun hnan => Binary64.not_lt_of_isNaN (.inr hnan) hlt
  · obtain ⟨hfinite, hzero⟩ := Binary64.realOf_spec (n := 0) (representable_int (by decide))
    refine ⟨realOf 0, rfl, Binary64.isNaN_of_isFinite hfinite, fun hpositive => ?_⟩
    rw [Int.cast_zero] at hzero
    exact absurd (hpositive.value hfinite) (by rw [hzero]; exact lt_irrefl 0)

/-- The scale is a double above zero, and the one that was asked for unless it is one. -/
theorem scaleOf_real (x : Float) : ∃ v, scaleOf (real x) = .ok (real v) ∧ IsPositive v ∧
    (v = x ∨ v = 1.0) := by
  obtain ⟨above, habove, hpositive⟩ := Argument.zero_lt_real x
  unfold scaleOf
  rw [habove]
  split_ifs with htruthy
  · cases above with
    | true => exact ⟨x, rfl, hpositive.1 rfl, .inl rfl⟩
    | false => exact ⟨1.0, rfl, Binary64.isPositive_one, .inr rfl⟩
  · exact ⟨1.0, rfl, Binary64.isPositive_one, .inr rfl⟩

end Config

namespace Pace

variable {x : Float}

theorem ofSeconds_real (hnan : Binary64.isNaN x = false) : ofSeconds (real x) = .ok .noPause ∨
    ofSeconds (real x) = .ok (.pause (real x)) ∧ IsPositive x := by
  obtain ⟨below, hbelow, hpositive⟩ := Argument.real_le_zero hnan
  unfold ofSeconds
  rw [hbelow]
  cases below with
  | true => exact .inl rfl
  | false => exact .inr ⟨rfl, hpositive.1 rfl⟩

/-- A speed that is no NaN has a pause that fits it, if it has any: that is above zero, and finite
unless the speed is at most `2 ^ -1024`. -/
theorem ofSpeed_real (hnan : Binary64.isNaN x = false) : ofSpeed (real x) = .ok .noPause ∨
    IsPositive x ∧ ∃ y, ofSpeed (real x) = .ok (.pause (real y)) ∧ IsPositive y ∧
      (Binary64.isFinite y = false → value x ≤ 2 ^ (-1024 : ℤ)) := by
  obtain ⟨below, hbelow, hpositive⟩ := Argument.real_le_zero hnan
  cases below with
  | true =>
    left
    unfold ofSpeed
    rw [hbelow]
    split_ifs
    · rfl
    · rfl
  | false =>
    have hx := hpositive.1 rfl
    obtain ⟨hone, hvalue⟩ := Binary64.realOf_spec (n := 1) (representable_int (by decide))
    rw [Int.cast_one] at hvalue
    have hne : (x == 0.0) = false := Binary64.beq_zero fun hfinite => (hx.value hfinite).ne'
    have hspeed : ofSpeed (real x) = ofSeconds (real (realOf 1 / x)) := by
      unfold ofSpeed
      rw [hbelow, Argument.isTruthy_of_isPositive hx]
      show (Scalar.div (real (realOf 1)) (real x) >>= ofSeconds) = _
      rw [Argument.real_div_real _ hne]
      rfl
    rw [hspeed]
    refine (ofSeconds_real (Binary64.isNaN_inverse hone hvalue hx)).imp_right ?_
    rintro ⟨hseconds, hpause⟩
    refine ⟨hx, _, hseconds, hpause, fun hinf => ?_⟩
    cases hfinite : Binary64.isFinite x with
    | true =>
      refine not_lt.1 fun hlarge => ?_
      exact nomatch hinf.symm.trans ((Binary64.isPositive_inverse hone hvalue hx hfinite).2 hlarge)
    | false => exact nomatch hinf.symm.trans (Binary64.div_infinite hone hfinite hx.isNaN).1

end Pace

/-! ### Sizes -/

theorem trunc_real (x : Float) : Scalar.trunc (real x) =
    if Binary64.isFinite x then .ok (Binary64.trunc x)
    else if Binary64.isNaN x then .error .nanToInt else .error .infinityToInt := rfl

namespace Zoom

variable {n : ℕ} {x : Float}

/-- A size is scaled as a double. -/
theorem exists_size_eq (hlt : n < 2 ^ 53) (x : Float) : ∃ y, Binary64.isFinite y = true ∧
    value y = n ∧ size n (real x) = (do return (max 1 (← Scalar.trunc (real (y * x)))).toNat) := by
  obtain ⟨y, hy, hfinite, hvalue⟩ :=
    Binary64.exists_ofInt? (n := n) (representable_int (by omega))
  have hreads : (Argument.int n).Reads y := ⟨_, rfl, by rw [Number.toReal, hy]⟩
  refine ⟨y, hfinite, hvalue, ?_⟩
  show (Scalar.mul (Argument.int n) (real x) >>= _) = _
  rw [hreads.mul_real]
  rfl

/-- No size can be scaled by an infinity. -/
theorem size_infinite (hn : 1 ≤ n) (hlt : n < 2 ^ 53) (hx : Binary64.isFinite x = false)
    (hnan : Binary64.isNaN x = false) : size n (real x) = .error .infinityToInt := by
  obtain ⟨y, hfinite, hvalue, hsize⟩ := exists_size_eq hlt x
  have hne : value y ≠ 0 := by
    rw [hvalue]
    exact_mod_cast (by omega : n ≠ 0)
  obtain ⟨hinf, hproduct⟩ := Binary64.mul_infinite hfinite hne hx hnan
  rw [hsize, trunc_real, hinf, hproduct]
  rfl

/-- A size scaled by a positive double is a whole number, unless the product is beyond the largest
double. -/
theorem size_real (hn : 1 ≤ n) (hlt : n < 2 ^ 53) (hx : IsPositive x) :
    (∃ k, size n (real x) = .ok k) ∨ size n (real x) = .error .infinityToInt ∧
      (Binary64.isFinite x = true → 2 ^ (1023 : ℤ) ≤ n * value x) := by
  cases hxfinite : Binary64.isFinite x with
  | false => exact .inr ⟨size_infinite hn hlt hxfinite hx.isNaN, nofun⟩
  | true =>
    obtain ⟨y, hfinite, hvalue, hsize⟩ := exists_size_eq hlt x
    have hpos := hx.value hxfinite
    have hbeside := Binary64.beside_mul hfinite hxfinite
    rw [hvalue] at hbeside
    have hlow := hbeside.atLeast 0 Binary64.representable_zero (by positivity)
    have hsmall : n * value x < 2 ^ (1023 : ℤ) → Binary64.isFinite (y * x) = true := by
      intro hlt
      have hhigh := hbeside.atMost _ (representable_two_zpow (by decide) le_rfl) hlt.le
      exact (Binary64.isFinite_of_atLeast_of_atMost hlow hhigh).1
    rw [hsize, trunc_real]
    rcases hlow with ⟨hfin, -⟩ | ⟨hinf, hnan, -⟩
    · rw [hfin]
      exact .inl ⟨_, rfl⟩
    · rw [hinf, hnan]
      exact .inr ⟨rfl, fun _ => not_lt.1 fun hlt => nomatch hinf.symm.trans (hsmall hlt)⟩

end Zoom

/-! ### The settings of a command line -/

namespace Config

/-- What is asked of the settings that options ask for. -/
structure IsUsable (config : Config) (o : Options) : Prop where
  /-- The scale is above zero, and finite unless an infinite one was asked for. -/
  scale : ∃ x, config.scale = real x ∧ IsPositive x ∧
    (Binary64.isFinite x = false → o.scale = real x)
  /-- A size can be scaled, unless the product is beyond the largest double. -/
  size : ∀ n, 1 ≤ n → n < 2 ^ 53 → (∃ k, Zoom.size n config.scale = .ok k) ∨
    Zoom.size n config.scale = .error .infinityToInt ∧ ∃ x, o.scale = real x ∧
      (Binary64.isFinite x = true → 2 ^ (1023 : ℤ) ≤ n * value x)
  /-- There is a pause that fits the speed, if it has any: it is above zero, and finite unless a
  speed of at most `2 ^ -1024` was asked for. -/
  pace : Pace.ofSpeed config.speed = .ok .noPause ∨ ∃ y,
    Pace.ofSpeed config.speed = .ok (.pause (real y)) ∧ IsPositive y ∧
      (Binary64.isFinite y = false → ∃ x, o.speed = real x ∧ value x ≤ 2 ^ (-1024 : ℤ))

/-- The speed that is asked for is read as a double. -/
theorem exists_toReal_speed {o : Options} (ho : o.IsRead) (h : o.speed ≠ .list []) :
    ∃ x, Scalar.toReal o.speed = .ok (real x) ∧ (o.speed = real x ∨ value x = 100) := by
  rcases ho.speed with hdefault | ⟨x, hx⟩ | hmissing
  · obtain ⟨y, hy, -, hvalue⟩ := Binary64.exists_ofInt? (n := Options.defaultSpeed)
      (representable_int (by decide))
    refine ⟨y, ?_, .inr (hvalue.trans (by norm_num [Options.defaultSpeed]))⟩
    have hreal : (Number.int Options.defaultSpeed).toReal = .ok y := by rw [Number.toReal, hy]
    rw [hdefault]
    exact Except.bind_eq_ok_iff.2 ⟨y, (Argument.toReal_of_number? rfl).trans hreal, rfl⟩
  · exact ⟨x, by rw [hx]; rfl, .inl hx⟩
  · exact absurd hmissing h

theorem exists_scaleOf {o : Options} (ho : o.IsRead) : ∃ x, scaleOf o.scale = .ok (real x) ∧
    IsPositive x ∧ (o.scale = real x ∨ x = 1.0) := by
  rcases ho.scale with ⟨x, hx⟩ | hmissing
  · obtain ⟨v, hv, hpositive, hsame⟩ := scaleOf_real x
    rw [hx]
    exact ⟨v, hv, hpositive, hsame.imp_left fun h => by rw [h]⟩
  · rw [hmissing]
    exact ⟨1.0, rfl, Binary64.isPositive_one, .inr rfl⟩

theorem value_one : value 1.0 = 1 := by
  have hsignificand : Binary64.significand 1.0 = 2 ^ 52 := rfl
  have hexponent : Binary64.exponent 1.0 = -52 := rfl
  rw [value, hsignificand, hexponent]
  norm_num

/-- Options without a speed have no settings. -/
theorem ofOptions_of_speed {o : Options} (h : o.speed = .list []) :
    ofOptions o = .error .wrongKind := by
  rw [ofOptions, h]
  rfl

/-- With a speed, it is the level that there are settings for or not. -/
theorem ofOptions_of_isRead {o : Options} (ho : o.IsRead) (h : o.speed ≠ .list []) :
    ∃ v z, Binary64.isNaN v = false ∧ (IsPositive v → o.speed = real v ∨ value v = 100) ∧
      IsPositive z ∧ (o.scale = real z ∨ z = 1.0) ∧
      ofOptions o = (do
        let logLevel ← upper o.logLevel
        return { default with
          speed := real v, showWindow := .flag !o.noWindow, scale := real z, logLevel }) := by
  obtain ⟨x, hx, hsame⟩ := exists_toReal_speed ho h
  obtain ⟨v, hv, hnan, hkept⟩ := speedOf_real x
  obtain ⟨z, hz, hpositive, hzsame⟩ := exists_scaleOf ho
  refine ⟨v, z, hnan, fun hvpositive => hkept hvpositive ▸ hsame, hpositive, hzsame, ?_⟩
  have hspeed : speedOf o.speed = .ok (real v) := by
    rw [speedOf, hx]
    exact hv
  rw [ofOptions, hspeed, Except.ok_bind, hz, Except.ok_bind]

/-- Settings with a speed that is no NaN and with a scale above zero can be used. -/
theorem isUsable_of_real {o : Options} {config : Config} {v z : Float}
    (hspeed : config.speed = real v) (hscale : config.scale = real z)
    (hnan : Binary64.isNaN v = false) (hv : IsPositive v → o.speed = real v ∨ value v = 100)
    (hpositive : IsPositive z) (hz : o.scale = real z ∨ z = 1.0) : config.IsUsable o where
  scale := by
    refine ⟨z, hscale, hpositive, fun hinf => hz.resolve_right fun hone => ?_⟩
    rw [hone] at hinf
    exact nomatch hinf
  size n hn hlt := by
    rw [hscale]
    refine (Zoom.size_real hn hlt hpositive).imp_right ?_
    rintro ⟨hsize, hlarge⟩
    refine ⟨hsize, z, hz.resolve_right fun hone => ?_, hlarge⟩
    rw [hone, value_one, mul_one] at hlarge
    exact absurd (hlarge rfl) (not_le.2 (natCast_lt_two_zpow hlt (by decide)))
  pace := by
    rw [hspeed]
    refine (Pace.ofSpeed_real hnan).imp_right ?_
    rintro ⟨hvpositive, y, hpace, hy, htiny⟩
    refine ⟨y, hpace, hy, fun hinf => ?_⟩
    have hle := htiny hinf
    refine ⟨v, (hv hvpositive).resolve_right fun hhundred => ?_, hle⟩
    rw [hhundred] at hle
    have hone : (2 : ℚ) ^ (-1024 : ℤ) ≤ 1 := zpow_le_one_of_nonpos₀ one_le_two (by decide)
    linarith

/-- **The settings of a command line can be used.**  There are settings for every command line that
is accepted, unless the mark that ends the options stands in the place of a speed or of a level.
The scale is above zero, sizes can be scaled by it, and a pause fits the speed, if it has any; but
an infinite scale and one that takes a size beyond the largest double, and a speed among the very
least, are not kept from getting through. -/
theorem ofOptions_of_parse {words : List String} {o : Options}
    (h : CommandLine.parse words = .ok o) :
    o.speed = .list [] ∧ ofOptions o = .error .wrongKind ∨
    o.speed ≠ .list [] ∧ o.logLevel = .list [] ∧ ofOptions o = .error .lacksOperation ∨
    o.speed ≠ .list [] ∧ o.logLevel ≠ .list [] ∧
      ∃ config, ofOptions o = .ok config ∧ config.IsUsable o := by
  have ho := CommandLine.isRead_of_parse h
  by_cases hspeed : o.speed = .list []
  · exact .inl ⟨hspeed, ofOptions_of_speed hspeed⟩
  obtain ⟨v, z, hnan, hv, hpositive, hz, hoptions⟩ := ofOptions_of_isRead ho hspeed
  rw [hoptions]
  rcases ho.logLevel with ⟨level, hlevel⟩ | hmissing
  · right; right
    rw [hlevel]
    exact ⟨hspeed, nofun, _, rfl, isUsable_of_real rfl rfl hnan hv hpositive hz⟩
  · right; left
    rw [hmissing]
    exact ⟨hspeed, rfl, rfl⟩

open CommandLine in
/-- A speed that is a NaN. -/
theorem ofOptions_of_parse_nan : ∃ o, parse ["--speed", "nan"] = .ok o ∧
    ∃ config, ofOptions o = .ok config ∧ config.IsUsable o := by
  have hnan : Text.parseReal? "nan" = some Binary64.nan := by cbv
  have hwords : classify ["--speed", "nan"] = .ok [.option .speed false none, .value "nan"] := by
    cbv
  have hset : setValue .default .speed "nan" =
      .ok { Options.default with speed := real Binary64.nan } := by
    simp [setValue, realValue, hnan, Flag.set]
  have hparse := parse_of_read hwords (read_option rfl hset rfl)
  rcases ofOptions_of_parse hparse with ⟨h, -⟩ | ⟨-, h, -⟩ | ⟨-, -, h⟩
  · cases h
  · cases h
  · exact ⟨_, hparse, h⟩

open CommandLine in
/-- An infinite scale is kept, and no size can be scaled by it. -/
theorem scale_infinite : ∃ o config, parse ["--scale", "inf"] = .ok o ∧ ofOptions o = .ok config ∧
    config.scale = real (infinity false) ∧ Binary64.isFinite (infinity false) = false ∧
    Zoom.size 600 config.scale = .error .infinityToInt := by
  have hinf : Text.parseReal? "inf" = some (infinity false) := by cbv
  have hwords : classify ["--scale", "inf"] = .ok [.option .scale false none, .value "inf"] := by
    cbv
  have hset : setValue .default .scale "inf" =
      .ok { Options.default with scale := real (infinity false) } := by
    simp [setValue, realValue, hinf, Flag.set]
  have hparse := parse_of_read hwords (read_option rfl hset rfl)
  obtain ⟨config, hconfig, hscale⟩ : ∃ config,
      ofOptions { Options.default with scale := real (infinity false) } = .ok config ∧
        config.scale = real (infinity false) := ⟨_, rfl, rfl⟩
  refine ⟨_, config, hparse, hconfig, hscale, rfl, ?_⟩
  rw [hscale]
  exact Zoom.size_infinite (by decide) (by decide) rfl rfl

end Config

end TurtleCanvas
