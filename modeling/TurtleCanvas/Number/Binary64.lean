/-!
# Doubles as exact numbers

A finite double is a whole number times a power of two.  This module takes a double apart into
these two parts and puts the double nearest to a quotient together again, so that rounding to a
whole number, comparing with a whole number and taking a remainder are exact integer work.

* `Binary64.significand`, `Binary64.exponent` : a finite double is `significand * 2 ^ exponent`.
* `Binary64.nearest`, `Binary64.nearestSingle` : a quotient rounded to the precision of a double,
  and to single precision.
* `Binary64.ofRatio?` : the double nearest to a quotient, a half going to the even neighbour;
  `none` when the quotient is beyond the largest double.
* `Binary64.round`, `Binary64.trunc`, `Binary64.fraction` : the nearest whole number, the whole part
  and what that leaves.
* `Binary64.compareInt` : the order of a double and a whole number of any size.
* `Binary64.rem` : the remainder of the division that truncates, which is always a double.
-/

namespace TurtleCanvas

-- A power is core's own and not a monoid's, also where a library of algebra is in scope.
attribute [default_instance 20000, scoped instance (20000)] instPowNat

/-- The quotient rounded to the nearest natural number, a half going to the even neighbour. -/
def divRoundEven (num den : Nat) : Nat :=
  let q := num / den
  let r := num % den
  if 2 * r < den then q
  else if den < 2 * r then q + 1
  else q + q % 2

namespace Binary64

/-! ### The parts of a double -/

/-- The exponent field. -/
def exponentField (x : Float) : Nat := (x.toBits >>> 52).toNat % 2048

/-- The fraction field. -/
def fractionField (x : Float) : Nat := x.toBits.toNat % 2 ^ 52

/-- The sign bit is set: negative numbers and `-0.0`. -/
def isNegative (x : Float) : Bool := 2 ^ 63 ≤ x.toBits.toNat

/-- Neither infinite nor a NaN. -/
def isFinite (x : Float) : Bool := exponentField x != 2047

/-- Not a number: neither finite nor infinite. -/
def isNaN (x : Float) : Bool := exponentField x == 2047 && fractionField x != 0

/-- The whole number that a finite double is a multiple of a power of two of. -/
def significand (x : Float) : Int :=
  let magnitude : Nat :=
    if exponentField x = 0 then fractionField x else fractionField x + 2 ^ 52
  if isNegative x then -(magnitude : Int) else magnitude

/-- The power of two that scales the significand. -/
def exponent (x : Float) : Int := (max 1 (exponentField x) : Nat) - 1075

/-! ### Rounding a quotient -/

/-- A natural number times a power of two. -/
structure Dyadic where
  magnitude : Nat
  scale : Int
  deriving Repr, DecidableEq

/-- The quotient of two natural numbers rounded to a number of significant bits, or to fewer where
that would take a power of two below a least one, a half going to the even neighbour. -/
def nearestWith (bits : Nat) (least : Int) (num den : Nat) : Dyadic :=
  if num = 0 then ⟨0, 0⟩
  else
    let guess : Int := (num.log2 : Int) - den.log2
    let atLeast : Bool :=
      if 0 ≤ guess then decide (den * 2 ^ guess.toNat ≤ num)
      else decide (den ≤ num * 2 ^ (-guess).toNat)
    let leading : Int := if atLeast then guess else guess - 1
    let scale : Int := max (leading - (bits - 1)) least
    if 0 ≤ scale then ⟨divRoundEven num (den * 2 ^ scale.toNat), scale⟩
    else ⟨divRoundEven (num * 2 ^ (-scale).toNat) den, scale⟩

/-- The quotient of two natural numbers rounded to the precision of a double.  There is no greatest
value. -/
def nearest (num den : Nat) : Dyadic := nearestWith 53 (-1074) num den

/-- The quotient of two natural numbers rounded to single precision, likewise. -/
def nearestSingle (num den : Nat) : Dyadic := nearestWith 24 (-149) num den

/-- The bits of the nonnegative double nearest to `num / den`; beyond the largest double they
reach into the exponent field of the infinities. -/
def nearestBits (num den : Nat) : Nat :=
  if num = 0 then 0
  else
    let d := nearest num den
    (d.scale + 1074).toNat * 2 ^ 52 + d.magnitude

/-- The double nearest to `±num / den`, or `none` when that is beyond the largest double. -/
def ofRatio? (negative : Bool) (num den : Nat) : Option Float :=
  let bits := nearestBits num den
  if bits < 2047 * 2 ^ 52 then
    some (Float.ofBits (UInt64.ofNat (if negative then bits + 2 ^ 63 else bits)))
  else none

/-- The double nearest to a whole number, or `none` when that is beyond the largest double. -/
def ofInt? (n : Int) : Option Float := ofRatio? (decide (n < 0)) n.natAbs 1

/-- The least natural number that is rounded to something beyond the largest double. -/
def overflowBound : Nat := 2 ^ 1024 - 2 ^ 970

/-- The infinity of the given sign. -/
def infinity (negative : Bool) : Float :=
  Float.ofBits (if negative then 0xfff0000000000000 else 0x7ff0000000000000)

/-- A NaN. -/
def nan : Float := Float.ofBits 0x7ff8000000000000

/-! ### Whole numbers from doubles -/

/-- The whole number nearest to a finite double, a half going to the even neighbour. -/
def round (x : Float) : Int :=
  let e := exponent x
  let m := significand x
  if 0 ≤ e then m * 2 ^ e.toNat
  else
    let n : Int := divRoundEven m.natAbs (2 ^ (-e).toNat)
    if m < 0 then -n else n

/-- The whole part of a finite double. -/
def trunc (x : Float) : Int :=
  let e := exponent x
  let m := significand x
  if 0 ≤ e then m * 2 ^ e.toNat else m.tdiv (2 ^ (-e).toNat)

/-- What the whole part of a finite double leaves, as a quotient. -/
def fraction (x : Float) : Int × Nat :=
  let den : Nat := 2 ^ (-exponent x).toNat
  ((significand x).tmod den, den)

/-- The order of a double and a whole number, which a NaN has not. -/
def compareInt (x : Float) (n : Int) : Option Ordering :=
  if isFinite x then
    let e := exponent x
    let m := significand x
    if 0 ≤ e then some (compare (m * 2 ^ e.toNat) n)
    else some (compare m (n * 2 ^ (-e).toNat))
  else if isNaN x then none
  else some (if isNegative x then .lt else .gt)

/-- The remainder of the truncating division of two doubles.  It has the sign of the dividend and
is exact; a dividend that is not finite, a zero or NaN divisor has none. -/
def rem (x y : Float) : Float :=
  if !isFinite x || isNaN y || significand y == 0 then nan
  else if !isFinite y then x
  else
    let e := min (exponent x) (exponent y)
    let m := significand x * 2 ^ (exponent x - e).toNat
    let n := significand y * 2 ^ (exponent y - e).toNat
    let r := (m.tmod n).natAbs
    let exact :=
      if 0 ≤ e then ofRatio? (isNegative x) (r * 2 ^ e.toNat) 1
      else ofRatio? (isNegative x) r (2 ^ (-e).toNat)
    exact.getD nan

end Binary64

end TurtleCanvas
