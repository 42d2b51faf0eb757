import TurtleCanvas.Number.Binary64

/-!
# The shortest decimal of a double

A finite double is written with the fewest significant digits that read back as the same double.

* `Decimal` : digits with the place of the decimal point.
* `Binary64.shortest` : the shortest decimal that reads back, the nearest of those.
* `Binary64.text` : that decimal as text.
-/

namespace TurtleCanvas

/-- The nonnegative number `0.d₁d₂d₃… * 10 ^ point`. -/
structure Decimal where
  /-- The digits as one whole number, without trailing zeros. -/
  digits : Nat
  /-- Where the decimal point stands, counted from the first digit. -/
  point : Int
  deriving Repr, DecidableEq

namespace Binary64

/-- The magnitude of a finite double as a quotient. -/
def magnitudeRatio (x : Float) : Nat × Nat :=
  let m := (significand x).natAbs
  let e := exponent x
  if 0 ≤ e then (m * 2 ^ e.toNat, 1) else (m, 2 ^ (-e).toNat)

/-- `10 ^ k ≤ num / den`. -/
def tenPowerLE (k : Int) (num den : Nat) : Bool :=
  if 0 ≤ k then decide (10 ^ k.toNat * den ≤ num) else decide (den ≤ num * 10 ^ (-k).toNat)

/-- The number of digits before the decimal point of a positive quotient, or minus the number of
zeros that follow the point. -/
def pointOf (num den : Nat) : Int :=
  let guess := (((num.log2 : Int) - den.log2) * 30103).fdiv 100000
  if tenPowerLE (guess + 1) num den then guess + 2
  else if tenPowerLE guess num den then guess + 1
  else guess

/-- `n * 10 ^ k` as a quotient. -/
def scaledByTen (n : Nat) (k : Int) : Nat × Nat :=
  if 0 ≤ k then (n * 10 ^ k.toNat, 1) else (n, 10 ^ (-k).toNat)

/-- The two multiples of `10 ^ k` around `num / den` that read back as the double with the given
bits: the nearer one, an even one of two that are equally near. -/
def readsBackOn (bits : Nat) (num den : Nat) (k : Int) : Option Nat :=
  let unit := scaledByTen 1 k
  let scaledNum := num * unit.2
  let scaledDen := den * unit.1
  let low := scaledNum / scaledDen
  let good (n : Nat) : Bool :=
    let r := scaledByTen n k
    nearestBits r.1 r.2 == bits
  let nearest := divRoundEven scaledNum scaledDen
  if good nearest then some nearest
  else if good low then some low
  else if good (low + 1) then some (low + 1)
  else none

/-- Drop the trailing zeros of a whole number, at most `fuel` of them. -/
def dropZeros : Nat → Nat → Nat
  | 0, n => n
  | fuel + 1, n => if n ≠ 0 ∧ n % 10 = 0 then dropZeros fuel (n / 10) else n

/-- The first grid of `d`, `d + 1`, … significant digits, `fuel` of them, with a point that reads
back. -/
def shortestFrom (bits num den : Nat) (point : Int) : Nat → Nat → Decimal
  | 0, d => ⟨divRoundEven num den, (d : Int)⟩
  | fuel + 1, d =>
    match readsBackOn bits num den (point - d) with
    | some n => ⟨dropZeros 20 n, point - d + (Nat.toDigits 10 n).length⟩
    | none => shortestFrom bits num den point fuel (d + 1)

/-- The decimal with the fewest digits that reads back as the magnitude of a finite double.  Some
decimal of seventeen digits always does. -/
def shortest (x : Float) : Decimal :=
  let (num, den) := magnitudeRatio x
  if num = 0 then ⟨0, 1⟩
  else shortestFrom (x.toBits.toNat % 2 ^ 63) num den (pointOf num den) 17 1

/-- A decimal as text: positional while the point stands within four places before and sixteen
places after the first digit, otherwise with an exponent of at least two digits.  A whole number
keeps one zero behind the point in the positional form. -/
def decimalText (d : Decimal) : String :=
  let ds := Nat.toDigits 10 d.digits
  let count : Int := ds.length
  let zeros (n : Int) : List Char := List.replicate n.toNat '0'
  if -4 < d.point ∧ d.point ≤ 16 then
    if d.point ≤ 0 then String.ofList ('0' :: '.' :: (zeros (-d.point) ++ ds))
    else if count ≤ d.point then String.ofList (ds ++ zeros (d.point - count) ++ ['.', '0'])
    else String.ofList (ds.take d.point.toNat ++ '.' :: ds.drop d.point.toNat)
  else
    let e := d.point - 1
    let mantissa := match ds with
      | [] => []
      | [c] => [c]
      | c :: rest => c :: '.' :: rest
    let exponentDigits := Nat.toDigits 10 e.natAbs
    let padded := if exponentDigits.length < 2 then '0' :: exponentDigits else exponentDigits
    String.ofList (mantissa ++ 'e' :: (if e < 0 then '-' else '+') :: padded)

/-- A double as text. -/
def text (x : Float) : String :=
  if isNaN x then "nan"
  else
    let magnitude := if isFinite x then decimalText (shortest x) else "inf"
    if isNegative x then "-" ++ magnitude else magnitude

end Binary64

end TurtleCanvas
