import TurtleCanvas.Number.Basic
import TurtleCanvas.Text.Blank
import TurtleCanvas.Text.Digit

/-!
# Reading numbers

Whole numbers and decimals as they are written: blanks around them, a sign, digits of any script
with single underscores between them, and for a decimal a point, an exponent, or one of the words
for an infinity and for a NaN.

* `Text.scanInt` : the digits that a whole number begins with, and what follows them.
* `Text.parseInt?` : a whole number.
* `Text.parseReal?` : a decimal, rounded to the nearest double.
-/

namespace TurtleCanvas.Text

/-! ### Digits -/

/-- More digits of a number that has begun, each with at most one underscore before it, and what
follows them. -/
def takeMoreDigits : List Char → List Nat × List Char
  | [] => ([], [])
  | '_' :: c :: rest =>
    match digitValue? c with
    | some d =>
      let more := takeMoreDigits rest
      (d :: more.1, more.2)
    | none => ([], '_' :: c :: rest)
  | c :: rest =>
    match digitValue? c with
    | some d =>
      let more := takeMoreDigits rest
      (d :: more.1, more.2)
    | none => ([], c :: rest)

/-- The digits at the front of a text, with single underscores between them left out, and what
follows them. -/
def takeDigits : List Char → List Nat × List Char
  | [] => ([], [])
  | c :: rest => if isDigit c then takeMoreDigits (c :: rest) else ([], c :: rest)

/-- The number that decimal digits stand for. -/
def ofDigits (ds : List Nat) : Nat := ds.foldl (fun n d => 10 * n + d) 0

/-- A leading sign, `true` for a minus, and what follows it. -/
def takeSign : List Char → Bool × List Char
  | '-' :: rest => (true, rest)
  | '+' :: rest => (false, rest)
  | cs => (false, cs)

/-- A text as it is scanned for a whole number. -/
structure IntScan where
  negative : Bool
  digits : List Nat
  /-- What follows the digits. -/
  rest : List Char
  deriving Repr, DecidableEq

/-- Scan a text, from which blanks at both ends are left out, for a whole number. -/
def scanInt (s : String) : IntScan :=
  let (negative, cs) := takeSign (trimBlanks s.toList)
  let (digits, rest) := takeDigits cs
  ⟨negative, digits, rest⟩

/-- The whole number that a scan has found, if it has reached the end of the text. -/
def IntScan.value? (scan : IntScan) : Option Int :=
  if scan.digits.isEmpty || !scan.rest.isEmpty then none
  else some (if scan.negative then -(ofDigits scan.digits : Int) else ofDigits scan.digits)

/-- The digits are properly separated: no underscore follows them. -/
def IntScan.isSeparated (scan : IntScan) : Bool := scan.rest.head? != some '_'

/-- The whole number that a text writes. -/
def parseInt? (s : String) : Option Int := (scanInt s).value?

/-! ### Decimals -/

/-- The double nearest to `±mantissa * 10 ^ e`, infinite when that is beyond the largest.  The
bounds keep an absurd exponent from being computed: outside them the answer is settled. -/
def scaleByTen (negative : Bool) (mantissa : Nat) (e : Int) : Float :=
  let size : Int := (Nat.toDigits 10 mantissa).length
  if mantissa = 0 ∨ size + e < -400 then (Binary64.ofRatio? negative 0 1).getD 0.0
  else if 400 < size + e then Binary64.infinity negative
  else
    let r := Binary64.scaledByTen mantissa e
    (Binary64.ofRatio? negative r.1 r.2).getD (Binary64.infinity negative)

/-- The words for numbers that are not finite. -/
def word? (negative : Bool) (cs : List Char) : Option Float :=
  match cs.map Char.toLower with
  | ['i', 'n', 'f'] => some (Binary64.infinity negative)
  | ['i', 'n', 'f', 'i', 'n', 'i', 't', 'y'] => some (Binary64.infinity negative)
  | ['n', 'a', 'n'] => some Binary64.nan
  | _ => none

/-- The exponent part of a decimal: nothing, or `e`, a sign and digits up to the end. -/
def exponentPart? : List Char → Option Int
  | [] => some 0
  | c :: rest =>
    if c == 'e' || c == 'E' then
      let (negative, cs) := takeSign rest
      match takeDigits cs with
      | ([], _) => none
      | (ds, []) => some (if negative then -(ofDigits ds : Int) else ofDigits ds)
      | _ => none
    else none

/-- A decimal without its sign: digits, a point with digits, an exponent.  Digits stand on one side
of the point at least. -/
def unsignedReal? (negative : Bool) (cs : List Char) : Option Float :=
  let (whole, rest) := takeDigits cs
  let (fraction, rest) :=
    match rest with
    | '.' :: more => takeDigits more
    | _ => ([], rest)
  if whole.isEmpty && fraction.isEmpty then none
  else
    (exponentPart? rest).map fun e =>
      scaleByTen negative (ofDigits (whole ++ fraction)) (e - fraction.length)

/-- A decimal or a word, between blanks. -/
def parseReal? (s : String) : Option Float :=
  let (negative, cs) := takeSign (trimBlanks s.toList)
  match word? negative cs with
  | some x => some x
  | none => unsignedReal? negative cs

end TurtleCanvas.Text
