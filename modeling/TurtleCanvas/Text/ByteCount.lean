import TurtleCanvas.Number.Binary64

/-!
# Amounts of memory as text

An amount of memory is told in the greatest binary unit that it fills, with three significant
digits; the point stays even where no digit follows it.

* `Text.byteCount` : a number of bytes as text.
-/

namespace TurtleCanvas.Text

/-- The units, each 1024 times the one before it. -/
def byteUnits : List String := ["bytes", "KiB", "MiB", "GiB", "TiB", "PiB", "EiB"]

/-- A quotient with as many decimals as make three significant digits, and at least with a
point. -/
def threeDigits (num den : Nat) : String :=
  let hundredths := divRoundEven (100 * num) den
  let tenths := divRoundEven (10 * num) den
  let padded (n : Nat) : String := (if n < 10 then "0" else "") ++ toString n
  if hundredths < 1000 then toString (hundredths / 100) ++ "." ++ padded (hundredths % 100)
  else if tenths < 1000 then toString (tenths / 10) ++ "." ++ toString (tenths % 10)
  else toString (divRoundEven num den) ++ "."

/-- A number of bytes as text. -/
def byteCount (n : Nat) : String :=
  let filled := (max n 2).log2 / 10
  let step := if divRoundEven n (1024 ^ filled) = 1024 then filled + 1 else filled
  let step := min step (byteUnits.length - 1)
  let number := if step = 0 then toString n else threeDigits n (1024 ^ step)
  number ++ " " ++ byteUnits.getD step ""

end TurtleCanvas.Text
