import TurtleCanvas.Text.Printable

/-!
# Quoted text

A text is written between quotes, with an escape for every character that could be misread.

* `Text.quoted` : the text between quotes.
-/

namespace TurtleCanvas.Text

/-- The number in hexadecimal, filled up with zeros to the given number of digits. -/
def hexDigits (width n : Nat) : List Char :=
  let ds := Nat.toDigits 16 n
  List.replicate (width - ds.length) '0' ++ ds

/-- One character between the given quotes: the quote and the backslash are escaped, and a
character that is not printable is written by its number in two, four or eight digits. -/
def quotedChar (quote c : Char) : List Char :=
  if c == quote || c == '\\' then ['\\', c]
  else if c == '\t' then ['\\', 't']
  else if c == '\n' then ['\\', 'n']
  else if c == '\r' then ['\\', 'r']
  else if isPrintable c then [c]
  else if c.toNat ≤ 0xff then '\\' :: 'x' :: hexDigits 2 c.toNat
  else if c.toNat ≤ 0xffff then '\\' :: 'u' :: hexDigits 4 c.toNat
  else '\\' :: 'U' :: hexDigits 8 c.toNat

/-- The text between single quotes, or between double quotes when it holds single quotes and no
double quote. -/
def quoted (s : String) : String :=
  let cs := s.toList
  let quote := if cs.contains '\'' && !cs.contains '"' then '"' else '\''
  String.ofList (quote :: (cs.flatMap (quotedChar quote) ++ [quote]))

end TurtleCanvas.Text
