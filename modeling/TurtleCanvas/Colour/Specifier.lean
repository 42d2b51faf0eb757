import TurtleCanvas.Colour.Names
import TurtleCanvas.Colour.Spaces
import TurtleCanvas.Text.Decimal
import TurtleCanvas.Text.LetterCase
import TurtleCanvas.Fault

/-!
# Colours as text

A colour is written as a name, as hexadecimal digits behind a `#`, or as a function of its
components: `rgb(1, 2, 3)`, `rgb(1%, 2%, 3%)`, `hsl(1, 2%, 3%)`, `hsv(1, 2%, 3%)` (also called
`hsb`) and `rgba(1, 2, 3, 4)`.  Letters count in either case.  Blanks may stand around the
components, and one line end after the whole; a fourth component is read and dropped.

* `Colour.parse` : the colour that a text writes.
-/

namespace TurtleCanvas.Colour

open Text

/-! ### Components between brackets -/

/-- The digits at the front of a text, and what follows them. -/
def spanDigits : List Char → List Nat × List Char
  | [] => ([], [])
  | c :: rest =>
    match digitValue? c with
    | some d =>
      let more := spanDigits rest
      (d :: more.1, more.2)
    | none => ([], c :: rest)

/-- A whole number without a sign. -/
def natural? (cs : List Char) : Option (Nat × List Char) :=
  match spanDigits cs with
  | ([], _) => none
  | (ds, rest) => some (ofDigits ds, rest)

/-- A decimal without a sign, which begins with a digit. -/
def decimal? (cs : List Char) : Option (Float × List Char) :=
  match spanDigits cs with
  | ([], _) => none
  | (ds, '.' :: rest) =>
    let fraction := spanDigits rest
    some (scaleByTen false (ofDigits (ds ++ fraction.1)) (-fraction.1.length), fraction.2)
  | (ds, rest) => some (scaleByTen false (ofDigits ds) 0, rest)

/-- The end of a colour: nothing, or one line end. -/
def atEnd (cs : List Char) : Bool := cs == [] || cs == ['\n']

/-- Components up to the closing bracket, one for each flag, which tells whether a per cent sign
follows the number. -/
def componentsUpTo {β : Type} (number? : List Char → Option (β × List Char)) :
    List Bool → List Char → Option (List β)
  | [], _ => none
  | percent :: more, cs => do
    let (n, rest) ← number? (cs.dropWhile isSpace)
    let rest ←
      if percent then
        match rest with
        | '%' :: rest => some rest
        | _ => none
      else some rest
    match more, rest.dropWhile isSpace with
    | [], ')' :: rest => if atEnd rest then some [n] else none
    | more, ',' :: rest => (componentsUpTo number? more rest).map (n :: ·)
    | _, _ => none

/-- The components of a function of the given name. -/
def call? {β : Type} (name : String) (number? : List Char → Option (β × List Char))
    (percents : List Bool) (cs : List Char) : Option (List β) :=
  let opening := name.toList ++ ['(']
  if opening.isPrefixOf cs then componentsUpTo number? percents (cs.drop opening.length) else none

/-! ### The forms -/

/-- Three or four components of one hexadecimal digit, which stands for two equal ones, or three or
four of two digits. -/
def ofHex? (cs : List Char) : Option Colour := do
  match ← cs.mapM hexValue? with
  | [r, g, b] | [r, g, b, _] => some ⟨17 * r, 17 * g, 17 * b⟩
  | [r, r', g, g', b, b'] | [r, r', g, g', b, b', _, _] =>
    some ⟨16 * r + r', 16 * g + g', 16 * b + b'⟩
  | _ => none

/-- A colour behind a `#`. -/
def hex? : List Char → Option Colour
  | '#' :: cs => if cs.getLast? = some '\n' then ofHex? cs.dropLast else ofHex? cs
  | _ => none

/-- A part of one in steps of 1/255. -/
def byteOfPart (x : Float) : Int := Binary64.trunc (x * 255.0 + 0.5)

/-- A colour by parts of one. -/
def ofParts (parts : Float × Float × Float) : Colour :=
  ⟨byteOfPart parts.1, byteOfPart parts.2.1, byteOfPart parts.2.2⟩

/-- A percentage in steps of 1/255. -/
def byteOfPercent (n : Nat) : Int :=
  Binary64.trunc ((Binary64.ofInt? (n * 255)).getD 0.0 / 100.0 + 0.5)

/-- Red, green and blue as whole numbers. -/
def rgb? (cs : List Char) : Option Colour :=
  match call? "rgb" natural? [false, false, false] cs with
  | some [r, g, b] => some ⟨r, g, b⟩
  | _ => none

/-- Red, green and blue as percentages. -/
def rgbPercent? (cs : List Char) : Option Colour :=
  match call? "rgb" natural? [true, true, true] cs with
  | some [r, g, b] => some ⟨byteOfPercent r, byteOfPercent g, byteOfPercent b⟩
  | _ => none

/-- Hue in degrees, saturation and lightness as percentages. -/
def hsl? (cs : List Char) : Option Colour :=
  match call? "hsl" decimal? [false, true, true] cs with
  | some [h, s, l] => some (ofParts (ofHueLightness (h / 360.0) (l / 100.0) (s / 100.0)))
  | _ => none

/-- Hue in degrees, saturation and value as percentages. -/
def hsv? (cs : List Char) : Option Colour :=
  match (call? "hsv" decimal? [false, true, true] cs).or
      (call? "hsb" decimal? [false, true, true] cs) with
  | some [h, s, v] => some (ofParts (ofHueValue (h / 360.0) (s / 100.0) (v / 100.0)))
  | _ => none

/-- Red, green, blue and opacity as whole numbers. -/
def rgba? (cs : List Char) : Option Colour :=
  match call? "rgba" natural? [false, false, false, false] cs with
  | some [r, g, b, _] => some ⟨r, g, b⟩
  | _ => none

/-- The colour of a text in small letters. -/
def ofLower? (s : String) : Option Colour :=
  let cs := s.toList
  (named? s).or <| (hex? cs).or <| (rgb? cs).or <| (rgbPercent? cs).or <| (hsl? cs).or <|
    (hsv? cs).or (rgba? cs)

/-- The greatest number of characters that are read as a colour. -/
def maxLength : Nat := 100

/-- The colour that a text writes. -/
def parse (s : String) : Except Fault Colour :=
  if maxLength < s.length then .error .colourTooLong
  else
    let lower := toLower s
    match ofLower? lower with
    | some c => .ok c
    | none => .error (.unknownColour lower)

end TurtleCanvas.Colour
