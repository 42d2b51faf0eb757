import TurtleCanvas.Number.Binary64

/-!
# Colours by hue

Red, green and blue of colours given by hue, saturation and lightness or value, all as parts of
one, in double arithmetic.

* `Colour.ofHueLightness` : by hue, lightness and saturation.
* `Colour.ofHueValue` : by hue, saturation and value.
-/

namespace TurtleCanvas.Colour

/-- The part of a number behind the point, which is not negative. -/
def fractionalPart (x : Float) : Float :=
  let r := Binary64.rem x 1.0
  if r == 0.0 then 0.0 else if r < 0.0 then r + 1.0 else r

/-- One component of a colour whose components range from `low` to `high`, for the hue turned to
that component. -/
def hueComponent (low high hue : Float) : Float :=
  let hue := fractionalPart hue
  if hue < 1.0 / 6.0 then low + (high - low) * hue * 6.0
  else if hue < 0.5 then high
  else if hue < 2.0 / 3.0 then low + (high - low) * (2.0 / 3.0 - hue) * 6.0
  else low

/-- The colour of a hue, lightness and saturation. -/
def ofHueLightness (hue lightness saturation : Float) : Float × Float × Float :=
  if saturation == 0.0 then (lightness, lightness, lightness)
  else
    let high :=
      if lightness ≤ 0.5 then lightness * (1.0 + saturation)
      else lightness + saturation - lightness * saturation
    let low := 2.0 * lightness - high
    (hueComponent low high (hue + 1.0 / 3.0), hueComponent low high hue,
      hueComponent low high (hue - 1.0 / 3.0))

/-- The colour of a hue, saturation and value. -/
def ofHueValue (hue saturation value : Float) : Float × Float × Float :=
  if saturation == 0.0 then (value, value, value)
  else
    let sector := Binary64.trunc (hue * 6.0)
    let f := hue * 6.0 - (Binary64.ofInt? sector).getD 0.0
    let p := value * (1.0 - saturation)
    let q := value * (1.0 - saturation * f)
    let t := value * (1.0 - saturation * (1.0 - f))
    match sector % 6 with
    | 0 => (value, t, p)
    | 1 => (q, value, p)
    | 2 => (p, value, t)
    | 3 => (p, q, value)
    | 4 => (t, p, value)
    | _ => (value, p, q)

end TurtleCanvas.Colour
