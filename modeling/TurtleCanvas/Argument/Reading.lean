import TurtleCanvas.Number.Arithmetic
import TurtleCanvas.Text.Decimal

/-!
# Reading arguments

* `Argument.toNumber` : an argument that must be a number.
* `Argument.toInt` : a whole number, also from its text, a double being cut to its whole part.
* `Argument.toReal` : a double, also from its text.
* `Argument.toPath`, `Argument.toItems` : a path, and a list of items.
-/

namespace TurtleCanvas

namespace Argument

/-- The argument as a number. -/
def toNumber (a : Argument) : Except Fault Number :=
  match a.number? with
  | some n => .ok n
  | Option.none => .error .wrongKind

/-- The greatest number of digits that are read as a whole number. -/
def maxDigits : Nat := 4300

/-- The argument as a whole number: the whole part of a number, or the number that a text writes.
The digits of a text are counted before it is known whether anything follows them. -/
def toInt : Argument → Except Fault Int
  | text s =>
    let scan := Text.scanInt s
    if maxDigits < scan.digits.length ∧ scan.isSeparated then
      .error (.tooManyDigits scan.digits.length)
    else
      match scan.value? with
      | some n => .ok n
      | Option.none => .error (.notAnInt s)
  | a =>
    match a.number? with
    | some n => n.trunc
    | Option.none => .error (.noWhole a)

/-- The argument as a double: the nearest one to a number, or to the decimal that a text writes. -/
def toReal : Argument → Except Fault Float
  | text s =>
    match Text.parseReal? s with
    | some x => .ok x
    | Option.none => .error (.notAReal s)
  | a => do (← a.toNumber).toReal

/-- The argument as a path, which is a text. -/
def toPath : Argument → Except Fault String
  | text s => .ok s
  | a => .error (.noPath a)

/-- The argument as a list of items: a text is the list of its characters. -/
def toItems : Argument → Except Fault (List Argument)
  | list items => .ok items
  | text s => .ok (s.toList.map fun c => .text (String.ofList [c]))
  | _ => .error .wrongKind

end Argument

end TurtleCanvas
