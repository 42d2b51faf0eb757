import TurtleCanvas.Number.Basic
import TurtleCanvas.Text.Quoted

/-!
# Loosely given arguments

Coordinates, sizes and colours are handed to the program without a type: a call may give a number,
a text, a flag, a list or nothing at all, and it is the operation that finds out whether it can use
what it was given.

* `Argument` : what a call may give.
* `Argument.number?`, `Argument.whole?` : the number, and the whole number, that an argument is.
* `Argument.quotedText`, `Argument.plainText` : an argument as it is quoted in a message.
-/

namespace TurtleCanvas

/-- What a call may give where a value is expected. -/
inductive Argument where
  /-- Nothing. -/
  | none
  /-- A truth value, which counts as the number 0 or 1. -/
  | flag (b : Bool)
  | number (n : Number)
  | text (s : String)
  | list (items : List Argument)
  deriving Inhabited

namespace Argument

/-- A whole number. -/
abbrev int (n : Int) : Argument := .number (.int n)

/-- A double. -/
abbrev real (x : Float) : Argument := .number (.real x)

/-- The argument as a number; texts, lists and nothing are none. -/
def number? : Argument → Option Number
  | flag b => some (.int b.toNat)
  | number n => some n
  | _ => Option.none

/-- The whole number that an argument is; a flag counts as one. -/
def whole? : Argument → Option Int
  | flag b => some b.toNat
  | number (.int n) => some n
  | _ => Option.none

/-- The argument counts as true: it is not nothing, zero or empty. -/
def isTruthy : Argument → Bool
  | none => false
  | flag b => b
  | number n => !n.eq (.int 0)
  | text s => !s.isEmpty
  | list items => !items.isEmpty

/-- The word for the kind of an argument. -/
def kindName : Argument → String
  | none => "NoneType"
  | flag _ => "bool"
  | number (.int _) => "int"
  | number (.real _) => "float"
  | text _ => "str"
  | list _ => "list"

mutual

/-- The argument with quotes around texts. -/
def quotedText : Argument → String
  | none => "None"
  | flag b => if b then "True" else "False"
  | number n => n.text
  | text s => Text.quoted s
  | list items => "[" ++ quotedItems items ++ "]"

/-- The items of a list, each quoted, with commas between them. -/
def quotedItems : List Argument → String
  | [] => ""
  | [a] => quotedText a
  | a :: rest => quotedText a ++ ", " ++ quotedItems rest

end

/-- The argument as it stands in a sentence: a text is not quoted. -/
def plainText : Argument → String
  | text s => s
  | a => quotedText a

end Argument

end TurtleCanvas
