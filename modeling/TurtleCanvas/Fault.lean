import TurtleCanvas.Argument.Basic
import TurtleCanvas.Text.ByteCount

/-!
# What can go wrong

Every operation that can fail names the cause as a value of one type; the wording stands in one
place.

* `FileFault` : why a path leads to no file.
* `WriteFault` : why a file cannot be written.
* `Fault` : the causes of failure.
* `Fault.message` : the wording, for the causes that have one.
* `Fault.ofComponent` : the cause for which a colour component cannot be stored.
-/

namespace TurtleCanvas

/-- Why a path leads to no file that could be read or written. -/
inductive FileFault where
  /-- There is nothing of that name, or no directory to put it in. -/
  | missing
  /-- The name is that of a directory. -/
  | isDirectory
  /-- The name leads through something that is not a directory. -/
  | notDirectory
  /-- The name, or one of the names along it, is longer than names may be. -/
  | nameTooLong
  deriving DecidableEq, Repr

/-- The system's wording for a file fault. -/
def FileFault.message (path : String) : FileFault → String
  | missing => "[Errno 2] No such file or directory: " ++ Text.quoted path
  | isDirectory => "[Errno 21] Is a directory: " ++ Text.quoted path
  | notDirectory => "[Errno 20] Not a directory: " ++ Text.quoted path
  | nameTooLong => "[Errno 36] File name too long: " ++ Text.quoted path

/-- Why a file cannot be written. -/
inductive WriteFault where
  /-- The path leads to no file. -/
  | path (fault : FileFault)
  /-- The system refuses to open the file, or stops while it is written, with a wording of its
  own. -/
  | system (wording : String)
  deriving DecidableEq, Repr

/-- The system's wording for a fault in writing. -/
def WriteFault.message (name : String) : WriteFault → String
  | path fault => fault.message name
  | system wording => wording

/-- A cause of failure. -/
inductive Fault where
  /-- A canvas size is not a whole number. -/
  | sizeNotWhole (width height : Argument)
  /-- A canvas size is zero or negative. -/
  | sizeNotPositive (width height : Argument)
  /-- A canvas size is beyond what can be counted. -/
  | sizeBeyondCount
  /-- A canvas has more bytes than can be counted. -/
  | bytesBeyondCount
  /-- There is no memory for a canvas of a size. -/
  | noRoomForCanvas (width height : Nat)
  /-- There is no memory for an image, zoomed or not. -/
  | noRoomForZoom
  /-- An argument is not of a kind that the operation can use. -/
  | wrongKind
  /-- Something is neither a number nor a text, and so no whole number. -/
  | noWhole (given : Argument)
  /-- Something lacks the operation that is asked of it, as a turtle without a canvas lacks
  drawing. -/
  | lacksOperation
  /-- A picture cannot be written to something that is no path. -/
  | noPath (given : Argument)
  /-- A stroke is thicker than the painter can draw. -/
  | strokeTooThick
  /-- The painter does not take a colour with a component beyond the largest double. -/
  | colourRefused
  /-- The painter has painted, but could not make out a component beyond the largest double. -/
  | colourMisread
  /-- A pixel outside the canvas was asked for. -/
  | outside (x y : Argument) (width height : Nat)
  /-- A pixel was asked for by a coordinate that is not a whole number. -/
  | notAnIndex
  /-- A pixel of a kept picture was asked for beyond one of its two axes. -/
  | beyondAxis (index : Int) (axis size : Nat)
  /-- An item was asked for that a list has not. -/
  | noSuchItem
  /-- A place is given by fewer than two coordinates. -/
  | noCoordinate
  /-- A caption stands at a coordinate that does not fit 64 bits. -/
  | placeMisread
  /-- An item of a list was asked for by a number beyond what can be counted. -/
  | indexBeyondCount
  /-- A picture that may only be looked at was written to. -/
  | readOnly
  /-- A colour component does not fit a byte. -/
  | beyondByte (component : Int)
  /-- A whole number does not fit 64 bits. -/
  | beyondLong
  /-- A whole number does not fit 32 bits. -/
  | beyondWord
  /-- Nested lists are not equally long at each depth. -/
  | unevenLists (shape : List Nat)
  /-- Lists are nested more deeply than there are axes. -/
  | tooDeep (axes : Nat)
  /-- More axes are picked along than a picture has. -/
  | tooManyIndices (axes given : Nat)
  /-- Flags along an axis are not as many as its places. -/
  | flagsMismatch (axis size given : Nat)
  /-- Blocks of places cannot be repeated to one shape. -/
  | indicesMismatch (shapes : List (List Nat))
  /-- What is stored cannot be repeated to the shape of a part of a picture. -/
  | cannotSpread (shape part : List Nat)
  /-- What is stored cannot be repeated to the shape of a part that blocks of places pick. -/
  | blockMismatch (shape part : List Nat)
  /-- A whole number is beyond the largest double. -/
  | beyondReal
  /-- A quotient of whole numbers is beyond the largest double. -/
  | quotientBeyondReal
  /-- Division by the whole number zero. -/
  | divisionByZero
  /-- Division of a double by zero. -/
  | realDivisionByZero
  /-- An infinity has no whole part. -/
  | infinityToInt
  /-- A NaN has no whole part. -/
  | nanToInt
  /-- A text is not a whole number. -/
  | notAnInt (text : String)
  /-- A text is not a decimal. -/
  | notAReal (text : String)
  /-- A written whole number is too long to be read. -/
  | tooManyDigits (count : Nat)
  /-- A text is not a colour. -/
  | unknownColour (specifier : String)
  /-- A text is too long to be a colour. -/
  | colourTooLong
  /-- A list has too few items. -/
  | tooFewItems (expected given : Nat)
  /-- A list has too many items. -/
  | tooManyItems (expected : Nat)
  /-- A text has a gap that no item is given for. -/
  | gapUnfilled (index : Nat)
  /-- A time is longer than can be waited. -/
  | timeTooLong
  /-- A list of sections to draw names one that the mascot has not. -/
  | unknownSection (name : String)
  /-- A section was looked up that the mascot has not. -/
  | missingSection (name : Argument)
  /-- A log level is not known. -/
  | unknownLevel (level : String)
  /-- A path cannot be given to the file system. -/
  | nulInPath
  /-- A file cannot be read. -/
  | cannotOpen (path : String) (reason : FileFault)
  /-- The canvas could not be saved. -/
  | cannotSave (path : String) (reason : WriteFault)
  /-- A failure of a kind and wording of its own, raised from outside: by a script, by a pause
  between two chords, or by the painter. -/
  | raised (kind message : String)
  deriving Inhabited

namespace Fault

/-- The painter does not take a number of a shape that is beyond what it counts with. -/
def pointRefused : Fault := .raised "error" ""

/-- A whole number fits 64 bits. -/
def fitsLong (n : Int) : Bool := -2 ^ 63 ≤ n && n < 2 ^ 63

/-- A whole number fits 64 bits without a sign, but not 64 bits with one. -/
def isUpperHalf (n : Int) : Bool := 2 ^ 63 ≤ n && n < 2 ^ 64

/-- The fault of a colour component that does not fit a byte. -/
def ofComponent (n : Int) : Fault := if fitsLong n then .beyondByte n else .beyondLong

/-- A shape as text: its lengths in round brackets, where a single one is followed by a comma. -/
def shapeText (separator : String) : List Nat → String
  | [n] => "(" ++ toString n ++ ",)"
  | shape => "(" ++ String.intercalate separator (shape.map toString) ++ ")"

/-- The greatest number of characters that a text is quoted with where it is no whole number. -/
def quoteLimit : Nat := 200

/-- The wording of a fault.  A fault that only says that an argument cannot be used has none. -/
def message : Fault → String
  | sizeNotWhole w h =>
    "Canvas size must be integers, got " ++ w.quotedText ++ "x" ++ h.quotedText
  | sizeNotPositive w h =>
    "Canvas size must be positive, got " ++ w.plainText ++ "x" ++ h.plainText
  | sizeBeyondCount => "Maximum allowed dimension exceeded"
  | bytesBeyondCount =>
    "array is too big; `arr.size * arr.dtype.itemsize` is larger than the maximum possible size."
  | noRoomForCanvas w h =>
    "Unable to allocate " ++ Text.byteCount (h * w * 3) ++ " for an array with shape " ++
      shapeText ", " [h, w, 3] ++ " and data type uint8"
  | wrongKind | lacksOperation | strokeTooThick | colourRefused | colourMisread
  | noRoomForZoom | placeMisread => ""
  | noWhole given =>
    "int() argument must be a string, a bytes-like object or a real number, not '" ++
      given.kindName ++ "'"
  | noPath given => "'" ++ given.kindName ++ "' object has no attribute 'write'"
  | outside x y w h =>
    "(" ++ x.plainText ++ ", " ++ y.plainText ++ ") is outside a " ++ toString w ++ "x" ++
      toString h ++ " canvas"
  | notAnIndex =>
    "only integers, slices (`:`), ellipsis (`...`), numpy.newaxis (`None`) and integer or " ++
      "boolean arrays are valid indices"
  | beyondAxis i axis size =>
    "index " ++ toString i ++ " is out of bounds for axis " ++ toString axis ++ " with size " ++
      toString size
  | noSuchItem => "list index out of range"
  | noCoordinate => "tuple index out of range"
  | indexBeyondCount => "cannot fit 'int' into an index-sized integer"
  | readOnly => "assignment destination is read-only"
  | beyondByte c => "Python integer " ++ toString c ++ " out of bounds for uint8"
  | beyondLong => "Python int too large to convert to C long"
  | beyondWord => "signed integer is greater than maximum"
  | unevenLists shape =>
    "setting an array element with a sequence. The requested array has an inhomogeneous shape " ++
      "after " ++ toString shape.length ++ " dimensions. The detected shape was " ++
      shapeText ", " shape ++ " + inhomogeneous part."
  | tooDeep axes =>
    "setting an array element with a sequence. The requested array would exceed the maximum " ++
      "number of dimension of " ++ toString axes ++ "."
  | tooManyIndices axes given =>
    "too many indices for array: array is " ++ toString axes ++ "-dimensional, but " ++
      toString given ++ " were indexed"
  | flagsMismatch axis size given =>
    "boolean index did not match indexed array along axis " ++ toString axis ++
      "; size of axis is " ++ toString size ++ " but size of corresponding boolean axis is " ++
      toString given
  | indicesMismatch shapes =>
    "shape mismatch: indexing arrays could not be broadcast together with shapes " ++
      String.join (shapes.map fun shape => shapeText "," shape ++ " ")
  | cannotSpread shape part =>
    "could not broadcast input array from shape " ++ shapeText "," shape ++ " into shape " ++
      shapeText "," part
  | blockMismatch shape part =>
    "shape mismatch: value array of shape " ++ shapeText "," shape ++
      " could not be broadcast to indexing result of shape " ++ shapeText "," part
  | beyondReal => "int too large to convert to float"
  | quotientBeyondReal => "integer division result too large for a float"
  | divisionByZero => "division by zero"
  | realDivisionByZero => "float division by zero"
  | infinityToInt => "cannot convert float infinity to integer"
  | nanToInt => "cannot convert float NaN to integer"
  | notAnInt s =>
    "invalid literal for int() with base 10: " ++
      String.ofList ((Text.quoted s).toList.take quoteLimit)
  | notAReal s => "could not convert string to float: " ++ Text.quoted s
  | tooManyDigits n =>
    "Exceeds the limit (4300 digits) for integer string conversion: value has " ++ toString n ++
      " digits; use sys.set_int_max_str_digits() to increase the limit"
  | unknownColour s => "unknown color specifier: " ++ Text.quoted s
  | colourTooLong => "color specifier is too long"
  | tooFewItems expected given =>
    "not enough values to unpack (expected " ++ toString expected ++ ", got " ++
      toString given ++ ")"
  | tooManyItems expected => "too many values to unpack (expected " ++ toString expected ++ ")"
  | gapUnfilled i =>
    "Replacement index " ++ toString i ++ " out of range for positional args tuple"
  | timeTooLong => "timestamp too large to convert to C _PyTime_t"
  | unknownSection name => "Unknown mascot section: " ++ name
  | missingSection name => name.quotedText
  | unknownLevel level => "Unknown level: " ++ Text.quoted level
  | nulInPath => "embedded null byte"
  | cannotOpen path reason => reason.message path
  | cannotSave path reason =>
    "Could not save canvas to " ++ path ++ ": " ++ reason.message path
  | raised _ message => message

end Fault

end TurtleCanvas
