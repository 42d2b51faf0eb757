import TurtleCanvas.Scalar

/-!
# The command line

Options begin with a dash.  A long option may be shortened as long as no other one begins in the
same way, and may have its value behind an equals sign; short options may be run together.  A word
that begins with a dash is still a value when it is a negative number or holds a blank.

* `Options` : what a command line asks for.
* `CommandLine.parse` : the options of a list of words, or how the program ends instead.
-/

namespace TurtleCanvas

/-- What a command line asks for. -/
structure Options where
  speed : Argument
  noWindow : Bool
  scale : Argument
  logLevel : Argument

namespace Options

/-- The speed when none is asked for. -/
def defaultSpeed : Int := 100

/-- The options of an empty command line. -/
def default : Options := ⟨.int defaultSpeed, false, .real 1.0, .text "INFO"⟩

end Options

namespace CommandLine

/-! ### The options -/

/-- An option. -/
inductive Flag where
  | help
  | speed
  | noWindow
  | scale
  | logLevel
  deriving DecidableEq, Repr

/-- How options are written, in the order in which they are listed. -/
def spellings : List (String × Flag) :=
  [("-h", .help), ("--help", .help), ("--speed", .speed), ("--no-window", .noWindow),
    ("--scale", .scale), ("--log-level", .logLevel)]

/-- The options with the value of one of them set, if it takes one. -/
def Flag.set (f : Flag) (value : Argument) (o : Options) : Options :=
  match f with
  | speed => { o with speed := value }
  | scale => { o with scale := value }
  | logLevel => { o with logLevel := value }
  | help | noWindow => o

/-- The option wants a value. -/
def Flag.takesValue : Flag → Bool
  | help | noWindow => false
  | speed | scale | logLevel => true

/-- All spellings of an option, as they stand in a complaint. -/
def Flag.title (f : Flag) : String :=
  String.intercalate "/" ((spellings.filter fun s => s.2 == f).map (·.1))

/-! ### How the program ends -/

/-- How the program ends instead of running: its exit code and what it prints to its output and its
error output. -/
structure Exit where
  code : Nat
  output : String
  errors : String
  deriving Repr, DecidableEq

/-- How the options are used. -/
def usage : String :=
  "usage: dwen [-h] [--speed SPEED] [--no-window] [--scale SCALE]\n" ++
    "            [--log-level LOG_LEVEL]\n"

/-- What the options mean. -/
def help : String :=
  usage ++ "\nDraw Bing Dwen Dwen with a turtle and save it as a PNG.\n\noptions:\n" ++
    "  -h, --help            show this help message and exit\n" ++
    "  --speed SPEED         Arc chords drawn per second (0 = no delay)\n" ++
    "  --no-window           Draw and save without opening a window\n" ++
    "  --scale SCALE         Window zoom factor\n" ++
    "  --log-level LOG_LEVEL\n"

/-- What is wrong with a command line. -/
inductive Complaint where
  | ambiguous (word : String) (candidates : List String)
  | missingValue (f : Flag)
  | unwantedValue (f : Flag) (value : String)
  | notAReal (f : Flag) (value : String)
  | unrecognized (words : List String)
  deriving Repr, DecidableEq

/-- The wording of a complaint. -/
def Complaint.message : Complaint → String
  | ambiguous word candidates =>
    "ambiguous option: " ++ word ++ " could match " ++ String.intercalate ", " candidates
  | missingValue f => "argument " ++ f.title ++ ": expected one argument"
  | unwantedValue f value =>
    "argument " ++ f.title ++ ": ignored explicit argument " ++ Text.quoted value
  | notAReal f value => "argument " ++ f.title ++ ": invalid float value: " ++ Text.quoted value
  | unrecognized words => "unrecognized arguments: " ++ String.intercalate " " words

/-- The end of a program with a complaint. -/
def Complaint.exit (c : Complaint) : Exit :=
  ⟨2, "", usage ++ "dwen: error: " ++ c.message ++ "\n"⟩

/-- The end of a program that was asked for help. -/
def helpExit : Exit := ⟨0, help, ""⟩

/-! ### Words -/

/-- What a word is. -/
inductive Word where
  /-- A value, or a word too many. -/
  | value (text : String)
  /-- The mark behind which all words are values. -/
  | endOfOptions
  /-- An option, perhaps with a value of its own: the text behind an equals sign, or right behind
  the letter of a short option. -/
  | option (f : Flag) (short : Bool) (own : Option String)
  /-- A word that looks like an option but is none. -/
  | unknown (text : String)

/-- The part of a word before its first equals sign and the part behind it. -/
def splitAtEquals (word : String) : Option (String × String) :=
  let cs := word.toList
  if cs.contains '=' then
    some (String.ofList (cs.takeWhile (· != '=')), String.ofList ((cs.dropWhile (· != '=')).drop 1))
  else none

/-- The spellings of options that a word may mean, with the values it then holds.  A long option is
meant by its beginning, a short one by its letter, with its value right behind it. -/
def candidates (word : String) : List ((String × Flag) × Option String) :=
  if word.startsWith "--" then
    let (start, own) := match splitAtEquals word with
      | some (start, own) => (start, some own)
      | none => (word, none)
    (spellings.filter fun s => s.1.startsWith start).map fun s => (s, own)
  else
    let letter := String.ofList (word.toList.take 2)
    let own := String.ofList (word.toList.drop 2)
    (spellings.filter fun s => s.1 == letter).map fun s => (s, some own)

/-- A spelling is that of a short option: one letter behind a single dash. -/
def isShort (spelling : String) : Bool := spelling.length == 2

/-- A minus sign and digits, or digits with a point before the last of them; one line end may
follow. -/
def isNegativeNumber (word : String) : Bool :=
  match word.toList with
  | '-' :: cs =>
    let cs := if cs.getLast? = some '\n' then cs.dropLast else cs
    let rest := cs.dropWhile Text.isDigit
    (rest.isEmpty && !cs.isEmpty) ||
      match rest with
      | '.' :: fraction => !fraction.isEmpty && fraction.all Text.isDigit
      | _ => false
  | _ => false

/-- The option that a word with an equals sign spells out, with its value. -/
def spelledOut? (word : String) : Option Word := do
  let (start, own) ← splitAtEquals word
  let f ← spellings.lookup start
  return .option f (isShort start) (some own)

/-- What a word is, as far as the word itself tells. -/
def Word.ofString (word : String) : Except Complaint Word :=
  if !word.startsWith "-" then .ok (.value word)
  else
    match spellings.lookup word with
    | some f => .ok (.option f (isShort word) none)
    | none =>
      if word == "-" then .ok (.value word)
      else
        match spelledOut? word with
        | some w => .ok w
        | none =>
          match candidates word with
          | [] =>
            if isNegativeNumber word || word.contains ' ' then .ok (.value word)
            else .ok (.unknown word)
          | [((spelling, f), own)] => .ok (.option f (isShort spelling) own)
          | many => .error (.ambiguous word (many.map fun c => c.1.1))

/-- What the words of a command line are.  Behind the mark that ends the options all are values. -/
def classify : List String → Except Complaint (List Word)
  | [] => .ok []
  | word :: rest =>
    if word == "--" then .ok (.endOfOptions :: rest.map .value)
    else do return (← Word.ofString word) :: (← classify rest)

/-! ### Reading options -/

/-- How reading a command line stops. -/
inductive Stop where
  | complaint (c : Complaint)
  | helpWanted

/-- The end of the program that stops. -/
def Stop.exit : Stop → Exit
  | complaint c => c.exit
  | helpWanted => helpExit

/-- A decimal as the value of an option. -/
def realValue (f : Flag) (value : String) : Except Stop Argument :=
  match Text.parseReal? value with
  | some x => .ok (.real x)
  | none => .error (.complaint (.notAReal f value))

/-- The options with the value of one of them set.  The mark that ends the options is no value, and
leaves an empty list. -/
def setValue (o : Options) (f : Flag) (value : String) : Except Stop Options :=
  if value == "--" then .ok (f.set (.list []) o)
  else if f = .logLevel then .ok (f.set (.text value) o)
  else do return f.set (← realValue f value) o

/-- The options with one that takes no value set. -/
def setSwitch (o : Options) : Flag → Except Stop Options
  | .help => .error .helpWanted
  | .noWindow => .ok { o with noWindow := true }
  | .speed | .scale | .logLevel => .ok o

/-- A short option that takes no value, with text behind its letter.  Each further letter may be
that of a short option, and there is only one, which asks for help; the first that is none begins a
value, which is unwanted. -/
def shortRun (f : Flag) : List Char → Stop
  | [] => .complaint (.unwantedValue f "")
  | letter :: more =>
    if (spellings.lookup (String.ofList ['-', letter])).isSome then
      if more.isEmpty then .helpWanted else shortRun f more
    else .complaint (.unwantedValue f (String.ofList (letter :: more)))

/-- Read the words of a command line from left to right; words too many are gathered, the last one
first. -/
def read : List Word → Options → List String → Except Stop (Options × List String)
  | [], o, extra => .ok (o, extra)
  | .value text :: rest, o, extra => read rest o (text :: extra)
  | .endOfOptions :: rest, o, extra => read rest o ("--" :: extra)
  | .unknown text :: rest, o, extra => read rest o (text :: extra)
  | .option f short own :: rest, o, extra =>
    match f.takesValue, own, rest with
    | true, some value, rest => do read rest (← setValue o f value) extra
    | true, none, .value text :: rest => do read rest (← setValue o f text) extra
    | true, none, _ => .error (.complaint (.missingValue f))
    | false, none, rest => do read rest (← setSwitch o f) extra
    | false, some value, _ =>
      .error (if short then shortRun f value.toList else .complaint (.unwantedValue f value))

/-- The options of a command line, or how the program ends instead. -/
def parse (words : List String) : Except Exit Options :=
  match classify words with
  | .error c => .error c.exit
  | .ok ws =>
    match read ws Options.default [] with
    | .error stop => .error stop.exit
    | .ok (o, []) => .ok o
    | .ok (_, extra) => .error (Complaint.unrecognized extra.reverse).exit

end CommandLine

end TurtleCanvas
