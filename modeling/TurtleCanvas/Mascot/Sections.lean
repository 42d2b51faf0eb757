import TurtleCanvas.Mascot.Stroke

/-!
# The mascot

The mascot is a list of sections, each a list of strokes on a sheet 600 wide and 800 high.  A stroke
with neither colour nor width goes on with the pen of the stroke before it.

* `Section` : the sections, in the order in which they are drawn.
* `Section.strokes` : the strokes of a section.
* `Mascot.drawSections` : draw sections by their names.
-/

namespace TurtleCanvas

namespace Mascot

/-- The height of the sheet. -/
def sheetHeight : Int := 800

/-- Nearly black. -/
def softBlack : Colour := ⟨10, 10, 10⟩

/-- Full red. -/
def red : Colour := ⟨255, 0, 0⟩

/-- Full blue. -/
def blue : Colour := ⟨0, 0, 255⟩

/-- Blue and green. -/
def cyan : Colour := ⟨0, 255, 255⟩

/-- Full green. -/
def green : Colour := ⟨0, 255, 0⟩

/-- Red and green. -/
def yellow : Colour := ⟨255, 255, 0⟩

/-- Red with half as much green. -/
def darkOrange : Colour := ⟨255, 140, 0⟩

/-- An arc of a radius and an extent. -/
def curve (radius extent : Int) : PathItem Int := .arc (.ok (radius, extent))

/-- A stroke of the mascot. -/
def stroke (name : String) (start : Int × Int) (colour : Option Colour) (width : Option Int)
    (path : List (PathItem Int)) : Stroke Int :=
  ⟨name, .ok start, path, colour.map .ok, width.map .ok⟩

/-! ### The strokes -/

/-- The body: its outline, arms, ears and legs. -/
def body : List (Stroke Int) := [
  stroke "outline" (200, 700) (some softBlack) (some 3)
    [.heading 20, curve 250 35, .heading 50, curve 42 180, .heading (-50), curve 190 30,
      curve 320 45, curve (-120) (-30), curve (-200) (-12), curve 18 85, curve 180 23,
      curve 20 110, curve (-15) (-115), curve (-100) (-12), curve (-15) (-120), curve 15 110,
      curve 150 30, curve 15 70, curve 150 10, curve (-200) (-35), curve 150 20,
      .heading (-120), curve (-50) (-30), curve 35 200, curve 300 23, .heading 86, curve 300 26,
      .heading 122, curve 50 160],
  stroke "left arm" (450, 600) (some softBlack) (some 3)
    [.heading 80, curve 45 200, curve 300 21],
  stroke "right ear inner" (140, 650) none (some 2)
    [.heading 120, curve 28 160, .heading 210, curve (-150) (-21)],
  stroke "left ear inner" (360, 700) none none
    [.heading 218, curve (-30) 150, .heading 136, curve (-150) (-23)],
  stroke "left arm inner" (455, 583) none none
    [.heading 95, curve 37 160, curve 20 50, curve 200 28],
  stroke "right arm inner" (100, 425) none none
    [.heading (-120), curve (-53) (-30), curve 27 200, curve 300 20, .heading (-77),
      curve 300 14],
  stroke "right leg inner" (240, 260) none none
    [.heading (-155), curve (-15) (-100), curve 10 110, curve 100 30, curve 15 65, curve 100 10,
      curve (-200) (-15), .heading (-14), curve 200 27],
  stroke "left leg inner" (390, 300) none none
    [.heading (-115), curve (-110) (-15), curve (-200) (-10), curve 18 80, curve 180 13,
      curve 20 90, curve (-15) (-60), .heading 42, curve 200 30]]

/-- The eyes with their patches. -/
def eyes : List (Stroke Int) := [
  stroke "right eye patch" (210, 620) (some Colour.black) (some 3)
    [.heading 40, curve 35 152, curve 100 50, curve 35 130, curve 100 50],
  stroke "right eye" (220, 610) none none
    [.heading 0, curve 25 360],
  stroke "right eye" (222, 603) none none
    [.heading 0, curve 19 360],
  stroke "right eye" (222, 597) none none
    [.heading 0, curve 10 360],
  stroke "right eye" (220, 580) none none
    [.heading 0, curve 5 360],
  stroke "left eye patch" (300, 585) none none
    [.heading 120, curve 32 152, curve 100 55, curve 25 120, curve 120 45],
  stroke "left eye" (335, 610) none none
    [.heading 0, curve 25 360],
  stroke "left eye" (333, 603) none none
    [.heading 0, curve 19 360],
  stroke "left eye" (333, 597) none none
    [.heading 0, curve 10 360],
  stroke "left eye" (335, 580) none none
    [.heading 0, curve 5 360]]

/-- The nose. -/
def nose : List (Stroke Int) := [
  stroke "nose" (290, 550) (some Colour.black) (some 3)
    [.heading 40, curve 8 130, curve 22 180, curve 8 130, .heading 0, curve (-100) (-10)]]

/-- The mouth. -/
def mouth : List (Stroke Int) := [
  stroke "mouth" (245, 510) (some Colour.black) (some 2)
    [.heading (-36), curve (-60) (-70), .heading (-132), curve 44 100]]

/-- The heart in the left hand. -/
def heart : List (Stroke Int) := [
  stroke "heart" (490, 600) (some red) (some 3)
    [.heading 36, curve 8 180, curve 60 24, .heading 110, curve 60 24, curve 8 180]]

/-- The five rings, which keep the heading that the turtle comes with. -/
def rings : List (Stroke Int) := [
  stroke "blue ring" (275, 320) (some blue) (some 1)
    [curve 10 360],
  stroke "black ring" (287, 320) (some Colour.black) (some 1)
    [curve 10 360],
  stroke "red ring" (299, 320) (some red) (some 1)
    [curve 10 360],
  stroke "yellow ring" (281, 310) (some yellow) (some 1)
    [curve 10 360],
  stroke "green ring" (294, 310) (some green) (some 1)
    [curve 10 360]]

/-- The ring of colours around the face. -/
def rainbow : List (Stroke Int) := [
  stroke "rainbow cyan" (135, 600) (some cyan) (some 5)
    [.heading 60, curve 165 150, curve 130 78, curve 250 30, curve 136 105],
  stroke "rainbow blue" (139, 596) (some blue) (some 5)
    [.heading 60, curve 160 144, curve 120 78, curve 242 30, curve 132 105],
  stroke "rainbow orange" (143, 592) (some darkOrange) (some 5)
    [.heading 60, curve 155 136, curve 116 86, curve 220 30, curve 131 103],
  stroke "rainbow yellow" (147, 588) (some yellow) (some 5)
    [.heading 60, curve 150 136, curve 104 86, curve 220 30, curve 125 102],
  stroke "rainbow green" (151, 584) (some green) (some 5)
    [.heading 60, curve 145 136, curve 90 83, curve 220 30, curve 119 103]]

end Mascot

/-! ### The sections -/

/-- A section of the mascot. -/
inductive Section where
  | body
  | eyes
  | nose
  | mouth
  | heart
  | rings
  | rainbow
  deriving DecidableEq, Repr

namespace Section

/-- All sections, in the order in which they are drawn. -/
def all : List Section := [body, eyes, nose, mouth, heart, rings, rainbow]

/-- The name of a section. -/
def name : Section → String
  | body => "body"
  | eyes => "eyes"
  | nose => "nose"
  | mouth => "mouth"
  | heart => "heart"
  | rings => "rings"
  | rainbow => "rainbow"

/-- The section of a name. -/
def ofName? (name : String) : Option Section := all.find? fun s => s.name == name

/-- The strokes of a section. -/
def strokes : Section → List (Stroke Int)
  | body => Mascot.body
  | eyes => Mascot.eyes
  | nose => Mascot.nose
  | mouth => Mascot.mouth
  | heart => Mascot.heart
  | rings => Mascot.rings
  | rainbow => Mascot.rainbow

end Section

/-! ### Drawing -/

/-- A path item with its numbers replaced. -/
def PathItem.map {α β : Type} (f : α → β) : PathItem α → PathItem β
  | heading angle => .heading (f angle)
  | arc shape => .arc (shape.map fun p => (f p.1, f p.2))

/-- A stroke with its numbers replaced. -/
def Stroke.map {α β : Type} (f : α → β) (s : Stroke α) : Stroke β :=
  ⟨s.name, s.start.map fun p => (f p.1, f p.2), s.path.map (PathItem.map f), s.colour, s.width⟩

namespace Mascot

variable {α σ : Type} [Scalar α] [Surface α σ]

/-- Draw a section. -/
def drawSection (height : α) (s : Section) : Action (Scene α σ) Unit := do
  Action.change fun scene => { scene with log := .drawingSection s.name :: scene.log }
  Stroke.drawAll height (s.strokes.map (Stroke.map Scalar.int))

/-- Draw sections by their names, up to the first name that none has. -/
def drawSections (height : α) : List String → Action (Scene α σ) Unit
  | [] => pure ()
  | name :: rest => do
    match Section.ofName? name with
    | none => Action.ofExcept (.error (.unknownSection name))
    | some s => drawSection height s
    drawSections height rest

/-- Draw the whole mascot. -/
def drawAll (height : α) : Action (Scene α σ) Unit :=
  drawSections height (Section.all.map Section.name)

/-- The argument can be a name: anything but a list. -/
def isName : Argument → Bool
  | .list _ => false
  | _ => true

/-- Draw the sections of a list that may hold anything; an item that cannot be a name is found out
when its turn comes. -/
def drawGiven (height : α) (items : List Argument) : Action (Scene α σ) Unit := do
  drawSections height ((items.takeWhile isName).map Argument.plainText)
  if items.all isName then pure () else Action.ofExcept (.error .wrongKind)

end Mascot

end TurtleCanvas
