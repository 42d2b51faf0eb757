import TurtleCanvas.Action
import TurtleCanvas.Picture.Image

/-!
# Saved pictures

The file system, as far as saved pictures make use of it: files under their names, directories, and
the working directory.  A saved picture holds the pixels of the moment it was saved.  Where a path
leads is worked out here; what becomes of a file that is written to is up to the disk.

* `Folder` : the file system.
* `Disk` : what becomes of files that are written to.
* `Folder.save`, `Folder.load` : save a picture, and load a saved one.
-/

namespace TurtleCanvas

/-- The names along a path. -/
abbrev PathNames := List String

/-- The file system: what is read from the files, the directories other than the root, and the
working directory. -/
structure Folder where
  /-- The files by their paths.  One that does not hold a whole picture fails to be read. -/
  files : List (PathNames × Except Fault Picture)
  directories : List PathNames
  here : PathNames

/-- What becomes of a file that a picture is to be written to. -/
inductive Writing where
  /-- It holds the picture. -/
  | done
  /-- It cannot be opened, and is left as it is. -/
  | refused (wording : String)
  /-- It was emptied, but could not be written to the end.  From what is there now something else
  is read, if anything. -/
  | brokenOff (wording : String) (left : Except Fault Picture)

/-- A disk, by what becomes of files that are written to. -/
class Disk where
  writing (folder : Folder) (names : PathNames) (p : Picture) : Writing

namespace Folder

/-- The greatest number of bytes of a name. -/
def maxNameBytes : Nat := 255

/-- The greatest number of bytes of a path. -/
def maxPathBytes : Nat := 4095

/-- What a path leads to. -/
inductive Place where
  /-- A directory. -/
  | directory
  /-- What is in a directory under a name that is not that of a directory; the path may end in
  slashes behind it. -/
  | entry (names : PathNames) (slashed : Bool)

/-- A name along a path, which must not be too long. -/
def checkName (name : String) : Except FileFault Unit :=
  if maxNameBytes < name.utf8ByteSize then .error .nameTooLong else .ok ()

/-- Follow names from a directory.  Each name but the last must be that of a directory. -/
def follow (folder : Folder) (here : PathNames) : List String → Except FileFault Place
  | [] => .ok .directory
  | name :: rest =>
    if name = "" ∨ name = "." then follow folder here rest
    else if name = ".." then follow folder here.dropLast rest
    else
      let there := here ++ [name]
      if folder.directories.contains there then follow folder there rest
      else if rest.all (· = "") then .ok (.entry there !rest.isEmpty)
      else do
        checkName name
        .error (if (folder.files.lookup there).isSome then .notDirectory else .missing)

/-- What a path leads to, from the root if it begins with a slash; the empty path leads nowhere. -/
def resolve (folder : Folder) (path : String) : Except FileFault Place :=
  if path = "" then .error .missing
  else if maxPathBytes < path.utf8ByteSize then .error .nameTooLong
  else folder.follow (if path.startsWith "/" then [] else folder.here) (path.splitOn "/")

/-! ### Reading -/

/-- What is read from the file that a path leads to.  Only a directory may have slashes behind its
name. -/
def read? (folder : Folder) (path : String) : Except FileFault (Except Fault Picture) := do
  match ← folder.resolve path with
  | .directory => .error .isDirectory
  | .entry names slashed =>
    names.forM checkName
    match folder.files.lookup names with
    | none => .error .missing
    | some content => if slashed then .error .notDirectory else .ok content

/-- The greatest number of pixels of a picture that is loaded. -/
def maxPixels : Nat := 2 * (1024 * 1024 * 1024 / 4 / 3)

/-- The fault of a picture with too many pixels to be loaded. -/
def tooManyPixels (count : Nat) : Fault :=
  .raised "DecompressionBombError" ("Image size (" ++ toString count ++ " pixels) exceeds limit of " ++
    toString maxPixels ++ " pixels, could be decompression bomb DOS attack.")

/-- Load a saved picture, which must not be too large. -/
def load [Memory] (folder : Folder) (path : String) : Except Fault Picture :=
  if path.contains '\x00' then .error .nulInPath
  else
    match folder.read? path with
    | .error e => .error (.cannotOpen path e)
    | .ok content => do
      let p ← content
      if maxPixels < p.width * p.height then .error (tooManyPixels (p.width * p.height))
      else p.toImage

/-! ### Writing -/

/-- The file that a path leads to, for writing.  What has slashes behind its name is taken for a
directory. -/
def target? (folder : Folder) (path : String) : Except FileFault PathNames := do
  match ← folder.resolve path with
  | .directory => .error .isDirectory
  | .entry names slashed =>
    if slashed then .error .isDirectory
    else
      names.forM checkName
      return names

/-- The file system with a file that something is read from. -/
def put (folder : Folder) (names : PathNames) (content : Except Fault Picture) : Folder :=
  { folder with files := (names, content) :: folder.files.filter fun f => f.1 != names }

/-- What is left when the writing to a file breaks off: a file that was not there before is removed
again. -/
def breakOff (folder : Folder) (names : PathNames) (left : Except Fault Picture) : Folder :=
  if (folder.files.lookup names).isSome then folder.put names left else folder

/-- Write a picture to the file that a path leads to. -/
def write [Disk] (p : Picture) (path : String) : EStateM WriteFault Folder Unit := fun folder =>
  match folder.target? path with
  | .error e => .error (.path e) folder
  | .ok names =>
    match Disk.writing folder names p with
    | .done => .ok () (folder.put names (.ok p))
    | .refused wording => .error (.system wording) folder
    | .brokenOff wording left => .error (.system wording) (folder.breakOff names left)

/-- Save a picture.  A failure names the path. -/
def save [Disk] (p : Picture) (path : String) : Action Folder Unit := fun folder =>
  if path.contains '\x00' then .error .nulInPath folder
  else
    match write p path folder with
    | .ok _ folder => .ok () folder
    | .error e folder => .error (.cannotSave path e) folder

end Folder

end TurtleCanvas
