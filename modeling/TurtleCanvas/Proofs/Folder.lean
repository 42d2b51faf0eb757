import Mathlib.Tactic.SplitIfs
import TurtleCanvas.Canvas.Save
import TurtleCanvas.Proofs.Picture.Image

/-!
# What is saved can be loaded

A path leads to the same file whatever is read from the files, so that a picture is found again where
it was written.  Whether it is written is up to the disk: a file that cannot be opened is left as it
is, and one that was there and is not written to the end holds what the disk makes of it.

* `Folder.file?` is the file that a path leads to, and `Folder.file?_of_places_eq` says that it
  depends on the directories alone;
* `Folder.load_eq_ok_iff` says what is loaded from a path;
* `Folder.Turns` says that a file system has turned into another one in which one file is different;
* `Canvas.SaveEnds` is how saving ends, `Canvas.saveEnds` says that it always ends so, and
  `Canvas.SaveEnds.load` what is loaded after a picture was saved.
-/

namespace TurtleCanvas

namespace Folder

variable {folder folder' : Folder} {path : String} {file : PathNames}
  {content : Except Fault Picture} {p : Picture}

/-! ### Paths -/

theorem follow_of_directories_eq {names : List String} {here : PathNames} {place : Place}
    (h : folder.follow here names = .ok place)
    (hdirectories : folder'.directories = folder.directories) :
    folder'.follow here names = .ok place := by
  fun_induction folder.follow here names with
  | case1 => exact h
  | case2 here name rest hstay ih => rw [follow, if_pos hstay]; exact ih h
  | case3 here rest hstay ih => rw [follow, if_neg hstay, if_pos rfl]; exact ih h
  | case4 here name rest hstay hup there hdirectory ih =>
    rw [follow, if_neg hstay, if_neg hup, hdirectories]
    exact (if_pos hdirectory).trans (ih h)
  | case5 here name rest hstay hup there hdirectory hlast =>
    rw [follow, if_neg hstay, if_neg hup, hdirectories]
    exact (if_neg hdirectory).trans ((if_pos hlast).trans h)
  | case6 here name rest =>
    -- Past a name that is no directory nothing is found, whatever files there are.
    obtain ⟨_, -, h⟩ := Except.bind_eq_ok_iff.1 h
    exact nomatch h

/-- Where a path leads depends on the directories alone, not on the files. -/
theorem resolve_of_places_eq {place : Place} (h : folder.resolve path = .ok place)
    (hdirectories : folder'.directories = folder.directories)
    (hhere : folder'.here = folder.here) : folder'.resolve path = .ok place := by
  unfold resolve at h ⊢
  rw [hhere]
  split_ifs at h ⊢
  · exact follow_of_directories_eq h hdirectories
  · exact follow_of_directories_eq h hdirectories

theorem target?_eq_ok_iff : folder.target? path = .ok file ↔
    folder.resolve path = .ok (.entry file false) ∧ file.forM checkName = .ok () := by
  rw [target?, Except.bind_eq_ok_iff]
  constructor
  · rintro ⟨_ | ⟨names, _ | _⟩, hresolve, h⟩
    · exact nomatch h
    · obtain ⟨_, hnames, h⟩ := Except.bind_eq_ok_iff.1 h
      obtain rfl := Except.ok.inj h
      exact ⟨hresolve, hnames⟩
    · exact nomatch h
  · rintro ⟨hresolve, hnames⟩
    exact ⟨_, hresolve, Except.bind_eq_ok_iff.2 ⟨_, hnames, rfl⟩⟩

/-- The file that a path leads to, by the names along it from the root; a path leads to none if it
cannot be given to the file system, if it is that of a directory or is not taken for anything else,
and if a directory along it is missing or a name too long. -/
def file? (folder : Folder) (path : String) : Option PathNames :=
  if path.contains '\x00' then none else (folder.target? path).toOption

theorem file?_eq_some_iff : folder.file? path = some file ↔
    path.contains '\x00' = false ∧ folder.target? path = .ok file := by
  unfold file?
  cases path.contains '\x00' with
  | true => simp
  | false => cases folder.target? path <;> simp [Except.toOption]

/-- Which file a path leads to does not depend on what is read from the files. -/
theorem file?_of_places_eq (hdirectories : folder'.directories = folder.directories)
    (hhere : folder'.here = folder.here) : folder'.file? path = folder.file? path := by
  apply Option.ext
  intro file
  rw [file?_eq_some_iff, file?_eq_some_iff, target?_eq_ok_iff, target?_eq_ok_iff]
  refine and_congr_right fun _ => and_congr_left fun _ => ⟨fun h => ?_, fun h => ?_⟩
  · exact resolve_of_places_eq h hdirectories.symm hhere.symm
  · exact resolve_of_places_eq h hdirectories hhere

/-! ### Names -/

/-- The path is a name in the working directory. -/
structure IsName (path : String) : Prop where
  notNul : path.contains '\x00' = false
  split : path.splitOn "/" = [path]
  relative : ¬ path.startsWith "/" = true
  proper : path ≠ "" ∧ path ≠ "." ∧ path ≠ ".."
  short : path.utf8ByteSize ≤ maxNameBytes

theorem IsName.resolve (h : IsName path) : folder.resolve path =
    .ok (if folder.directories.contains (folder.here ++ [path]) then .directory
      else .entry (folder.here ++ [path]) false) := by
  have hshort : ¬ maxPathBytes < path.utf8ByteSize :=
    Nat.not_lt.2 (Nat.le_trans h.short (by decide))
  rw [Folder.resolve, if_neg h.proper.1, if_neg hshort, if_neg h.relative, h.split, follow,
    if_neg (not_or.2 ⟨h.proper.1, h.proper.2.1⟩), if_neg h.proper.2.2]
  by_cases hdirectory : folder.directories.contains (folder.here ++ [path]) = true
  · rw [if_pos hdirectory, if_pos hdirectory, follow]
  · rw [if_neg hdirectory, if_neg hdirectory]
    exact if_pos rfl

/-- A name in the root leads to the file of that name, unless it is that of a directory. -/
theorem IsName.file? (h : IsName path) (hhere : folder.here = [])
    (hdirectory : folder.directories.contains [path] = false) : folder.file? path = some [path] := by
  have hresolve : folder.resolve path = _ := h.resolve
  rw [hhere, List.nil_append, hdirectory, if_neg Bool.false_ne_true] at hresolve
  have hcheck : [path].forM checkName = .ok () := by
    rw [List.forM, checkName, if_neg (Nat.not_lt.2 h.short)]
    rfl
  exact file?_eq_some_iff.2 ⟨h.notNul, target?_eq_ok_iff.2 ⟨hresolve, hcheck⟩⟩

/-- What is read from a path is what is read from the file that it leads to. -/
theorem read?_eq_ok_iff : folder.read? path = .ok content ↔
    ∃ file, folder.target? path = .ok file ∧ folder.files.lookup file = some content := by
  simp only [target?_eq_ok_iff]
  rw [read?, Except.bind_eq_ok_iff]
  constructor
  · rintro ⟨_ | ⟨file, slashed⟩, hresolve, h⟩
    · exact nomatch h
    · obtain ⟨_, hnames, h⟩ := Except.bind_eq_ok_iff.1 h
      cases hlookup : folder.files.lookup file with
      | none => simp [hlookup] at h
      | some found =>
        cases slashed with
        | true => simp [hlookup] at h
        | false =>
          obtain rfl : found = content := by simpa [hlookup] using h
          exact ⟨file, ⟨hresolve, hnames⟩, hlookup⟩
  · rintro ⟨file, ⟨hresolve, hnames⟩, hlookup⟩
    exact ⟨_, hresolve, Except.bind_eq_ok_iff.2 ⟨_, hnames, by simp [hlookup]⟩⟩

variable [Memory]

theorem load_of_lookup (hfile : folder.file? path = some file)
    (hlookup : folder.files.lookup file = some (.ok p)) :
    folder.load path =
      if maxPixels < p.width * p.height then .error (tooManyPixels (p.width * p.height))
      else p.toImage := by
  obtain ⟨hpath, htarget⟩ := file?_eq_some_iff.1 hfile
  have hread : folder.read? path = .ok (.ok p) := read?_eq_ok_iff.2 ⟨file, htarget, hlookup⟩
  rw [load, hpath, if_neg (by decide)]
  simp only [hread, Except.ok_bind]

omit [Memory]

/-! ### Files that change -/

/-- A file system turns into one that is the same but for one file. -/
structure Turns (folder folder' : Folder) (file : PathNames)
    (content : Option (Except Fault Picture)) : Prop where
  directories : folder'.directories = folder.directories
  here : folder'.here = folder.here
  files : ∀ other, folder'.files.lookup other =
    if other = file then content else folder.files.lookup other

theorem lookup_filter_ne {other : PathNames} (h : other ≠ file)
    (files : List (PathNames × Except Fault Picture)) :
    (files.filter fun f => f.1 != file).lookup other = files.lookup other := by
  induction files with
  | nil => rfl
  | cons f files ih =>
    obtain ⟨name, content⟩ := f
    by_cases hname : name = file
    · -- The file that is left out is not the one that is looked up.
      have hne : (other == name) = false := beq_false_of_ne (hname ▸ h)
      rw [List.filter_cons_of_neg (by simp [hname]), List.lookup_cons, hne, ih]
    · rw [List.filter_cons_of_pos (by simp [hname]), List.lookup_cons, List.lookup_cons, ih]

theorem turns_put (folder : Folder) (file : PathNames) (content : Except Fault Picture) :
    folder.Turns (folder.put file content) file (some content) := by
  refine ⟨rfl, rfl, fun other => ?_⟩
  rw [put, List.lookup_cons]
  split_ifs with hother
  · rw [hother, beq_self_eq_true]
  · rw [beq_false_of_ne hother]
    exact lookup_filter_ne hother folder.files

/-- A file that was there holds what is left in it, and one that was not there is not there now. -/
theorem turns_breakOff (folder : Folder) (file : PathNames) (left : Except Fault Picture) :
    folder.Turns (folder.breakOff file left) file
      ((folder.files.lookup file).map fun _ => left) := by
  cases hlookup : folder.files.lookup file with
  | some content =>
    have hthere : folder.breakOff file left = folder.put file left := by simp [breakOff, hlookup]
    rw [hthere]
    exact folder.turns_put file left
  | none =>
    have hgone : folder.breakOff file left = folder := by simp [breakOff, hlookup]
    rw [hgone]
    refine ⟨rfl, rfl, fun other => ?_⟩
    split_ifs with hother
    · rw [hother, hlookup]
      rfl
    · rfl

theorem Turns.file? {content : Option (Except Fault Picture)}
    (h : folder.Turns folder' file content) (path : String) :
    folder'.file? path = folder.file? path :=
  file?_of_places_eq h.directories h.here

theorem Turns.lookup {content : Option (Except Fault Picture)}
    (h : folder.Turns folder' file content) : folder'.files.lookup file = content := by
  rw [h.files, if_pos rfl]

end Folder

/-! ### Saving -/

namespace Canvas

variable [Memory]

/-- How saving a picture under a path ends on a disk: with a fault or without one, and with which
file system. -/
inductive SaveEnds (disk : Disk) (p : Picture) (path : String) (folder : Folder) :
    Option Fault → Folder → Prop where
  /-- The path leads to a file, which holds the picture, and nothing else has changed. -/
  | saved {file : PathNames} {folder' : Folder} : p.FitsImage → folder.file? path = some file →
      disk.writing folder file p = .done → folder.Turns folder' file (some (.ok p)) →
      SaveEnds disk p path folder none folder'
  /-- The path leads to no file, and nothing has changed. -/
  | noFile {reason : FileFault} : p.FitsImage → path.contains '\x00' = false →
      folder.target? path = .error reason →
      SaveEnds disk p path folder (some (.cannotSave path (.path reason))) folder
  /-- The path leads to a file that cannot be opened, and nothing has changed. -/
  | refused {file : PathNames} {wording : String} : p.FitsImage → folder.file? path = some file →
      disk.writing folder file p = .refused wording →
      SaveEnds disk p path folder (some (.cannotSave path (.system wording))) folder
  /-- The path leads to a file that cannot be written to the end.  If it was there, it holds what is
  left of it; it is not there now if it was not before, and nothing else has changed. -/
  | brokenOff {file : PathNames} {wording : String} {left : Except Fault Picture}
      {folder' : Folder} : p.FitsImage → folder.file? path = some file →
      disk.writing folder file p = .brokenOff wording left →
      folder.Turns folder' file ((folder.files.lookup file).map fun _ => left) →
      SaveEnds disk p path folder (some (.cannotSave path (.system wording))) folder'
  /-- The path cannot be given to the file system, and nothing has changed. -/
  | notGiven : p.FitsImage → path.contains '\x00' = true →
      SaveEnds disk p path folder (some .nulInPath) folder
  /-- The picture cannot be copied into an image, and nothing has changed. -/
  | noImage {e : Fault} : ¬ p.FitsImage → p.toImage = .error e →
      SaveEnds disk p path folder (some e) folder

variable {disk : Disk} {p : Picture} {path : String} {folder folder' : Folder}

/-- After a picture was saved it is loaded, unless it has too many pixels for that. -/
theorem SaveEnds.load (h : SaveEnds disk p path folder none folder') :
    folder'.load path =
      if Folder.maxPixels < p.width * p.height then
        .error (Folder.tooManyPixels (p.width * p.height))
      else .ok p := by
  cases h with
  | saved hfits hfile _ hturns =>
    rw [Folder.load_of_lookup ((hturns.file? path).trans hfile) hturns.lookup,
      Picture.toImage_of_fits hfits]

/-- **Saving ends in one of these ways**, whatever is on the canvas and in the file system. -/
theorem saveEnds (c : Canvas) (path : String) (folder : Folder) (log : Log) [disk : Disk] :
    SaveEnds disk c.picture path folder ((c.save path).fault? (folder, log))
      ((c.save path).after (folder, log)).1 := by
  by_cases hfits : c.picture.FitsImage
  · have himage := Picture.toImage_of_fits hfits
    cases hpath : path.contains '\x00' with
    | true =>
      have hsave : c.save path (folder, log) = .error .nulInPath (folder, log) := by
        simp [Canvas.save, Folder.save, himage, hpath]
      rw [Action.fault?_of_error hsave, Action.after_of_error hsave]
      exact .notGiven hfits hpath
    | false =>
      cases htarget : folder.target? path with
      | error reason =>
        have hsave : c.save path (folder, log) =
            .error (.cannotSave path (.path reason)) (folder, log) := by
          simp [Canvas.save, Folder.save, Folder.write, himage, hpath, htarget]
        rw [Action.fault?_of_error hsave, Action.after_of_error hsave]
        exact .noFile hfits hpath htarget
      | ok file =>
        have hfile := Folder.file?_eq_some_iff.2 ⟨hpath, htarget⟩
        cases hdisk : disk.writing folder file c.picture with
        | done =>
          have hsave : c.save path (folder, log) = .ok () (folder.put file (.ok c.picture),
              .pictureSaved c.width c.height path :: log) := by
            simp [Canvas.save, Folder.save, Folder.write, himage, hpath, htarget, hdisk]
          rw [Action.fault?_of_ok hsave, Action.after_of_ok hsave]
          exact .saved hfits hfile hdisk (folder.turns_put file _)
        | refused wording =>
          have hsave : c.save path (folder, log) =
              .error (.cannotSave path (.system wording)) (folder, log) := by
            simp [Canvas.save, Folder.save, Folder.write, himage, hpath, htarget, hdisk]
          rw [Action.fault?_of_error hsave, Action.after_of_error hsave]
          exact .refused hfits hfile hdisk
        | brokenOff wording left =>
          have hsave : c.save path (folder, log) =
              .error (.cannotSave path (.system wording)) (folder.breakOff file left, log) := by
            simp [Canvas.save, Folder.save, Folder.write, himage, hpath, htarget, hdisk]
          rw [Action.fault?_of_error hsave, Action.after_of_error hsave]
          exact .brokenOff hfits hfile hdisk (folder.turns_breakOff file left)
  · obtain ⟨e, himage⟩ := Picture.exists_toImage_error hfits
    have hsave : c.save path (folder, log) = .error e (folder, log) := by
      simp [Canvas.save, himage]
    rw [Action.fault?_of_error hsave, Action.after_of_error hsave]
    exact .noImage hfits himage

end Canvas

end TurtleCanvas
