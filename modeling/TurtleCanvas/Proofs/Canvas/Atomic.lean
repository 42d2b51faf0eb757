import TurtleCanvas.Canvas.Save
import TurtleCanvas.Platform
import TurtleCanvas.Proofs.Canvas.Footprint

/-!
# Calls that are all or nothing

A call that fails should leave the canvas as it was, and a call that changes a pixel should return
and be counted.  Two calls can do otherwise, both for want of a check of their colour before the
first byte is stored.

* `Call` is any call on a canvas, and `Call.perform` what it does to the canvas and to the files and
  the log beside it;
* `Canvas.AllOrNothing` is what is asked of a call, and `Canvas.TakesWhole` says that the painter
  takes the colour of a call as a whole or not at all;
* `Canvas.Ending` is how a call ends, and `Canvas.ending_perform` says it of every call that paints;
* `Call.perform_allOrNothing` says that a call is counted only when it returns and changes no pixel
  uncounted then, and that it is all or nothing if its colour is taken as a whole;
* `Call.not_allOrNothing_torn` is a call that stores a part of its colour and fails.
-/

namespace TurtleCanvas

namespace Canvas

/-- What is asked of a call that leaves one canvas of another, and fails if there is a fault. -/
structure AllOrNothing (before after : Canvas) (fault : Option Fault) : Prop where
  /-- A call that fails leaves every pixel and the count as they were. -/
  failed : fault.isSome → after.picture = before.picture ∧ after.generation = before.generation
  /-- A call that changes a pixel returns and is counted once. -/
  changed : after.picture ≠ before.picture →
    fault = none ∧ after.generation = before.generation + 1

/-- What every call does: one that fails is not counted, and one that returns is counted once if it
changes a pixel. -/
structure CountsReturned (before after : Canvas) (fault : Option Fault) : Prop where
  failed : fault.isSome → after.generation = before.generation
  returned : fault = none → after.picture ≠ before.picture →
    after.generation = before.generation + 1

/-- How a call can end: without a change, with one that is counted, or, if its colour is not taken
as a whole, torn off in the middle of one. -/
inductive Ending (whole : Prop) (before : Canvas) : Canvas → Option Fault → Prop where
  | unchanged (fault : Option Fault) : Ending whole before before fault
  | counted {after : Canvas} :
    after.generation = before.generation + 1 → Ending whole before after none
  | torn {after : Canvas} (e : Fault) :
    ¬ whole → after.generation = before.generation → Ending whole before after (some e)

namespace Ending

variable {whole : Prop} {before after : Canvas} {fault : Option Fault}

/-- The condition under which a call is not torn can be strengthened. -/
theorem imp {whole' : Prop} (h : Ending whole before after fault) (himp : whole' → whole) :
    Ending whole' before after fault := by
  cases h with
  | unchanged => exact .unchanged _
  | counted hcount => exact .counted hcount
  | torn e hpart hcount => exact .torn e (fun hwhole => hpart (himp hwhole)) hcount

theorem le_generation (h : Ending whole before after fault) :
    before.generation ≤ after.generation := by
  cases h with
  | unchanged => exact le_rfl
  | counted hcount => omega
  | torn e _ hcount => exact hcount.ge

theorem countsReturned (h : Ending whole before after fault) :
    CountsReturned before after fault := by
  cases h with
  | unchanged => exact ⟨fun _ => rfl, fun _ hne => absurd rfl hne⟩
  | counted hcount => exact ⟨(nomatch ·), fun _ _ => hcount⟩
  | torn e _ hcount => exact ⟨fun _ => hcount, (nomatch ·)⟩

theorem allOrNothing (h : Ending whole before after fault) (hwhole : whole) :
    AllOrNothing before after fault := by
  cases h with
  | unchanged => exact ⟨fun _ => ⟨rfl, rfl⟩, fun hne => absurd rfl hne⟩
  | counted hcount => exact ⟨(nomatch ·), fun _ => ⟨rfl, hcount⟩⟩
  | torn e hpart _ => exact absurd hwhole hpart

end Ending

/-- The painter takes the colour of a call as a whole or not at all: a pixel is refused at its first
component or not at all, and a line is drawn in a colour that can be made out.  A dot is refused
before it is drawn. -/
def TakesWhole {α : Type} : Paint α → Prop
  | .pixel _ _ ink =>
    ∀ colour, ink = .ok colour → colour.FitsBytes ∨ Colour.fitsByte colour.red = false
  | .line _ ink _ => ∀ colour, ink = .ok colour → canMakeOut colour = true
  | .dot .. | .clear => True

theorem takesWhole_of_fits {α : Type} {call : Paint α} (h : call.Fits) : TakesWhole call := by
  cases call with
  | pixel x y ink => exact fun colour hink => .inl (h _ _ rfl colour hink)
  | line s ink penWidth => exact fun colour hink => canMakeOut_of_fits (h _ _ rfl colour hink)
  | dot x y diameter ink => trivial
  | clear => trivial

/-! ### How calls that paint end -/

theorem ending_store (x y : Nat) (colour : Colour) (c : Canvas) :
    Ending (colour.FitsBytes ∨ Colour.fitsByte colour.red = false) c ((store x y colour).after c)
      ((store x y colour).fault? c) := by
  rcases hs : colour.storeIn (c.picture.pixel x y) with ⟨pixel, _ | n⟩
  · have hstore : store x y colour c = .ok () { c with
        picture := c.picture.set x y pixel, generation := c.generation + 1 } := by
      simp only [store, hs]
    rw [Action.after_of_ok hstore, Action.fault?_of_ok hstore]
    exact .counted rfl
  · have hstore : store x y colour c =
        .error (.ofComponent n) { c with picture := c.picture.set x y pixel } := by
      simp only [store, hs]
    rw [Action.after_of_error hstore, Action.fault?_of_error hstore]
    by_cases hred : Colour.fitsByte colour.red = false
    · -- Nothing has been stored yet when the first component is refused.
      obtain ⟨rfl, -⟩ : c.picture.pixel x y = pixel ∧ some colour.red = some n := by
        simpa [Colour.storeIn, hred] using hs
      rw [Picture.set_pixel_self]
      exact .unchanged _
    · refine .torn _ (fun hwhole => ?_) rfl
      rcases hwhole with hfits | hfits
      · rw [Colour.storeIn_eq hfits] at hs
        cases hs
      · exact hred hfits

theorem ending_enact {planned : Except Fault (Option (List Span × Colour))} {whole : Prop}
    (h : ∀ spans colour, planned = .ok (some (spans, colour)) → whole → canMakeOut colour = true)
    (c : Canvas) : Ending whole c ((enact planned).after c) ((enact planned).fault? c) := by
  rcases planned with e | _ | ⟨spans, colour⟩
  · exact .unchanged _
  · exact .unchanged _
  · by_cases hmake : canMakeOut colour = true
    · have henact : enact (.ok (some (spans, colour))) c = .ok () (c.mark spans colour) := by
        simp only [enact, hmake, if_true]
      rw [Action.after_of_ok henact, Action.fault?_of_ok henact]
      exact .counted rfl
    · have henact : enact (.ok (some (spans, colour))) c = .error .colourMisread
          { c.mark spans colour with generation := c.generation } := by
        simp only [enact, hmake]
        rfl
      rw [Action.after_of_error henact, Action.fault?_of_error henact]
      exact .torn _ (fun hwhole => hmake (h spans colour rfl hwhole)) rfl

/-- A plan that was made has read its colour, and the painter takes that for the shape. -/
theorem exists_of_plan_eq_some {width height : Nat} {shape? : Except Fault (Option Shape)}
    {ink : Ink} {spans : List Span} {colour : Colour}
    (h : plan width height shape? ink = .ok (some (spans, colour))) :
    ∃ shape, shape? = .ok (some shape) ∧ ink = .ok colour ∧ shape.takes colour = true := by
  obtain ⟨_ | shape, hshape, h⟩ := Except.bind_eq_ok_iff.1 h
  · exact nomatch h
  · obtain ⟨colour', hink, h⟩ := Except.bind_eq_ok_iff.1 h
    by_cases htakes : shape.takes colour' = true
    · rw [if_pos htakes] at h
      obtain ⟨_, -, h⟩ := Except.bind_eq_ok_iff.1 h
      obtain ⟨-, rfl⟩ := Prod.mk.inj (Option.some.inj (Except.ok.inj h))
      exact ⟨shape, hshape, hink, htakes⟩
    · rw [if_neg htakes] at h
      exact nomatch h

variable {α : Type} [Scalar α]

theorem exists_disk_of_dotShape {width height : Nat} {x y diameter : α} {shape : Shape}
    (h : dotShape width height x y diameter = .ok (some shape)) :
    ∃ centre radius, shape = .disk centre radius := by
  obtain ⟨_ | _, -, h⟩ := Except.bind_eq_ok_iff.1 h
  · exact nomatch h
  obtain ⟨r, -, h⟩ := Except.bind_eq_ok_iff.1 h
  obtain ⟨_ | _, -, h⟩ := Except.bind_eq_ok_iff.1 h
  · exact nomatch h
  obtain ⟨_ | _, -, h⟩ := Except.bind_eq_ok_iff.1 h
  · exact nomatch h
  obtain ⟨i, -, h⟩ := Except.bind_eq_ok_iff.1 h
  obtain ⟨j, -, h⟩ := Except.bind_eq_ok_iff.1 h
  exact ⟨⟨i, j⟩, r, (Option.some.inj (Except.ok.inj h)).symm⟩

theorem ending_setPixel (x y : α) (ink : Ink) (c : Canvas) :
    Ending (TakesWhole (.pixel x y ink)) c ((setPixel x y ink).after c)
      ((setPixel x y ink).fault? c) := by
  rcases h : pixelPlan c.width c.height x y ink with e | _ | ⟨⟨i, j⟩, colour⟩
  · have hset : setPixel x y ink c = .error e c := by simp only [setPixel, h]
    rw [Action.after_of_error hset]
    exact .unchanged _
  · have hset : setPixel x y ink c = .ok () c := by simp only [setPixel, h]
    rw [Action.after_of_ok hset]
    exact .unchanged _
  · have hink : ink = .ok colour := by
      obtain ⟨_ | place, -, h⟩ := Except.bind_eq_ok_iff.1 h
      · cases h
      · obtain ⟨_, hink, h⟩ := Except.bind_eq_ok_iff.1 h
        obtain ⟨-, rfl⟩ := Prod.mk.inj (Option.some.inj (Except.ok.inj h))
        exact hink
    have hset : setPixel x y ink c = store i j colour c := by simp only [setPixel, h]
    rw [Action.after_congr hset, Action.fault?_congr hset]
    exact (ending_store i j colour c).imp fun hwhole => hwhole colour hink

theorem ending_clear (c : Canvas) (whole : Prop) :
    Ending whole c (clear.after c) (clear.fault? c) := by
  cases h : c.background.firstBeyondByte? with
  | some n =>
    have hclear : clear c = .error (.ofComponent n) c := by simp only [clear, h]
    rw [Action.after_of_error hclear]
    exact .unchanged _
  | none =>
    have hclear : clear c = .ok () { c with
        picture := .filled c.width c.height c.background.clamped
        generation := c.generation + 1 } := by
      simp only [clear, h]
    rw [Action.after_of_ok hclear, Action.fault?_of_ok hclear]
    exact .counted rfl

/-- **How a call that paints ends.**  It is torn only if its colour is not taken as a whole. -/
theorem ending_perform (call : Paint α) (c : Canvas) :
    Ending (TakesWhole call) c ((perform call).after c) ((perform call).fault? c) := by
  cases call with
  | pixel x y ink => exact ending_setPixel x y ink c
  | line s ink penWidth =>
    cases penWidth with
    | error e => exact .unchanged _
    | ok n =>
      have hline : perform (.line s ink (.ok n)) c =
          enact (plan c.width c.height (lineShape c.width c.height s n) ink) c := rfl
      rw [Action.after_congr hline, Action.fault?_congr hline]
      refine ending_enact (fun spans colour hplan hwhole => ?_) c
      obtain ⟨-, -, hink, -⟩ := exists_of_plan_eq_some hplan
      exact hwhole colour hink
  | dot x y diameter ink =>
    have hdot : perform (.dot x y diameter ink) c =
        enact (plan c.width c.height (dotShape c.width c.height x y diameter) ink) c := rfl
    rw [Action.after_congr hdot, Action.fault?_congr hdot]
    refine ending_enact (fun spans colour hplan _ => ?_) c
    obtain ⟨shape, hshape, -, htakes⟩ := exists_of_plan_eq_some hplan
    obtain ⟨p, r, rfl⟩ := exists_disk_of_dotShape hshape
    exact htakes
  | clear => exact ending_clear c _

end Canvas

/-! ### Every call -/

/-- A call on a canvas: one that paints, one that asks for a pixel, or one that saves to a disk as it
is at that moment. -/
inductive Call (α : Type) where
  | paint (call : Paint α)
  | getPixel (x y : Argument)
  | save (disk : Disk) (path : Argument)

/-- A canvas with the files and the log that saving writes to. -/
structure Desk where
  canvas : Canvas
  folder : Folder
  log : Log

namespace Call

variable {α : Type} [Scalar α]

/-- Perform a call, whatever it answers. -/
def perform [Memory] : Call α → Action Desk Unit
  | paint call => fun d =>
    match Canvas.perform call d.canvas with
    | .ok _ canvas => .ok () { d with canvas }
    | .error e canvas => .error e { d with canvas }
  | getPixel x y => fun d =>
    match d.canvas.getPixel x y with
    | .ok _ => .ok () d
    | .error e => .error e d
  | save _ path => fun d =>
    match path.toPath with
    | .error e => .error e d
    | .ok path =>
      match d.canvas.save path (d.folder, d.log) with
      | .ok _ (folder, log) => .ok () { d with folder, log }
      | .error e (folder, log) => .error e { d with folder, log }

/-- The colour of a call that paints is taken as a whole or not at all. -/
def TakesWhole : Call α → Prop
  | paint call => Canvas.TakesWhole call
  | getPixel .. | save .. => True

theorem perform_save_of_ok [Memory] {disk : Disk} {path : Argument} {name : String} {d : Desk}
    {left : Folder × Log} (hpath : path.toPath = .ok name)
    (hsave : d.canvas.save name (d.folder, d.log) = .ok () left) :
    (save disk path : Call α).perform d = .ok () ⟨d.canvas, left.1, left.2⟩ := by
  simp only [perform, hpath, hsave]

theorem perform_save_of_error [Memory] {disk : Disk} {path : Argument} {name : String} {d : Desk}
    {left : Folder × Log} {e : Fault} (hpath : path.toPath = .ok name)
    (hsave : d.canvas.save name (d.folder, d.log) = .error e left) :
    (save disk path : Call α).perform d = .error e ⟨d.canvas, left.1, left.2⟩ := by
  simp only [perform, hpath, hsave]

/-- How a call ends. -/
theorem ending_perform [Memory] (call : Call α) (d : Desk) :
    Canvas.Ending call.TakesWhole d.canvas (call.perform.after d).canvas
      (call.perform.fault? d) := by
  cases call with
  | paint call =>
    have h := Canvas.ending_perform call d.canvas
    simp only [Action.after, Action.fault?, perform] at h ⊢
    cases hcall : Canvas.perform call d.canvas with
    | ok _ c => rw [hcall] at h; exact h
    | error e c => rw [hcall] at h; exact h
  | getPixel x y =>
    simp only [Action.after, perform]
    cases d.canvas.getPixel x y with
    | ok _ => exact .unchanged _
    | error e => exact .unchanged _
  | save disk path =>
    cases hpath : path.toPath with
    | error e =>
      have hrun : (save disk path : Call α).perform d = .error e d := by simp only [perform, hpath]
      rw [Action.after_of_error hrun]
      exact .unchanged _
    | ok name =>
      -- Saving writes to the files and the log, never to the canvas.
      cases hsave : d.canvas.save name (d.folder, d.log) with
      | ok _ s =>
        rw [Action.after_of_ok (perform_save_of_ok hpath hsave)]
        exact .unchanged _
      | error e s =>
        rw [Action.after_of_error (perform_save_of_error hpath hsave)]
        exact .unchanged _

/-- **What a call does to the count and to the pixels.**  Whatever the call and its arguments: when
it fails it is not counted, and when it returns after it changed a pixel it is counted once.  It is
all or nothing if its colour is taken as a whole, as every colour is whose components fit bytes
(`Canvas.takesWhole_of_fits`). -/
theorem perform_allOrNothing [Memory] (call : Call α) (d : Desk) :
    Canvas.CountsReturned d.canvas (call.perform.after d).canvas (call.perform.fault? d) ∧
      (call.TakesWhole →
        Canvas.AllOrNothing d.canvas (call.perform.after d).canvas (call.perform.fault? d)) :=
  ⟨(call.ending_perform d).countsReturned, (call.ending_perform d).allOrNothing⟩

/-- A white canvas of two pixels, with no files and an empty log beside it. -/
def smallDesk : Desk :=
  ⟨⟨.filled 2 1 ⟨255, 255, 255⟩, ⟨255, 255, 255⟩, 0⟩, ⟨[], [], []⟩, []⟩

/-- A call that stores a pixel of a colour in the first column. -/
def storeFirst (colour : Colour) : Call Argument := .paint (.pixel (.int 0) (.int 0) (.ok colour))

/-- A colour that is refused at its first component leaves the pixel as it was. -/
theorem perform_allOrNothing_refused :
    (storeFirst ⟨300, 10, 0⟩).TakesWhole ∧
      ((storeFirst ⟨300, 10, 0⟩).perform.fault? smallDesk).isSome ∧
      ((storeFirst ⟨300, 10, 0⟩).perform.after smallDesk).canvas.picture =
        smallDesk.canvas.picture := by
  have hwhole : (storeFirst ⟨300, 10, 0⟩).TakesWhole := by
    intro colour hink
    obtain rfl := Except.ok.inj hink
    exact .inr rfl
  have hfault : ((storeFirst ⟨300, 10, 0⟩).perform.fault? smallDesk).isSome := rfl
  exact ⟨hwhole, hfault, (((perform_allOrNothing _ smallDesk).2 hwhole).failed hfault).1⟩

/-- A colour that is refused at its second component leaves its first one stored, uncounted. -/
theorem not_allOrNothing_torn :
    ¬ Canvas.AllOrNothing smallDesk.canvas
      ((storeFirst ⟨10, 300, 0⟩).perform.after smallDesk).canvas
      ((storeFirst ⟨10, 300, 0⟩).perform.fault? smallDesk) := by
  intro h
  obtain ⟨hpicture, -⟩ := h.failed rfl
  have hred := congrArg (fun p => (p.pixel 0 0).red) hpicture
  exact absurd hred (by decide)

end Call

end TurtleCanvas
