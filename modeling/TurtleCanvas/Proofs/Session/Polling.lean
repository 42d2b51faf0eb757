import Mathlib.Data.List.Induction
import Mathlib.Logic.Function.Basic
import TurtleCanvas.Canvas.Save
import TurtleCanvas.Platform
import TurtleCanvas.Session
import TurtleCanvas.Proofs.Canvas.Basic
import TurtleCanvas.Proofs.Canvas.Footprint

/-!
# Pollers miss nothing

Any number of pollers look at a session while it is drawn on, each passing the generation of the
last frame that it received.

* `Watch` is a session together with what each poller has received, and `Watch.run` a run of events
  on it;
* `Paint.takesEffect` says which calls count as changes of the canvas;
* `Watch.Coherent` is the invariant: among all frames ever received, those of the canvas's
  generation hold the canvas's picture;
* `Watch.run_no_lost_update` says that a poll leaves the poller with the picture of the canvas.
-/

namespace TurtleCanvas

/-- A call takes effect on a canvas of a size and background: a pixel on the canvas, a line that is
not clipped away or a dot that is not skipped, in a colour that can be read; or a clear with a
background that can be stored. -/
def Paint.takesEffect {α : Type} [Scalar α] (width height : Nat) (background : Colour)
    (call : Paint α) : Bool :=
  match call.parts with
  | some (g, ink) => (g.painted width height ink).isSome
  | none => background.firstBeyondByte?.isNone

namespace Canvas

variable {α : Type} [Scalar α]

/-- A call without effect leaves the canvas as it is. -/
theorem after_perform_of_no_effect {call : Paint α} (hcall : call.Fits) {c : Canvas}
    (h : call.takesEffect c.width c.height c.background = false) :
    (perform call).after c = c := by
  rcases call.clear_or_inked with rfl | ⟨g, ink, rfl⟩
  · obtain ⟨n, hn⟩ : ∃ n, c.background.firstBeyondByte? = some n := by
      simpa [Paint.takesEffect, Option.isSome_iff_exists] using h
    exact Action.after_of_error (perform_clear_of_some hn)
  · rw [Paint.takesEffect, Paint.parts_inked, Option.isSome_eq_false_iff, Option.isNone_iff_eq_none]
      at h
    exact after_of_not_painted (Paint.fits_inked.1 hcall) h

/-- A call with effect is counted once. -/
theorem generation_after_perform {call : Paint α} (hcall : call.Fits) (c : Canvas) :
    ((perform call).after c).generation =
      c.generation + (call.takesEffect c.width c.height c.background).toNat := by
  cases h : call.takesEffect c.width c.height c.background with
  | false => rw [after_perform_of_no_effect hcall h]; rfl
  | true =>
    rcases call.clear_or_inked with rfl | ⟨g, ink, rfl⟩
    · have hb : c.background.firstBeyondByte? = none := by simpa [Paint.takesEffect] using h
      rw [Action.after_of_ok (perform_clear hb)]
      rfl
    · rw [Paint.takesEffect, Paint.parts_inked, Option.isSome_iff_exists] at h
      obtain ⟨⟨spans, colour⟩, hp⟩ := h
      rw [Action.after_of_ok (perform_of_painted (Paint.fits_inked.1 hcall) hp)]
      rfl

/-- A call that is not counted leaves the canvas as it is. -/
theorem after_perform_of_generation_eq {call : Paint α} (hcall : call.Fits) {c : Canvas}
    (h : ((perform call).after c).generation = c.generation) : (perform call).after c = c := by
  refine after_perform_of_no_effect hcall ?_
  rw [generation_after_perform hcall] at h
  -- A call with effect would have been counted.
  cases heffect : call.takesEffect c.width c.height c.background with
  | false => rfl
  | true => rw [heffect] at h; simp at h

end Canvas

/-- What happens to a session that is drawn on and looked at.  The canvas is saved to a disk as it is
at that moment. -/
inductive WatchEvent (α ι : Type) where
  | paint (call : Paint α)
  | complete
  | fail (cause : Fault)
  | save (disk : Disk) (path : String)
  | poll (who : ι)

namespace WatchEvent

variable {α ι : Type}

/-- The colours of painting calls have components that can be stored in bytes. -/
def Fits : WatchEvent α ι → Prop
  | paint call => call.Fits
  | _ => True

instance (e : WatchEvent α ι) : Decidable e.Fits :=
  match e with
  | paint call => inferInstanceAs (Decidable call.Fits)
  | complete | fail _ | save .. | poll _ => isTrue trivial

/-- The event is a painting call that takes effect. -/
def takesEffect [Scalar α] (width height : Nat) (background : Colour) : WatchEvent α ι → Bool
  | paint call => call.takesEffect width height background
  | _ => false

end WatchEvent

/-- A session with its pollers. -/
structure Watch (ι : Type) where
  session : Session
  disk : Folder × Log
  /-- The frames that each poller has received, the last one first. -/
  received : ι → List (Nat × Picture)

namespace Watch

variable {α ι : Type}

/-- A session that nobody has looked at. -/
def start (session : Session) (disk : Folder × Log) : Watch ι := ⟨session, disk, fun _ => []⟩

/-- The frame that a poller is given, which passes the generation of the last one it received. -/
def polled (w : Watch ι) (who : ι) : Option (Nat × Picture) :=
  w.session.latestFrame ((w.received who).head?.map Prod.fst)

/-! ### Polls -/

theorem polled_of_eq {w : Watch ι} {who : ι} {frame : Nat × Picture}
    (hhead : (w.received who).head? = some frame) (h : frame.1 = w.session.canvas.generation) :
    w.polled who = none := by
  simp [polled, Session.latestFrame, hhead, h]

theorem polled_of_ne {w : Watch ι} {who : ι}
    (h : ∀ frame, (w.received who).head? = some frame →
      frame.1 ≠ w.session.canvas.generation) :
    w.polled who = some w.session.frame := by
  rw [polled, Session.latestFrame, if_neg]
  rw [Option.map_eq_some_iff]
  rintro ⟨frame, hhead, heq⟩
  exact h frame hhead heq

variable [DecidableEq ι]

/-- A frame brought to a poller. -/
def receive (w : Watch ι) (who : ι) (frame : Nat × Picture) : Watch ι :=
  { w with received := Function.update w.received who (frame :: w.received who) }

@[simp] theorem received_receive (w : Watch ι) (who : ι) (frame : Nat × Picture) :
    (w.receive who frame).received who = frame :: w.received who :=
  Function.update_self _ _ _

theorem received_receive_of_ne {w : Watch ι} {who other : ι} (h : other ≠ who)
    (frame : Nat × Picture) : (w.receive who frame).received other = w.received other :=
  Function.update_of_ne h _ _

theorem mem_received_receive {w : Watch ι} {who other : ι} {frame f : Nat × Picture}
    (h : f ∈ (w.receive who frame).received other) : f = frame ∨ f ∈ w.received other := by
  by_cases hother : other = who
  · subst hother
    rwa [received_receive, List.mem_cons] at h
  · rw [received_receive_of_ne hother] at h
    exact .inr h

section

variable [Scalar α] [Memory]

/-- One event. -/
def step (w : Watch ι) : WatchEvent α ι → Watch ι
  | .paint call =>
    { w with session := { w.session with
        canvas := (Canvas.perform call).after w.session.canvas } }
  | .complete => { w with session := w.session.complete }
  | .fail cause => { w with session := w.session.fail cause }
  | .save _ path => { w with disk := (w.session.canvas.save path).after w.disk }
  | .poll who =>
    match w.polled who with
    | some frame => w.receive who frame
    | none => w

/-- A run of events. -/
def run (w : Watch ι) (events : List (WatchEvent α ι)) : Watch ι := events.foldl step w

theorem run_append_singleton (w : Watch ι) (events : List (WatchEvent α ι)) (e : WatchEvent α ι) :
    w.run (events ++ [e]) = (w.run events).step e := by
  simp [run, List.foldl_append]

/-- A poll gives the current frame, or nothing when a frame of its generation was the last one. -/
theorem poll_cases (w : Watch ι) (who : ι) :
    (w.step (.poll who : WatchEvent α ι) = w ∧ ∃ frame, (w.received who).head? = some frame ∧
        frame.1 = w.session.canvas.generation) ∨
      (w.step (.poll who : WatchEvent α ι) = w.receive who w.session.frame ∧
        ∀ frame, (w.received who).head? = some frame →
          frame.1 ≠ w.session.canvas.generation) := by
  by_cases h : ∃ frame, (w.received who).head? = some frame ∧
      frame.1 = w.session.canvas.generation
  · obtain ⟨frame, hhead, heq⟩ := h
    exact .inl ⟨by rw [step, polled_of_eq hhead heq], frame, hhead, heq⟩
  · have hne : ∀ frame, (w.received who).head? = some frame →
        frame.1 ≠ w.session.canvas.generation := fun frame hhead heq => h ⟨frame, hhead, heq⟩
    exact .inr ⟨by rw [step, polled_of_ne hne], hne⟩

/-! ### The canvas along a run -/

/-- No event but a painting call touches the canvas. -/
theorem canvas_step (w : Watch ι) (e : WatchEvent α ι) :
    (w.step e).session.canvas = match e with
      | .paint call => (Canvas.perform call).after w.session.canvas
      | _ => w.session.canvas := by
  cases e with
  | poll who =>
    rcases poll_cases (α := α) w who with ⟨h, -⟩ | ⟨h, -⟩
    · rw [h]
    · rw [h]; rfl
  | _ => rfl

/-- No event changes the size or the background of the canvas. -/
theorem frame_step {e : WatchEvent α ι} (he : e.Fits) (w : Watch ι) :
    (w.step e).session.canvas.width = w.session.canvas.width ∧
      (w.step e).session.canvas.height = w.session.canvas.height ∧
      (w.step e).session.canvas.background = w.session.canvas.background := by
  rw [canvas_step]
  cases e with
  | paint call => exact Canvas.frame_perform he _
  | _ => exact ⟨rfl, rfl, rfl⟩

theorem frame_run {events : List (WatchEvent α ι)} (h : ∀ e ∈ events, e.Fits) (w : Watch ι) :
    (w.run events).session.canvas.width = w.session.canvas.width ∧
      (w.run events).session.canvas.height = w.session.canvas.height ∧
      (w.run events).session.canvas.background = w.session.canvas.background := by
  induction events generalizing w with
  | nil => exact ⟨rfl, rfl, rfl⟩
  | cons e rest ih =>
    obtain ⟨hw, hh, hb⟩ := frame_step (h e List.mem_cons_self) w
    obtain ⟨hw', hh', hb'⟩ := ih (fun x hx => h x (List.mem_cons_of_mem _ hx)) (w.step e)
    exact ⟨hw'.trans hw, hh'.trans hh, hb'.trans hb⟩

theorem generation_step {e : WatchEvent α ι} (he : e.Fits) (w : Watch ι) :
    (w.step e).session.canvas.generation = w.session.canvas.generation +
      (e.takesEffect w.session.canvas.width w.session.canvas.height
        w.session.canvas.background).toNat := by
  rw [canvas_step]
  cases e with
  | paint call => exact Canvas.generation_after_perform he _
  | _ => rfl

/-- **The generation counts the calls that took effect.** -/
theorem generation_run {events : List (WatchEvent α ι)} (h : ∀ e ∈ events, e.Fits) (w : Watch ι) :
    (w.run events).session.canvas.generation = w.session.canvas.generation +
      events.countP (WatchEvent.takesEffect w.session.canvas.width w.session.canvas.height
        w.session.canvas.background) := by
  induction events using List.reverseRecOn with
  | nil => rfl
  | append_singleton events e ih =>
    have hevents : ∀ x ∈ events, x.Fits := fun x hx => h x (List.mem_append_left _ hx)
    obtain ⟨hw, hh, hb⟩ := frame_run hevents w
    rw [run_append_singleton, generation_step (h e (by simp)), ih hevents, hw, hh, hb,
      List.countP_append, List.countP_singleton, Nat.add_assoc]
    cases e.takesEffect w.session.canvas.width w.session.canvas.height
      w.session.canvas.background <;> rfl

/-- An event that does not change the generation does not change the canvas. -/
theorem canvas_step_of_generation_eq {e : WatchEvent α ι} (he : e.Fits) {w : Watch ι}
    (h : (w.step e).session.canvas.generation = w.session.canvas.generation) :
    (w.step e).session.canvas = w.session.canvas := by
  rw [canvas_step] at h ⊢
  cases e with
  | paint call => exact Canvas.after_perform_of_generation_eq he h
  | _ => rfl

/-! ### The invariant -/

/-- What every poller has received is coherent with the canvas. -/
structure Coherent (w : Watch ι) : Prop where
  /-- No frame is newer than the canvas. -/
  le_generation : ∀ who, ∀ frame ∈ w.received who, frame.1 ≤ w.session.canvas.generation
  /-- A frame of the canvas's generation holds its picture. -/
  current : ∀ who, ∀ frame ∈ w.received who,
    frame.1 = w.session.canvas.generation → frame.2 = w.session.canvas.picture
  /-- Every frame is newer than those before it. -/
  increasing : ∀ who, (w.received who).Pairwise fun later earlier => earlier.1 < later.1

omit [DecidableEq ι] [Memory] in
theorem coherent_start (session : Session) (disk : Folder × Log) :
    (start session disk : Watch ι).Coherent where
  le_generation _ _ h := nomatch h
  current _ _ h := nomatch h
  increasing _ := List.Pairwise.nil

omit [DecidableEq ι] [Memory] in
/-- An event that brings nobody a frame keeps coherence, if the generation grows whenever the canvas
changes. -/
theorem Coherent.of_received_eq {w w' : Watch ι} (h : w.Coherent)
    (hreceived : w'.received = w.received)
    (hle : w.session.canvas.generation ≤ w'.session.canvas.generation)
    (heq : w'.session.canvas.generation = w.session.canvas.generation →
      w'.session.canvas = w.session.canvas) : w'.Coherent where
  le_generation who frame hmem :=
    (h.le_generation who frame (hreceived ▸ hmem)).trans hle
  current who frame hmem hgen := by
    have hold := h.le_generation who frame (hreceived ▸ hmem)
    -- The frame is no newer than the canvas was, so the canvas has not changed since.
    have hsame : w'.session.canvas.generation = w.session.canvas.generation := by omega
    rw [heq hsame]
    exact h.current who frame (hreceived ▸ hmem) (hgen.trans hsame)
  increasing who := by rw [hreceived]; exact h.increasing who

omit [DecidableEq ι] [Memory] in
/-- Everything that a poller has received is older than the canvas if the last of it is. -/
theorem Coherent.lt_generation {w : Watch ι} (h : w.Coherent) {who : ι}
    (hne : ∀ frame, (w.received who).head? = some frame →
      frame.1 ≠ w.session.canvas.generation) :
    ∀ frame ∈ w.received who, frame.1 < w.session.canvas.generation := by
  intro frame hmem
  obtain ⟨last, rest, hlast⟩ := List.exists_cons_of_ne_nil (List.ne_nil_of_mem hmem)
  have hlast_lt : last.1 < w.session.canvas.generation :=
    lt_of_le_of_ne (h.le_generation who last (by simp [hlast])) (hne last (by simp [hlast]))
  have hincreasing := h.increasing who
  rw [hlast, List.pairwise_cons] at hincreasing
  rw [hlast, List.mem_cons] at hmem
  rcases hmem with rfl | hmem
  · exact hlast_lt
  · exact (hincreasing.1 frame hmem).trans hlast_lt

omit [Memory] in
/-- The frame of the canvas keeps coherence when it is brought to a poller that has not got it. -/
theorem Coherent.receive {w : Watch ι} (h : w.Coherent) {who : ι}
    (hne : ∀ frame, (w.received who).head? = some frame →
      frame.1 ≠ w.session.canvas.generation) :
    (w.receive who w.session.frame).Coherent where
  le_generation other frame hmem := by
    rcases mem_received_receive hmem with rfl | hmem
    · exact le_rfl
    · exact h.le_generation other frame hmem
  current other frame hmem hgen := by
    rcases mem_received_receive hmem with rfl | hmem
    · rfl
    · exact h.current other frame hmem hgen
  increasing other := by
    by_cases hother : other = who
    · subst hother
      rw [received_receive]
      exact List.pairwise_cons.2 ⟨h.lt_generation hne, h.increasing other⟩
    · rw [received_receive_of_ne hother]
      exact h.increasing other

/-- Every event keeps coherence. -/
theorem Coherent.step {w : Watch ι} (h : w.Coherent) {e : WatchEvent α ι} (he : e.Fits) :
    (w.step e).Coherent := by
  cases e with
  | poll who =>
    rcases poll_cases (α := α) w who with ⟨hstep, -⟩ | ⟨hstep, hne⟩
    · rw [hstep]; exact h
    · rw [hstep]; exact h.receive hne
  | paint call =>
    refine h.of_received_eq rfl ?_ (canvas_step_of_generation_eq he)
    rw [generation_step he]
    exact Nat.le_add_right _ _
  | complete => exact h.of_received_eq rfl le_rfl fun _ => rfl
  | fail cause => exact h.of_received_eq rfl le_rfl fun _ => rfl
  | save disk path => exact h.of_received_eq rfl le_rfl fun _ => rfl

theorem Coherent.run {w : Watch ι} (h : w.Coherent) {events : List (WatchEvent α ι)}
    (hevents : ∀ e ∈ events, e.Fits) : (w.run events).Coherent := by
  induction events generalizing w with
  | nil => exact h
  | cons e rest ih =>
    exact ih (h.step (hevents e List.mem_cons_self)) fun x hx =>
      hevents x (List.mem_cons_of_mem _ hx)

/-- After a poll the poller's last frame is the one of the canvas. -/
theorem Coherent.head?_poll {w : Watch ι} (h : w.Coherent) (who : ι) :
    ((w.step (.poll who : WatchEvent α ι)).received who).head? = some w.session.frame := by
  rcases poll_cases (α := α) w who with ⟨hstep, frame, hhead, hgen⟩ | ⟨hstep, -⟩
  · rw [hstep, hhead]
    -- The poll brought nothing: what the poller has is of this generation, hence this picture.
    have hpicture := h.current who frame (List.mem_of_head? hhead) hgen
    exact congrArg some (Prod.ext hgen hpicture)
  · rw [hstep]
    simp

/-! ### The law -/

/-- **No update is lost.**  Whatever is drawn on a fresh canvas between the polls of any number of
pollers: after a poll the last frame of the poller is the current one, whether the poll brought it
or not; the generations that a poller receives increase; and the generation is the number of calls
that took effect. -/
theorem run_no_lost_update {width height : Argument} {ink : Ink} {c : Canvas}
    (hc : Canvas.create width height ink = .ok c) (caption : Argument) (disk : Folder × Log)
    {events : List (WatchEvent α ι)} (hevents : ∀ e ∈ events, e.Fits) :
    (∀ who : ι,
      (((start (.start c caption) disk).run (events ++ [.poll who])).received who).head? =
        some (((start (.start c caption) disk : Watch ι).run events).session.canvas.generation,
          ((start (.start c caption) disk : Watch ι).run events).session.canvas.picture)) ∧
    (∀ who : ι, (((start (.start c caption) disk).run events).received who).Pairwise
      fun later earlier => earlier.1 < later.1) ∧
    ((start (.start c caption) disk : Watch ι).run events).session.canvas.generation =
      events.countP (WatchEvent.takesEffect c.width c.height c.background) := by
  have hcoherent := (coherent_start (ι := ι) (.start c caption) disk).run hevents
  refine ⟨fun who => ?_, hcoherent.increasing, ?_⟩
  · rw [run_append_singleton]
    exact hcoherent.head?_poll who
  · obtain ⟨w, h, colour, pixel, -, -, rfl, -, -⟩ := Canvas.create_spec hc
    rw [generation_run hevents]
    exact Nat.zero_add _

end

/-- Two pollers and a run of which one pixel takes effect: the next call misses the canvas, and its
background cannot be stored when it is cleared. -/
def glances : List (WatchEvent Argument Bool) :=
  [.poll true, .paint (.pixel (.int 0) (.int 0) (.ok ⟨0, 0, 255⟩)), .poll true,
    .paint (.pixel (.int 5) (.int 0) (.ok ⟨9, 9, 9⟩)), .save inferInstance "panda.png", .paint .clear,
    .fail .colourTooLong, .poll true, .complete]

/-- After calls that miss the canvas or fail, both pollers hold the one change. -/
theorem run_no_lost_update_glances :
    Canvas.create (.int 2) (.int 1) (.ok ⟨300, 0, 0⟩) =
        .ok ⟨.filled 2 1 ⟨44, 0, 0⟩, ⟨300, 0, 0⟩, 0⟩ ∧
      (∀ e ∈ glances, e.Fits) ∧
      ∀ who, (((start (.start ⟨.filled 2 1 ⟨44, 0, 0⟩, ⟨300, 0, 0⟩, 0⟩ .none)
        (⟨[], [], []⟩, [])).run (glances ++ [.poll who])).received who).head?.map Prod.fst =
          some 1 := by
  have hc : Canvas.create (.int 2) (.int 1) (.ok ⟨300, 0, 0⟩) =
      .ok ⟨.filled 2 1 ⟨44, 0, 0⟩, ⟨300, 0, 0⟩, 0⟩ := rfl
  have hglances : ∀ e ∈ glances, e.Fits := by decide
  obtain ⟨hlast, -, hcount⟩ := run_no_lost_update hc .none (⟨[], [], []⟩, []) hglances
  refine ⟨hc, hglances, fun who => ?_⟩
  rw [hlast who, hcount, Option.map_some]
  exact congrArg some (by decide)

end Watch

end TurtleCanvas
