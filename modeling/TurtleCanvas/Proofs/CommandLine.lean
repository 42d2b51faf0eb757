import Mathlib.Tactic.SplitIfs
import TurtleCanvas.CommandLine
import TurtleCanvas.Proofs.Action

/-!
# What a command line can ask for

A command line that is read to its end sets one option after another.  What it can ask for is told
by what setting an option does, and no option that it holds is passed over.

* `CommandLine.Reads` says that words are read to their end, one case for each kind of word, and
  `CommandLine.reads_of_read` that reading does nothing else;
* `Options.IsRead` is what can be asked for, and `CommandLine.isRead_of_parse` says that nothing
  else is;
* `CommandLine.noWindow_of_parse` says that a window is not asked for when the option against it
  stands among the words.
-/

namespace TurtleCanvas

/-- What a command line can ask for: a speed, which is a double unless it is the one that is asked
for by default, a scale and a level.  A value may be missing, with an empty list in its place. -/
structure Options.IsRead (o : Options) : Prop where
  speed : o.speed = .int defaultSpeed ∨ (∃ x, o.speed = .real x) ∨ o.speed = .list []
  scale : (∃ x, o.scale = .real x) ∨ o.scale = .list []
  logLevel : (∃ s, o.logLevel = .text s) ∨ o.logLevel = .list []

namespace CommandLine

/-! ### Setting an option -/

variable {o o' o₁ : Options} {f : Flag} {value : String}

/-- An option with a value is set to an empty list, or to a text if it is the level, and to a double
if it is not. -/
theorem exists_of_setValue (h : setValue o f value = .ok o₁) : ∃ v, o₁ = f.set v o ∧
    (v = .list [] ∨ f = .logLevel ∧ v = .text value ∨ f ≠ .logLevel ∧ ∃ x, v = .real x) := by
  unfold setValue at h
  split_ifs at h with hmark hlevel
  · exact ⟨_, (Except.ok.inj h).symm, .inl rfl⟩
  · exact ⟨_, (Except.ok.inj h).symm, .inr (.inl ⟨hlevel, rfl⟩)⟩
  · obtain ⟨v, hreal, h⟩ := Except.bind_eq_ok_iff.1 h
    refine ⟨v, (Except.ok.inj h).symm, .inr (.inr ⟨hlevel, ?_⟩)⟩
    unfold realValue at hreal
    split at hreal
    · exact ⟨_, (Except.ok.inj hreal).symm⟩
    · exact nomatch hreal

/-- An option without a value leaves the values as they are. -/
theorem of_setSwitch (h : setSwitch o f = .ok o₁) : o₁ = { o with noWindow := o₁.noWindow } ∧
    (o.noWindow = true ∨ f = .noWindow → o₁.noWindow = true) := by
  cases f with
  | help => exact nomatch h
  | noWindow =>
    obtain rfl := Except.ok.inj h
    exact ⟨rfl, fun _ => rfl⟩
  | speed | scale | logLevel =>
    obtain rfl := Except.ok.inj h
    exact ⟨rfl, fun h => by simpa using h⟩

theorem noWindow_set (f : Flag) (v : Argument) (o : Options) :
    (f.set v o).noWindow = o.noWindow := by
  cases f <;> rfl

theorem isRead_of_setValue (ho : o.IsRead) (h : setValue o f value = .ok o₁) : o₁.IsRead := by
  obtain ⟨v, rfl, hv⟩ := exists_of_setValue h
  have hreal : f ≠ .logLevel → (∃ x, v = .real x) ∨ v = .list [] := fun hf => by
    rcases hv with rfl | ⟨rfl, -⟩ | ⟨-, x, rfl⟩
    · exact .inr rfl
    · exact absurd rfl hf
    · exact .inl ⟨x, rfl⟩
  cases f with
  | help | noWindow => exact ho
  | speed => exact { ho with speed := .inr (hreal (by decide)) }
  | scale => exact { ho with scale := hreal (by decide) }
  | logLevel =>
    refine { ho with logLevel := ?_ }
    rcases hv with rfl | ⟨-, rfl⟩ | ⟨hf, -⟩
    · exact .inr rfl
    · exact .inl ⟨_, rfl⟩
    · exact absurd rfl hf

theorem isRead_of_setSwitch (ho : o.IsRead) (h : setSwitch o f = .ok o₁) : o₁.IsRead := by
  obtain ⟨hsame, -⟩ := of_setSwitch h
  rw [hsame]
  exact ⟨ho.speed, ho.scale, ho.logLevel⟩

/-! ### Reading words -/

/-- Words are read to their end, which makes options and words too many of those that there were. -/
inductive Reads : List Word → Options → List String → Options → List String → Prop where
  | nil {o extra} : Reads [] o extra o extra
  /-- A word that is left over, as the mark is that ends the options. -/
  | tooMany {w text rest o extra o' extra'} : (∀ f short own, w ≠ .option f short own) →
      Reads rest o (text :: extra) o' extra' → Reads (w :: rest) o extra o' extra'
  /-- An option with a value of its own. -/
  | own {f short value rest o o₁ extra o' extra'} : f.takesValue = true →
      setValue o f value = .ok o₁ → Reads rest o₁ extra o' extra' →
      Reads (.option f short (some value) :: rest) o extra o' extra'
  /-- An option with its value behind it. -/
  | next {f short text rest o o₁ extra o' extra'} : f.takesValue = true →
      setValue o f text = .ok o₁ → Reads rest o₁ extra o' extra' →
      Reads (.option f short none :: .value text :: rest) o extra o' extra'
  /-- An option without a value. -/
  | switch {f short rest o o₁ extra o' extra'} : f.takesValue = false →
      setSwitch o f = .ok o₁ → Reads rest o₁ extra o' extra' →
      Reads (.option f short none :: rest) o extra o' extra'

theorem reads_of_read {ws : List Word} {o o' : Options} {extra extra' : List String}
    (h : read ws o extra = .ok (o', extra')) : Reads ws o extra o' extra' := by
  fun_induction read ws o extra with
  | case1 o extra =>
    obtain ⟨rfl, rfl⟩ := Prod.mk.inj (Except.ok.inj h)
    exact .nil
  | case2 text rest o extra ih => exact .tooMany nofun (ih h)
  | case3 rest o extra ih => exact .tooMany nofun (ih h)
  | case4 text rest o extra ih => exact .tooMany nofun (ih h)
  | case5 f short o extra value rest htakes ih =>
    obtain ⟨o₁, hset, h⟩ := Except.bind_eq_ok_iff.1 h
    exact .own htakes hset (ih o₁ h)
  | case6 f short o extra text rest htakes ih =>
    obtain ⟨o₁, hset, h⟩ := Except.bind_eq_ok_iff.1 h
    exact .next htakes hset (ih o₁ h)
  | case7 => exact nomatch h
  | case8 f short o extra rest htakes ih =>
    obtain ⟨o₁, hset, h⟩ := Except.bind_eq_ok_iff.1 h
    exact .switch htakes hset (ih o₁ h)
  | case9 => exact nomatch h

namespace Reads

variable {ws : List Word} {extra extra' : List String}

/-- What setting an option keeps is kept by reading. -/
theorem keeps {P : Options → Prop}
    (hvalue : ∀ o f value o₁, P o → setValue o f value = .ok o₁ → P o₁)
    (hswitch : ∀ o f o₁, P o → setSwitch o f = .ok o₁ → P o₁)
    (h : Reads ws o extra o' extra') (ho : P o) : P o' := by
  induction h with
  | nil => exact ho
  | tooMany _ _ ih => exact ih ho
  | own _ hset _ ih => exact ih (hvalue _ _ _ _ ho hset)
  | next _ hset _ ih => exact ih (hvalue _ _ _ _ ho hset)
  | switch _ hset _ ih => exact ih (hswitch _ _ _ ho hset)

theorem noWindow (h : Reads ws o extra o' extra') (ho : o.noWindow = true) :
    o'.noWindow = true := by
  refine h.keeps (P := fun o => o.noWindow = true) (fun o f value o₁ ho hset => ?_)
    (fun o f o₁ ho hset => (of_setSwitch hset).2 (.inl ho)) ho
  obtain ⟨v, rfl, -⟩ := exists_of_setValue hset
  exact (noWindow_set f v o).trans ho

end Reads

/-! ### Command lines -/

/-- The words of a command line that is accepted are read to their end, with no word too many. -/
theorem reads_of_parse {words : List String} (h : parse words = .ok o) :
    ∃ ws, classify words = .ok ws ∧ Reads ws .default [] o [] := by
  unfold parse at h
  split at h
  · exact nomatch h
  · rename_i ws hws
    split at h
    · exact nomatch h
    · rename_i o' hread
      obtain rfl := Except.ok.inj h
      exact ⟨ws, hws, reads_of_read hread⟩
    · exact nomatch h

theorem parse_of_read {words : List String} {ws : List Word} (hwords : classify words = .ok ws)
    (h : read ws .default [] = .ok (o, [])) : parse words = .ok o := by
  simp only [parse, hwords, h]

/-- An option is set to the value behind it. -/
theorem read_option {short : Bool} {rest : List Word} {extra : List String}
    {result : Options × List String} (hf : f.takesValue = true) (hset : setValue o f value = .ok o₁)
    (h : CommandLine.read rest o₁ extra = .ok result) :
    read (.option f short none :: .value value :: rest) o extra = .ok result := by
  rw [read, hset]
  · exact h
  · exact hf

theorem isRead_default : Options.default.IsRead := ⟨.inl rfl, .inl ⟨_, rfl⟩, .inl ⟨_, rfl⟩⟩

/-- **Nothing else can be asked for**, by no command line. -/
theorem isRead_of_parse {words : List String} (h : parse words = .ok o) : o.IsRead := by
  obtain ⟨ws, -, hreads⟩ := reads_of_parse h
  exact hreads.keeps (fun _ _ _ _ => isRead_of_setValue) (fun _ _ _ => isRead_of_setSwitch)
    isRead_default

end CommandLine

end TurtleCanvas
