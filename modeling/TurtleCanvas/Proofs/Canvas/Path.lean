import Mathlib.Data.List.Range
import Mathlib.Data.Set.Basic
import Mathlib.Logic.Relation
import TurtleCanvas.Proofs.Raster.Line

/-!
# Paths of pixels

* `PixelPath` is a path on a picture from a pixel to a pixel, of which each next one is a neighbour;
* `Connected` says that any two pixels of a set are joined by neighbours in the set;
* `linePath` are the pixels of a thin line in order, and `pixelPath_linePath` says that they are a
  path from its first end to its second.
-/

namespace TurtleCanvas

/-- A pixel by its column and row, as a point. -/
def Point.ofPixel (p : ℕ × ℕ) : Point := ⟨p.1, p.2⟩

theorem Point.ofPixel_injective : Function.Injective Point.ofPixel := by
  intro p q h
  rw [ofPixel, ofPixel, Point.mk.injEq, Int.natCast_inj, Int.natCast_inj] at h
  exact Prod.ext h.1 h.2

/-- A pixel is one of the eight around another one. -/
def Neighbours (p q : ℕ × ℕ) : Prop := (Point.ofPixel p).Adjacent (.ofPixel q)

instance (p q : ℕ × ℕ) : Decidable (Neighbours p q) := by
  unfold Neighbours Point.Adjacent; infer_instance

theorem Neighbours.symm {p q : ℕ × ℕ} (h : Neighbours p q) : Neighbours q p :=
  Point.Adjacent.symm h

/-- A path of pixels. -/
structure PixelPath (path : List (ℕ × ℕ)) (p q : ℕ × ℕ) : Prop where
  head : path.head? = some p
  last : path.getLast? = some q
  chain : path.IsChain Neighbours

theorem PixelPath.first_mem {path : List (ℕ × ℕ)} {p q : ℕ × ℕ} (h : PixelPath path p q) :
    p ∈ path := List.mem_of_head? h.head

theorem PixelPath.last_mem {path : List (ℕ × ℕ)} {p q : ℕ × ℕ} (h : PixelPath path p q) :
    q ∈ path := List.mem_of_getLast? h.last

theorem PixelPath.reverse {path : List (ℕ × ℕ)} {p q : ℕ × ℕ} (h : PixelPath path p q) :
    PixelPath path.reverse q p where
  head := List.head?_reverse.trans h.last
  last := List.getLast?_reverse.trans h.head
  chain := List.isChain_reverse.2 (h.chain.imp fun _ _ => Neighbours.symm)

/-! ### Connected sets -/

/-- Two pixels of a set are neighbours. -/
def NeighboursIn (S : Set (ℕ × ℕ)) (p q : ℕ × ℕ) : Prop := Neighbours p q ∧ p ∈ S ∧ q ∈ S

/-- Any two pixels of a set are joined by pixels of the set, each a neighbour of the one before. -/
def Connected (S : Set (ℕ × ℕ)) : Prop :=
  ∀ p ∈ S, ∀ q ∈ S, Relation.ReflTransGen (NeighboursIn S) p q

variable {S : Set (ℕ × ℕ)} {p q r : ℕ × ℕ} {path : List (ℕ × ℕ)}

instance : Std.Symm (NeighboursIn S) := ⟨fun _ _ h => ⟨h.1.symm, h.2.2, h.2.1⟩⟩

/-- A set is connected if one pixel is joined to all of them. -/
theorem connected_of_joined (h : ∀ q ∈ S, Relation.ReflTransGen (NeighboursIn S) p q) :
    Connected S := by
  intro a ha b hb
  have hback : Relation.ReflTransGen (NeighboursIn S) a p := Std.Symm.symm _ _ (h a ha)
  exact hback.trans (h b hb)

theorem joined_of_isChain {rest : List (ℕ × ℕ)} (hchain : (p :: rest).IsChain Neighbours)
    (hS : ∀ r ∈ p :: rest, r ∈ S) (hr : r ∈ p :: rest) :
    Relation.ReflTransGen (NeighboursIn S) p r := by
  induction rest generalizing p with
  | nil => exact List.mem_singleton.1 hr ▸ .refl
  | cons next rest ih =>
    rcases List.mem_cons.1 hr with rfl | hr
    · exact .refl
    · obtain ⟨hnext, hrest⟩ := List.isChain_cons_cons.1 hchain
      have hstep : NeighboursIn S p next := ⟨hnext, hS p (by simp), hS next (by simp)⟩
      exact .head hstep (ih hrest (fun x hx => hS x (List.mem_cons_of_mem _ hx)) hr)

/-- A path in a set joins its first pixel to all of its pixels. -/
theorem PixelPath.joined (h : PixelPath path p q) (hS : ∀ r ∈ path, r ∈ S) (hr : r ∈ path) :
    Relation.ReflTransGen (NeighboursIn S) p r := by
  cases path with
  | nil => exact absurd hr List.not_mem_nil
  | cons first rest =>
    obtain rfl : first = p := Option.some.inj h.head
    exact joined_of_isChain h.chain hS hr

/-! ### Thin lines -/

open Raster

/-- The pixel of a line between two pixels after `k` steps. -/
def pixelOn (p q : ℕ × ℕ) (k : ℕ) : ℕ × ℕ :=
  ((pixelAlong (.ofPixel p) (.ofPixel q) k).x.toNat,
    (pixelAlong (.ofPixel p) (.ofPixel q) k).y.toNat)

/-- The pixels of a line between two pixels, in order. -/
def linePath (p q : ℕ × ℕ) : List (ℕ × ℕ) :=
  (List.range (longer (.ofPixel p) (.ofPixel q) + 1)).map (pixelOn p q)

/-- A line keeps to the rectangle of its ends, where columns and rows are natural numbers. -/
theorem pixelOn_spec (p q : ℕ × ℕ) {k : ℕ} (hk : k ≤ longer (.ofPixel p) (.ofPixel q)) :
    Point.ofPixel (pixelOn p q k) = pixelAlong (.ofPixel p) (.ofPixel q) k ∧
      (pixelOn p q k).1 ≤ max p.1 q.1 ∧ (pixelOn p q k).2 ≤ max p.2 q.2 := by
  have hbetween := between_pixelAlong _ _ hk
  unfold pixelOn
  generalize pixelAlong (.ofPixel p) (.ofPixel q) k = pixel at hbetween ⊢
  obtain ⟨x, y⟩ := pixel
  simp only [Point.ofPixel] at hbetween
  refine ⟨?_, ?_, ?_⟩
  · rw [Point.ofPixel, Point.mk.injEq]
    simp only
    omega
  · simp only; omega
  · simp only; omega

theorem mem_linePath_iff {p q r : ℕ × ℕ} :
    r ∈ linePath p q ↔ Point.ofPixel r ∈ segmentPixels (.ofPixel p) (.ofPixel q) := by
  simp only [linePath, mem_segmentPixels_iff, List.mem_map, List.mem_range, Nat.lt_succ_iff]
  refine exists_congr fun k => and_congr_right fun hk => ?_
  rw [← (pixelOn_spec p q hk).1, Point.ofPixel_injective.eq_iff]

theorem le_of_mem_linePath {p q r : ℕ × ℕ} (h : r ∈ linePath p q) :
    r.1 ≤ max p.1 q.1 ∧ r.2 ≤ max p.2 q.2 := by
  obtain ⟨k, hk, rfl⟩ := List.mem_map.1 h
  exact (pixelOn_spec p q (Nat.lt_succ_iff.1 (List.mem_range.1 hk))).2

/-- **The pixels of a line are a path** between its ends. -/
theorem pixelPath_linePath (p q : ℕ × ℕ) : PixelPath (linePath p q) p q where
  head := by
    have hfirst : pixelOn p q 0 = p := Point.ofPixel_injective
      ((pixelOn_spec p q (Nat.zero_le _)).1.trans (pixelAlong_zero _ _))
    simp [linePath, List.range_succ_eq_map, hfirst]
  last := by
    have hlast : pixelOn p q (longer (.ofPixel p) (.ofPixel q)) = q := Point.ofPixel_injective
      ((pixelOn_spec p q le_rfl).1.trans (pixelAlong_longer _ _))
    simp [linePath, List.range_succ, hlast]
  chain := by
    rw [linePath, List.isChain_map, List.isChain_range_succ]
    intro k hk
    rw [Neighbours, (pixelOn_spec p q hk.le).1, (pixelOn_spec p q hk).1]
    exact adjacent_pixelAlong _ _ hk

end TurtleCanvas
