import Mathlib

/-!
# Boxes in the plane

Axis-parallel, half-open boxes over a linear order, and their translations over an ordered ring.
The `y` axis points down, as on a screen.

* `Box.disjoint_iff`: two boxes are disjoint if and only if one of four sides separates them
  (`Apart`);
* `Box.end_mem_horizontal`, `Box.end_mem_vertical`: a segment that meets a box at least as wide or
  high has an end in it;
* `Apart.right`, `Apart.left`, `Apart.up`, `Apart.down`: a box that moves parallel to an axis stays
  apart from another box unless it crosses the edge that faces it.
-/

namespace Boxes

/-- A nonempty half-open box. -/
@[ext]
structure Box (α : Type*) [LinearOrder α] where
  left : α
  right : α
  top : α
  bottom : α
  left_lt_right : left < right
  top_lt_bottom : top < bottom

section Order

variable {α : Type*} [LinearOrder α]

namespace Box

/-- The points of a box. -/
def points (b : Box α) : Set (α × α) := Set.Ico b.left b.right ×ˢ Set.Ico b.top b.bottom

end Box

/-- A vertical or horizontal line separates the boxes. -/
def Apart (b c : Box α) : Prop :=
  b.right ≤ c.left ∨ c.right ≤ b.left ∨ b.bottom ≤ c.top ∨ c.bottom ≤ b.top

theorem Apart.symm {b c : Box α} (h : Apart b c) : Apart c b := by
  unfold Apart at *
  tauto

theorem Box.disjoint_iff {b c : Box α} : Disjoint b.points c.points ↔ Apart b c := by
  have hb := b.left_lt_right
  have hc := c.left_lt_right
  have hb' := b.top_lt_bottom
  have hc' := c.top_lt_bottom
  unfold Box.points Apart
  rw [Set.disjoint_prod, Set.Ico_disjoint_Ico, Set.Ico_disjoint_Ico, min_le_iff, le_max_iff,
    le_max_iff, min_le_iff, le_max_iff, le_max_iff]
  simp only [not_le.2 hb, not_le.2 hc, not_le.2 hb', not_le.2 hc', false_or, or_false]
  tauto

end Order

/-! ### Segments -/

section Segment

variable {α : Type*} [AddCommMonoid α] [LinearOrder α] [IsOrderedCancelAddMonoid α] {b : Box α}
  {s k x y : α}

/-- A segment of length `s` that meets an interval of at least this length has an end in it. -/
theorem end_mem_Ico {l r : α} (hs : l + s ≤ r) (h0 : 0 ≤ k) (hk : k ≤ s)
    (h : x + k ∈ Set.Ico l r) : x ∈ Set.Ico l r ∨ x + s ∈ Set.Ico l r := by
  obtain ⟨h1, h2⟩ := h
  rcases le_or_gt l x with hx | hx
  · exact Or.inl ⟨hx, (le_add_of_nonneg_right h0).trans_lt h2⟩
  · exact Or.inr ⟨h1.trans (add_le_add_right hk x), (add_lt_add_left hx s).trans_le hs⟩

/-- A horizontal segment does not leap over a box that is at least as wide. -/
theorem Box.end_mem_horizontal (hs : b.left + s ≤ b.right) (h0 : 0 ≤ k) (hk : k ≤ s)
    (h : (x + k, y) ∈ b.points) : (x, y) ∈ b.points ∨ (x + s, y) ∈ b.points :=
  (end_mem_Ico hs h0 hk h.1).imp (⟨·, h.2⟩) (⟨·, h.2⟩)

/-- A vertical segment does not leap over a box that is at least as high. -/
theorem Box.end_mem_vertical (hs : b.top + s ≤ b.bottom) (h0 : 0 ≤ k) (hk : k ≤ s)
    (h : (x, y + k) ∈ b.points) : (x, y) ∈ b.points ∨ (x, y + s) ∈ b.points :=
  (end_mem_Ico hs h0 hk h.2).imp (⟨h.1, ·⟩) (⟨h.1, ·⟩)

end Segment

section Move

variable {α : Type*} [CommRing α] [LinearOrder α] [IsStrictOrderedRing α]

/-- The box moved by `dx` to the right and by `dy` down. -/
def Box.move (b : Box α) (dx dy : α) : Box α where
  left := b.left + dx
  right := b.right + dx
  top := b.top + dy
  bottom := b.bottom + dy
  left_lt_right := by have := b.left_lt_right; linarith
  top_lt_bottom := by have := b.top_lt_bottom; linarith

variable {b c : Box α} {s : α}

/-- A box that moves to the right stays apart from another one unless it crosses its left edge. -/
theorem Apart.right (h : Apart b c) (hs : 0 ≤ s)
    (hc : b.right ≤ c.left → c.left < b.right + s → c.top < b.bottom → b.top < c.bottom → False) :
    Apart (b.move s 0) c := by
  simp only [Apart, Box.move, add_zero] at *
  rcases h with h | h | h | h
  · by_contra hn
    push Not at hn
    exact hc h hn.1 hn.2.2.1 hn.2.2.2
  · exact Or.inr (Or.inl (by linarith))
  · exact Or.inr (Or.inr (Or.inl h))
  · exact Or.inr (Or.inr (Or.inr h))

/-- A box that moves to the left stays apart from another one unless it crosses its right edge. -/
theorem Apart.left (h : Apart b c) (hs : 0 ≤ s)
    (hc : c.right ≤ b.left → b.left - s < c.right → c.top < b.bottom → b.top < c.bottom → False) :
    Apart (b.move (-s) 0) c := by
  simp only [Apart, Box.move, add_zero, ← sub_eq_add_neg] at *
  rcases h with h | h | h | h
  · exact Or.inl (by linarith)
  · by_contra hn
    push Not at hn
    exact hc h hn.2.1 hn.2.2.1 hn.2.2.2
  · exact Or.inr (Or.inr (Or.inl h))
  · exact Or.inr (Or.inr (Or.inr h))

/-- A box that moves up stays apart from another one unless it crosses its bottom edge. -/
theorem Apart.up (h : Apart b c) (hs : 0 ≤ s)
    (hc : c.bottom ≤ b.top → b.top - s < c.bottom → c.left < b.right → b.left < c.right → False) :
    Apart (b.move 0 (-s)) c := by
  simp only [Apart, Box.move, add_zero, ← sub_eq_add_neg] at *
  rcases h with h | h | h | h
  · exact Or.inl h
  · exact Or.inr (Or.inl h)
  · exact Or.inr (Or.inr (Or.inl (by linarith)))
  · by_contra hn
    push Not at hn
    exact hc h hn.2.2.2 hn.1 hn.2.1

/-- A box that moves down stays apart from another one unless it crosses its top edge. -/
theorem Apart.down (h : Apart b c) (hs : 0 ≤ s)
    (hc : b.bottom ≤ c.top → c.top < b.bottom + s → c.left < b.right → b.left < c.right → False) :
    Apart (b.move 0 s) c := by
  simp only [Apart, Box.move, add_zero] at *
  rcases h with h | h | h | h
  · exact Or.inl h
  · exact Or.inr (Or.inl h)
  · by_contra hn
    push Not at hn
    exact hc h hn.2.2.1 hn.1 hn.2.1
  · exact Or.inr (Or.inr (Or.inr (by linarith)))

end Move

end Boxes
