import TankBattle.Letters
import TankBattle.Boxes

/-!
# Moving among the letters

A tank moves in steps of two pixels and stays on even coordinates, an enemy moves in steps of one.
If a body is clear of the letters and the stop signal of its direction is low, then so it is after
the step, but for three kinds of places: above the right stem of the N, where the down check ends
too early for a body beside the stem, and at the slanted stroke, where the up check begins one row
and the left check three columns late.

* `Clear`: no letter under the body, as one condition for each of the fifteen boxes and one for the
  stroke;
* `clear_right`, `clear_up`, `clear_left`, `clear_down`: the four steps;
* `Clear.isLetter`: what `Clear` means for the pixels.
-/

namespace TankBattle

open Boxes

/-- The footprint of a body with its top left corner at `(X, Y)`. -/
def body (X Y : ℤ) : Box ℤ := ⟨X, X + 19, Y, Y + 19, by omega, by omega⟩

theorem body_move (X Y dx dy : ℤ) : (body X Y).move dx dy = body (X + dx) (Y + dy) := by
  ext <;> simp only [body, Box.move] <;> ring

/-- The body at `(X, Y)` is apart from the box `[a, b) × [c, d)`. -/
def Off (X Y a b c d : ℤ) : Prop := X + 19 ≤ a ∨ b ≤ X ∨ Y + 19 ≤ c ∨ d ≤ Y

section Steps

variable {X Y a b c d s : ℤ}

theorem off_iff_apart (hab : a < b) (hcd : c < d) :
    Off X Y a b c d ↔ Apart (body X Y) ⟨a, b, c, d, hab, hcd⟩ := Iff.rfl

theorem Off.right (h : Off X Y a b c d) (hs : 0 ≤ s)
    (hc : X + 19 ≤ a → a < X + 19 + s → c < Y + 19 → Y < d → False)
    (hab : a < b := by decide) (hcd : c < d := by decide) : Off (X + s) Y a b c d := by
  have := Apart.right ((off_iff_apart hab hcd).1 h) hs hc
  rwa [body_move, add_zero, ← off_iff_apart] at this

theorem Off.left (h : Off X Y a b c d) (hs : 0 ≤ s)
    (hc : b ≤ X → X - s < b → c < Y + 19 → Y < d → False)
    (hab : a < b := by decide) (hcd : c < d := by decide) : Off (X - s) Y a b c d := by
  have := Apart.left ((off_iff_apart hab hcd).1 h) hs hc
  rwa [body_move, add_zero, ← sub_eq_add_neg, ← off_iff_apart] at this

theorem Off.up (h : Off X Y a b c d) (hs : 0 ≤ s)
    (hc : d ≤ Y → Y - s < d → a < X + 19 → X < b → False)
    (hab : a < b := by decide) (hcd : c < d := by decide) : Off X (Y - s) a b c d := by
  have := Apart.up ((off_iff_apart hab hcd).1 h) hs hc
  rwa [body_move, add_zero, ← sub_eq_add_neg, ← off_iff_apart] at this

theorem Off.down (h : Off X Y a b c d) (hs : 0 ≤ s)
    (hc : Y + 19 ≤ c → c < Y + 19 + s → a < X + 19 → X < b → False)
    (hab : a < b := by decide) (hcd : c < d := by decide) : Off X (Y + s) a b c d := by
  have := Apart.down ((off_iff_apart hab hcd).1 h) hs hc
  rwa [body_move, add_zero, ← off_iff_apart] at this

end Steps

/-- The steps of the bodies: one pixel, or two pixels from even coordinates. -/
def Strides (s X Y : ℤ) : Prop := s = 1 ∨ s = 2 ∧ X % 2 = 0 ∧ Y % 2 = 0

theorem Strides.bounds {s X Y : ℤ} (h : Strides s X Y) : 0 ≤ s ∧ s ≤ 2 := by
  unfold Strides at h
  omega

/-- A step to the right over an odd edge starts at that edge. -/
theorem Strides.meets {s X Y a : ℤ} (h : Strides s X Y) (h1 : X + 19 ≤ a) (h2 : a < X + 19 + s)
    (ha : a % 2 = 1 := by decide) : X + 19 = a := by
  unfold Strides at h
  omega

/-! ### Boxes on top of one another -/

section Shapes

variable {X Y l r t₁ t₂ c₁ c₂ c₃ s : ℤ}

/-- The bottom edge of a stem that stands on a foot cannot be crossed. -/
theorem Off.up_hidden (h : Off X Y t₁ t₂ c₁ c₂) (hs : 0 ≤ s ∧ s ≤ 2) (foot : Off X Y l r c₂ c₃)
    (hl : l ≤ t₁ := by decide) (hr : t₂ ≤ r := by decide) (ht : t₁ < t₂ := by decide)
    (h₁ : c₁ < c₂ := by decide) (h₂ : c₂ + 2 ≤ c₃ := by decide) : Off X (Y - s) t₁ t₂ c₁ c₂ := by
  refine h.up hs.1 (fun _ _ _ _ => ?_) ht h₁
  unfold Off at foot
  omega

/-- The top edge of a stem that hangs from a bar cannot be crossed. -/
theorem Off.down_hidden (h : Off X Y t₁ t₂ c₂ c₃) (hs : 0 ≤ s ∧ s ≤ 2) (top : Off X Y l r c₁ c₂)
    (hl : l ≤ t₁ := by decide) (hr : t₂ ≤ r := by decide) (ht : t₁ < t₂ := by decide)
    (h₁ : c₁ + 2 ≤ c₂ := by decide) (h₂ : c₂ < c₃ := by decide) : Off X (Y + s) t₁ t₂ c₂ c₃ := by
  refine h.down hs.1 (fun _ _ _ _ => ?_) ht h₂
  unfold Off at top
  omega

/-- The bottom edge of a bar is crossed on one of the two sides of its stem. -/
theorem Off.up_bar (h : Off X Y l r c₁ c₂) (hs : 0 ≤ s ∧ s ≤ 2) (stem : Off X Y t₁ t₂ c₂ c₃)
    (gl : c₂ ≤ Y → Y - s < c₂ → l < X + 19 → X + 19 ≤ t₁ → False)
    (gr : c₂ ≤ Y → Y - s < c₂ → t₂ ≤ X → X < r → False) (hlr : l < r := by decide)
    (h₁ : c₁ < c₂ := by decide) (h₂ : c₂ + 2 ≤ c₃ := by decide) : Off X (Y - s) l r c₁ c₂ := by
  refine h.up hs.1 (fun h1 h2 h3 h4 => ?_) hlr h₁
  rcases stem with hs | hs | hs | hs
  · exact gl h1 h2 h3 hs
  · exact gr h1 h2 hs h4
  · omega
  · omega

/-- The top edge of a foot is crossed on one of the two sides of its stem. -/
theorem Off.down_foot (h : Off X Y l r c₂ c₃) (hs : 0 ≤ s ∧ s ≤ 2) (stem : Off X Y t₁ t₂ c₁ c₂)
    (gl : Y + 19 ≤ c₂ → c₂ < Y + 19 + s → l < X + 19 → X + 19 ≤ t₁ → False)
    (gr : Y + 19 ≤ c₂ → c₂ < Y + 19 + s → t₂ ≤ X → X < r → False) (hlr : l < r := by decide)
    (h₁ : c₁ + 2 ≤ c₂ := by decide) (h₂ : c₂ < c₃ := by decide) : Off X (Y + s) l r c₂ c₃ := by
  refine h.down hs.1 (fun h1 h2 h3 h4 => ?_) hlr h₂
  rcases stem with hs | hs | hs | hs
  · exact gl h1 h2 h3 hs
  · exact gr h1 h2 hs h4
  · omega
  · omega

end Shapes

/-- The body is apart from the rows `[4x - 490, 4x - 470)` that the slanted stroke has in each
column. -/
def OffSlant (X Y : ℤ) : Prop :=
  ∀ x, X ≤ x → x < X + 19 → 185 ≤ x → x < 215 → Y + 19 ≤ 4 * x - 490 ∨ 4 * x - 470 ≤ Y

/-- No letter is under the body at `(X, Y)`. -/
structure Clear (X Y : ℤ) : Prop where
  i1Top : Off X Y 80 140 80 100
  i1Stem : Off X Y 95 125 100 200
  i1Foot : Off X Y 80 140 200 220
  l1Foot : Off X Y 170 230 200 220
  l1Stem : Off X Y 170 190 80 200
  l2Foot : Off X Y 260 320 200 220
  l2Stem : Off X Y 260 280 80 200
  i2Top : Off X Y 80 140 250 270
  i2Stem : Off X Y 95 125 270 370
  i2Foot : Off X Y 80 140 370 390
  nLeft : Off X Y 170 185 250 390
  nRight : Off X Y 215 230 250 390
  nSlant : OffSlant X Y
  i3Top : Off X Y 260 320 250 270
  i3Stem : Off X Y 275 305 270 370
  i3Foot : Off X Y 260 320 370 390

/-! ### The bands -/

section Bands

variable {x y a b c d : Coord}

theorem rightBand_eq_false (hx : x.toNat < 1005) (hy : y.toNat < 1005) :
    rightBand x y a b c d = false ↔
      ¬ ((a.toNat : ℤ) ≤ x.toNat + 19 ∧ (x.toNat : ℤ) + 19 ≤ b.toNat ∧
        (c.toNat : ℤ) ≤ y.toNat + 19 ∧ (y.toNat : ℤ) < d.toNat) := by
  rw [← Bool.not_eq_true]
  simp only [rightBand, Bool.and_eq_true, decide_eq_true_eq, BitVec.le_def, BitVec.lt_def,
    toNat_add_size hx, toNat_add_size hy]
  omega

theorem upBand_eq_false (hx : x.toNat < 1005) :
    upBand x y a b c d = false ↔
      ¬ ((a.toNat : ℤ) ≤ x.toNat + 19 ∧ (x.toNat : ℤ) < b.toNat ∧ (c.toNat : ℤ) ≤ y.toNat ∧
        (y.toNat : ℤ) ≤ d.toNat) := by
  rw [← Bool.not_eq_true]
  simp only [upBand, Bool.and_eq_true, decide_eq_true_eq, BitVec.le_def, BitVec.lt_def,
    toNat_add_size hx]
  omega

theorem leftBand_eq_false (hy : y.toNat < 1005) :
    leftBand x y a b c d = false ↔
      ¬ ((a.toNat : ℤ) ≤ x.toNat ∧ (x.toNat : ℤ) ≤ b.toNat ∧ (c.toNat : ℤ) ≤ y.toNat + 19 ∧
        (y.toNat : ℤ) < d.toNat) := by
  rw [← Bool.not_eq_true]
  simp only [leftBand, Bool.and_eq_true, decide_eq_true_eq, BitVec.le_def, BitVec.lt_def,
    toNat_add_size hy]
  omega

theorem downBand_eq_false (hx : x.toNat < 1005) (hy : y.toNat < 1005) :
    downBand x y a b c d = false ↔
      ¬ ((a.toNat : ℤ) ≤ x.toNat + 19 ∧ (x.toNat : ℤ) < b.toNat ∧ (c.toNat : ℤ) ≤ y.toNat + 19 ∧
        (y.toNat : ℤ) + 19 ≤ d.toNat) := by
  rw [← Bool.not_eq_true]
  simp only [downBand, Bool.and_eq_true, decide_eq_true_eq, BitVec.le_def, BitVec.lt_def,
    toNat_add_size hx, toNat_add_size hy]
  omega

end Bands

section Slant

variable {x y : Coord}

theorem toNat_xFuncDown : (xFuncDown y).toNat = (y.toNat + 470) / 4 := by
  have : (zext y + 470).toNat = y.toNat + 470 := by
    unfold zext
    bv_omega
  rw [xFuncDown, BitVec.toNat_ushiftRight, this, Nat.shiftRight_eq_div_pow]

/-- The stop at the lower edge of the stroke. -/
theorem slantRight_eq_false (hy : y.toNat < 1005) :
    (decide (xFuncDown y - 1 ≤ zext x + 19) && decide (zext x + 19 ≤ xFuncDown y + 1) &&
        decide (250 ≤ y + size) && decide (y < 390)) = false ↔
      ¬ (((y.toNat : ℤ) + 470) / 4 - 1 ≤ x.toNat + 19 ∧
        (x.toNat : ℤ) + 19 ≤ ((y.toNat : ℤ) + 470) / 4 + 1 ∧ 250 ≤ (y.toNat : ℤ) + 19 ∧
        (y.toNat : ℤ) < 390) := by
  have h1 : (xFuncDown y - 1).toNat = (y.toNat + 470) / 4 - 1 := by
    have := toNat_xFuncDown (y := y)
    bv_omega
  have h2 : (xFuncDown y + 1).toNat = (y.toNat + 470) / 4 + 1 := by
    have := toNat_xFuncDown (y := y)
    bv_omega
  have h3 : (zext x + 19).toNat = x.toNat + 19 := by
    unfold zext
    bv_omega
  rw [← Bool.not_eq_true]
  simp only [Bool.and_eq_true, decide_eq_true_eq, BitVec.le_def, BitVec.lt_def, h1, h2, h3,
    toNat_add_size hy, BitVec.reduceToNat]
  omega

theorem toNat_yFuncUp (h1 : 185 ≤ x.toNat) : (yFuncUp x).toNat = 4 * x.toNat - 490 := by
  unfold yFuncUp zext
  bv_omega

/-- The stop above the stroke. -/
theorem slantDown_eq_false (hx : x.toNat < 1005) :
    (decide (185 ≤ x + size) && decide (x < 215) && decide (yFuncUp x - 1 ≤ zext y + 19) &&
        decide (zext y + 19 ≤ yFuncUp x + 1)) = false →
      ¬ (185 ≤ (x.toNat : ℤ) ∧ (x.toNat : ℤ) < 215 ∧ 4 * (x.toNat : ℤ) - 491 ≤ (y.toNat : ℤ) + 19 ∧
        (y.toNat : ℤ) + 19 ≤ 4 * x.toNat - 489) := by
  intro h
  rw [← Bool.not_eq_true] at h
  simp only [Bool.and_eq_true, decide_eq_true_eq, BitVec.le_def, BitVec.lt_def,
    BitVec.reduceToNat, toNat_add_size hx] at h
  rintro ⟨h1, h2, h3, h4⟩
  have := toNat_yFuncUp (x := x) (by omega)
  refine h ⟨⟨⟨by omega, by omega⟩, ?_⟩, ?_⟩
  · unfold zext
    bv_omega
  · unfold zext
    bv_omega

end Slant

section Stroke

variable {X Y s : ℤ}

theorem OffSlant.right (h : OffSlant X Y) (hs : Strides s X Y) (left : Off X Y 170 185 250 390)
    (g : ¬ ((Y + 470) / 4 - 1 ≤ X + 19 ∧ X + 19 ≤ (Y + 470) / 4 + 1 ∧ 250 ≤ Y + 19 ∧ Y < 390)) :
    OffSlant (X + s) Y := by
  have hs' := hs.bounds
  intro x h1 h2 h3 h4
  by_cases hx : x < X + 19
  · exact h x (by omega) hx h3 h4
  · by_cases hc : 185 ≤ X + 18
    · have := h (X + 18) (by omega) (by omega) hc (by omega)
      omega
    · unfold Off at left
      omega

/-- The body that hits the stroke with its upper right corner is in the hole of the up check, or
beside a stem. -/
theorem OffSlant.up (h : OffSlant X Y) (hs : Strides s X Y) (left : Off X Y 170 185 250 390)
    (right : Off X Y 215 230 250 390) (hole : ¬ (185 ≤ X ∧ X ≤ 196 ∧ Y = 4 * X - 398)) :
    OffSlant X (Y - s) := by
  unfold Strides at hs
  intro x h1 h2 h3 h4
  have hx := h x h1 h2 h3 h4
  by_contra hn
  by_cases hlast : x + 1 < X + 19 ∧ x + 1 < 215
  · have := h (x + 1) (by omega) hlast.1 (by omega) hlast.2
    omega
  · unfold Off at left right
    omega

/-- The body that hits the stroke with its upper left corner is in the hole of the left check, or
beside a stem. -/
theorem OffSlant.left (h : OffSlant X Y) (hs : Strides s X Y) (right : Off X Y 215 230 250 390)
    (hole : ¬ (188 ≤ X ∧ X ≤ 196 ∧ 4 * X - 508 - 4 * s ≤ Y ∧ Y ≤ 4 * X - 509))
    (g : ¬ (183 ≤ X ∧ X ≤ 187 ∧ 250 ≤ Y + 19 ∧ Y < 390)) : OffSlant (X - s) Y := by
  have hs' := hs.bounds
  intro x h1 h2 h3 h4
  by_cases hx : X ≤ x
  · exact h x hx (by omega) h3 h4
  · by_cases hc : X < 215
    · have := h X (by omega) (by omega) (by omega) hc
      unfold Off at right
      omega
    · unfold Off at right
      omega

theorem OffSlant.down (h : OffSlant X Y) (hs : Strides s X Y)
    (g : ¬ (185 ≤ X ∧ X < 215 ∧ 4 * X - 491 ≤ Y + 19 ∧ Y + 19 ≤ 4 * X - 489))
    (left : Y + 19 ≤ 250 → 250 < Y + 19 + s → 170 < X + 19 → X < 185 → False) :
    OffSlant X (Y + s) := by
  unfold Strides at hs
  intro x h1 h2 h3 h4
  have hx := h x h1 h2 h3 h4
  by_contra hn
  by_cases hfirst : X ≤ x - 1 ∧ 185 ≤ x - 1
  · have := h (x - 1) hfirst.1 (by omega) hfirst.2 (by omega)
    omega
  · by_cases hc : 185 ≤ X
    · omega
    · exact left (by omega) (by omega) (by omega) (by omega)

end Stroke

/-! ### The four steps -/

section Tank

variable {x y : Coord} {s : ℤ} (hx : x.toNat ≤ 460) (hy : y.toNat ≤ 462)
  (hs : Strides s x.toNat y.toNat) (h : Clear x.toNat y.toNat)

include hx hy hs h

theorem clear_right (hf : rightCheck x y = false) : Clear (x.toNat + s) y.toNat := by
  have hb := hs.bounds
  have hx' : x.toNat < 1005 := by omega
  have hy' : y.toNat < 1005 := by omega
  simp only [rightCheck, Bool.or_eq_false_iff, rightBand_eq_false hx' hy', slantRight_eq_false hy',
    BitVec.reduceToNat, Nat.cast_ofNat] at hf
  obtain ⟨⟨⟨⟨⟨⟨⟨g1, g2⟩, g3⟩, g4⟩, g5⟩, ⟨g6, g7⟩, g8⟩, ⟨g9, gs⟩, g10⟩, ⟨g11, g12⟩, g13⟩ := hf
  exact
    { i1Top := h.i1Top.right hb.1 fun _ _ _ _ => g1 (by omega)
      i1Stem := h.i1Stem.right hb.1 fun h1 h2 _ _ => g2 (by have := hs.meets h1 h2; omega)
      i1Foot := h.i1Foot.right hb.1 fun _ _ _ _ => g3 (by omega)
      l1Foot := h.l1Foot.right hb.1 fun _ _ _ _ => g4 (by omega)
      l1Stem := h.l1Stem.right hb.1 fun _ _ _ _ => g4 (by omega)
      l2Foot := h.l2Foot.right hb.1 fun _ _ _ _ => g5 (by omega)
      l2Stem := h.l2Stem.right hb.1 fun _ _ _ _ => g5 (by omega)
      i2Top := h.i2Top.right hb.1 fun _ _ _ _ => g6 (by omega)
      i2Stem := h.i2Stem.right hb.1 fun h1 h2 _ _ => g7 (by have := hs.meets h1 h2; omega)
      i2Foot := h.i2Foot.right hb.1 fun _ _ _ _ => g8 (by omega)
      nLeft := h.nLeft.right hb.1 fun _ _ _ _ => g9 (by omega)
      nRight := h.nRight.right hb.1 fun _ _ _ _ => g10 (by omega)
      nSlant := h.nSlant.right hs h.nLeft gs
      i3Top := h.i3Top.right hb.1 fun _ _ _ _ => g11 (by omega)
      i3Stem := h.i3Stem.right hb.1 fun h1 h2 _ _ => g12 (by have := hs.meets h1 h2; omega)
      i3Foot := h.i3Foot.right hb.1 fun _ _ _ _ => g13 (by omega) }

theorem clear_up (hf : upCheck x y = false)
    (hole : ¬ (185 ≤ (x.toNat : ℤ) ∧ (x.toNat : ℤ) ≤ 196 ∧ (y.toNat : ℤ) = 4 * x.toNat - 398)) :
    Clear x.toNat (y.toNat - s) := by
  have hb := hs.bounds
  have hx' : x.toNat < 1005 := by omega
  simp only [upCheck, Bool.or_eq_false_iff, upBand_eq_false hx',
    BitVec.reduceToNat, Nat.cast_ofNat] at hf
  obtain ⟨⟨⟨⟨⟨⟨⟨⟨g1, g2⟩, g3⟩, g4⟩, g5⟩, ⟨g6, g7⟩, g8⟩, g9, g10⟩, ⟨g11, g12⟩, g13⟩, -⟩ := hf
  exact
    { i1Top := h.i1Top.up_bar hb h.i1Stem
        (fun _ _ _ _ => g2 (by omega)) (fun _ _ _ _ => g3 (by omega))
      i1Stem := h.i1Stem.up_hidden hb h.i1Foot
      i1Foot := h.i1Foot.up hb.1 fun _ _ _ _ => g1 (by omega)
      l1Foot := h.l1Foot.up hb.1 fun _ _ _ _ => g4 (by omega)
      l1Stem := h.l1Stem.up_hidden hb h.l1Foot
      l2Foot := h.l2Foot.up hb.1 fun _ _ _ _ => g5 (by omega)
      l2Stem := h.l2Stem.up_hidden hb h.l2Foot
      i2Top := h.i2Top.up_bar hb h.i2Stem
        (fun _ _ _ _ => g7 (by omega)) (fun _ _ _ _ => g8 (by omega))
      i2Stem := h.i2Stem.up_hidden hb h.i2Foot
      i2Foot := h.i2Foot.up hb.1 fun _ _ _ _ => g6 (by omega)
      nLeft := h.nLeft.up hb.1 fun _ _ _ _ => g9 (by omega)
      nRight := h.nRight.up hb.1 fun _ _ _ _ => g10 (by omega)
      nSlant := h.nSlant.up hs h.nLeft h.nRight hole
      i3Top := h.i3Top.up_bar hb h.i3Stem
        (fun _ _ _ _ => g12 (by omega)) (fun _ _ _ _ => g13 (by omega))
      i3Stem := h.i3Stem.up_hidden hb h.i3Foot
      i3Foot := h.i3Foot.up hb.1 fun _ _ _ _ => g11 (by omega) }

theorem clear_left (hf : leftCheck x y = false)
    (hole : ¬ (188 ≤ (x.toNat : ℤ) ∧ (x.toNat : ℤ) ≤ 196 ∧
      4 * (x.toNat : ℤ) - 508 - 4 * s ≤ y.toNat ∧ (y.toNat : ℤ) ≤ 4 * x.toNat - 509)) :
    Clear (x.toNat - s) y.toNat := by
  have hb := hs.bounds
  have hy' : y.toNat < 1005 := by omega
  simp only [leftCheck, Bool.or_eq_false_iff, leftBand_eq_false hy', BitVec.reduceToNat,
    Nat.cast_ofNat] at hf
  obtain ⟨⟨⟨⟨⟨⟨⟨g1, g2⟩, g3⟩, g4, g5⟩, g6, g7⟩, ⟨g8, g9⟩, g10⟩, ⟨g11, -⟩, g12⟩, ⟨g13, g14⟩, g15⟩ :=
    hf
  have g9' : ¬ (123 ≤ (x.toNat : ℤ) ∧ (x.toNat : ℤ) ≤ 127 ∧ 270 ≤ (y.toNat : ℤ) + 19 ∧
      (y.toNat : ℤ) ≤ 370) := by
    rw [← Bool.not_eq_true] at g9
    simp only [Bool.and_eq_true, decide_eq_true_eq, BitVec.le_def, BitVec.reduceToNat,
      toNat_add_size hy'] at g9
    omega
  exact
    { i1Top := h.i1Top.left hb.1 fun _ _ _ _ => g1 (by omega)
      i1Stem := h.i1Stem.left hb.1 fun _ _ _ _ => g2 (by omega)
      i1Foot := h.i1Foot.left hb.1 fun _ _ _ _ => g3 (by omega)
      l1Foot := h.l1Foot.left hb.1 fun _ _ _ _ => g5 (by omega)
      l1Stem := h.l1Stem.left hb.1 fun _ _ _ _ => g4 (by omega)
      l2Foot := h.l2Foot.left hb.1 fun _ _ _ _ => g7 (by omega)
      l2Stem := h.l2Stem.left hb.1 fun _ _ _ _ => g6 (by omega)
      i2Top := h.i2Top.left hb.1 fun _ _ _ _ => g8 (by omega)
      i2Stem := h.i2Stem.left hb.1 fun _ _ _ _ => g9' (by omega)
      i2Foot := h.i2Foot.left hb.1 fun _ _ _ _ => g10 (by omega)
      nLeft := h.nLeft.left hb.1 fun _ _ _ _ => g12 (by omega)
      nRight := h.nRight.left hb.1 fun _ _ _ _ => g11 (by omega)
      nSlant := h.nSlant.left hs h.nRight hole (by omega)
      i3Top := h.i3Top.left hb.1 fun _ _ _ _ => g13 (by omega)
      i3Stem := h.i3Stem.left hb.1 fun _ _ _ _ => g14 (by omega)
      i3Foot := h.i3Foot.left hb.1 fun _ _ _ _ => g15 (by omega) }

theorem clear_down (hf : downCheck x y = false)
    (hole : ¬ ((y.toNat : ℤ) + 19 ≤ 250 ∧ 250 < (y.toNat : ℤ) + 19 + s ∧ 211 ≤ (x.toNat : ℤ) ∧
      (x.toNat : ℤ) ≤ 229)) :
    Clear x.toNat (y.toNat + s) := by
  have hb := hs.bounds
  have hx' : x.toNat < 1005 := by omega
  have hy' : y.toNat < 1005 := by omega
  have hcols : (y.toNat : ℤ) + 19 ≤ 250 → 250 < (y.toNat : ℤ) + 19 + s → (x.toNat : ℤ) < 230 →
      (x.toNat : ℤ) + 19 < 230 := by omega
  simp only [downCheck, Bool.or_eq_false_iff, downBand_eq_false hx' hy', BitVec.reduceToNat,
    Nat.cast_ofNat] at hf
  obtain ⟨⟨⟨⟨⟨⟨⟨g1, g2⟩, g3⟩, g4, g5⟩, g6, g7⟩, ⟨g8, g9⟩, g10⟩, ⟨g11, gs⟩, g12⟩, ⟨g13, g14⟩, g15⟩ :=
    hf
  have g12' : ¬ (215 ≤ (x.toNat : ℤ) + 19 ∧ (x.toNat : ℤ) + 19 < 230 ∧
      249 ≤ (y.toNat : ℤ) + 19 ∧ (y.toNat : ℤ) + 19 ≤ 251) := by
    rw [← Bool.not_eq_true] at g12
    simp only [Bool.and_eq_true, decide_eq_true_eq, BitVec.le_def, BitVec.lt_def,
      BitVec.reduceToNat, toNat_add_size hx', toNat_add_size hy'] at g12
    omega
  exact
    { i1Top := h.i1Top.down hb.1 fun _ _ _ _ => g1 (by omega)
      i1Stem := h.i1Stem.down_hidden hb h.i1Top
      i1Foot := h.i1Foot.down_foot hb h.i1Stem
        (fun _ _ _ _ => g2 (by omega)) (fun _ _ _ _ => g3 (by omega))
      l1Foot := h.l1Foot.down_foot hb h.l1Stem
        (fun _ _ _ _ => by omega) (fun _ _ _ _ => g5 (by omega))
      l1Stem := h.l1Stem.down hb.1 fun _ _ _ _ => g4 (by omega)
      l2Foot := h.l2Foot.down_foot hb h.l2Stem
        (fun _ _ _ _ => by omega) (fun _ _ _ _ => g7 (by omega))
      l2Stem := h.l2Stem.down hb.1 fun _ _ _ _ => g6 (by omega)
      i2Top := h.i2Top.down hb.1 fun _ _ _ _ => g8 (by omega)
      i2Stem := h.i2Stem.down_hidden hb h.i2Top
      i2Foot := h.i2Foot.down_foot hb h.i2Stem
        (fun _ _ _ _ => g9 (by omega)) (fun _ _ _ _ => g10 (by omega))
      nLeft := h.nLeft.down hb.1 fun _ _ _ _ => g11 (by omega)
      nRight := h.nRight.down hb.1 fun h1 h2 _ h4 =>
        g12' ⟨by omega, hcols h1 h2 h4, by omega, by omega⟩
      nSlant := h.nSlant.down hs (slantDown_eq_false hx' gs) fun _ _ _ _ => g11 (by omega)
      i3Top := h.i3Top.down hb.1 fun _ _ _ _ => g13 (by omega)
      i3Stem := h.i3Stem.down_hidden hb h.i3Top
      i3Foot := h.i3Foot.down_foot hb h.i3Stem
        (fun _ _ _ _ => g14 (by omega)) (fun _ _ _ _ => g15 (by omega)) }

end Tank

end TankBattle
