import TankBattle.BulletStops
import TankBattle.Field

/-!
# The letters as boxes

The letters are fifteen boxes and the slanted stroke of the N, which is a box of twenty rows in each
of its thirty columns.

* `letterBoxes`, `letter_iff`: the boxes and the stroke;
* `Drawn`, `isLetter_iff`: the pixels that `wall` draws;
* `Vacant`: no letter pixel is under a body;
* `vacant_iff`, `clear_iff`: the body is apart from all boxes.
-/

namespace TankBattle

open Boxes

/-! ### Boxes and pixels -/

/-- The strokes of the letters but for the slanted one. -/
def letterBoxes : List (Box ℕ) :=
  [⟨80, 140, 80, 100, by decide, by decide⟩, ⟨95, 125, 100, 200, by decide, by decide⟩,
    ⟨80, 140, 200, 220, by decide, by decide⟩, ⟨170, 230, 200, 220, by decide, by decide⟩,
    ⟨170, 190, 80, 220, by decide, by decide⟩, ⟨260, 320, 200, 220, by decide, by decide⟩,
    ⟨260, 280, 80, 220, by decide, by decide⟩, ⟨80, 140, 250, 270, by decide, by decide⟩,
    ⟨95, 125, 270, 370, by decide, by decide⟩, ⟨80, 140, 370, 390, by decide, by decide⟩,
    ⟨170, 185, 250, 390, by decide, by decide⟩, ⟨215, 230, 250, 390, by decide, by decide⟩,
    ⟨260, 320, 250, 270, by decide, by decide⟩, ⟨275, 305, 270, 370, by decide, by decide⟩,
    ⟨260, 320, 370, 390, by decide, by decide⟩]

/-- The place is in a stroke other than the slanted one. -/
def InBoxes (x y : ℕ) : Prop := ∃ b ∈ letterBoxes, (x, y) ∈ b.points

/-- No stroke is thinner than a step of a bullet. -/
theorem letterBoxes_thick :
    ∀ b ∈ letterBoxes, b.left + 6 ≤ b.right ∧ b.top + 6 ≤ b.bottom := by
  decide

theorem rect_iff {x y a b c d : Coord} :
    rect x y a b c d = true ↔
      (x.toNat, y.toNat) ∈ Set.Ico a.toNat b.toNat ×ˢ Set.Ico c.toNat d.toNat := by
  simp only [rect, Bool.and_eq_true, decide_eq_true_eq, Set.mem_prod, Set.mem_Ico, BitVec.le_def,
    BitVec.lt_def, and_assoc]

theorem letter_iff {x y : Coord} {up down : BitVec 32} :
    bulletOnLetter x y up down = true ↔
      InBoxes x.toNat y.toNat ∨ slant x y up down = true := by
  simp only [bulletOnLetter, letterI, letterL, letterN, InBoxes, letterBoxes, Box.points,
    List.mem_cons, List.not_mem_nil, or_false, exists_eq_or_imp, exists_eq_left, Bool.or_eq_true,
    rect_iff, BitVec.reduceToNat]
  refine iff_of_eq ?_
  ac_rfl

/-- The slanted stroke, `490 - t` rows high in each column. -/
def Stroke (t x y : ℕ) : Prop := 185 ≤ x ∧ x < 215 ∧ 4 * x ≤ y + 490 ∧ y + t < 4 * x

/-- A pixel of a letter. -/
def Drawn (x y : ℕ) : Prop := InBoxes x y ∨ Stroke 470 x y

theorem isLetter_iff {x y : Coord} : isLetter x y = true ↔ Drawn x.toNat y.toNat := by
  rw [← bulletOnLetter_wall, letter_iff, slant_wall_iff, Drawn, Stroke]

theorem InBoxes.bounds {x y : ℕ} (h : InBoxes x y) : 80 ≤ x ∧ x < 320 ∧ 80 ≤ y ∧ y < 390 := by
  have hall : ∀ b ∈ letterBoxes, 80 ≤ b.left ∧ b.right ≤ 320 ∧ 80 ≤ b.top ∧ b.bottom ≤ 390 := by
    decide
  obtain ⟨b, hb, ⟨h1, h2⟩, h3, h4⟩ := h
  obtain ⟨g1, g2, g3, g4⟩ := hall b hb
  exact ⟨g1.trans h1, h2.trans_le g2, g3.trans h3, h4.trans_le g4⟩

theorem Drawn.bounds {x y : ℕ} (h : Drawn x y) : 80 ≤ x ∧ x < 320 ∧ 80 ≤ y ∧ y < 390 := by
  rcases h with h | ⟨h1, h2, h3, h4⟩
  · exact h.bounds
  · omega

/-- The stems of the N, which the stroke joins. -/
theorem inBoxes_of_stem {x y : ℕ} (hx : 170 ≤ x ∧ x < 185 ∨ 215 ≤ x ∧ x < 230)
    (hy : 250 ≤ y ∧ y < 390) : InBoxes x y := by
  rcases hx with hx | hx
  · exact ⟨⟨170, 185, 250, 390, by decide, by decide⟩, by simp [letterBoxes], hx, hy⟩
  · exact ⟨⟨215, 230, 250, 390, by decide, by decide⟩, by simp [letterBoxes], hx, hy⟩

/-- Between the stems, in the rows of the stroke, there is nothing else. -/
theorem not_inBoxes_between {x y : ℕ} (hx : 185 ≤ x ∧ x < 215) (hy : 220 ≤ y) :
    ¬ InBoxes x y := by
  have hall : ∀ b ∈ letterBoxes, b.right ≤ 185 ∨ 215 ≤ b.left ∨ b.bottom ≤ 220 := by decide
  rintro ⟨b, hb, ⟨h1, h2⟩, h3, h4⟩
  rcases hall b hb with h | h | h <;> simp only at h1 h2 h3 h4 <;> omega

/-! ### Footprints -/

/-- The pixel belongs to the footprint of a body at `(x, y)`. -/
structure InFootprint (x y px py : Coord) : Prop where
  left : x.toNat ≤ px.toNat
  right : px.toNat < x.toNat + 19
  top : y.toNat ≤ py.toNat
  bottom : py.toNat < y.toNat + 19

/-- No letter pixel is under a body at `(x, y)`. -/
def Vacant (x y : Coord) : Prop := ∀ px py, InFootprint x y px py → isLetter px py = false

/-- The same in numbers. -/
def Undrawn (x y : ℕ) : Prop :=
  ∀ px py, x ≤ px → px < x + 19 → y ≤ py → py < y + 19 → ¬ Drawn px py

/-- The body is apart from all boxes. -/
def OffBoxes (X Y : ℤ) : Prop := ∀ b ∈ letterBoxes, Off X Y b.left b.right b.top b.bottom

theorem vacant_iff_undrawn {x y : Coord} (hx : x.toNat < 1005) (hy : y.toNat < 1005) :
    Vacant x y ↔ Undrawn x.toNat y.toNat := by
  constructor
  · intro h px py h1 h2 h3 h4 hd
    have hpx : (BitVec.ofNat 10 px).toNat = px := by simp only [BitVec.toNat_ofNat]; omega
    have hpy : (BitVec.ofNat 10 py).toNat = py := by simp only [BitVec.toNat_ofNat]; omega
    have hq := h (BitVec.ofNat 10 px) (BitVec.ofNat 10 py)
      ⟨by rwa [hpx], by rwa [hpx], by rwa [hpy], by rwa [hpy]⟩
    rw [← Bool.not_eq_true, isLetter_iff, hpx, hpy] at hq
    exact hq hd
  · intro h px py hp
    rw [← Bool.not_eq_true, isLetter_iff]
    exact h _ _ hp.left hp.right hp.top hp.bottom

theorem undrawn_iff {x y : ℕ} : Undrawn x y ↔ OffBoxes x y ∧ OffSlant x y := by
  constructor
  · refine fun h => ⟨fun b hb => ?_, fun p h1 h2 h3 h4 => ?_⟩
    · have hlr := b.left_lt_right
      have htb := b.top_lt_bottom
      by_contra hn
      unfold Off at hn
      exact h (max x b.left) (max y b.top) (by omega) (by omega) (by omega) (by omega)
        (Or.inl ⟨b, hb, ⟨by omega, by omega⟩, by omega, by omega⟩)
    · by_contra hn
      exact h p.toNat (max y (4 * p.toNat - 490)) (by omega) (by omega) (by omega) (by omega)
        (Or.inr ⟨by omega, by omega, by omega, by omega⟩)
  · rintro ⟨hb, hs⟩ px py h1 h2 h3 h4 (⟨b, hm, ⟨g1, g2⟩, g3, g4⟩ | ⟨g1, g2, g3, g4⟩)
    · have := hb b hm
      unfold Off at this
      dsimp only at g1 g2 g3 g4
      omega
    · have := hs px (by omega) (by omega) (by omega) (by omega)
      omega

theorem clear_iff {X Y : ℤ} : Clear X Y ↔ OffBoxes X Y ∧ OffSlant X Y := by
  -- `Clear` leaves the part of a stem that is in the foot of its L to the foot
  have hstem : ∀ {l s : ℤ}, Off X Y l s 80 220 → Off X Y l s 80 200 := by
    intro l s hs
    unfold Off at *
    omega
  have hstem' : ∀ {l s r : ℤ}, s ≤ r → Off X Y l s 80 200 → Off X Y l r 200 220 →
      Off X Y l s 80 220 := by
    intro l s r hsr h1 h2
    unfold Off at *
    omega
  simp only [OffBoxes, letterBoxes, List.forall_mem_cons, List.not_mem_nil, false_imp_iff,
    implies_true, and_true, Nat.cast_ofNat]
  constructor
  · intro h
    exact ⟨⟨h.i1Top, h.i1Stem, h.i1Foot, h.l1Foot, hstem' (by norm_num) h.l1Stem h.l1Foot,
      h.l2Foot, hstem' (by norm_num) h.l2Stem h.l2Foot, h.i2Top, h.i2Stem, h.i2Foot, h.nLeft,
      h.nRight, h.i3Top, h.i3Stem, h.i3Foot⟩, h.nSlant⟩
  · rintro ⟨⟨i1Top, i1Stem, i1Foot, l1Foot, l1Stem, l2Foot, l2Stem, i2Top, i2Stem, i2Foot, nLeft,
      nRight, i3Top, i3Stem, i3Foot⟩, nSlant⟩
    exact ⟨i1Top, i1Stem, i1Foot, l1Foot, hstem l1Stem, l2Foot, hstem l2Stem, i2Top, i2Stem,
      i2Foot, nLeft, nRight, nSlant, i3Top, i3Stem, i3Foot⟩

/-- `Clear` says that there is no letter pixel under the body. -/
theorem vacant_iff {x y : Coord} (hx : x.toNat < 1005) (hy : y.toNat < 1005) :
    Vacant x y ↔ Clear x.toNat y.toNat := by
  rw [vacant_iff_undrawn hx hy, undrawn_iff, clear_iff]

/-- A body at the left edge of the field is clear. -/
theorem clear_edge (Y : ℤ) : Clear 2 Y := by
  have hs : OffSlant 2 Y := fun x _ h1 h2 _ => by omega
  constructor <;> first | exact hs | (unfold Off; omega)

end TankBattle
