import TankBattle.Strokes
import TankBattle.Flights

/-!
# Bullets and thin walls

A bullet is stopped where a frame pulse finds it, every six pixels.  A letter that is at least six
pixels thick in the direction of the flight cannot be leapt over; the slanted stroke is five columns
thick as `wall` draws it, and ten in the copies of its condition that add `b_size`.

* `BulletWall`: the `stop_bullet` of the four wall modules;
* `Leaps`: the bullet is about to leap over the stroke;
* `tunnel_iff`: only the bullet of tank 1 ever does.
-/

namespace TankBattle

open Boxes

/-! ### The four modules -/

/-- The wall modules, with the bodies that stop a bullet besides the letters. -/
inductive BulletWall
  | wall (enemy1X enemy1Y enemy2X enemy2Y : Coord) (enable1 enable12 : Bool)
  | wall2
  | enemy_wall (playerX playerY : Coord)
  | enemy_wall2 (playerX playerY : Coord)

namespace BulletWall

/-- `stop_bullet`, with the enable of the enemies' modules high. -/
def stopBullet (b : Bullet) : BulletWall → Bool
  | .wall enemy1X enemy1Y enemy2X enemy2Y enable1 enable12 =>
      wallStopBullet b enemy1X enemy1Y enemy2X enemy2Y enable1 enable12
  | .wall2 => wall2StopBullet b
  | .enemy_wall playerX playerY | .enemy_wall2 playerX playerY =>
      enemyWallStopBullet true b playerX playerY

/-- The bullet is inside one of the bodies. -/
def onBody (b : Bullet) : BulletWall → Bool
  | .wall enemy1X enemy1Y enemy2X enemy2Y enable1 enable12 =>
      enable1 && inBox b.xPos b.yPos enemy1X enemy1Y ||
        enable12 && inBox b.xPos b.yPos enemy2X enemy2Y
  | .wall2 => false
  | .enemy_wall playerX playerY | .enemy_wall2 playerX playerY =>
      inBox b.xPos b.yPos playerX playerY

/-- Only `wall` computes the lower edge of the stroke without `b_size`. -/
def thin : BulletWall → Bool
  | .wall .. => true
  | _ => false

/-- The module's stroke is `490 - reach` rows high. -/
def reach (w : BulletWall) : ℕ := if w.thin then 470 else 450

/-- The letters as the module sees them. -/
def Hit (w : BulletWall) (x y : ℕ) : Prop := InBoxes x y ∨ Stroke w.reach x y

theorem stop_iff (w : BulletWall) (b : Bullet) :
    w.stopBullet b = true ↔ w.Hit b.xPos.toNat b.yPos.toNat ∨ w.onBody b = true := by
  cases w with
  | wall =>
    simp only [stopBullet, wallStopBullet, onBody, Bool.or_assoc, Hit, reach, thin, if_true]
    rw [Bool.or_eq_true, letter_iff, slant_wall_iff]
    rfl
  | wall2 =>
    simp only [stopBullet, wall2StopBullet, onBody, Hit, reach, thin, Bool.false_eq_true, if_false,
      or_false]
    rw [letter_iff, slant_by_iff]
    rfl
  | enemy_wall | enemy_wall2 =>
    simp only [stopBullet, enemyWallStopBullet, onBody, Hit, reach, thin, Bool.false_eq_true,
      if_false, Bool.true_and]
    rw [Bool.or_eq_true, letter_iff, slant_by_iff]
    rfl

variable {w : BulletWall} {x y k : ℕ}

/-- A horizontal segment of six pixels over a letter has an end that the module sees, unless it
leaps over the stroke of `wall`. -/
theorem horizontal (hk : k ≤ 6) (h : Drawn (x + k) y) :
    w.Hit x y ∨ w.Hit (x + 6) y ∨
      w.thin = true ∧ 185 ≤ x ∧ x ≤ 208 ∧ 4 * x ≤ y + 470 ∧ y + 466 < 4 * x := by
  rcases h with ⟨b, hb, hq⟩ | hq
  · rcases Box.end_mem_horizontal (letterBoxes_thick b hb).1 (Nat.zero_le k) hk hq with h | h
    · exact Or.inl (Or.inl ⟨b, hb, h⟩)
    · exact Or.inr (Or.inl (Or.inl ⟨b, hb, h⟩))
  · by_cases hl : x < 185
    · exact Or.inl (Or.inl (inBoxes_of_stem (by unfold Stroke at hq; omega)
        (by unfold Stroke at hq; omega)))
    by_cases hr : 215 ≤ x + 6
    · exact Or.inr (Or.inl (Or.inl (inBoxes_of_stem (by unfold Stroke at hq; omega)
        (by unfold Stroke at hq; omega))))
    simp only [Hit, reach, Stroke] at hq ⊢
    cases w.thin <;>
      simp only [Bool.false_eq_true, if_false, if_true, false_and, true_and, or_false]
    · omega
    · omega

/-- A vertical one always has such an end. -/
theorem vertical (hk : k ≤ 6) (h : Drawn x (y + k)) : w.Hit x y ∨ w.Hit x (y + 6) := by
  rcases h with ⟨b, hb, hq⟩ | hq
  · rcases Box.end_mem_vertical (letterBoxes_thick b hb).2 (Nat.zero_le k) hk hq with h | h
    · exact Or.inl (Or.inl ⟨b, hb, h⟩)
    · exact Or.inr (Or.inl ⟨b, hb, h⟩)
  · simp only [Hit, reach, Stroke] at hq ⊢
    cases w.thin <;> simp only [Bool.false_eq_true, if_false, if_true] <;> omega

theorem not_hit {b : Bullet} (h : w.stopBullet b = false) :
    ¬ w.Hit b.xPos.toNat b.yPos.toNat ∧ w.onBody b = false := by
  rw [← Bool.not_eq_true, stop_iff, not_or, Bool.not_eq_true] at h
  exact h

theorem stop_eq_false {b : Bullet} (h : ¬ w.Hit b.xPos.toNat b.yPos.toNat)
    (hb : w.onBody b = false) : w.stopBullet b = false := by
  rw [← Bool.not_eq_true, stop_iff, not_or, Bool.not_eq_true]
  exact ⟨h, hb⟩

end BulletWall

/-! ### Steps of a bullet -/

/-- The bullet at the next position that a frame pulse samples. -/
def Bullet.ahead (b : Bullet) (d : Dir) : Bullet :=
  { b with
    xPos := b.xPos + (Bullet.motionIn d).1
    yPos := b.yPos + (Bullet.motionIn d).2 }

/-- The pixel is on the way from the bullet to that position. -/
def OnWay (b : Bullet) (d : Dir) (px py : Coord) : Prop :=
  ∃ k : ℕ, k ≤ 6 ∧ (px.toNat : ℤ) = b.xPos.toNat + (stride k (some d)).1 ∧
    (py.toNat : ℤ) = b.yPos.toNat + (stride k (some d)).2

/-- The stroke, five columns thick, is between the place and the next one. -/
def Leaps (d : Dir) (x y : ℕ) : Prop :=
  match d with
  | .right => 185 ≤ x ∧ x ≤ 208 ∧ 4 * x ≤ y + 470 ∧ y + 466 < 4 * x
  | .left => 191 ≤ x ∧ x ≤ 214 ∧ 4 * x ≤ y + 494 ∧ y + 490 < 4 * x
  | _ => False

/-- Near a letter the next position does not wrap. -/
theorem toNat_ahead {b : Bullet} {d : Dir} {px py : Coord} (h : OnWay b d px py)
    (hq : Drawn px.toNat py.toNat) :
    ((b.ahead d).xPos.toNat : ℤ) = b.xPos.toNat + (stride 6 (some d)).1 ∧
      ((b.ahead d).yPos.toNat : ℤ) = b.yPos.toNat + (stride 6 (some d)).2 := by
  obtain ⟨k, hk, hx, hy⟩ := h
  obtain ⟨q1, q2, q3, q4⟩ := hq.bounds
  cases d <;> simp only [stride] at hx hy
  · exact ⟨(Bullet.toNat_add_six _).2 (by omega), Bullet.toNat_add_zero _⟩
  · exact ⟨Bullet.toNat_add_zero _, (Bullet.toNat_sub_six _).2 (by omega)⟩
  · exact ⟨(Bullet.toNat_sub_six _).2 (by omega), Bullet.toNat_add_zero _⟩
  · exact ⟨Bullet.toNat_add_zero _, (Bullet.toNat_add_six _).2 (by omega)⟩

/-- A letter pixel between two places that do not stop the bullet. -/
theorem leaps_of_drawn {w : BulletWall} {b : Bullet} {d : Dir} {px py : Coord}
    (h : OnWay b d px py) (hq : Drawn px.toNat py.toNat)
    (h1 : ¬ w.Hit b.xPos.toNat b.yPos.toNat)
    (h2 : ¬ w.Hit (b.ahead d).xPos.toNat (b.ahead d).yPos.toNat) :
    w.thin = true ∧ Leaps d b.xPos.toNat b.yPos.toNat := by
  obtain ⟨ax, ay⟩ := toNat_ahead h hq
  obtain ⟨k, hk, hx, hy⟩ := h
  generalize (b.ahead d).xPos.toNat = x', (b.ahead d).yPos.toNat = y' at *
  generalize b.xPos.toNat = x, b.yPos.toNat = y at *
  generalize px.toNat = p, py.toNat = q at *
  cases d with
  | right =>
    simp only [stride] at ax ay hx hy
    obtain rfl : y' = y := by omega
    obtain rfl : q = y' := by omega
    obtain rfl : x' = x + 6 := by omega
    obtain rfl : p = x + k := by omega
    exact ((BulletWall.horizontal hk hq).resolve_left h1).resolve_left h2
  | up =>
    simp only [stride] at ax ay hx hy
    obtain rfl : x' = x := by omega
    obtain rfl : p = x' := by omega
    obtain rfl : y = y' + 6 := by omega
    obtain rfl : q = y' + (6 - k) := by omega
    exact absurd ((BulletWall.vertical (Nat.sub_le 6 k) hq).resolve_left h2) h1
  | left =>
    simp only [stride] at ax ay hx hy
    obtain rfl : y' = y := by omega
    obtain rfl : q = y' := by omega
    obtain rfl : x = x' + 6 := by omega
    obtain rfl : p = x' + (6 - k) := by omega
    obtain ⟨ht, hl⟩ := ((BulletWall.horizontal (Nat.sub_le 6 k) hq).resolve_left h2).resolve_left h1
    exact ⟨ht, by unfold Leaps; omega⟩
  | down =>
    simp only [stride] at ax ay hx hy
    obtain rfl : x' = x := by omega
    obtain rfl : p = x' := by omega
    obtain rfl : y' = y + 6 := by omega
    obtain rfl : q = y + k := by omega
    exact absurd ((BulletWall.vertical hk hq).resolve_left h1) h2

/-- A pixel of the stroke on the way. -/
theorem Leaps.stroke {b : Bullet} {d : Dir} (h : Leaps d b.xPos.toNat b.yPos.toNat) :
    ∃ px py : Coord, OnWay b d px py ∧ Stroke 470 px.toNat py.toNat := by
  have hx := b.xPos.isLt
  cases d <;> simp only [Leaps] at h
  · have h1 : (b.xPos + 1).toNat = b.xPos.toNat + 1 := by bv_omega
    refine ⟨b.xPos + 1, b.yPos, ⟨1, by omega, ?_, (Int.add_zero _).symm⟩, ?_⟩
    · rw [h1]
      rfl
    · rw [h1]
      unfold Stroke
      omega
  · have h1 : (b.xPos - 5).toNat + 5 = b.xPos.toNat := by bv_omega
    refine ⟨b.xPos - 5, b.yPos, ⟨5, by omega, ?_, (Int.add_zero _).symm⟩, ?_⟩
    · simp only [stride]
      omega
    · unfold Stroke
      omega

/-- On both sides of the stroke the bullet of tank 1 is not stopped, and there is a letter pixel in
between. -/
theorem Leaps.tunnel {w : BulletWall} {b : Bullet} {d : Dir} (ht : w.thin = true)
    (h : Leaps d b.xPos.toNat b.yPos.toNat) :
    ¬ w.Hit b.xPos.toNat b.yPos.toNat ∧
      ¬ w.Hit (b.ahead d).xPos.toNat (b.ahead d).yPos.toNat ∧
      ∃ px py : Coord, OnWay b d px py ∧ isLetter px py = true := by
  have hside : ∀ {x y : ℕ}, 185 ≤ x ∧ x < 215 → 220 ≤ y → ¬ Stroke 470 x y → ¬ w.Hit x y := by
    intro x y hx hy hs
    rw [BulletWall.Hit, BulletWall.reach, ht, if_pos rfl]
    exact not_or.2 ⟨not_inBoxes_between hx hy, hs⟩
  obtain ⟨px, py, hw, hs⟩ := h.stroke
  obtain ⟨ax, ay⟩ := toNat_ahead hw (Or.inr hs)
  have hhere : ¬ w.Hit b.xPos.toNat b.yPos.toNat := by
    cases d <;> simp only [Leaps] at h <;>
      exact hside (by omega) (by omega) (by unfold Stroke; omega)
  have hthere : ¬ w.Hit (b.ahead d).xPos.toNat (b.ahead d).yPos.toNat := by
    cases d <;> simp only [Leaps] at h <;> simp only [stride] at ax ay <;>
      exact hside (by omega) (by omega) (by unfold Stroke; omega)
  exact ⟨hhere, hthere, px, py, hw, isLetter_iff.2 (Or.inr hs)⟩

/-- **A bullet does not tunnel** through a letter if and only if it is not the bullet of tank 1 at
one side of the slanted stroke, flying to the other side, with no enemy at either place. -/
theorem tunnel_iff (w : BulletWall) (b : Bullet) (d : Dir) :
    (w.stopBullet b = false → w.stopBullet (b.ahead d) = false →
        ∀ px py, OnWay b d px py → isLetter px py = false) ↔
      ¬ (w.thin = true ∧ Leaps d b.xPos.toNat b.yPos.toNat ∧ w.onBody b = false ∧
        w.onBody (b.ahead d) = false) := by
  constructor
  · rintro h ⟨ht, hl, hb, hb'⟩
    obtain ⟨h1, h2, px, py, hw, hq⟩ := hl.tunnel ht
    rw [h (BulletWall.stop_eq_false h1 hb) (BulletWall.stop_eq_false h2 hb') px py hw] at hq
    cases hq
  · intro h h1 h2 px py hw
    obtain ⟨n1, hb⟩ := BulletWall.not_hit h1
    obtain ⟨n2, hb'⟩ := BulletWall.not_hit h2
    by_contra hq
    rw [Bool.not_eq_false, isLetter_iff] at hq
    obtain ⟨ht, hl⟩ := leaps_of_drawn hw hq n1 n2
    exact h ⟨ht, hl, hb, hb'⟩

/-- A bullet of tank 1 to the left of the stroke. -/
def leapingBullet : Bullet := ⟨.BULLET, ⟨false, false⟩, 207, 359, 6, 0, 0, 0, .right⟩

/-- In row 359 the stroke is in the columns 208 to 212, between 207 and 213. -/
theorem leapingBullet_tunnels :
    ¬ ∀ (w : BulletWall) (b : Bullet) (d : Dir), w.stopBullet b = false →
      w.stopBullet (b.ahead d) = false → ∀ px py, OnWay b d px py → isLetter px py = false := by
  intro h
  have hq : isLetter 209 359 = false :=
    h (.wall 458 23 23 23 true true) leapingBullet .right (by decide) (by decide) 209 359
      ⟨2, by decide, by decide, by decide⟩
  exact absurd hq (by decide)

end TankBattle
