import TankBattle.Wall

/-!
# The letters and the bullets

`wall` draws the letters and repeats its conditions for the bullet of tank 1.  `wall2`,
`enemy_wall` and `enemy_wall2` repeat them as well, but for the lower edge of the slanted stroke:
there `b_size` is added to the column, four times, which moves that edge down by twenty rows.

* `bulletOnLetter_wall`: the bullet of tank 1 is stopped by the letters as they are drawn;
* `InShadow`: the twenty rows below the stroke;
* `bulletOnLetter_by_iff`: the other bullets are stopped there, too;
* `bullets_obey_letters_iff`: so their modules agree with the drawing exactly outside of it;
* `shadow_stops`: a pixel of the shadow.
-/

namespace TankBattle

section Pixels

variable {x y : Coord}

theorem slant_wall_iff :
    slant x y (funcUp x) (funcDown x) = true ↔
      185 ≤ x.toNat ∧ x.toNat < 215 ∧ 4 * x.toNat ≤ y.toNat + 490 ∧
        y.toNat + 470 < 4 * x.toNat := by
  simp only [slant, Bool.and_eq_true, decide_eq_true_eq, and_assoc, BitVec.le_def, BitVec.lt_def,
    BitVec.reduceToNat]
  refine and_congr_right fun h1 => and_congr_right fun h2 => and_congr ?_ ?_
  · unfold funcUp zext
    bv_omega
  · unfold funcDown zext
    bv_omega

theorem slant_by_iff :
    slant x y (byFuncUp x) (byFuncDown x) = true ↔
      185 ≤ x.toNat ∧ x.toNat < 215 ∧ 4 * x.toNat ≤ y.toNat + 490 ∧
        y.toNat + 450 < 4 * x.toNat := by
  simp only [slant, Bool.and_eq_true, decide_eq_true_eq, and_assoc, BitVec.le_def, BitVec.lt_def,
    BitVec.reduceToNat]
  refine and_congr_right fun h1 => and_congr_right fun h2 => and_congr ?_ ?_
  · unfold byFuncUp zext
    bv_omega
  · unfold byFuncDown zext
    bv_omega

/-- The twenty rows below the slanted stroke. -/
def InShadow (x y : Coord) : Prop :=
  185 ≤ x.toNat ∧ x.toNat < 215 ∧ 4 * x.toNat ≤ y.toNat + 470 ∧ y.toNat + 450 < 4 * x.toNat

/-- `wall` stops its bullet where it draws. -/
theorem bulletOnLetter_wall : bulletOnLetter x y (funcUp x) (funcDown x) = isLetter x y := by
  simp only [bulletOnLetter, isLetter, drawWallO, drawWallB, Bool.or_assoc]

/-- The shadow is not drawn. -/
theorem InShadow.isLetter (h : InShadow x y) : isLetter x y = false := by
  obtain ⟨h1, h2, h3, h4⟩ := h
  rw [← Bool.not_eq_true]
  simp only [TankBattle.isLetter, drawWallO, drawWallB, letterI, letterL, letterN, rect,
    Bool.or_eq_true, slant_wall_iff, Bool.and_eq_true, decide_eq_true_eq, BitVec.le_def,
    BitVec.lt_def, BitVec.reduceToNat]
  omega

/-- The other modules stop a bullet on the letters and in the shadow. -/
theorem bulletOnLetter_by_iff :
    bulletOnLetter x y (byFuncUp x) (byFuncDown x) = true ↔ isLetter x y = true ∨ InShadow x y := by
  have hslant : slant x y (byFuncUp x) (byFuncDown x) = true ↔
      slant x y (funcUp x) (funcDown x) = true ∨ InShadow x y := by
    rw [slant_by_iff, slant_wall_iff]
    unfold InShadow
    omega
  rw [← bulletOnLetter_wall]
  simp only [bulletOnLetter, letterN, Bool.or_eq_true, hslant]
  tauto

theorem bulletOnLetter_by_eq_iff :
    bulletOnLetter x y (byFuncUp x) (byFuncDown x) = isLetter x y ↔ ¬ InShadow x y := by
  constructor
  · intro h hs
    have hon := bulletOnLetter_by_iff.2 (Or.inr hs)
    rw [h, hs.isLetter] at hon
    cases hon
  · intro hs
    rw [Bool.eq_iff_iff, bulletOnLetter_by_iff, or_iff_left hs]

end Pixels

/-- **Every bullet obeys the letters that are drawn** if and only if it is not in the shadow of the
slanted stroke; `wall` obeys them there, too. -/
theorem bullets_obey_letters_iff (b : Bullet)
    (enemy1X enemy1Y enemy2X enemy2Y playerX playerY : Coord) (enable1 enable12 : Bool)
    (h1 : inBox b.xPos b.yPos enemy1X enemy1Y = false)
    (h2 : inBox b.xPos b.yPos enemy2X enemy2Y = false)
    (hp : inBox b.xPos b.yPos playerX playerY = false) :
    wallStopBullet b enemy1X enemy1Y enemy2X enemy2Y enable1 enable12 = isLetter b.xPos b.yPos ∧
      (wall2StopBullet b = isLetter b.xPos b.yPos ↔ ¬ InShadow b.xPos b.yPos) ∧
      (enemyWallStopBullet true b playerX playerY = isLetter b.xPos b.yPos ↔
        ¬ InShadow b.xPos b.yPos) := by
  refine ⟨?_, bulletOnLetter_by_eq_iff, ?_⟩
  · rw [wallStopBullet, bulletOnLetter_wall, h1, h2, Bool.and_false, Bool.and_false, Bool.or_false,
      Bool.or_false]
  · rw [enemyWallStopBullet, hp, Bool.true_and, Bool.or_false]
    exact bulletOnLetter_by_eq_iff

/-- A bullet in column 190, two rows below the stroke. -/
def shadowBullet : Bullet :=
  ⟨.BULLET, ⟨false, false⟩, 190, 292, 6, 0, 0, 0, .right⟩

theorem bullets_obey_letters_iff_shadow :
    wall2StopBullet shadowBullet = isLetter 190 292 ↔ ¬ InShadow 190 292 :=
  (bullets_obey_letters_iff shadowBullet 458 23 23 23 2 458 true true rfl rfl rfl).2.1

/-- Nothing is drawn in row 292 of column 190, but all bullets except those of tank 1 are stopped
there. -/
theorem shadow_stops :
    ¬ ∀ (b : Bullet) (enemy1X enemy1Y enemy2X enemy2Y playerX playerY : Coord)
        (enable1 enable12 : Bool), inBox b.xPos b.yPos enemy1X enemy1Y = false →
        inBox b.xPos b.yPos enemy2X enemy2Y = false →
        inBox b.xPos b.yPos playerX playerY = false →
        wallStopBullet b enemy1X enemy1Y enemy2X enemy2Y enable1 enable12 =
            isLetter b.xPos b.yPos ∧
          wall2StopBullet b = isLetter b.xPos b.yPos ∧
          enemyWallStopBullet true b playerX playerY = isLetter b.xPos b.yPos := by
  intro h
  have := (h shadowBullet 458 23 23 23 2 458 true true rfl rfl rfl).2.1
  exact absurd this (by decide)

end TankBattle
