import TankBattle.Enemy

/-!
# The two copies of the enemies' wall module

`enemy_wall` and `enemy_wall2` are one text but for a limit: against the other enemy, the first one
stops a move to the right up to four columns beyond contact, the second one up to contact.  There
the second one computes `enemyX + size` in ten bits.

* `enemyWall`, `enemyWall2`: the two modules with all their pins free;
* `Beyond`: the columns in which the limits differ;
* `enemy_walls_agree_iff`: the modules agree if and only if the difference is not seen.
-/

namespace TankBattle

/-- The pins of `enemy_wall` and `enemy_wall2`. -/
structure EnemyWallPins where
  enemyX : Coord
  enemyY : Coord
  playerX : Coord
  playerY : Coord
  bulletX : Coord
  bulletY : Coord
  enable : Bool
  drawBoom : Bool
  drawBullet : Bool
  enableOther : Bool
  otherX : Coord
  otherY : Coord

/-- The outputs `stop_enemy_right`, ..., `stop_bullet` and `player_hit`. -/
structure EnemyWallOut where
  stop : Stops
  stopBullet : Bool
  playerHit : Bool
  deriving DecidableEq

/-- The wall module of an enemy with the given enemy-to-enemy block. -/
def enemyWallOut (near : Coord → Coord → Coord → Coord → Stops) (p : EnemyWallPins) :
    EnemyWallOut where
  stop := enemyWallStops near p.enemyX p.enemyY p.playerX p.playerY p.enable p.enableOther p.otherX
    p.otherY
  stopBullet := p.enable && (bulletOnLetter p.bulletX p.bulletY (byFuncUp p.bulletX)
    (byFuncDown p.bulletX) || inBox p.bulletX p.bulletY p.playerX p.playerY)
  playerHit := p.enable && (inBox p.bulletX p.bulletY p.playerX p.playerY &&
    (!p.drawBoom && !p.drawBullet))

/-- `enemy_wall`. -/
def enemyWall : EnemyWallPins → EnemyWallOut := enemyWallOut nearStops

/-- `enemy_wall2`. -/
def enemyWall2 : EnemyWallPins → EnemyWallOut := enemyWallOut nearStops2

/-- How an enemy module wires its wall module. -/
def Enemy.wallPins (p : EnemyPins) (e : Enemy) : EnemyWallPins :=
  ⟨e.xPos, e.yPos, p.playerX, p.playerY, e.bullet.xPos, e.bullet.yPos, p.enable, e.bullet.drawBoom,
    e.bullet.drawBullet, p.enableOther, p.otherX, p.otherY⟩

theorem Enemy.wallPins_out (c : EnemyConfig) (p : EnemyPins) (e : Enemy) :
    enemyWallOut c.near (e.wallPins p) = ⟨e.stops c p, e.stopBullet p, e.playerHit p⟩ := rfl

/-- Where the two limits against an enemy in column `ox` differ: up to four columns beyond contact,
and where `x + size` wraps. -/
def Beyond (x ox : Coord) : Prop :=
  4 ≤ ox.toNat ∧ (x.toNat < 1005 ∧ ox.toNat < x.toNat + 19 ∧ x.toNat + 19 ≤ ox.toNat + 4 ∨
    1005 ≤ x.toNat ∧ x.toNat ≤ ox.toNat + 1005 ∧ ox.toNat + 4 < x.toNat + 19)

/-- The rows of the two enemies meet. -/
def RowsMeet (y oy : Coord) : Prop := oy ≤ y + size ∧ y ≤ oy + size

theorem lower_iff {x ox : Coord} :
    zext ox - 4 ≤ zext x + 19 ↔ 4 ≤ ox.toNat ∧ ox.toNat ≤ x.toNat + 23 := by
  unfold zext
  constructor
  · intro h
    bv_omega
  · intro h
    bv_omega

theorem upper_iff {x ox : Coord} : zext x + 19 ≤ zext ox + 4 ↔ x.toNat + 15 ≤ ox.toNat := by
  unfold zext
  constructor
  · intro h
    bv_omega
  · intro h
    bv_omega

theorem contact_iff {x ox : Coord} :
    x + size ≤ ox ↔ x.toNat < 1005 ∧ x.toNat + 19 ≤ ox.toNat ∨
      1005 ≤ x.toNat ∧ x.toNat ≤ ox.toNat + 1005 := by
  simp only [size]
  constructor
  · intro h
    bv_omega
  · intro h
    bv_omega

theorem near_right_iff {x y ox oy : Coord} :
    (nearStops x y ox oy).right = true ↔
      (4 ≤ ox.toNat ∧ ox.toNat ≤ x.toNat + 23 ∧ x.toNat + 15 ≤ ox.toNat) ∧ RowsMeet y oy := by
  simp only [nearStops, Bool.and_eq_true, decide_eq_true_eq, lower_iff, upper_iff, RowsMeet,
    and_assoc]

theorem near2_right_iff {x y ox oy : Coord} :
    (nearStops2 x y ox oy).right = true ↔
      ((4 ≤ ox.toNat ∧ ox.toNat ≤ x.toNat + 23) ∧ (x.toNat < 1005 ∧ x.toNat + 19 ≤ ox.toNat ∨
        1005 ≤ x.toNat ∧ x.toNat ≤ ox.toNat + 1005)) ∧ RowsMeet y oy := by
  simp only [nearStops2, Bool.and_eq_true, decide_eq_true_eq, lower_iff, contact_iff, RowsMeet,
    and_assoc]

/-- The enemy-to-enemy blocks agree but for the columns beyond contact. -/
theorem near_right_eq_iff {x y ox oy : Coord} :
    (nearStops x y ox oy).right = (nearStops2 x y ox oy).right ↔
      ¬ (Beyond x ox ∧ RowsMeet y oy) := by
  rw [Bool.eq_iff_iff, near_right_iff, near2_right_iff, Beyond]
  have := x.isLt
  have := ox.isLt
  by_cases hr : RowsMeet y oy
  · simp only [hr, and_true]
    omega
  · simp only [hr, and_false, not_false_iff, iff_self]

theorem enemyWallStops_right (near : Coord → Coord → Coord → Coord → Stops)
    (x y playerX playerY : Coord) (enable enableOther : Bool) (otherX otherY : Coord) :
    (enemyWallStops near x y playerX playerY enable enableOther otherX otherY).right =
      (enable && (rightCheck x y || (playerStops x y playerX playerY).right ||
        (enableOther && (near x y otherX otherY).right))) := by
  cases enable <;> cases enableOther <;>
    simp [enemyWallStops, Stops.gate, Stops.or, Stops.none, letterStops]

theorem enemyWall_right (p : EnemyWallPins) :
    (enemyWall p).stop.right = (p.enable && (rightCheck p.enemyX p.enemyY ||
      (playerStops p.enemyX p.enemyY p.playerX p.playerY).right ||
      (p.enableOther && (nearStops p.enemyX p.enemyY p.otherX p.otherY).right))) :=
  enemyWallStops_right _ _ _ _ _ _ _ _ _

theorem enemyWall2_right (p : EnemyWallPins) :
    (enemyWall2 p).stop.right = (p.enable && (rightCheck p.enemyX p.enemyY ||
      (playerStops p.enemyX p.enemyY p.playerX p.playerY).right ||
      (p.enableOther && (nearStops2 p.enemyX p.enemyY p.otherX p.otherY).right))) :=
  enemyWallStops_right _ _ _ _ _ _ _ _ _

/-- The two modules differ in `stop_enemy_right` only. -/
theorem enemyWall_eq_iff (p : EnemyWallPins) :
    enemyWall p = enemyWall2 p ↔ (enemyWall p).stop.right = (enemyWall2 p).stop.right := by
  constructor
  · intro h
    rw [h]
  · intro h
    have hstop : (enemyWall p).stop = (enemyWall2 p).stop := by
      revert h
      simp only [enemyWall, enemyWall2, enemyWallOut, enemyWallStops]
      cases p.enable <;> cases p.enableOther <;>
        simp [Stops.gate, Stops.or, Stops.none, nearStops2, nearStops]
    show EnemyWallOut.mk _ _ _ = EnemyWallOut.mk _ _ _
    exact congrArg (EnemyWallOut.mk · _ _) hstop

/-- **The enemies obey the same collision rules** if and only if the module is not enabled, the
other enemy is absent or in other rows or columns, or the letters or the player stop the move
anyway. -/
theorem enemy_walls_agree_iff (p : EnemyWallPins) :
    enemyWall p = enemyWall2 p ↔
      ¬ (p.enable = true ∧ p.enableOther = true ∧ Beyond p.enemyX p.otherX ∧
        RowsMeet p.enemyY p.otherY ∧ rightCheck p.enemyX p.enemyY = false ∧
        (playerStops p.enemyX p.enemyY p.playerX p.playerY).right = false) := by
  have hnear : (nearStops p.enemyX p.enemyY p.otherX p.otherY).right =
      (nearStops2 p.enemyX p.enemyY p.otherX p.otherY).right ↔
        ¬ (Beyond p.enemyX p.otherX ∧ RowsMeet p.enemyY p.otherY) := near_right_eq_iff
  rw [enemyWall_eq_iff, enemyWall_right, enemyWall2_right]
  cases p.enable with
  | false => simp
  | true =>
    cases p.enableOther with
    | false => simp
    | true =>
      cases rightCheck p.enemyX p.enemyY <;>
        cases (playerStops p.enemyX p.enemyY p.playerX p.playerY).right <;>
        simp only [Bool.true_and, Bool.false_or, Bool.true_or, true_and, and_true, hnear,
          Bool.true_eq_false, and_false, not_false_iff]

/-- Enemy 2 has entered the first column of enemy 1. -/
def enteredPins : EnemyWallPins :=
  ⟨342, 300, 2, 458, 352, 319, true, false, true, true, 360, 300⟩

/-- `enemy_wall` stops the move to the right there, `enemy_wall2` does not. -/
theorem entered_differs : ¬ ∀ p : EnemyWallPins, enemyWall p = enemyWall2 p := by
  intro h
  have hne : enemyWall enteredPins ≠ enemyWall2 enteredPins := by decide
  exact hne (h enteredPins)

end TankBattle
