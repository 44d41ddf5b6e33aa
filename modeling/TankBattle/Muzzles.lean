import TankBattle.ShotEnds

/-!
# Where a shot starts

A bullet machine without a bullet loads the middle of the edge its shooter faces, through eight
coordinates that are wired by hand in four modules.

* `Shooter`: the four shooters, with their bullet machines and position registers;
* `edgeMiddle`: the middle of an edge of a body;
* `starts_at_edge_iff`: the loaded position is that middle, except for an enemy that fires down;
* `enemy_fires_from_within`: such an enemy in a run.
-/

namespace TankBattle

open Sys

/-- The bodies that fire. -/
inductive Shooter
  | tank1
  | tank2
  | enemy1
  | enemy2
  deriving DecidableEq

namespace Shooter

/-- The shooter is an enemy. -/
def IsEnemy (a : Shooter) : Prop := a = .enemy1 ∨ a = .enemy2

end Shooter

namespace Sys

/-- The bullet machine of a shooter. -/
def gunOf (s : Sys) : Shooter → Bullet
  | .tank1 => s.bullets1
  | .tank2 => s.bullets2
  | .enemy1 => s.enemy1.bullet
  | .enemy2 => s.enemy2.bullet

/-- The position registers of a shooter. -/
def positionOf (s : Sys) : Shooter → Coord × Coord
  | .tank1 => (s.tank1.xPos, s.tank1.yPos)
  | .tank2 => (s.tank2.xPos, s.tank2.yPos)
  | .enemy1 => (s.enemy1.xPos, s.enemy1.yPos)
  | .enemy2 => (s.enemy2.xPos, s.enemy2.yPos)

/-- The muzzle coordinates of a shooter as they reach its bullet machine. -/
def midsAt (s : Sys) : Shooter → Mids
  | .tank1 => midsOf s.tank1.xPos s.tank1.yPos
  | .tank2 => midsOf s.tank2.xPos s.tank2.yPos
  | .enemy1 => s.enemy1.mids
  | .enemy2 => s.enemy2.mids

end Sys

/-- The middle of an edge of a body of 19 pixels at `(x, y)`. -/
def edgeMiddle (x y : Coord) : Dir → Coord × Coord
  | .right => (x + 19, y + 9)
  | .up => (x + 9, y)
  | .left => (x, y + 9)
  | .down => (x + 9, y + 19)

/-- In this cycle the bullet machine loads the middle of the edge that `is_bullet_out` names. -/
def StartsAtEdge (i : Pins) (s : Sys) (a : Shooter) : Prop :=
  (((s.step i).gunOf a).xPos, ((s.step i).gunOf a).yPos) =
    edgeMiddle (s.positionOf a).1 (s.positionOf a).2 (s.gunOf a).isBulletOut

/-! ### The wires -/

theorem muzzle_midsOf (x y : Coord) (d : Dir) :
    Bullet.muzzle (midsOf x y) d = edgeMiddle x y d := by
  cases d <;> rfl

/-- The muzzle of an enemy is the middle of the edge, but for `Down_mid_Y`. -/
theorem muzzle_mids (e : Enemy) (d : Dir) :
    Bullet.muzzle e.mids d = if d = .down then (e.xPos + 9, e.yPos + 9)
      else edgeMiddle e.xPos e.yPos d := by
  cases d <;> rfl

theorem edgeMiddle_down_ne (x y : Coord) : (x + 9, y + 9) ≠ edgeMiddle x y .down := by
  intro h
  have hy : y + 9 = y + 19 := congrArg Prod.snd h
  bv_omega

/-- Without a bullet the position is reloaded in every cycle. -/
theorem Bullet.step_reload {b : Bullet} (h : b.bulletLoad = true)
    (fire reset frameClk stopBullet : Bool) (dir : Dir) (m : Mids) :
    ((b.step fire reset frameClk stopBullet dir m).xPos,
      (b.step fire reset frameClk stopBullet dir m).yPos) = muzzle m b.isBulletOut := by
  simp [step, h]

theorem gunOf_step (i : Pins) (s : Sys) (a : Shooter) :
    ∃ (fire stopBullet : Bool) (dir : Dir), (s.step i).gunOf a =
      (s.gunOf a).step fire s.resetTank i.vgaVS stopBullet dir (s.midsAt a) := by
  cases a <;> exact ⟨_, _, _, rfl⟩

theorem loaded_eq (i : Pins) {s : Sys} {a : Shooter} (h : (s.gunOf a).state = .NOBULLET) :
    (((s.step i).gunOf a).xPos, ((s.step i).gunOf a).yPos) =
      Bullet.muzzle (s.midsAt a) (s.gunOf a).isBulletOut := by
  obtain ⟨fire, stop, dir, hs⟩ := gunOf_step i s a
  rw [hs]
  exact Bullet.step_reload (by simp [Bullet.bulletLoad, h]) _ _ _ _ _ _

theorem muzzle_mids_iff (e : Enemy) (d : Dir) :
    Bullet.muzzle e.mids d = edgeMiddle e.xPos e.yPos d ↔ d ≠ .down := by
  rw [muzzle_mids]
  split_ifs with hd
  · subst hd
    exact iff_of_false (edgeMiddle_down_ne _ _) (not_not_intro rfl)
  · exact iff_of_true rfl hd

/-- **A shot starts at the middle of the edge that its shooter faces**, unless an enemy fires down:
its shot starts in the middle of its body. -/
theorem starts_at_edge_iff (i : Pins) (s : Sys) (a : Shooter)
    (h : (s.gunOf a).state = .NOBULLET) :
    StartsAtEdge i s a ↔ ¬ (a.IsEnemy ∧ (s.gunOf a).isBulletOut = .down) := by
  rw [StartsAtEdge, loaded_eq i h]
  cases a with
  | tank1 => exact iff_of_true (muzzle_midsOf _ _ _) fun hd => nomatch hd.1
  | tank2 => exact iff_of_true (muzzle_midsOf _ _ _) fun hd => nomatch hd.1
  | enemy1 => exact (muzzle_mids_iff _ _).trans (not_congr (and_iff_right (Or.inl rfl)).symm)
  | enemy2 => exact (muzzle_mids_iff _ _).trans (not_congr (and_iff_right (Or.inr rfl)).symm)

/-- In the first cycle of a two-player game tank 1 has no bullet and is at its place. -/
theorem starts_at_edge_iff_twoPlayers :
    ((runOf fun n => press (twoPlayerKeys n) false).state 8).positionOf .tank1 = (2, 458) ∧
      (StartsAtEdge (press 0x06 false) ((runOf fun n => press (twoPlayerKeys n) false).state 8)
          .tank1 ↔
        ¬ (Shooter.tank1.IsEnemy ∧ (((runOf fun n => press (twoPlayerKeys n) false).state 8).gunOf
          .tank1).isBulletOut = .down)) :=
  ⟨by decide +kernel, starts_at_edge_iff _ _ _ (by decide +kernel)⟩

/-! ### An enemy that fires down -/

/-- The menu is left alone, but for one frame pulse that turns the enemies to the player below. -/
def onePulse : Run := runOf fun n => press 0 (n == 1)

/-- At the menu, between frame pulses, enemy 1 faces down. -/
structure FacesDown (s : Sys) : Prop where
  state : s.state = .BG
  edge : s.enemy1.edge = ⟨false, false⟩
  out : s.enemy1.isEnemyOut = .down

theorem FacesDown.resetTank {s : Sys} (h : FacesDown s) : s.resetTank = false := by
  simp [Sys.resetTank, h.state]

theorem FacesDown.step {s : Sys} (h : FacesDown s) : FacesDown (s.step (press 0 false)) := by
  have hr := h.resetTank
  refine ⟨?_, ?_, ?_⟩
  · have hkey : enterKey 0#32 = false := by decide
    simp [Sys.step, Sys.resetH, Sys.nextState, press, h.state, hkey]
  · simp [Sys.step, Enemy.step, Edge.step, press, h.edge]
  · simp [Sys.step, Enemy.step, hr, h.edge, h.out]

/-- The bullet machine of an enemy that faces down gets that direction and keeps it. -/
theorem FacesDown.latch {s : Sys} (h : FacesDown s)
    (hb : s.enemy1.bullet.state = .NOBULLET ∨ s.enemy1.bullet.isBulletOut = .down) :
    (s.step (press 0 false)).enemy1.bullet.isBulletOut = .down := by
  have hr := h.resetTank
  rcases hb with hb | hb <;>
    simp [Sys.step, Enemy.step, enemyBullets, Bullet.step, Bullet.isBulletOutIn, hr, h.out, hb]

theorem onePulse_input (n : ℕ) : onePulse.input (3 + n) = press 0 false := by
  rw [onePulse, runOf_input, beq_false_of_ne (by omega)]

theorem onePulse_facesDown (n : ℕ) : FacesDown (onePulse.state (3 + n)) := by
  induction n with
  | zero => constructor <;> decide +kernel
  | succ n ih =>
    rw [← Nat.add_assoc, onePulse.succ, onePulse_input]
    exact ih.step

/-- Its bullet machine comes back to `NOBULLET` again and again. -/
theorem onePulse_returns (n : ℕ) :
    ∃ m, n ≤ m ∧ (onePulse.state m).enemy1.bullet.state = .NOBULLET := by
  have htimed : ∀ n, (onePulse.state n).enemy1.bullet.Timed := by
    intro n
    induction n with
    | zero => constructor <;> decide +kernel
    | succ n ih => rw [onePulse.succ]; exact ih.step _ _ _ _ _ _
  obtain ⟨k, -, hk⟩ := onePulse.exists_of_variant (P := fun s => s.enemy1.bullet.state = .NOBULLET)
    htimed (fun s => s.enemy1.bullet.remaining)
    (fun i s ht hn => Bullet.remaining_step ht hn _ _ _ _ _ _) n
  exact ⟨n + k, Nat.le_add_right n k, hk⟩

/-- A shot that starts in the middle of the enemy. -/
theorem enemy_fires_from_within :
    ¬ ∀ (R : Run) (n : ℕ) (a : Shooter), ((R.state n).gunOf a).state = .NOBULLET →
      StartsAtEdge (R.input n) (R.state n) a := by
  intro h
  have hdown : ∀ n, FacesDown (onePulse.state (3 + n)) := onePulse_facesDown
  obtain ⟨c, hc, hidle⟩ := onePulse_returns 3
  obtain ⟨c, rfl⟩ := Nat.exists_eq_add_of_le hc
  -- from the first return on the machine holds the direction of the enemy
  have hout : ∀ k, (onePulse.state (3 + (c + 1 + k))).enemy1.bullet.isBulletOut = .down := by
    intro k
    induction k with
    | zero =>
      rw [Nat.add_zero, ← Nat.add_assoc, onePulse.succ, onePulse_input]
      exact (hdown c).latch (Or.inl hidle)
    | succ k ih =>
      rw [← Nat.add_assoc (c + 1), ← Nat.add_assoc, onePulse.succ, onePulse_input]
      exact (hdown _).latch (Or.inr ih)
  obtain ⟨m, hm, hagain⟩ := onePulse_returns (3 + (c + 1))
  obtain ⟨k, rfl⟩ := Nat.exists_eq_add_of_le hm
  rw [Nat.add_assoc] at hagain
  have hstart := h onePulse (3 + (c + 1 + k)) .enemy1 hagain
  have hload := loaded_eq (a := .enemy1) (onePulse.input (3 + (c + 1 + k))) hagain
  exact (muzzle_mids_iff _ _).1 (hload.symm.trans hstart) (hout k)

end TankBattle
