import TankBattle.Lives

/-!
# Player 2 in a one-player game

`tank2`, `bullets2` and `wall2` run in every game.  In a one-player game `two_players_mode` is low,
so the tank does not leave its start and no bullet is fired, and every other module looks away.

* `Absent`: the tank in `FIRST` at its start, the bullet machine in `NOBULLET`;
* `absent_run`: they are so during every one-player game;
* `player2_isolated`: and then nothing else depends on them.
-/

namespace TankBattle

open Sys

/-- The second tank waits at its start and its bullet machine has no bullet. -/
structure Absent (t : Tank) (b : Bullet) : Prop where
  tank : t.state = .FIRST
  xPos : t.xPos = 2
  yPos : t.yPos = 30
  bullet : b.state = .NOBULLET

section Step

variable {t : Tank} {b : Bullet}

theorem absent_reset (go frameClk stopBullet fire : Bool) (keycode : BitVec 32) (stop : Stops)
    (dir : Dir) (m : Mids) :
    Absent (t.step tank2Config go true frameClk keycode stop)
      (b.step fire true frameClk stopBullet dir m) := by
  constructor <;> simp [Tank.step, Bullet.step, tank2Config]

/-- Without a second player the tank waits and the bullet machine does not fire. -/
theorem Absent.step (h : Absent t b) (frameClk stopBullet : Bool) (keycode : BitVec 32)
    (stop : Stops) (dir : Dir) (m : Mids) :
    Absent (tank2 false false frameClk keycode stop t)
      (bullets2 false false frameClk stopBullet keycode dir m b) := by
  have hn : t.newInstance = true := by simp [Tank.newInstance, h.tank]
  constructor <;>
    simp [tank2_eq, Tank.step, Tank.nextState, hn, h.tank, bullets2, Bullet.step, Bullet.nextState,
      h.bullet, tank2Config]

end Step

theorem enable2_of_GAME1 {s : Sys} (h : s.state = .GAME1) : s.enable2 = false := by
  simp [enable2, h]

/-- Player 2 is absent during every one-player game. -/
theorem absent_run (R : Run) (n : ℕ) (h : (R.state n).state = .GAME1) :
    Absent (R.state n).tank2 (R.state n).bullets2 := by
  refine game_induction R (P := fun s => s.state = .GAME1 → Absent s.tank2 s.bullets2)
    (fun i s hr _ _ => ?_) (fun n hg hst ih hs => ?_) n (Or.inl h) h
  · rw [step_tank2, tank2_eq, step_bullets2, hr]
    exact absent_reset _ _ _ _ _ _ _ _
  · rw [← R.succ, hst] at hs
    have htwo : (R.state n).twoPlayersMode = false := by
      rw [← Bool.not_eq_true, twoPlayersMode_iff, (menuOk_run R n).one (by simp [hs])]
      decide
    rw [step_tank2, step_bullets2, htwo, resetTank_eq_false hg]
    exact (ih hs).step _ _ _ _ _ _

/-- The design with other registers for the second tank and its bullet machine. -/
def Sys.withPlayer2 (s : Sys) (t : Tank) (b : Bullet) : Sys := { s with tank2 := t, bullets2 := b }

section Isolation

variable {s : Sys} {t : Tank} {b : Bullet}

/-- The bullet of tank 1 is wired to column 0 outside the two-player game. -/
theorem stopBullet21_eq_false (h2 : s.enable2 = false) (h : Absent t b) :
    stopBullet21 t.xPos t.yPos s.bulletx1 s.bullety1 = false := by
  simp [stopBullet21, inBox, bulletx1, h2, h.xPos]

theorem tank1Stops_withPlayer2 (h2 : s.enable2 = false) :
    (s.withPlayer2 t b).tank1Stops = s.tank1Stops := by
  have h2' : (s.withPlayer2 t b).enable2 = false := h2
  unfold tank1Stops wallStops
  rw [h2, h2']
  rfl

theorem stopBullet1_withPlayer2 (h2 : s.enable2 = false) (hs : Absent s.tank2 s.bullets2)
    (h : Absent t b) : (s.withPlayer2 t b).stopBullet1 = s.stopBullet1 := by
  have h2' : (s.withPlayer2 t b).enable2 = false := h2
  unfold stopBullet1
  rw [stopBullet21_eq_false h2 hs]
  congr 1
  exact stopBullet21_eq_false (s := s.withPlayer2 t b) h2' h

/-- No counter is charged by way of player 2. -/
theorem charged_withPlayer2 (h2 : s.enable2 = false) (c : Counter) :
    (s.withPlayer2 t b).charged c = s.charged c := by
  have h2' : (s.withPlayer2 t b).enable2 = false := h2
  cases c with
  | player1 | player2 => simp only [charged, h2, h2', Bool.false_and]
  | _ => rfl

end Isolation

/-- **Player 2 cannot influence a one-player game.** -/
theorem player2_isolated (R : Run) (n : ℕ) (h : (R.state n).state = .GAME1) :
    Absent (R.state n).tank2 (R.state n).bullets2 ∧
      (R.state n).bullets2.drawBullet = false ∧ (R.state n).bullets2.drawBoom = false ∧
      stopBullet21 (R.state n).tank2.xPos (R.state n).tank2.yPos (R.state n).bulletx1
        (R.state n).bullety1 = false ∧
      wallStopBullet2 (R.state n).enable2 (R.state n).tank1.xPos (R.state n).tank1.yPos
        (R.state n).bullets2.xPos (R.state n).bullets2.yPos = false ∧
      (R.state n).player2Hit = false ∧
      ∀ (t : Tank) (b : Bullet) (i : Pins), Absent t b →
        (((R.state n).withPlayer2 t b).step i).tank1 = ((R.state n).step i).tank1 ∧
        (((R.state n).withPlayer2 t b).step i).bullets1 = ((R.state n).step i).bullets1 ∧
        (((R.state n).withPlayer2 t b).step i).enemy1 = ((R.state n).step i).enemy1 ∧
        (((R.state n).withPlayer2 t b).step i).enemy2 = ((R.state n).step i).enemy2 ∧
        ∀ c, (((R.state n).withPlayer2 t b).step i).lives c = ((R.state n).step i).lives c := by
  have ha := absent_run R n h
  have h2 := enable2_of_GAME1 h
  refine ⟨ha, ?_, ?_, stopBullet21_eq_false h2 ha, ?_, ?_, fun t b i hb => ⟨?_, ?_, rfl, rfl, ?_⟩⟩
  · simp [Bullet.drawBullet, ha.bullet]
  · simp [Bullet.drawBoom, ha.bullet]
  · simp [wallStopBullet2, h2]
  · simp [Sys.player2Hit, player2Hit, h2]
  · rw [step_tank1, tank1Stops_withPlayer2 h2]
    rfl
  · rw [step_bullets1, stopBullet1_withPlayer2 h2 ha hb]
    rfl
  · intro c
    rw [lives_step, lives_step, charged_withPlayer2 h2]
    rfl

/-- A game with two enemies in which no key is touched. -/
def alone : Run := runOf fun n => press (twoEnemyKeys n) false

theorem player2_isolated_alone : Absent (alone.state 11).tank2 (alone.state 11).bullets2 :=
  (player2_isolated alone 11 (by decide +kernel)).1

end TankBattle
