import TankBattle.Quit
import TankBattle.Sprites
import TankBattle.EndScreen

/-!
# What is painted over the end screen

The machines of the game keep running in `END`.  `lab8` gates their pixels by the mode, by the
enables or by the state of the menus, except for the explosion of `bullets2`.

* `bodies_of_END`, `enDraw_off`, `score_of_END`: everything else is gated off;
* `end_painted_iff`: the end screen is painted at a pixel unless that explosion is;
* `parting`: a shot that outlives the game.
-/

namespace TankBattle

open Sys

/-- Nothing of the menu for the number of enemies is drawn outside of it. -/
theorem enDraw_off (e : EnDraw) (drawX drawY : Coord) :
    EnDraw.enTank false drawX drawY = false ∧ EnDraw.enCount false drawX drawY = false ∧
      EnDraw.enNumber false drawX drawY = false ∧ e.isEnnumber false drawX drawY = false := by
  refine ⟨by simp [EnDraw.enTank], by simp [EnDraw.enCount], by simp [EnDraw.enNumber], ?_⟩
  cases h : e.state <;> simp [EnDraw.isEnnumber, h]

section Dark

variable {s : Sys} (hs : s.state = .END) (drawX drawY : Coord)

include hs

theorem enables_of_END : s.enable1 = false ∧ s.enable12 = false ∧ s.enable2 = false := by
  simp [enable1, enable12, enable2, hs]

theorem mode_of_END : s.mode = 3 := by
  simp [mode, hs]

theorem enState_of_END : s.enState = false := by
  simp [enState, hs]

/-- No tank, no enemy and none of the other bullets is drawn. -/
theorem bodies_of_END :
    s.isTankFinal drawX drawY = false ∧ s.isTankFinal2 drawX drawY = false ∧
      s.isEnemy1Final drawX drawY = false ∧ s.isEnemy2Final drawX drawY = false ∧
      s.isBoom drawX drawY = false ∧ s.isBoomEn1 drawX drawY = false ∧
      s.isBoomEn2 drawX drawY = false := by
  obtain ⟨h1, h12, -⟩ := enables_of_END hs
  have hm := mode_of_END hs
  refine ⟨?_, ?_, ?_, ?_, ?_, ?_, ?_⟩
  · simp [isTankFinal, hm]
  · simp [isTankFinal2, hm]
  · simp [isEnemy1Final, h1]
  · simp [isEnemy2Final, h12]
  · simp [isBoom, Bullet.isBoom, hm]
  · simp [isBoomEn1, Bullet.isBoom, h1]
  · simp [isBoomEn2, Bullet.isBoom, h12]

/-- Nothing of the score beside the field is drawn. -/
theorem score_of_END :
    s.isHeart drawX drawY = false ∧ s.isHeart2 drawX drawY = false ∧
      TankBattle.isPlayer1 s.gameMode drawX drawY = false ∧
      TankBattle.isPlayer2 s.gameMode drawX drawY = false ∧
      TankBattle.isPlayerEn2 s.gameMode s.enNum drawX drawY = false := by
  obtain ⟨h1, h12, h2⟩ := enables_of_END hs
  have hm := mode_of_END hs
  have hg : s.gameMode = false := by simp [gameMode, h1, h2, h12]
  refine ⟨?_, ?_, ?_, ?_, ?_⟩
  · simp [isHeart, heartRow, heart, hm, h12]
  · simp [isHeart2, heartRow, heart, hm]
  · simp [TankBattle.isPlayer1, icon, hg]
  · simp [TankBattle.isPlayer2, icon, hg]
  · simp [TankBattle.isPlayerEn2, icon, hg]

/-- With a mode chosen, the code of a pixel of the end screen depends on the explosion of `bullets2`
alone. -/
theorem code_of_END (hsel : s.selector = .OPM_DONE ∨ s.selector = .TPM_DONE) :
    s.code drawX drawY = if s.isBoom2 drawX drawY then .str_data else .end_data := by
  obtain ⟨b1, b2, b3, b4, b5, b6, b7⟩ := bodies_of_END hs drawX drawY
  obtain ⟨e1, e2, e3, e4⟩ := enDraw_off s.enDraw drawX drawY
  obtain ⟨h1, h2, h3, h4, h5⟩ := score_of_END hs drawX drawY
  have hm := mode_of_END hs
  have hone : s.selector.isOneTank drawX drawY = false := by
    rcases hsel with h | h <;> simp [SelectorState.isOneTank, h]
  have htwo : s.selector.areTwoTanks drawX drawY = false := by
    rcases hsel with h | h <;> simp [SelectorState.areTwoTanks, h]
  simp [code, spPorts, enTankFinal, hm, hone, htwo, b1, b2, b3, b4, b5, b6, b7, e1, e2, e3, e4, h1,
    h2, h3, h4, h5, enState_of_END hs]

end Dark

/-- The pixel belongs to the explosion of `bullets2`. -/
def Sys.Burning (s : Sys) (drawX drawY : Coord) : Prop :=
  s.bullets2.state = .BULLET_BOOM ∧ s.bullets2.isSquare drawX drawY = true

theorem isBoom2_iff (s : Sys) (drawX drawY : Coord) :
    s.isBoom2 drawX drawY = true ↔ s.Burning drawX drawY := by
  simp [isBoom2, Bullet.isBoom, Bullet.drawBoom, Sys.Burning]

/-- **The end screen is not painted over** at a pixel if and only if `bullets2` does not explode
there. -/
theorem end_painted_iff (R : Run) (n : ℕ) (drawX drawY : Coord) (hs : (R.state n).state = .END) :
    (R.state n).code drawX drawY = .end_data ↔ ¬ (R.state n).Burning drawX drawY := by
  rw [code_of_END hs drawX drawY (selector_of_END R n hs), ← isBoom2_iff]
  cases (R.state n).isBoom2 drawX drawY <;> simp

theorem end_painted_iff_lastHit :
    (lastHit.state 223).code 0 0 = .end_data ↔ ¬ (lastHit.state 223).Burning 0 0 :=
  end_painted_iff lastHit 223 0 0 lastHit_end

/-- The game of `lastHit`, in which player 2 also holds the key h. -/
def parting : Run :=
  runOf fun n => if n < 8 then press (twoPlayerKeys n) false else
    press (if n < 212 then 0x0b0c1A else 0x0b121A) (n % 2 == 0)

/-- A shot of player 2 has reached the right border before the end of the game; its explosion is
painted over the end screen. -/
theorem parting_burns :
    ¬ ∀ (R : Run) (n : ℕ) (drawX drawY : Coord), (R.state n).state = .END → drawX < 640 →
      drawY < 480 → (R.state n).code drawX drawY = .end_data := by
  intro h
  have hs : (parting.state 223).state = .END := by decide +kernel
  have hc : (parting.state 223).code 477 39 = .str_data := by decide +kernel
  rw [h parting 223 477 39 hs (by decide) (by decide)] at hc
  cases hc

end TankBattle
