import TankBattle.Menu

/-!
# The two-player game

No enemy is enabled in `GAME2`, so the game runs there on the registers of the two players alone
(`Duel`), whatever the enemies' registers hold.

* `step_duel`: the projection `Sys.duel` commutes with the step functions;
* `InDuel.step`, `InDuel.next`: the game goes on while nobody resets it and both players have lives;
* `InDuel.swing`: a game in which nothing happens.
-/

namespace TankBattle

/-- The registers that a two-player game runs on. -/
structure Duel where
  tank1 : Tank
  tank2 : Tank
  bullets1 : Bullet
  bullets2 : Bullet
  player1Lives : BitVec 6
  player2Lives : BitVec 6
  deriving DecidableEq

/-- The players' part of the design. -/
def Sys.duel (s : Sys) : Duel :=
  ⟨s.tank1, s.tank2, s.bullets1, s.bullets2, s.player1Lives, s.player2Lives⟩

namespace Duel

variable (i : Pins) (d : Duel)

/-- The stop signals of tank 1. -/
def tank1Stops : Stops :=
  (nearStops d.tank1.xPos d.tank1.yPos d.tank2.xPos d.tank2.yPos).or
    (letterStops d.tank1.xPos d.tank1.yPos)

/-- The stop signals of tank 2. -/
def tank2Stops : Stops :=
  wall2Stops d.tank2.xPos d.tank2.yPos d.tank1.xPos d.tank1.yPos

/-- The stop input of `bullets1`. -/
def stopBullet1 : Bool :=
  bulletOnLetter d.bullets1.xPos d.bullets1.yPos (funcUp d.bullets1.xPos)
      (funcDown d.bullets1.xPos) ||
    stopBullet21 d.tank2.xPos d.tank2.yPos d.bullets1.xPos d.bullets1.yPos

/-- The stop input of `bullets2`. -/
def stopBullet2 : Bool :=
  wall2StopBullet d.bullets2 ||
    wallStopBullet2 true d.tank1.xPos d.tank1.yPos d.bullets2.xPos d.bullets2.yPos

/-- `player1_hit`. -/
def player1Hit : Bool := hits d.bullets2 d.tank1.xPos d.tank1.yPos

/-- `player2_hit`. -/
def player2Hit : Bool := hits d.bullets1 d.tank2.xPos d.tank2.yPos

/-- One edge of `Clk` in a two-player game. -/
def step : Duel where
  tank1 := TankBattle.tank1 false i.vgaVS i.keycode d.tank1Stops d.tank1
  tank2 := TankBattle.tank2 true false i.vgaVS i.keycode d.tank2Stops d.tank2
  bullets1 := TankBattle.bullets1 false i.vgaVS d.stopBullet1 i.keycode d.tank1.isTankDir
    (midsOf d.tank1.xPos d.tank1.yPos) d.bullets1
  bullets2 := TankBattle.bullets2 true false i.vgaVS d.stopBullet2 i.keycode d.tank2.isTankDir
    (midsOf d.tank2.xPos d.tank2.yPos) d.bullets2
  player1Lives := if d.player1Hit then d.player1Lives - 1 else d.player1Lives
  player2Lives := if d.player2Hit then d.player2Lives - 1 else d.player2Lives

end Duel

/-- The design is in a two-player game on the registers `d`, and the button is up. -/
structure InDuel (d : Duel) (s : Sys) : Prop where
  state : s.state = .GAME2
  selector : s.selector = .TPM_DONE
  resetHi : s.resetHi = false
  duel : s.duel = d

instance (d : Duel) (s : Sys) : Decidable (InDuel d s) :=
  decidable_of_iff (s.state = .GAME2 ∧ s.selector = .TPM_DONE ∧ s.resetHi = false ∧ s.duel = d)
    ⟨fun ⟨h1, h2, h3, h4⟩ => ⟨h1, h2, h3, h4⟩, fun ⟨h1, h2, h3, h4⟩ => ⟨h1, h2, h3, h4⟩⟩

/-- **The two-player game runs on the players' registers alone.** -/
theorem step_duel {i : Pins} {s : Sys} (hs : s.state = .GAME2) (hm : s.selector = .TPM_DONE)
    (hr : s.resetH i = false) : (s.step i).duel = s.duel.step i := by
  have hload : s.livesLoad i = false := by simp [Sys.livesLoad, Sys.livesActivate, hr, hs]
  have hrst : s.resetTank = false := by simp [Sys.resetTank, hs]
  have h2 : s.enable2 = true := by simp [Sys.enable2, hs]
  have h1 : s.enable1 = false := by simp [Sys.enable1, hs]
  have h12 : s.enable12 = false := by simp [Sys.enable12, hs]
  have hmode : s.twoPlayersMode = true := twoPlayersMode_iff.2 hm
  have hstops : s.tank1Stops = s.duel.tank1Stops := by
    simp [Sys.tank1Stops, wallStops, h1, h2, h12, Stops.gate, Stops.none, Stops.or, Duel.tank1Stops,
      Sys.duel]
  have hb1 : s.stopBullet1 = s.duel.stopBullet1 := by
    simp [Sys.stopBullet1, wallStopBullet, h1, h12, h2, Sys.bulletx1, Sys.bullety1,
      Duel.stopBullet1, Sys.duel]
  have hb2 : s.stopBullet2 = s.duel.stopBullet2 := by
    simp [Sys.stopBullet2, h2, Duel.stopBullet2, Sys.duel]
  have hl1 : s.player1LivesIn =
      if s.duel.player1Hit then s.player1Lives - 1 else s.player1Lives := by
    rw [Sys.player1LivesIn, h2, Bool.true_and]
    rfl
  have hl2 : s.player2LivesIn =
      if s.duel.player2Hit then s.player2Lives - 1 else s.player2Lives := by
    rw [Sys.player2LivesIn, Sys.player2Hit, player2Hit, h2, Bool.true_and, Bool.true_and]
    rfl
  simp only [Sys.duel, Sys.step, Duel.step, hrst, hload, hmode, hstops, hb1, hb2, hl1, hl2]
  rfl

theorem InDuel.step {d : Duel} {s : Sys} {i : Pins} (h : InDuel d s) (hk : i.key0 = true)
    (hc : i.keycode ≠ 0x14) (h1 : d.player1Lives ≠ 0) (h2 : d.player2Lives ≠ 0) :
    InDuel (d.step i) (s.step i) := by
  have hr : s.resetH i = false := by
    rw [Sys.resetH, h.resetHi, Bool.false_or, beq_eq_false_iff_ne]
    exact hc
  have hl1 : s.player1Lives ≠ 0 := by rw [← h.duel] at h1; exact h1
  have hl2 : s.player2Lives ≠ 0 := by rw [← h.duel] at h2; exact h2
  refine ⟨?_, ?_, ?_, ?_⟩
  · rw [state_of_not_resetH hr, Sys.nextState, h.state]
    exact if_neg (not_or.2 ⟨hl1, hl2⟩)
  · rw [selector_step_done hr (Or.inr h.selector), h.selector]
  · rw [Sys.step_resetHi, hk, Bool.not_true]
  · rw [step_duel h.state h.selector hr, h.duel]

/-- Under the pins `i` the two-player game goes on from the registers `d` to `d'`. -/
def Duel.Next (i : Pins) (d d' : Duel) : Prop :=
  i.key0 = true ∧ i.keycode ≠ 0x14 ∧ d.player1Lives ≠ 0 ∧ d.player2Lives ≠ 0 ∧ d.step i = d'

instance (i : Pins) (d d' : Duel) : Decidable (d.Next i d') :=
  inferInstanceAs (Decidable (_ ∧ _ ∧ _ ∧ _ ∧ _))

theorem InDuel.next {d d' : Duel} {s : Sys} {i : Pins} (h : InDuel d s) (hn : d.Next i d') :
    InDuel d' (s.step i) := by
  obtain ⟨hk, hc, h1, h2, rfl⟩ := hn
  exact h.step hk hc h1 h2

/-- A game that swings between two states of its registers does so for ever. -/
theorem InDuel.swing {R : Run} {d e : Duel} {m : ℕ} {i j : Pins} (h : InDuel d (R.state m))
    (hi : ∀ k, R.input (m + 2 * k) = i) (hj : ∀ k, R.input (m + 2 * k + 1) = j)
    (hd : d.Next i e) (he : e.Next j d) {n : ℕ} (hn : m ≤ n) :
    InDuel d (R.state n) ∨ InDuel e (R.state n) := by
  have hswing : ∀ k, InDuel d (R.state (m + 2 * k)) ∧ InDuel e (R.state (m + 2 * k + 1)) := by
    intro k
    induction k with
    | zero =>
      refine ⟨h, ?_⟩
      rw [R.succ]
      exact h.next (hi 0 ▸ hd)
    | succ k ih =>
      have hnext : InDuel d (R.state (m + 2 * (k + 1))) := by
        rw [show m + 2 * (k + 1) = m + 2 * k + 1 + 1 by omega, R.succ, hj]
        exact ih.2.next he
      refine ⟨hnext, ?_⟩
      rw [R.succ, hi]
      exact hnext.next hd
  obtain ⟨k, rfl | rfl⟩ : ∃ k, n = m + 2 * k ∨ n = m + 2 * k + 1 := ⟨(n - m) / 2, by omega⟩
  · exact Or.inl (hswing k).1
  · exact Or.inr (hswing k).2

end TankBattle
