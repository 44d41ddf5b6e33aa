import TankBattle.Shots

/-!
# What a shot is charged to

A flight is interrupted at a frame pulse, but the hit is tested after the explosion, in the one
cycle in which the machine is in `BOOM_WAIT`.

* `Exploding`, `exploding_run`: the machine during the explosion;
* `charged_when_over`: a shot is charged to what its bullet lies in when the explosion is over;
* `dodged`: a tank that leaves the place where it was hit before that.
-/

namespace TankBattle

open Sys

/-- An interrupted flight does not move. -/
theorem Bullet.step_interrupt {b : Bullet} {fire frameClk stopBullet : Bool} {dir : Dir} {m : Mids}
    {reset : Bool} (h : b.state = .BULLET)
    (hs : (b.step fire reset frameClk stopBullet dir m).state = .BULLET_BOOM) :
    (b.step fire reset frameClk stopBullet dir m).xPos = b.xPos ∧
      (b.step fire reset frameClk stopBullet dir m).yPos = b.yPos ∧
      (b.step fire reset frameClk stopBullet dir m).bCounter = 0 := by
  cases reset
  · have hi : b.interrupt stopBullet = true := by
      simp only [Bullet.step, Bullet.nextState, h, Bool.false_eq_true, if_false] at hs
      split_ifs at hs with h1 h2
      exact h2
    simp only [Bullet.interrupt, Bool.and_eq_true, Bool.not_eq_true'] at hi
    simp [Bullet.step, Bullet.bulletLoad, Bullet.posIn, Bullet.bCounterIn, h, hi.2]
  · simp [Bullet.step] at hs

/-! ### Runs -/

/-- The flight is interrupted at the edge after this cycle. -/
def Interrupted (R : Run) (p : Pair) (n : ℕ) : Prop :=
  shot R p n = .BULLET ∧ shot R p (n + 1) = .BULLET_BOOM

/-- The cycle in which the hit of a flight that was interrupted in cycle `n` is tested. -/
def tested (n : ℕ) : ℕ := n + 15 * 2 ^ 18 + 2

/-- The `j`th cycle of the explosion of the bullet `b₀`. -/
structure Exploding (b₀ : Bullet) (j : ℕ) (b : Bullet) : Prop where
  state : b.state = .BULLET_BOOM
  xPos : b.xPos = b₀.xPos
  yPos : b.yPos = b₀.yPos
  bCounter : b.bCounter.toNat = j

section Explosion

variable {R : Run} {p : Pair} {n : ℕ} (h : Interrupted R p n)
  (hr : ∀ j, n < j → j < tested n → (R.state j).resetTank = false)

include h hr

theorem exploding_run (j : ℕ) (hj : j ≤ 15 * 2 ^ 18) :
    Exploding ((R.state n).shooter p) j ((R.state (n + 1 + j)).shooter p) := by
  induction j with
  | zero =>
    obtain ⟨fire, stop, dir, m, hs⟩ := shooter_step (R.input n) (R.state n) p
    have h2 := h.2
    rw [shot, R.succ, hs] at h2
    obtain ⟨hx, hy, hb⟩ := Bullet.step_interrupt h.1 h2
    rw [Nat.add_zero, R.succ, hs]
    exact ⟨h2, hx, hy, by rw [hb]; rfl⟩
  | succ j ih =>
    have ih := ih (by omega)
    obtain ⟨fire, stop, dir, m, hs⟩ :=
      shooter_step (R.input (n + 1 + j)) (R.state (n + 1 + j)) p
    have hb : ((R.state (n + 1 + j)).shooter p).bCounter ≠ Bullet.boomLimit := by
      intro hb
      have := ih.bCounter
      rw [hb, Bullet.boomLimit_toNat] at this
      omega
    rw [hr _ (by omega) (by unfold tested; omega), Bullet.step_boom ih.state hb] at hs
    rw [← Nat.add_assoc, R.succ, hs]
    refine ⟨ih.state, ih.xPos, ih.yPos, ?_⟩
    simp only [BitVec.toNat_add, ih.bCounter, BitVec.reduceToNat]
    omega

/-- After the explosion the bullet is where the flight was interrupted. -/
theorem boomWait_tested : shot R p (tested n) = .BOOM_WAIT ∧
    ((R.state (tested n)).shooter p).xPos = ((R.state n).shooter p).xPos ∧
    ((R.state (tested n)).shooter p).yPos = ((R.state n).shooter p).yPos := by
  have he := exploding_run h hr (15 * 2 ^ 18) le_rfl
  rw [show n + 1 + 15 * 2 ^ 18 = n + 15 * 2 ^ 18 + 1 by omega] at he
  obtain ⟨fire, stop, dir, m, hs⟩ :=
    shooter_step (R.input (n + 15 * 2 ^ 18 + 1)) (R.state (n + 15 * 2 ^ 18 + 1)) p
  rw [hr _ (by omega) (by unfold tested; omega)] at hs
  have hb : ((R.state (n + 15 * 2 ^ 18 + 1)).shooter p).bCounter = Bullet.boomLimit :=
    BitVec.eq_of_toNat_eq he.bCounter
  obtain ⟨h1, h2, h3⟩ := Bullet.step_boom_last he.state hb fire
    (R.input (n + 15 * 2 ^ 18 + 1)).vgaVS stop dir m
  rw [show tested n = n + 15 * 2 ^ 18 + 1 + 1 from rfl, shot, R.succ, hs]
  exact ⟨h1, h2.trans he.xPos, h3.trans he.yPos⟩

/-- In the flight and in the explosion there is no hit. -/
theorem not_hit_before (j : ℕ) (hj : j < tested n)
    (hfly : ∀ i, j ≤ i → i ≤ n → shot R p i = .BULLET) : (R.state j).hit p = false := by
  have hidle : ((R.state j).shooter p).idle = false := by
    rcases Nat.lt_or_ge n j with hn | hn
    · obtain ⟨k, rfl⟩ := Nat.exists_eq_add_of_lt hn
      have he := exploding_run h hr k (by unfold tested at hj; omega)
      rw [show n + 1 + k = n + k + 1 by omega] at he
      simp [Bullet.idle, Bullet.drawBoom, he.state]
    · have h1 : ((R.state j).shooter p).state = .BULLET := hfly j le_rfl hn
      simp [Bullet.idle, Bullet.drawBullet, h1]
  rw [hit_eq, hidle, Bool.and_false]

end Explosion

/-! ### The charge -/

/-- The counter that the hit signal of a pair is charged to. -/
def Pair.counter : Pair → Counter
  | .bullets1_enemy1 => .enemy1
  | .bullets1_enemy2 => .enemy2
  | .bullets1_tank2 => .player2
  | .bullets2_tank1 => .player1
  | .enemy1_tank1 | .enemy2_tank1 => .player

/-- The target of a pair takes part in the game. -/
def Sys.inPlay (s : Sys) : Pair → Bool
  | .bullets1_enemy1 | .enemy1_tank1 => s.enable1
  | .bullets1_enemy2 | .enemy2_tank1 => s.enable12
  | .bullets1_tank2 | .bullets2_tank1 => s.enable2

theorem onePlayerMode_of_enable {s : Sys} (hm : MenuOk s)
    (h : s.enable1 = true ∨ s.enable12 = true) : s.onePlayerMode = true := by
  have hs : s.state = .GAME_RST1 ∨ s.state = .GAME1 := h.elim state_of_enable1 state_of_enable12
  refine onePlayerMode_iff.2 (hm.one ?_)
  rcases hs with hs | hs <;> simp [hs]

/-- A counter is charged for the hit of a pair that is in play, unless the other enemy hits too. -/
theorem charged_counter {s : Sys} (hm : MenuOk s) (p : Pair)
    (ho : ∀ q, q ≠ p → q.counter = p.counter → s.hit q = false) :
    s.charged p.counter = (s.inPlay p && s.hit p) := by
  have h1 := fun h => onePlayerMode_of_enable hm (Or.inl h)
  have h2 := fun h => onePlayerMode_of_enable hm (Or.inr h)
  cases p with
  | bullets1_enemy1 =>
    simp only [charged, Pair.counter, inPlay, hit, playerHitEn1, wallPlayerHit]
    cases he : s.enable1 <;> simp [*]
  | bullets1_enemy2 =>
    simp only [charged, Pair.counter, inPlay, hit, playerHitEn2, wallPlayerHit]
    cases he : s.enable12 <;> simp [*]
  | bullets1_tank2 => rfl
  | bullets2_tank1 => rfl
  | enemy1_tank1 =>
    have ho : s.en2HitPlayer = false := ho .enemy2_tank1 (by decide) rfl
    simp only [charged, Pair.counter, inPlay, hit, ho, Bool.or_false, en1HitPlayer,
      Enemy.playerHit, enemyWallPlayerHit, enemy1Pins]
    cases he : s.enable1 <;> simp [*]
  | enemy2_tank1 =>
    have ho : s.en1HitPlayer = false := ho .enemy1_tank1 (by decide) rfl
    simp only [charged, Pair.counter, inPlay, hit, ho, Bool.false_or, en2HitPlayer,
      Enemy.playerHit, enemyWallPlayerHit, enemy2Pins]
    cases he : s.enable12 <;> simp [*]

/-- The bullet of a pair, where it was in cycle `n`, lies in the box of the target as it stands in
cycle `k`. -/
def lands (R : Run) (p : Pair) (n k : ℕ) : Bool :=
  inBox ((R.state n).shooter p).xPos ((R.state n).shooter p).yPos ((R.state k).target p).1
    ((R.state k).target p).2

/-- **A shot is charged to what its bullet lies in when the explosion is over**: in the flight, from
its first cycle on, and in the explosion there is no hit, and in that one cycle a target in play
loses a life if and only if the place of the interrupt is in its box. -/
theorem charged_when_over (R : Run) (p : Pair) (n : ℕ) (h : Interrupted R p n)
    (hr : ∀ j, n < j → j < tested n → (R.state j).resetTank = false) :
    (∀ j, j < tested n → (∀ i, j ≤ i → i ≤ n → shot R p i = .BULLET) →
        (R.state j).hit p = false) ∧
      shot R p (tested n) = .BOOM_WAIT ∧
      (R.state (tested n)).hit p = ((R.state (tested n)).active p && lands R p n (tested n)) ∧
      shot R p (tested n + 1) = .NOBULLET ∧
      ((R.state (tested n)).livesLoad (R.input (tested n)) = false →
        (∀ q, q ≠ p → q.counter = p.counter → (R.state (tested n)).hit q = false) →
        (R.state (tested n)).lives p.counter ≠ 0 →
        ((R.state (tested n + 1)).lives p.counter).toNat +
            (if (R.state (tested n)).inPlay p && lands R p n (tested n) then 1 else 0) =
          ((R.state (tested n)).lives p.counter).toNat) := by
  obtain ⟨hw, hx, hy⟩ := boomWait_tested h hr
  have hidle : ((R.state (tested n)).shooter p).idle = true := by
    have hw' : ((R.state (tested n)).shooter p).state = .BOOM_WAIT := hw
    simp [Bullet.idle, Bullet.drawBoom, Bullet.drawBullet, hw']
  have hhit : (R.state (tested n)).hit p =
      ((R.state (tested n)).active p && lands R p n (tested n)) := by
    rw [hit_eq, hidle, Bool.and_true, inside, hx, hy, lands]
  refine ⟨not_hit_before h hr, hw, hhit, ?_, fun hl ho h0 => ?_⟩
  · rcases shot_succ R p (tested n) with ⟨-, hs⟩ | ⟨-, fire, stop, hs⟩
    · exact hs
    · rw [hs, next_wait (Or.inr hw)]
  · have hplay : ((R.state (tested n)).inPlay p && (R.state (tested n)).active p) =
        (R.state (tested n)).inPlay p := by
      cases p <;> simp [inPlay, active]
    rw [R.succ, lives_step, hl, charged_counter (menuOk_run R _) p ho, hhit, ← Bool.and_assoc,
      hplay]
    cases (R.state (tested n)).inPlay p && lands R p n (tested n)
    · rfl
    · simp only [if_true, Bool.false_eq_true, if_false]
      bv_omega

/-! ### A tank that drives away -/

theorem InDuel.player2Lives {d : Duel} {s : Sys} (h : InDuel d s) :
    s.player2Lives = d.player2Lives := congrArg Duel.player2Lives h.duel

/-- The keys of `struck`; tank 2 waits until it is hit and then drives to the right. -/
def dodgeKeys (n : ℕ) : BitVec 32 := if 156 ≤ n ∧ n < 170 then 0x12 else strikeKeys n

/-- The run with these keys and 83 frame pulses. -/
def dodging : Run := runOf (strikePins dodgeKeys)

/-- The registers of the players when tank 2 has stopped, with the bullet of tank 1 in the given
state. -/
def dodgeDuel : BulletState → BitVec 26 → Duel :=
  strikeDuel ⟨.OTHER, ⟨false, false⟩, 16, 32, 0, 0, .right⟩
    ⟨.NOBULLET, ⟨false, false⟩, 35, 41, 6, 0, 0, 0, .right⟩

theorem dodging_input {n : ℕ} (hn : 180 ≤ n) : dodging.input n = press 0 false := by
  refine strikePins_end ?_ (by omega)
  rw [dodgeKeys, if_neg (by omega), strikeKeys_end (by omega)]

/-- From cycle 180 on the explosion goes on undisturbed. -/
theorem dodging_boom (j : ℕ) (hj : 24 + j ≤ 15 * 2 ^ 18) :
    InDuel (dodgeDuel .BULLET_BOOM (BitVec.ofNat 26 (24 + j))) (dodging.state (180 + j)) :=
  strike_boom (by decide +kernel) (by decide +kernel) (fun n => dodging_input) hj

theorem dodging_tested :
    InDuel (dodgeDuel .BOOM_WAIT (Bullet.boomLimit + 1)) (dodging.state (tested 155)) := by
  have h := dodging_boom (15 * 2 ^ 18 - 24) (by omega)
  rw [show tested 155 = 180 + (15 * 2 ^ 18 - 24) + 1 by unfold tested; omega, dodging.succ,
    dodging_input (by omega)]
  exact h.next (by decide +kernel)

theorem dodging_inGame {j : ℕ} (h1 : 155 ≤ j) (h2 : j ≤ tested 155) :
    (dodging.state j).state = .GAME2 := by
  rcases Nat.lt_or_ge j 180 with hj | hj
  · have : ∀ k < 25, (dodging.state (155 + k)).state = .GAME2 := by decide +kernel
    have := this (j - 155) (by omega)
    rwa [show 155 + (j - 155) = j by omega] at this
  · rcases Nat.eq_or_lt_of_le h2 with rfl | h2
    · exact dodging_tested.state
    · have := dodging_boom (j - 180) (by unfold tested at h2; omega)
      rw [show 180 + (j - 180) = j by omega] at this
      exact this.state

theorem dodging_interrupted : Interrupted dodging .bullets1_tank2 155 :=
  ⟨by decide +kernel, by decide +kernel⟩

theorem dodging_not_reset (j : ℕ) (h1 : 155 < j) (h2 : j < tested 155) :
    (dodging.state j).resetTank = false :=
  resetTank_eq_false (Or.inr (dodging_inGame (by omega) (by omega)))

/-- The shot of this run is charged to nobody. -/
theorem charged_when_over_dodging :
    (dodging.state (tested 155)).hit .bullets1_tank2 =
      ((dodging.state (tested 155)).active .bullets1_tank2 &&
        lands dodging .bullets1_tank2 155 (tested 155)) :=
  (charged_when_over dodging .bullets1_tank2 155 dodging_interrupted dodging_not_reset).2.2.1

/-- Tank 2 is hit, drives away during the explosion and keeps its lives. -/
theorem dodged :
    ¬ ∀ (R : Run) (p : Pair) (n : ℕ), Interrupted R p n →
      (∀ j, n ≤ j → j ≤ tested n → (R.state j).InGame) →
        ((R.state n).inside p = true →
          ((R.state (tested n + 1)).lives p.counter).toNat + 1 =
            ((R.state (tested n)).lives p.counter).toNat) ∧
        ((∀ q, (R.state n).inside q = false) →
          (R.state (tested n + 1)).lives p.counter = (R.state (tested n)).lives p.counter) := by
  intro h
  have hin : (dodging.state 155).inside .bullets1_tank2 = true := by decide +kernel
  have hl := (h dodging .bullets1_tank2 155 dodging_interrupted
    (fun j h1 h2 => Or.inr (dodging_inGame h1 h2))).1 hin
  have h1 : (dodging.state (tested 155)).player2Lives = 5 := dodging_tested.player2Lives
  have h2 : (dodging.state (tested 155 + 1)).player2Lives = 5 := by
    have h5 : (5 : BitVec 6) ≠ 0 := by decide
    have hd := dodging_tested.step (i := press 0 false) rfl (by decide) h5 h5
    rw [dodging.succ, dodging_input (by unfold tested; omega)]
    exact hd.player2Lives.trans (by decide +kernel)
  have hc (s : Sys) : s.lives (Pair.counter .bullets1_tank2) = s.player2Lives := rfl
  rw [hc, hc, h1, h2] at hl
  exact absurd hl (by decide)

end TankBattle
