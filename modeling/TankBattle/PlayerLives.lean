import TankBattle.Explosions

/-!
# The player's lives against two enemies

`player_lives_in` is assigned twice, from the same register: a hit by enemy 2 overwrites the
decrement for a hit by enemy 1.

* `playerLives_count`: the counter is 5 less the cycles with at least one hit;
* `waiting_step`, `drift_step`: the enemies at the menu, where nothing stops them;
* `drifting`: a game that begins after they have drifted to the start of tank 1;
* `no_hit_lost_iff`: the counter is 5 less the hits of both enemies if and only if the two never hit
  in the same cycle;
* `hit_lost`: a game with two enemies, who do.
-/

namespace TankBattle

open Sys

/-- The one-player game that begins after cycle `a` is still going on `k` cycles later. -/
structure Playing (R : Run) (a k : ℕ) : Prop where
  reset : (R.state a).state = .GAME_RST1
  game : ∀ j ≤ k, (R.state (a + 1 + j)).state = .GAME1

/-- Enemy 1 hits the player in cycle `j` of the game that begins after cycle `a`. -/
def Hit1 (R : Run) (a j : ℕ) : Prop := (R.state (a + 1 + j)).en1HitPlayer = true

/-- Enemy 2 hits the player in that cycle. -/
def Hit2 (R : Run) (a j : ℕ) : Prop := (R.state (a + 1 + j)).en2HitPlayer = true

instance (R : Run) (a : ℕ) : DecidablePred (Hit1 R a) := fun _ =>
  inferInstanceAs (Decidable (_ = _))

instance (R : Run) (a : ℕ) : DecidablePred (Hit2 R a) := fun _ =>
  inferInstanceAs (Decidable (_ = _))

theorem Playing.mono {R : Run} {a j k : ℕ} (h : Playing R a k) (hj : j ≤ k) : Playing R a j :=
  ⟨h.reset, fun i hi => h.game i (by omega)⟩

/-- A game cycle that is followed by another one is not reset and leaves the player a life. -/
theorem Playing.next {R : Run} {a k : ℕ} (h : Playing R a (k + 1)) :
    (R.state (a + 1 + k)).livesLoad (R.input (a + 1 + k)) = false ∧
      (R.state (a + 1 + k)).playerLives ≠ 0 := by
  have hs := h.game k (by omega)
  have hn : ((R.state (a + 1 + k)).step (R.input (a + 1 + k))).state = .GAME1 := by
    rw [← R.succ]
    exact h.game (k + 1) le_rfl
  have hr : (R.state (a + 1 + k)).resetH (R.input (a + 1 + k)) = false :=
    not_resetH_of_state (by rw [hn]; decide)
  refine ⟨livesLoad_eq_false.2 ⟨hr, by simp [hs], by simp [hs]⟩, ?_⟩
  rw [state_of_not_resetH hr] at hn
  obtain ⟨-, h0, h1, h2⟩ := (next_GAME1 hn).resolve_left (by simp [hs])
  rcases (menuOk_run R (a + 1 + k)).num with hnum | hnum | hnum
  · exact absurd hnum h0
  · exact (h1 hnum).1
  · exact (h2 hnum).1

/-- The counter is 5 less the cycles in which the player was hit at all. -/
theorem playerLives_count (R : Run) {a k : ℕ} (h : Playing R a k) :
    (R.state (a + 1 + k)).playerLives.toNat +
      Nat.count (fun j => Hit1 R a j ∨ Hit2 R a j) k = 5 := by
  induction k with
  | zero =>
    have hl : (R.state (a + 1)).lives .player = 5 := by
      rw [R.succ]
      exact lives_of_load (by simp [livesLoad, livesActivate, h.reset]) .player
    rw [Nat.count_zero, Nat.add_zero, Nat.add_zero]
    exact congrArg BitVec.toNat hl
  | succ k ih =>
    obtain ⟨hload, hne⟩ := h.next
    have hone : (R.state (a + 1 + k)).onePlayerMode = true :=
      onePlayerMode_iff.2 ((menuOk_run R _).one (by simp [h.game k (by omega)]))
    have hstep : (R.state (a + 1 + (k + 1))).playerLives =
        if Hit1 R a k ∨ Hit2 R a k then (R.state (a + 1 + k)).playerLives - 1
        else (R.state (a + 1 + k)).playerLives := by
      have := lives_step (R.input (a + 1 + k)) (R.state (a + 1 + k)) .player
      rw [← R.succ, hload, if_neg Bool.false_ne_true] at this
      refine this.trans (if_congr ?_ rfl rfl)
      simp only [charged, hone, Bool.true_and, Bool.or_eq_true, Hit1, Hit2]
    rw [hstep, Nat.count_succ]
    have := ih (h.mono (by omega))
    split_ifs with hh
    · have : (R.state (a + 1 + k)).playerLives.toNat ≠ 0 := fun h0 =>
        hne (BitVec.eq_of_toNat_eq h0)
      bv_omega
    · omega

/-! ### The enemies at the menu -/

/-- A flight without frame pulses only counts. -/
theorem Bullet.step_fly {b : Bullet} (hs : b.state = .BULLET) (he : b.edge = ⟨false, false⟩)
    (hc : b.counter ≠ flightLimit) (hb : b.bCounter = 0) (fire stopBullet : Bool) (dir : Dir)
    (m : Mids) :
    b.step fire false false stopBullet dir m = { b with counter := b.counter + 1 } := by
  simp [Bullet.step, Bullet.nextState, Bullet.interrupt, Bullet.bulletLoad, Bullet.posIn,
    Bullet.counterIn, Bullet.bCounterIn, Bullet.isBulletOutIn, Edge.step, hs, he, hc, hb]

/-- So does an enemy that stands still, until it has to choose a heading. -/
theorem Enemy.step_stand {e : Enemy} (he : e.edge = ⟨false, false⟩) (hx : e.xMotion = 0)
    (hy : e.yMotion = 0) (hi : e.idx = 0) (hc : e.counter ≠ decisionCount)
    (hc' : e.counter ≠ decisionCount + 1) (c : EnemyConfig) (p : EnemyPins) :
    e.step c false false p =
      { e with
        counter := e.counter + 1
        bullet := enemyBullets false false (e.stopBullet p) e.isEnemyOut e.mids e.bullet } := by
  have hcount : e.counterIn = e.counter + 1 := if_neg hc'
  have hidx : e.nextIdx (e.stops c p) p = e.idx := by simp [nextIdx, hc, hi]
  simp [Enemy.step, Edge.step, hcount, hidx, he, hx, hy]

/-- Outside a game nothing stops an enemy on its way down but the border. -/
theorem Enemy.step_down {e : Enemy} {p : EnemyPins} (hp : p.enable = false) (hi : e.idx = 4)
    (hc : e.counter ≠ decisionCount) (hc' : e.counter ≠ decisionCount + 1) (c : EnemyConfig)
    (v : Bool) :
    e.step c false v p =
      ⟨e.edge.step v, e.xPos + e.xMotion, e.yPos + e.yMotion, 0,
        if e.edge.rising = true ∧ e.yPos + size < 478 then 1 else 0,
        if e.edge.rising then .down else e.isEnemyOut, 4, e.counter + 1,
        enemyBullets false v (e.stopBullet p) e.isEnemyOut e.mids e.bullet⟩ := by
  have hcount : e.counterIn = e.counter + 1 := if_neg hc'
  have hidx : e.nextIdx (e.stops c p) p = 4 := by
    simp [nextIdx, stops, enemyWallStops, Stops.gate, Stops.none, hp, hi, hc]
  cases hr : e.edge.rising <;> simp [Enemy.step, motionIn, hcount, hidx, hi, hr]

theorem ne_of_toNat_lt {w : ℕ} {a b : BitVec w} (h : a.toNat < b.toNat) : a ≠ b := by
  rintro rfl
  exact lt_irrefl _ h

/-- An enemy at the menu after power-up, before the first frame pulse. -/
def waitingEnemy (c d : BitVec 26) : Enemy :=
  ⟨⟨false, false⟩, 0, 0, 0, 0, .right, 0, c, ⟨.BULLET, ⟨false, false⟩, 19, 9, 6, 0, d, 0, .right⟩⟩

theorem waitingEnemy_step {c d : BitVec 26} (hc : c.toNat < 2 ^ 24) (hd : d.toNat < 2 ^ 24)
    (cfg : EnemyConfig) (p : EnemyPins) :
    (waitingEnemy c d).step cfg false false p = waitingEnemy (c + 1) (d + 1) := by
  have h1 : c ≠ Enemy.decisionCount := ne_of_toNat_lt hc
  have h2 : c ≠ Enemy.decisionCount + 1 := ne_of_toNat_lt (hc.trans (by decide))
  have h3 : d ≠ Bullet.flightLimit := ne_of_toNat_lt (hd.trans (by decide))
  rw [Enemy.step_stand rfl rfl rfl rfl h1 h2, enemyBullets, Bullet.step_fly rfl rfl h3 rfl]
  rfl

/-- An enemy on its way down the left edge, at a frame pulse. -/
def driftingEnemy (y : Coord) (c b : BitVec 26) : Enemy :=
  ⟨⟨true, true⟩, 0, y, 0, 0, .down, 4, c, ⟨.BULLET_BOOM, ⟨true, true⟩, 19, 9, 6, 0, 0, b, .right⟩⟩

/-- Each frame pulse takes the enemy one pixel further. -/
theorem driftingEnemy_step {y : Coord} {c b : BitVec 26} (hy : y + size < 478)
    (hc : c.toNat < 2 ^ 20) (hb : b.toNat < 2 ^ 20) (cfg : EnemyConfig) {p q : EnemyPins}
    (hp : p.enable = false) (hq : q.enable = false) :
    ((driftingEnemy y c b).step cfg false false p).step cfg false true q =
      driftingEnemy (y + 1) (c + 1 + 1) (b + 1 + 1) := by
  have hc' : (c + 1).toNat ≤ 2 ^ 20 := by bv_omega
  have hb' : (b + 1).toNat ≤ 2 ^ 20 := by bv_omega
  have h1 : c ≠ Enemy.decisionCount := ne_of_toNat_lt (hc.trans (by decide))
  have h2 : c ≠ Enemy.decisionCount + 1 := ne_of_toNat_lt (hc.trans (by decide))
  have h3 : c + 1 ≠ Enemy.decisionCount := ne_of_toNat_lt (hc'.trans_lt (by decide))
  have h4 : c + 1 ≠ Enemy.decisionCount + 1 := ne_of_toNat_lt (hc'.trans_lt (by decide))
  have h5 : b ≠ Bullet.boomLimit := ne_of_toNat_lt (hb.trans (by decide))
  have h6 : b + 1 ≠ Bullet.boomLimit := ne_of_toNat_lt (hb'.trans_lt (by decide))
  rw [Enemy.step_down hp rfl h1 h2, enemyBullets, Bullet.step_boom rfl h5,
    Enemy.step_down hq rfl h3 h4, enemyBullets, Bullet.step_boom rfl h6,
    if_pos ⟨rfl, hy⟩]
  simp [driftingEnemy, Edge.step]

/-- The menu after power-up: both enemies have the same registers, and tank 1 is at `y`. -/
def atMenu (e : Edge) (y yMotion : Coord) (enemy : Enemy) : Sys :=
  ⟨false, .BG, .OPM, ⟨.state0, 0⟩, 5, 5, 5, 5, 5, ⟨.OTHER, e, 2, y, 0, yMotion, .right⟩,
    ⟨.FIRST, e, 2, 30, 0, 2, .right⟩, enemy, enemy, ⟨.NOBULLET, e, 21, y + 9, 6, 0, 0, 0, .right⟩,
    ⟨.NOBULLET, e, 21, 39, 6, 0, 0, 0, .right⟩⟩

/-- Before the first frame pulse. -/
def waiting (c d : BitVec 26) : Sys := atMenu ⟨false, false⟩ 458 2 (waitingEnemy c d)

theorem waiting_step {c d : BitVec 26} (hc : c.toNat < 2 ^ 24) (hd : d.toNat < 2 ^ 24) :
    (waiting c d).step (press 0 false) = waiting (c + 1) (d + 1) :=
  Sys.mk.injEq .. ▸ ⟨rfl, rfl, rfl, rfl, rfl, rfl, rfl, rfl, rfl, rfl, rfl,
    waitingEnemy_step hc hd _ _, waitingEnemy_step hc hd _ _, rfl, rfl⟩

/-- During the frame pulses. -/
def drift (y : Coord) (c b : BitVec 26) : Sys := atMenu ⟨true, true⟩ 460 0 (driftingEnemy y c b)

theorem drift_step {y : Coord} {c b : BitVec 26} (hy : y + size < 478) (hc : c.toNat < 2 ^ 20)
    (hb : b.toNat < 2 ^ 20) :
    ((drift y c b).step (press 0 false)).step (press 0 true) =
      drift (y + 1) (c + 1 + 1) (b + 1 + 1) :=
  Sys.mk.injEq .. ▸ ⟨rfl, rfl, rfl, rfl, rfl, rfl, rfl, rfl, rfl, rfl, rfl,
    driftingEnemy_step hy hc hb _ rfl rfl, driftingEnemy_step hy hc hb _ rfl rfl, rfl, rfl⟩

/-- 460 frame pulses, and then some keys. -/
def driftPins (keys : ℕ → BitVec 32) (k : ℕ) : Pins :=
  if k < 920 then press 0 (k % 2 == 1) else press (keys (k - 920)) false

/-- The same after `2 ^ 24 - 1` cycles without anything. -/
def waitPins (keys : ℕ → BitVec 32) (n : ℕ) : Pins := driftPins keys (n - (2 ^ 24 - 1))

/-- The menu is left alone until the enemies choose a heading, and then while they drift down the
left edge of the field to the place where the player's tank starts. -/
def drifting (keys : ℕ → BitVec 32) : Run := runOf (waitPins keys)

section Drifting

variable {keys : ℕ → BitVec 32}

theorem drifting_input {w : ℕ} (hw : w = 2 ^ 24 - 1) (k : ℕ) :
    (drifting keys).input (w + k) = driftPins keys k := by
  rw [drifting, runOf_input, waitPins, ← hw, Nat.add_sub_cancel_left]

theorem drifting_wait {n : ℕ} (hn : n + 1 ≤ 2 ^ 24) : (drifting keys).input n = press 0 false := by
  rw [drifting, runOf_input, waitPins, show n - (2 ^ 24 - 1) = 0 by omega]
  rfl

theorem drifting_waiting (j : ℕ) (hj : 5 + j ≤ 2 ^ 24) :
    (drifting keys).state (4 + j) =
      waiting (BitVec.ofNat 26 (5 + j)) (BitVec.ofNat 26 (3 + j)) := by
  induction j with
  | zero =>
    have h0 : (drifting keys).state 0 = powerUp.step (press 0x14 false) := rfl
    have h4 : (drifting keys).state 4 = _ := (drifting keys).succ 3
    rw [Nat.add_zero, h4, Sync.Run.succ, Sync.Run.succ, Sync.Run.succ, h0,
      drifting_wait (by omega), drifting_wait (by omega), drifting_wait (by omega),
      drifting_wait (by omega)]
    decide +kernel
  | succ j ih =>
    rw [show 4 + (j + 1) = 4 + j + 1 from rfl, (drifting keys).succ, ih (by omega),
      drifting_wait (by omega),
      waiting_step (by rw [BitVec.toNat_ofNat]; omega) (by rw [BitVec.toNat_ofNat]; omega)]
    exact congrArg₂ waiting (BitVec.ofNat_add (5 + j) 1).symm (BitVec.ofNat_add (3 + j) 1).symm

theorem drifting_drift {w : ℕ} (hw : w = 2 ^ 24 - 1) (j : ℕ) (hj : j ≤ 458) :
    (drifting keys).state (w + (4 + 2 * j)) =
      drift (BitVec.ofNat 10 (1 + j)) (BitVec.ofNat 26 (2 + 2 * j))
        (BitVec.ofNat 26 (1 + 2 * j)) := by
  induction j with
  | zero =>
    have hs := @drifting_waiting keys (w - 4) (by omega)
    rw [show 4 + (w - 4) = w by omega, show 5 + (w - 4) = 2 ^ 24 by omega,
      show 3 + (w - 4) = 2 ^ 24 - 2 by omega] at hs
    have hpulse : ∀ k < 920, driftPins keys k = press 0 (k % 2 == 1) := fun k hk => if_pos hk
    rw [(drifting keys).state_add, hs, funext (drifting_input hw)]
    show ((((waiting _ _).step (driftPins keys 0)).step (driftPins keys 1)).step
      (driftPins keys 2)).step (driftPins keys 3) = _
    rw [hpulse 0 (by decide), hpulse 1 (by decide), hpulse 2 (by decide), hpulse 3 (by decide)]
    decide +kernel
  | succ j ih =>
    have hin0 : (drifting keys).input (w + (4 + 2 * j)) = press 0 false := by
      rw [drifting_input hw, driftPins, if_pos (by omega), show (4 + 2 * j) % 2 = 0 by omega]
      rfl
    have hin1 : (drifting keys).input (w + (4 + 2 * j) + 1) = press 0 true := by
      rw [Nat.add_assoc, drifting_input hw, driftPins, if_pos (by omega),
        show (4 + 2 * j + 1) % 2 = 1 by omega]
      rfl
    have hy : BitVec.ofNat 10 (1 + j) + size < 478 := by
      rw [add_size_lt_iff (by rw [BitVec.toNat_ofNat]; omega), BitVec.toNat_ofNat]
      show _ < 478
      omega
    rw [show w + (4 + 2 * (j + 1)) = w + (4 + 2 * j) + 1 + 1 by omega, (drifting keys).succ,
      (drifting keys).succ, ih (by omega), hin0, hin1,
      drift_step hy (by rw [BitVec.toNat_ofNat]; omega) (by rw [BitVec.toNat_ofNat]; omega)]
    rw [show 1 + (j + 1) = 1 + j + 1 from rfl, show 2 + 2 * (j + 1) = 2 + 2 * j + 1 + 1 by omega,
      show 1 + 2 * (j + 1) = 1 + 2 * j + 1 + 1 by omega]
    simp only [BitVec.ofNat_add]
    rfl

/-- In the first cycle of the game the bullets are still where the enemies were before it began. -/
theorem drifting_game {w : ℕ} (hw : w = 2 ^ 24 - 1) (k : ℕ) :
    (drifting keys).state (w + 920 + k) =
      Sync.Run.states Sys.step (fun k => press (keys k) false) (drift 459 918 917) k := by
  have hin : (fun k => (drifting keys).input (w + 920 + k)) = fun k => press (keys k) false := by
    funext k
    rw [Nat.add_assoc, drifting_input hw, driftPins, if_neg (by omega), Nat.add_sub_cancel_left]
  rw [(drifting keys).state_add, drifting_drift hw 458 le_rfl, hin]
  rfl

end Drifting

/-! ### The hits of a game -/

/-- **No hit on the player is lost** if and only if the two enemies never hit in the same cycle. -/
theorem no_hit_lost_iff (R : Run) (a k : ℕ) (h : Playing R a k) :
    ((R.state (a + 1 + k)).playerLives.toNat : ℤ) =
        5 - Nat.count (Hit1 R a) k - Nat.count (Hit2 R a) k ↔
      ∀ j < k, ¬ (Hit1 R a j ∧ Hit2 R a j) := by
  have hlives := playerLives_count R h
  have hsum := Sync.count_or_add_count_and (Hit1 R a) (Hit2 R a) k
  rw [← Nat.count_iff_forall_not]
  constructor <;> intro h' <;> omega

/-- Enter, down, enter: the shortest way into a one-player game with one enemy. -/
def oneEnemyKeys (n : ℕ) : BitVec 32 := [0x28, 0x28, 0, 0x51, 0, 0x28, 0x28, 0, 0].getD n 0

/-- Against one enemy, which hits the player in the first cycle of the game. -/
theorem no_hit_lost_iff_oneEnemy :
    Hit1 (drifting oneEnemyKeys) (2 ^ 24 - 1 + 920 + 8) 0 ∧
      ((((drifting oneEnemyKeys).state (2 ^ 24 - 1 + 920 + 8 + 1 + 2)).playerLives.toNat : ℤ) =
          5 - Nat.count (Hit1 (drifting oneEnemyKeys) (2 ^ 24 - 1 + 920 + 8)) 2 -
            Nat.count (Hit2 (drifting oneEnemyKeys) (2 ^ 24 - 1 + 920 + 8)) 2 ↔
        ∀ j < 2, ¬ (Hit1 (drifting oneEnemyKeys) (2 ^ 24 - 1 + 920 + 8) j ∧
          Hit2 (drifting oneEnemyKeys) (2 ^ 24 - 1 + 920 + 8) j)) := by
  obtain ⟨w, hw⟩ : ∃ w, w = 2 ^ 24 - 1 := ⟨_, rfl⟩
  have hs := fun k => @drifting_game oneEnemyKeys w hw k
  rw [← hw]
  refine ⟨?_, no_hit_lost_iff (drifting oneEnemyKeys) (w + 920 + 8) 2 ⟨?_, fun j hj => ?_⟩⟩
  · rw [Hit1, show w + 920 + 8 + 1 + 0 = w + 920 + 9 by omega, hs]
    decide +kernel
  · rw [hs]
    decide +kernel
  · rw [show w + 920 + 8 + 1 + j = w + 920 + (9 + j) by omega, hs]
    interval_cases j <;> decide +kernel

/-- Both enemies hit the player in the first cycle of the game, and one of the two hits is lost. -/
theorem hit_lost :
    ¬ ∀ (R : Run) (a k : ℕ), Playing R a k →
      ((R.state (a + 1 + k)).playerLives.toNat : ℤ) =
        5 - Nat.count (Hit1 R a) k - Nat.count (Hit2 R a) k := by
  intro h
  obtain ⟨w, hw⟩ : ∃ w, w = 2 ^ 24 - 1 := ⟨_, rfl⟩
  have hs := fun k => @drifting_game twoEnemyKeys w hw k
  have hplay : Playing (drifting twoEnemyKeys) (w + 920 + 10) 1 := by
    constructor
    · rw [hs]
      decide +kernel
    · intro j hj
      rw [show w + 920 + 10 + 1 + j = w + 920 + (11 + j) by omega, hs]
      interval_cases j <;> decide +kernel
  have hlives := h (drifting twoEnemyKeys) (w + 920 + 10) 1 hplay
  have h4 : ((drifting twoEnemyKeys).state (w + 920 + 10 + 1 + 1)).playerLives = 4 := by
    rw [show w + 920 + 10 + 1 + 1 = w + 920 + 12 by omega, hs]
    decide +kernel
  have h1 : Hit1 (drifting twoEnemyKeys) (w + 920 + 10) 0 := by
    rw [Hit1, show w + 920 + 10 + 1 + 0 = w + 920 + 11 by omega, hs]
    decide +kernel
  have h2 : Hit2 (drifting twoEnemyKeys) (w + 920 + 10) 0 := by
    rw [Hit2, show w + 920 + 10 + 1 + 0 = w + 920 + 11 by omega, hs]
    decide +kernel
  rw [h4, Nat.count_succ, Nat.count_succ, if_pos h1, if_pos h2] at hlives
  simp at hlives

end TankBattle
