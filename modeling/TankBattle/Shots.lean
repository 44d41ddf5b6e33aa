import TankBattle.Lives

/-!
# Shots and hits

Six pairs of a bullet machine and a target share one hit test: the bullet's position is in the box
of the target while neither the flight nor the explosion is drawn.  The signal is a level, and in
`NOBULLET` and `NOBULLET_WAIT` the position is the muzzle of the shooter.

* `Pair`: the pairs, with their machine, target and hit signal;
* `shooter_step`, `next_idle`, ...: what one edge does to a bullet machine;
* `one_hit_per_shot`: as long as no muzzle of an idle machine is inside a target, each shot hits at
  most once, and nobody hits before the first shot of a game;
* `struck`: a game in which a shot hits; `ramming_hits`: one in which a muzzle does.
-/

namespace TankBattle

open Sys

/-- A bullet machine and one of its targets. -/
inductive Pair
  | bullets1_enemy1
  | bullets1_enemy2
  | bullets1_tank2
  | bullets2_tank1
  | enemy1_tank1
  | enemy2_tank1
  deriving DecidableEq

namespace Sys

/-- The bullet machine of a pair. -/
def shooter (s : Sys) : Pair → Bullet
  | .bullets1_enemy1 | .bullets1_enemy2 | .bullets1_tank2 => s.bullets1
  | .bullets2_tank1 => s.bullets2
  | .enemy1_tank1 => s.enemy1.bullet
  | .enemy2_tank1 => s.enemy2.bullet

/-- The position of the target of a pair. -/
def target (s : Sys) : Pair → Coord × Coord
  | .bullets1_enemy1 => (s.enemy1.xPos, s.enemy1.yPos)
  | .bullets1_enemy2 => (s.enemy2.xPos, s.enemy2.yPos)
  | .bullets1_tank2 => (s.tank2.xPos, s.tank2.yPos)
  | .bullets2_tank1 | .enemy1_tank1 | .enemy2_tank1 => (s.tank1.xPos, s.tank1.yPos)

/-- The enable by which the hit signal of a pair is gated; `player1_hit` has none. -/
def active (s : Sys) : Pair → Bool
  | .bullets1_enemy1 | .enemy1_tank1 => s.enable1
  | .bullets1_enemy2 | .enemy2_tank1 => s.enable12
  | .bullets1_tank2 => s.enable2
  | .bullets2_tank1 => true

/-- The hit signal of a pair. -/
def hit (s : Sys) : Pair → Bool
  | .bullets1_enemy1 => s.playerHitEn1
  | .bullets1_enemy2 => s.playerHitEn2
  | .bullets1_tank2 => s.player2Hit
  | .bullets2_tank1 => s.player1Hit
  | .enemy1_tank1 => s.en1HitPlayer
  | .enemy2_tank1 => s.en2HitPlayer

/-- The bullet of a pair is inside the box of its target, and the target is active. -/
def inside (s : Sys) (p : Pair) : Bool :=
  s.active p && inBox (s.shooter p).xPos (s.shooter p).yPos (s.target p).1 (s.target p).2

/-- The muzzle of a machine without a bullet is inside the active target. -/
def MuzzleInside (s : Sys) (p : Pair) : Prop :=
  ((s.shooter p).state = .NOBULLET ∨ (s.shooter p).state = .NOBULLET_WAIT) ∧ s.inside p = true

end Sys

theorem hit_eq (s : Sys) (p : Pair) : s.hit p = (s.inside p && (s.shooter p).idle) := by
  cases p <;>
    simp [hit, inside, active, shooter, target, playerHitEn1, playerHitEn2, Sys.player2Hit,
      Sys.player1Hit, en1HitPlayer, en2HitPlayer, wallPlayerHit, player2Hit, player1Hit,
      Enemy.playerHit, enemyWallPlayerHit, enemy1Pins, enemy2Pins, hits, Bool.and_assoc]

/-! ### The bullet machine -/

/-- The machine of a pair makes a step of `Bullet.step`. -/
theorem shooter_step (i : Pins) (s : Sys) (p : Pair) :
    ∃ (fire stopBullet : Bool) (dir : Dir) (m : Mids),
      (s.step i).shooter p = (s.shooter p).step fire s.resetTank i.vgaVS stopBullet dir m := by
  cases p <;> exact ⟨_, _, _, _, rfl⟩

section Machine

variable {fire stopBullet : Bool} {b : Bullet}

/-- Without a bullet the machine stays idle or starts a flight. -/
theorem next_idle (h : b.state = .NOBULLET ∨ b.state = .NOBULLET_WAIT) :
    b.nextState fire stopBullet = .NOBULLET ∨ b.nextState fire stopBullet = .NOBULLET_WAIT ∨
      b.nextState fire stopBullet = .BULLET := by
  rcases h with h | h <;> simp only [Bullet.nextState, h]
  · split_ifs <;> simp
  · simp

/-- `BULLET_LOAD` is never entered. -/
theorem next_ne_BULLET_LOAD : b.nextState fire stopBullet ≠ .BULLET_LOAD := by
  unfold Bullet.nextState
  cases b.state <;> simp only <;> (try split_ifs) <;> simp

/-- After a flight that ran out, and after an explosion, there is no bullet. -/
theorem next_wait (h : b.state = .BULLET_WAIT ∨ b.state = .BOOM_WAIT) :
    b.nextState fire stopBullet = .NOBULLET := by
  rcases h with h | h <;> simp only [Bullet.nextState, h]

end Machine

/-- An explosion counts cycles; the position stays where the flight was interrupted. -/
theorem Bullet.step_boom {b : Bullet} (h : b.state = .BULLET_BOOM) (hc : b.bCounter ≠ boomLimit)
    (fire frameClk stopBullet : Bool) (dir : Dir) (m : Mids) :
    b.step fire false frameClk stopBullet dir m =
      { b with edge := b.edge.step frameClk, counter := 0, bCounter := b.bCounter + 1 } := by
  simp [Bullet.step, Bullet.nextState, Bullet.bulletLoad, Bullet.posIn, Bullet.drawBullet,
    Bullet.counterIn, Bullet.bCounterIn, Bullet.isBulletOutIn, h, hc]

/-- The last cycle of an explosion. -/
theorem Bullet.step_boom_last {b : Bullet} (h : b.state = .BULLET_BOOM)
    (hc : b.bCounter = boomLimit) (fire frameClk stopBullet : Bool) (dir : Dir) (m : Mids) :
    (b.step fire false frameClk stopBullet dir m).state = .BOOM_WAIT ∧
      (b.step fire false frameClk stopBullet dir m).xPos = b.xPos ∧
      (b.step fire false frameClk stopBullet dir m).yPos = b.yPos := by
  simp [Bullet.step, Bullet.nextState, Bullet.bulletLoad, Bullet.posIn, Bullet.drawBullet, h, hc]

/-! ### Runs -/

/-- The state of the machine of a pair in a cycle of a run. -/
def shot (R : Run) (p : Pair) (n : ℕ) : BulletState := ((R.state n).shooter p).state

/-- The machine of the pair enters `BULLET`. -/
def Entry (R : Run) (p : Pair) (n : ℕ) : Prop :=
  0 < n ∧ shot R p (n - 1) ≠ .BULLET ∧ shot R p n = .BULLET

/-- The hit signal of the pair is high in a cycle of a game. -/
def Fires (R : Run) (p : Pair) (n : ℕ) : Prop :=
  (R.state n).InGame ∧ (R.state n).hit p = true

theorem shot_succ (R : Run) (p : Pair) (n : ℕ) :
    (R.state n).resetTank = true ∧ shot R p (n + 1) = .NOBULLET ∨
      (R.state n).resetTank = false ∧ ∃ fire stopBullet,
        shot R p (n + 1) = ((R.state n).shooter p).nextState fire stopBullet := by
  obtain ⟨fire, stop, dir, m, h⟩ := shooter_step (R.input n) (R.state n) p
  rw [shot, R.succ, h, Bullet.step]
  cases (R.state n).resetTank
  · exact Or.inr ⟨rfl, fire, stop, rfl⟩
  · exact Or.inl ⟨rfl, rfl⟩

theorem shot_ne_BULLET_LOAD (R : Run) (p : Pair) (n : ℕ) : shot R p n ≠ .BULLET_LOAD := by
  cases n with
  | zero =>
    obtain ⟨i, s, -, -, hs⟩ := R.start
    obtain ⟨fire, stop, dir, m, h⟩ := shooter_step i s p
    rw [shot, hs, h, Bullet.step]
    cases s.resetTank
    · exact next_ne_BULLET_LOAD
    · exact BulletState.noConfusion
  | succ n =>
    rcases shot_succ R p n with ⟨-, h⟩ | ⟨-, fire, stop, h⟩
    · rw [h]; decide
    · rw [h]; exact next_ne_BULLET_LOAD

/-- A machine without a bullet gets one by entering `BULLET`. -/
theorem shot_idle_succ (R : Run) (p : Pair) {n : ℕ}
    (h : shot R p n = .NOBULLET ∨ shot R p n = .NOBULLET_WAIT) (he : ¬ Entry R p (n + 1)) :
    shot R p (n + 1) = .NOBULLET ∨ shot R p (n + 1) = .NOBULLET_WAIT := by
  rcases shot_succ R p n with ⟨-, hs⟩ | ⟨-, fire, stop, hs⟩
  · exact Or.inl hs
  · rcases @next_idle fire stop _ h with h' | h' | h'
    · exact Or.inl (hs.trans h')
    · exact Or.inr (hs.trans h')
    · refine absurd ⟨Nat.succ_pos n, ?_, hs.trans h'⟩ he
      rw [Nat.add_sub_cancel]
      rcases h with h | h <;> rw [h] <;> decide

/-- A machine whose hit is not raised by an idle muzzle has no bullet in the next cycle. -/
theorem shot_hit_succ (R : Run) (p : Pair) {n : ℕ} (hh : (R.state n).hit p = true)
    (hi : ¬ (R.state n).MuzzleInside p) : shot R p (n + 1) = .NOBULLET := by
  rw [hit_eq, Bool.and_eq_true] at hh
  obtain ⟨hin, hidle⟩ := hh
  have hwait : shot R p n = .BULLET_WAIT ∨ shot R p n = .BOOM_WAIT := by
    have hload := shot_ne_BULLET_LOAD R p n
    have hno : ¬ (shot R p n = .NOBULLET ∨ shot R p n = .NOBULLET_WAIT) := fun h => hi ⟨h, hin⟩
    simp only [Bullet.idle, Bullet.drawBoom, Bullet.drawBullet, Bool.and_eq_true,
      Bool.not_eq_true', beq_eq_false_iff_ne] at hidle
    obtain ⟨hboom, hbullet⟩ := hidle
    revert hload hno hboom hbullet
    show shot R p n ≠ _ → _ → shot R p n ≠ _ → shot R p n ≠ _ → _
    cases shot R p n <;> simp
  rcases shot_succ R p n with ⟨-, hs⟩ | ⟨-, fire, stop, hs⟩
  · exact hs
  · rw [hs, next_wait hwait]

/-- **Each shot hits its target at most once**, and nobody hits before the first shot of a game, as
long as no muzzle of an idle machine is inside the target. -/
theorem one_hit_per_shot (R : Run) (p : Pair)
    (hi : ∀ n, (R.state n).InGame → ¬ (R.state n).MuzzleInside p) :
    (∀ m n, m < n → Fires R p m → Fires R p n → ∃ k, m < k ∧ k ≤ n ∧ Entry R p k) ∧
      ∀ r n, r < n → (R.state r).resetTank = true → Fires R p n →
        ∃ k, r < k ∧ k ≤ n ∧ Entry R p k := by
  have harm : ∀ n, Fires R p n →
      ¬ (shot R p n = .NOBULLET ∨ shot R p n = .NOBULLET_WAIT) := by
    rintro n ⟨hg, hh⟩ h
    rw [hit_eq, Bool.and_eq_true] at hh
    exact hi n hg ⟨h, hh.1⟩
  have hstay : ∀ n, ¬ ¬ (shot R p n = .NOBULLET ∨ shot R p n = .NOBULLET_WAIT) →
      ¬ Entry R p (n + 1) →
      ¬ ¬ (shot R p (n + 1) = .NOBULLET ∨ shot R p (n + 1) = .NOBULLET_WAIT) :=
    fun n h he => not_not.2 (shot_idle_succ R p (not_not.1 h) he)
  constructor
  · intro m n hmn hm hn
    refine Sync.rearmed_between harm (fun k hk => not_not.2 (Or.inl ?_)) hstay hmn hm hn
    exact shot_hit_succ R p hk.2 (hi k hk.1)
  · intro r n hrn hr hn
    have h1 : shot R p (r + 1) = .NOBULLET := by
      rcases shot_succ R p r with ⟨-, hs⟩ | ⟨hr', -⟩
      · exact hs
      · rw [hr] at hr'
        cases hr'
    obtain ⟨k, hk1, hk2, hk⟩ :=
      Sync.rearmed_before harm hstay (show r + 1 ≤ n from hrn) (not_not.2 (Or.inl h1)) hn
    exact ⟨k, by omega, hk2, hk⟩

/-! ### A shot that hits -/

/-- Tank 1 turns up and fires along the left edge. -/
def strikeKeys (n : ℕ) : BitVec 32 :=
  if n < 8 then twoPlayerKeys n else if n < 14 then 0x1A else if n = 16 then 0x06 else 0

/-- Keys with 83 frame pulses. -/
def strikePins (keys : ℕ → BitVec 32) (n : ℕ) : Pins :=
  press (keys n) (decide (8 ≤ n) && decide (n < 174) && n % 2 == 0)

theorem strikeKeys_end {n : ℕ} (hn : 17 ≤ n) : strikeKeys n = 0 := by
  rw [strikeKeys, if_neg (by omega), if_neg (by omega), if_neg (by omega)]

theorem strikePins_end {keys : ℕ → BitVec 32} {n : ℕ} (hk : keys n = 0) (hn : 174 ≤ n) :
    strikePins keys n = press 0 false := by
  have h : ¬ n < 174 := by omega
  simp [strikePins, hk, h]

/-- The registers of the players after these pulses, with the bullet of tank 1 in the given state;
tank 2 and its bullet are given. -/
def strikeDuel (t : Tank) (b : Bullet) (state : BulletState) (bCounter : BitVec 26) : Duel :=
  ⟨⟨.OTHER, ⟨false, false⟩, 2, 454, 0, 0, .up⟩, t,
    ⟨state, ⟨false, false⟩, 11, 46, 0, ~~~6 + 1, 0, bCounter, .up⟩, b, 5, 5⟩

section Strike

variable {t : Tank} {b : Bullet}
  (h : (strikeDuel t b .BULLET_BOOM 0).step (press 0 false) = strikeDuel t b .BULLET_BOOM 1)

include h

/-- While the explosion lasts and no key is pressed, only its counter moves, if this is so in its
first cycle. -/
theorem strikeDuel_next {c : BitVec 26} (hc : c ≠ Bullet.boomLimit) :
    (strikeDuel t b .BULLET_BOOM c).Next (press 0 false) (strikeDuel t b .BULLET_BOOM (c + 1)) := by
  have h5 : (5 : BitVec 6) ≠ 0 := by decide
  have hb1 : bullets1 false false (strikeDuel t b .BULLET_BOOM c).stopBullet1 0 .up (midsOf 2 454)
      (strikeDuel t b .BULLET_BOOM c).bullets1 = (strikeDuel t b .BULLET_BOOM (c + 1)).bullets1 :=
    Bullet.step_boom (b := (strikeDuel t b .BULLET_BOOM c).bullets1) rfl hc ..
  -- nothing else depends on the counter
  exact ⟨rfl, by decide, h5, h5, Duel.mk.injEq .. ▸ ⟨congrArg Duel.tank1 h, congrArg Duel.tank2 h,
    hb1, congrArg Duel.bullets2 h, congrArg Duel.player1Lives h, congrArg Duel.player2Lives h⟩⟩

/-- An explosion without keys and frame pulses. -/
theorem strike_boom {R : Run} {m k j : ℕ}
    (h0 : InDuel (strikeDuel t b .BULLET_BOOM (BitVec.ofNat 26 k)) (R.state m))
    (hin : ∀ n, m ≤ n → R.input n = press 0 false) (hj : k + j ≤ 15 * 2 ^ 18) :
    InDuel (strikeDuel t b .BULLET_BOOM (BitVec.ofNat 26 (k + j))) (R.state (m + j)) := by
  induction j with
  | zero => exact h0
  | succ j ih =>
    have hc : BitVec.ofNat 26 (k + j) ≠ Bullet.boomLimit := by
      intro h
      have := congrArg BitVec.toNat h
      rw [BitVec.toNat_ofNat, Bullet.boomLimit_toNat] at this
      omega
    rw [← Nat.add_assoc, ← Nat.add_assoc, R.succ, hin _ (by omega), BitVec.ofNat_add]
    exact (ih (by omega)).next (strikeDuel_next h hc)

end Strike

/-- Tank 2 stays at its place and is hit. -/
def struck : Run := runOf (strikePins strikeKeys)

/-- The registers of the players then, with the bullet of tank 1 in the given state. -/
def struckDuel : BulletState → BitVec 26 → Duel :=
  strikeDuel ⟨.OTHER, ⟨false, false⟩, 2, 32, 0, 0, .right⟩
    ⟨.NOBULLET, ⟨false, false⟩, 21, 41, 6, 0, 0, 0, .right⟩

/-- The registers after the explosion, when tank 2 has lost a life. -/
def struckEnd : Duel :=
  { struckDuel .NOBULLET 0 with
    bullets1 := ⟨.NOBULLET, ⟨false, false⟩, 11, 454, 0, ~~~6 + 1, 0, 0, .up⟩
    player2Lives := 4 }

theorem struck_input {n : ℕ} (hn : 180 ≤ n) : struck.input n = press 0 false :=
  strikePins_end (strikeKeys_end (by omega)) (by omega)

theorem struck_boom (j : ℕ) (hj : 24 + j ≤ 15 * 2 ^ 18) :
    InDuel (struckDuel .BULLET_BOOM (BitVec.ofNat 26 (24 + j))) (struck.state (180 + j)) :=
  strike_boom (by decide +kernel) (by decide +kernel) (fun n => struck_input) hj

/-- The cycle after the explosion, in which the hit is tested. -/
theorem struck_tested {m : ℕ} (hm : m = 157 + 15 * 2 ^ 18) :
    InDuel (struckDuel .BOOM_WAIT (Bullet.boomLimit + 1)) (struck.state m) := by
  have h := struck_boom (15 * 2 ^ 18 - 24) (by omega)
  rw [show m = 180 + (15 * 2 ^ 18 - 24) + 1 by omega, struck.succ, struck_input (by omega)]
  exact h.next (by decide +kernel)

/-- From then on nothing happens. -/
theorem struck_end {m n : ℕ} (hm : m = 157 + 15 * 2 ^ 18) (hn : m < n) :
    InDuel struckEnd (struck.state n) := by
  have hend : InDuel struckEnd (struck.state (m + 1)) := by
    rw [struck.succ, struck_input (by omega)]
    exact (struck_tested hm).next (by decide +kernel)
  have hin : ∀ n, m < n → struck.input n = press 0 false := fun n _ => struck_input (by omega)
  exact (hend.swing (fun k => hin _ (by omega)) (fun k => hin _ (by omega)) (by decide +kernel)
    (by decide +kernel) hn).elim id id

/-- No muzzle of an idle machine is inside tank 2. -/
theorem struck_not_muzzleInside (n : ℕ) : ¬ (struck.state n).MuzzleInside .bullets1_tank2 := by
  rintro ⟨hidle, hin⟩
  obtain ⟨m, hm⟩ : ∃ m, m = 157 + 15 * 2 ^ 18 := ⟨_, rfl⟩
  rcases (by omega : n < 18 ∨ 18 ≤ n ∧ n < 180 ∨ 180 ≤ n ∧ n < m ∨ n = m ∨ m < n)
    with hn | ⟨h1, h2⟩ | ⟨h1, h2⟩ | rfl | hn
  · have : ∀ k < 18, (struck.state k).inside .bullets1_tank2 ≠ true := by decide +kernel
    exact this n hn hin
  · have : ∀ k < 162, ¬ (shot struck .bullets1_tank2 (18 + k) = .NOBULLET ∨
        shot struck .bullets1_tank2 (18 + k) = .NOBULLET_WAIT) := by decide +kernel
    have := this (n - 18) (by omega)
    rw [show 18 + (n - 18) = n by omega] at this
    exact this hidle
  · have h := struck_boom (n - 180) (by omega)
    rw [show 180 + (n - 180) = n by omega] at h
    have hb : (struck.state n).bullets1.state = .BULLET_BOOM :=
      congrArg (fun d => d.bullets1.state) h.duel
    rcases hidle with hi | hi <;> cases hi.symm.trans hb
  · have hb : (struck.state n).bullets1.state = .BOOM_WAIT :=
      congrArg (fun d => d.bullets1.state) (struck_tested hm).duel
    rcases hidle with hi | hi <;> cases hi.symm.trans hb
  · have hd := (struck_end hm hn).duel
    have h1 : (struck.state n).bullets1 = struckEnd.bullets1 := congrArg Duel.bullets1 hd
    have h2 : (struck.state n).tank2 = struckEnd.tank2 := congrArg Duel.tank2 hd
    simp only [inside, shooter, target, h1, h2, Bool.and_eq_true] at hin
    exact absurd hin.2 (by decide +kernel)

/-- Tank 2 is hit when the explosion is over. -/
theorem struck_fires {m : ℕ} (hm : m = 157 + 15 * 2 ^ 18) : Fires struck .bullets1_tank2 m := by
  have h := struck_tested hm
  have h2 : (struck.state m).enable2 = true := by simp [enable2, h.state]
  have hhit : (struckDuel .BOOM_WAIT (Bullet.boomLimit + 1)).player2Hit = true := by decide +kernel
  rw [← h.duel] at hhit
  refine ⟨Or.inr h.state, ?_⟩
  rw [hit, Sys.player2Hit, player2Hit, h2, Bool.true_and]
  exact hhit

/-- Tank 2 is hit in this run; a second hit would need a second shot. -/
theorem one_hit_per_shot_struck :
    Fires struck .bullets1_tank2 (157 + 15 * 2 ^ 18) ∧
    (∀ m n, m < n → Fires struck .bullets1_tank2 m → Fires struck .bullets1_tank2 n →
        ∃ k, m < k ∧ k ≤ n ∧ Entry struck .bullets1_tank2 k) ∧
      ∀ r n, r < n → (struck.state r).resetTank = true → Fires struck .bullets1_tank2 n →
        ∃ k, r < k ∧ k ≤ n ∧ Entry struck .bullets1_tank2 k :=
  ⟨struck_fires rfl,
    one_hit_per_shot struck .bullets1_tank2 fun n _ => struck_not_muzzleInside n⟩

/-- When two tanks have run into one another, the muzzle of each is inside the other one: both lose
lives although nobody has fired since the game began. -/
theorem ramming_hits :
    ¬ ∀ (R : Run) (p : Pair),
      (∀ m n, m < n → Fires R p m → Fires R p n → ∃ k, m < k ∧ k ≤ n ∧ Entry R p k) ∧
        ∀ r n, r < n → (R.state r).resetTank = true → Fires R p n →
          ∃ k, r < k ∧ k ≤ n ∧ Entry R p k := by
  intro h
  have hr : (ramming.state 5).resetTank = true := by decide +kernel
  have hf : Fires ramming .bullets1_tank2 217 := by
    unfold Fires InGame
    decide +kernel
  obtain ⟨k, h1, h2, -, -, hk⟩ := (h ramming .bullets1_tank2).2 5 217 (by omega) hr hf
  have : ∀ j < 218, shot ramming .bullets1_tank2 j ≠ .BULLET := by decide +kernel
  exact this k (by omega) hk

end TankBattle
