import TankBattle.Lives
import TankBattle.Screen

/-!
# A dead enemy

In a game with two enemies the enables follow the lives, and an enemy without lives is inert: it
stops nobody, hits nobody and is not drawn, until the next reset or the next game.

* `twoEnemies_run`: both enemies' counters stay in range during the game;
* `Inert`, `enemy1_inert`, `enemy2_inert`: what an enemy with its enable low contributes;
* `TwoEnemyGame`, `Over`: the invariant of the stretch from a dead enemy to the next reset or game;
* `enables_follow_lives`: the two together.
-/

namespace TankBattle

open Sys

/-- In a game with two enemies both counters are in range. -/
def TwoEnemies (s : Sys) : Prop :=
  s.state = .GAME1 → s.enNum = 2 → s.enemy1Lives ≤ 5 ∧ s.enemy2Lives ≤ 5

/-- A decrement that the enable gates keeps a counter in range. -/
theorem lives_step_le {i : Pins} {s : Sys} {c : Counter} (h5 : s.lives c ≤ 5)
    (h0 : s.charged c = true → s.lives c ≠ 0) : (s.step i).lives c ≤ 5 := by
  rw [lives_step]
  split_ifs with hl hc
  · exact BitVec.le_refl _
  · have := h0 hc
    bv_omega
  · exact h5

theorem twoEnemies_step (i : Pins) (s : Sys) (hm : MenuOk s) (h : TwoEnemies s) :
    TwoEnemies (s.step i) := by
  intro hs hn
  have hr : s.resetH i = false := not_resetH_of_state (by rw [hs]; decide)
  have hnext : s.nextState i = .GAME1 := by rw [← state_of_not_resetH hr, hs]
  rcases next_GAME1 hnext with h1 | ⟨h1, -⟩
  · have hl : s.livesLoad i = true := by simp [livesLoad, livesActivate, h1]
    have h5 := lives_of_load hl
    exact ⟨h5 .enemy1 ▸ BitVec.le_refl _, h5 .enemy2 ▸ BitVec.le_refl _⟩
  · have hnum : s.enNum = 2 := by
      rw [← hn, enNum, enNum, enDraw_step_done hr (hm.done (Or.inr (Or.inr h1)))]
    obtain ⟨h51, h52⟩ := h h1 hnum
    refine ⟨lives_step_le (c := .enemy1) h51 fun hc => ?_,
      lives_step_le (c := .enemy2) h52 fun hc => ?_⟩
    · simp only [charged, playerHitEn1, wallPlayerHit, Bool.and_eq_true] at hc
      exact enemy1Lives_ne_zero h1 hnum hc.2.1
    · simp only [charged, playerHitEn2, wallPlayerHit, Bool.and_eq_true] at hc
      exact enemy2Lives_ne_zero h1 hc.2.1

theorem twoEnemies_run (R : Run) (n : ℕ) : TwoEnemies (R.state n) := by
  have h := R.invariant (P := fun s => MenuOk s ∧ TwoEnemies s)
    (fun s hs => ⟨menuOk_start hs, fun h => ?_⟩)
    (fun i s h => ⟨menuOk_step i s h.1, twoEnemies_step i s h.1 h.2⟩) n
  · exact h.2
  · obtain ⟨i, t, -, hr, rfl⟩ := hs
    rw [state_of_resetH hr] at h
    cases h

/-- In a game with two enemies the enables follow the lives. -/
theorem TwoEnemies.enable_iff {s : Sys} (h : TwoEnemies s) (hs : s.state = .GAME1)
    (hn : s.enNum = 2) :
    (s.enable1 = true ↔ 0 < s.enemy1Lives) ∧ (s.enable12 = true ↔ 0 < s.enemy2Lives) := by
  obtain ⟨h51, h52⟩ := h hs hn
  constructor
  · simpa [enable1, hs, hn] using fun _ => h52
  · simpa [enable12, hs, hn] using fun _ => h52

/-! ### Inertness -/

/-- An enemy's part in the game, by what it puts out: `stops` are the stop signals of tank 1 and of
the other enemy, `rest` the same signals as far as the other bodies and the letters raise them. -/
structure Inert (enable hit : Bool) (stops rest : Stops × Stops)
    (body bullet boom : Coord → Coord → Bool) : Prop where
  enable : enable = false
  hit : hit = false
  tankStops : stops.1 = rest.1
  enemyStops : stops.2 = rest.2
  body : ∀ drawX drawY, body drawX drawY = false
  bullet : ∀ drawX drawY, bullet drawX drawY = false
  boom : ∀ drawX drawY, boom drawX drawY = false

namespace Sys

/-- The stops of tank 1 and of enemy 2 without those that enemy 1 raises. -/
def restOfEnemy1 (s : Sys) : Stops × Stops :=
  (((nearStops s.tank1.xPos s.tank1.yPos s.tank2.xPos s.tank2.yPos).gate s.enable2).or
      (((nearStops s.tank1.xPos s.tank1.yPos s.enemy2.xPos s.enemy2.yPos).gate s.enable12).or
        (letterStops s.tank1.xPos s.tank1.yPos)),
    ((letterStops s.enemy2.xPos s.enemy2.yPos).or
      (playerStops s.enemy2.xPos s.enemy2.yPos s.tank1.xPos s.tank1.yPos)).gate s.enable12)

/-- The stops of tank 1 and of enemy 1 without those that enemy 2 raises. -/
def restOfEnemy2 (s : Sys) : Stops × Stops :=
  (((nearStops s.tank1.xPos s.tank1.yPos s.enemy1.xPos s.enemy1.yPos).gate s.enable1).or
      (((nearStops s.tank1.xPos s.tank1.yPos s.tank2.xPos s.tank2.yPos).gate s.enable2).or
        (letterStops s.tank1.xPos s.tank1.yPos)),
    ((letterStops s.enemy1.xPos s.enemy1.yPos).or
      (playerStops s.enemy1.xPos s.enemy1.yPos s.tank1.xPos s.tank1.yPos)).gate s.enable1)

/-- Enemy 1 takes no part in the game. -/
def Enemy1Inert (s : Sys) : Prop :=
  Inert s.enable1 s.en1HitPlayer (s.tank1Stops, s.enemy2.stops enemy2Config s.enemy2Pins)
    s.restOfEnemy1 s.isEnemy1Final s.isBulletEn1 s.isBoomEn1

/-- Enemy 2 takes no part in the game. -/
def Enemy2Inert (s : Sys) : Prop :=
  Inert s.enable12 s.en2HitPlayer (s.tank1Stops, s.enemy1.stops enemy1Config s.enemy1Pins)
    s.restOfEnemy2 s.isEnemy2Final s.isBulletEn2 s.isBoomEn2

end Sys

@[simp] theorem Stops.none_or (s : Stops) : Stops.none.or s = s := by
  cases s
  rfl

@[simp] theorem Stops.or_none (s : Stops) : s.or .none = s := by
  cases s
  simp [Stops.or, Stops.none]

@[simp] theorem Stops.gate_false (s : Stops) : s.gate false = .none := rfl

theorem Stops.or_assoc (s t u : Stops) : (s.or t).or u = s.or (t.or u) := by
  simp [Stops.or, Bool.or_assoc]

/-- An enemy is inert while its enable is low. -/
theorem enemy1_inert {s : Sys} (h : s.enable1 = false) : s.Enemy1Inert where
  enable := h
  hit := by simp [en1HitPlayer, Enemy.playerHit, enemyWallPlayerHit, enemy1Pins, h]
  tankStops := by simp [tank1Stops, wallStops, restOfEnemy1, h]
  enemyStops := by simp [Enemy.stops, enemyWallStops, enemy2Pins, restOfEnemy1, h]
  body _ _ := by simp [isEnemy1Final, h]
  bullet _ _ := by simp [isBulletEn1, Bullet.isBullet, h]
  boom _ _ := by simp [isBoomEn1, Bullet.isBoom, h]

theorem enemy2_inert {s : Sys} (h : s.enable12 = false) : s.Enemy2Inert where
  enable := h
  hit := by simp [en2HitPlayer, Enemy.playerHit, enemyWallPlayerHit, enemy2Pins, h]
  tankStops := by simp [tank1Stops, wallStops, restOfEnemy2, h, Stops.or_assoc]
  enemyStops := by simp [Enemy.stops, enemyWallStops, enemy1Pins, restOfEnemy2, h]
  body _ _ := by simp [isEnemy2Final, h]
  bullet _ _ := by simp [isBulletEn2, Bullet.isBullet, h]
  boom _ _ := by simp [isBoomEn2, Bullet.isBoom, h]

/-! ### From the death of an enemy to the next game -/

/-- A game with two enemies is going on or over, and no other one has begun. -/
structure TwoEnemyGame (s : Sys) : Prop where
  selector : s.selector = .OPM_DONE
  done : s.enDraw.state = .done_state
  num : s.enNum = 2
  state : s.state ≠ .GAME_RST2 ∧ s.state ≠ .GAME2

theorem twoEnemyGame_run {R : Run} {n : ℕ} (hs : (R.state n).state = .GAME1)
    (hn : (R.state n).enNum = 2) : TwoEnemyGame (R.state n) :=
  have hm := menuOk_run R n
  ⟨hm.one (by simp [hs]), hm.done (by simp [hs]), hn, by simp [hs]⟩

theorem TwoEnemyGame.step {i : Pins} {s : Sys} (h : TwoEnemyGame s) (hr : s.resetH i = false) :
    TwoEnemyGame (s.step i) := by
  have hen := enDraw_step_done (i := i) hr h.done
  refine ⟨?_, ?_, ?_, ?_, ?_⟩
  · rw [selector_step_done hr (Or.inl h.selector), h.selector]
  · rw [hen, h.done]
  · rw [enNum, hen]
    exact h.num
  · intro hn
    rw [state_of_not_resetH hr] at hn
    rcases next_GAME_RST2 hn with ⟨-, hp⟩ | hn
    · rw [onePlayerMode_iff.2 h.selector] at hp
      cases hp
    · exact h.state.1 hn
  · intro hn
    rw [state_of_not_resetH hr] at hn
    rcases next_GAME2 hn with hn | ⟨hn, -⟩
    · exact h.state.1 hn
    · exact h.state.2 hn

/-- The counter `c` reached 0 in this game. -/
structure Over (c : Counter) (s : Sys) : Prop extends TwoEnemyGame s where
  lives : s.lives c = 0

theorem Over.enable1 {s : Sys} (h : Over .enemy1 s) (hs : s.state ≠ .GAME_RST1) :
    s.enable1 = false := by
  by_contra he
  rw [Bool.not_eq_false] at he
  exact enemy1Lives_ne_zero ((state_of_enable1 he).resolve_left hs) h.num he h.lives

theorem Over.enable12 {s : Sys} (h : Over .enemy2 s) (hs : s.state ≠ .GAME_RST1) :
    s.enable12 = false := by
  by_contra he
  rw [Bool.not_eq_false] at he
  exact enemy2Lives_ne_zero ((state_of_enable12 he).resolve_left hs) he h.lives

theorem Over.step {c : Counter} {i : Pins} {s : Sys} (h : Over c s) (hs : s.state ≠ .GAME_RST1)
    (hc : s.charged c = false) (hr : s.resetH i = false) : Over c (s.step i) := by
  refine ⟨h.toTwoEnemyGame.step hr, ?_⟩
  rw [lives_step, livesLoad_eq_false.2 ⟨hr, hs, h.state.1⟩, hc]
  exact h.lives

/-- A counter that is 0 has not just been loaded. -/
theorem not_resetH_of_lives {c : Counter} {i : Pins} {s : Sys} (h : (s.step i).lives c = 0) :
    s.resetH i = false := by
  by_contra hr
  have hl : s.livesLoad i = true := by
    rw [livesLoad, Bool.eq_true_of_not_eq_false hr]
    simp
  exact absurd ((lives_of_load hl c).symm.trans h) (by decide)

theorem over_run (R : Run) {c : Counter} {m n : ℕ} (hm : Over c (R.state m)) (hmn : m ≤ n)
    (hc : ∀ s, Over c s → s.state ≠ .GAME_RST1 → s.charged c = false)
    (hr : ∀ k, m ≤ k → k < n → (R.state k).resetH (R.input k) = false)
    (hs : ∀ k, m ≤ k → k ≤ n → (R.state k).state ≠ .GAME_RST1) : Over c (R.state n) :=
  R.invariant_until hm
    (fun k h1 h2 h => h.step (hs k h1 (by omega)) (hc _ h (hs k h1 (by omega))) (hr k h1 h2))
    hmn le_rfl

/-- **The enables follow the lives, and a dead enemy is inert**: one whose count is 0 in a cycle of
the game, or in the first one after it, has no part in anything until the next reset or game. -/
theorem enables_follow_lives (R : Run) (m : ℕ) (hs : (R.state m).state = .GAME1)
    (hn : (R.state m).enNum = 2) :
    ((R.state m).enable1 = true ↔ 0 < (R.state m).enemy1Lives) ∧
      ((R.state m).enable12 = true ↔ 0 < (R.state m).enemy2Lives) ∧
      ∀ d n, d = m ∨ d = m + 1 → d ≤ n →
        (∀ k, d ≤ k → k < n → (R.state k).resetH (R.input k) = false) →
        (∀ k, d ≤ k → k ≤ n → (R.state k).state ≠ .GAME_RST1) →
        ((R.state d).enemy1Lives = 0 →
          (R.state n).enemy1Lives = 0 ∧ (R.state n).Enemy1Inert) ∧
        ((R.state d).enemy2Lives = 0 →
          (R.state n).enemy2Lives = 0 ∧ (R.state n).Enemy2Inert) := by
  obtain ⟨he1, he2⟩ := (twoEnemies_run R m).enable_iff hs hn
  have hgame := twoEnemyGame_run hs hn
  have hover : ∀ c d, d = m ∨ d = m + 1 → (R.state d).lives c = 0 → Over c (R.state d) := by
    rintro c d (rfl | rfl) h0
    · exact ⟨hgame, h0⟩
    · rw [R.succ] at h0 ⊢
      exact ⟨hgame.step (not_resetH_of_lives h0), h0⟩
  refine ⟨he1, he2, fun d n hd hdn hr hg => ?_⟩
  refine ⟨fun h0 => ?_, fun h0 => ?_⟩
  · have h := over_run R (hover .enemy1 d hd h0) hdn (fun s h hs => ?_) hr hg
    · exact ⟨h.lives, enemy1_inert (h.enable1 (hg n hdn le_rfl))⟩
    · simp [charged, playerHitEn1, wallPlayerHit, h.enable1 hs]
  · have h := over_run R (hover .enemy2 d hd h0) hdn (fun s h hs => ?_) hr hg
    · exact ⟨h.lives, enemy2_inert (h.enable12 (hg n hdn le_rfl))⟩
    · simp [charged, playerHitEn2, wallPlayerHit, h.enable12 hs]

/-- Enemy 2 is on its way down from its place when the game begins, because of what an earlier game
has left in `idx`; tank 1 drives to the right and up into it. -/
def hunting : Run :=
  Sync.Run.feed Sys.step
    (s := ({ powerUp with enemy2 := { powerUp.enemy2 with idx := 4 } }).step (press 0x14 false))
    ⟨_, _, rfl, by decide, rfl⟩ fun n =>
      if n < 13 then press (twoEnemyKeys n) false
      else press (if n < 29 then 0x07 else 0x1A) (n % 2 == 0)

/-- The muzzle of the tank is then inside enemy 2, which has lost its last life in cycle 310; four
cycles later the tank drives on through it. -/
theorem enables_follow_lives_hunting :
    (hunting.state 309).enable12 = true ∧ 0 < (hunting.state 309).enemy2Lives ∧
      (hunting.state 314).enemy2Lives = 0 ∧ (hunting.state 314).Enemy2Inert := by
  have hlives : (hunting.state 309).enemy2Lives = 1 ∧ (hunting.state 310).enemy2Lives = 0 := by
    decide +kernel
  have hgame : ∀ k < 5, (hunting.state (310 + k)).state = .GAME1 ∧
      (hunting.state (310 + k)).resetH (hunting.input (310 + k)) = false := by decide +kernel
  have hcycle : ∀ k, 310 ≤ k → k ≤ 314 → (hunting.state k).state = .GAME1 ∧
      (hunting.state k).resetH (hunting.input k) = false := fun k h1 h2 => by
    have h := hgame (k - 310) (by omega)
    rwa [show 310 + (k - 310) = k by omega] at h
  obtain ⟨-, he, hdead⟩ := enables_follow_lives hunting 309 (by decide +kernel) (by decide +kernel)
  have hpos : 0 < (hunting.state 309).enemy2Lives := by
    rw [hlives.1]
    decide
  refine ⟨he.2 hpos, hpos, (hdead 310 314 (Or.inr rfl) (by decide) (fun k h1 h2 => ?_)
    fun k h1 h2 => ?_).2 hlives.2⟩
  · exact (hcycle k h1 h2.le).2
  · rw [(hcycle k h1 h2).1]
    decide

end TankBattle
