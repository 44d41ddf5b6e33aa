import TankBattle.Flights

/-!
# How a bullet is launched

The bullet modules with all their pins free.  The motion registers and the muzzle are loaded from
`is_bullet_out`, which is itself loaded from the shooter in the same cycles: they are one cycle
behind it when the flight begins.

* `Gun.clock`, `BulletRun`: one edge, and the runs, of a bullet module;
* `shooterRun`: the bullet machines of the design make such runs from every tank reset on;
* `Launch`: the two cycles before a flight;
* `flies_as_fired_iff`: a bullet flies in the direction that `is_bullet_out` holds if and only if
  the shooter does not turn between the two.
-/

namespace TankBattle

open Sys

/-- What a bullet module samples in one cycle; only `bullets1` and `bullets2` read the keys, only
`bullets2` the mode. -/
structure BulletPins where
  reset : Bool
  frameClk : Bool
  stopBullet : Bool
  twoPlayersMode : Bool
  keycode : BitVec 32
  dir : Dir
  mids : Mids

/-- The three bullet modules. -/
inductive Gun
  | bullets1
  | bullets2
  | enemy_bullets
  deriving DecidableEq

namespace Gun

/-- One edge of a bullet module. -/
def clock (g : Gun) (i : BulletPins) (b : Bullet) : Bullet :=
  match g with
  | .bullets1 =>
      TankBattle.bullets1 i.reset i.frameClk i.stopBullet i.keycode i.dir i.mids b
  | .bullets2 =>
      TankBattle.bullets2 i.twoPlayersMode i.reset i.frameClk i.stopBullet i.keycode i.dir i.mids b
  | .enemy_bullets => enemyBullets i.reset i.frameClk i.stopBullet i.dir i.mids b

/-- The condition for leaving `NOBULLET`. -/
def fire (g : Gun) (i : BulletPins) : Bool :=
  match g with
  | .bullets1 => keyOn i.keycode 0x06
  | .bullets2 => keyOn i.keycode 0x0b && i.twoPlayersMode
  | .enemy_bullets => true

theorem clock_eq (g : Gun) (i : BulletPins) (b : Bullet) :
    g.clock i b = b.step (g.fire i) i.reset i.frameClk i.stopBullet i.dir i.mids := by
  cases g <;> rfl

/-- The registers after a reset, whatever they held before. -/
def Started (g : Gun) (b : Bullet) : Prop :=
  ∃ (i : BulletPins) (b₀ : Bullet), i.reset = true ∧ b = g.clock i b₀

end Gun

/-- The runs of a bullet module. -/
abbrev BulletRun (g : Gun) := Sync.Run g.clock g.Started

/-! ### The bullet machines of the design -/

section Design

/-- The module of the bullet machine of a pair. -/
def Pair.gun : Pair → Gun
  | .bullets1_enemy1 | .bullets1_enemy2 | .bullets1_tank2 => .bullets1
  | .bullets2_tank1 => .bullets2
  | .enemy1_tank1 | .enemy2_tank1 => .enemy_bullets

/-- The direction of the shooter of a pair. -/
def Sys.dirOf (s : Sys) : Pair → Dir
  | .bullets1_enemy1 | .bullets1_enemy2 | .bullets1_tank2 => s.tank1.isTankDir
  | .bullets2_tank1 => s.tank2.isTankDir
  | .enemy1_tank1 => s.enemy1.isEnemyOut
  | .enemy2_tank1 => s.enemy2.isEnemyOut

/-- The pins of the bullet machine of a pair. -/
def Sys.bulletPins (i : Pins) (s : Sys) (p : Pair) : BulletPins :=
  ⟨s.resetTank, i.vgaVS, s.stopOf p, s.twoPlayersMode, i.keycode, s.dirOf p, s.midsFor p⟩

theorem shooter_clock (i : Pins) (s : Sys) (p : Pair) :
    (s.step i).shooter p = p.gun.clock (s.bulletPins i p) (s.shooter p) := by
  cases p <;> rfl

/-- The bullet machine of a pair from a tank reset on. -/
def shooterRun (R : Run) (p : Pair) {r : ℕ} (hr : (R.state r).resetTank = true) :
    BulletRun p.gun where
  state n := (R.state (r + 1 + n)).shooter p
  input n := (R.state (r + 1 + n)).bulletPins (R.input (r + 1 + n)) p
  start := ⟨(R.state r).bulletPins (R.input r) p, (R.state r).shooter p, hr, by
    rw [Nat.add_zero, R.succ, shooter_clock]⟩
  succ n := by rw [← Nat.add_assoc, R.succ, shooter_clock]

end Design

/-! ### From one state to the next -/

namespace Bullet

variable {b : Bullet} {fire reset frameClk stopBullet : Bool} {dir : Dir} {m : Mids}

/-- `NOBULLET_WAIT` lasts one cycle and comes after `NOBULLET`. -/
theorem step_NOBULLET_WAIT
    (h : (b.step fire reset frameClk stopBullet dir m).state = .NOBULLET_WAIT) :
    reset = false ∧ b.state = .NOBULLET := by
  cases reset with
  | true => simp [step] at h
  | false =>
    refine ⟨rfl, ?_⟩
    cases hs : b.state <;> simp only [step, nextState, hs, Bool.false_eq_true, if_false] at h <;>
      (try split_ifs at h) <;> first | rfl | cases h

/-- A flight begins after `NOBULLET_WAIT`, or after `BULLET_LOAD`. -/
theorem step_BULLET (h : b.state ≠ .BULLET)
    (hs : (b.step fire reset frameClk stopBullet dir m).state = .BULLET) :
    reset = false ∧ (b.state = .NOBULLET_WAIT ∨ b.state = .BULLET_LOAD) := by
  cases reset with
  | true => simp [step] at hs
  | false =>
    refine ⟨rfl, ?_⟩
    cases hb : b.state <;> simp only [step, nextState, hb, Bool.false_eq_true, if_false] at hs <;>
      (try split_ifs at hs) <;> simp_all

theorem step_ne_BULLET_LOAD :
    (b.step fire reset frameClk stopBullet dir m).state ≠ .BULLET_LOAD := by
  cases reset with
  | true => simp [step]
  | false => exact next_ne_BULLET_LOAD

/-- Without a bullet the direction of the shooter is latched. -/
theorem step_latch (h : b.state = .NOBULLET ∨ b.state = .NOBULLET_WAIT) :
    (b.step fire false frameClk stopBullet dir m).isBulletOut = dir := by
  simp [step, isBulletOutIn, h]

/-- In a flight the latched direction is kept. -/
theorem step_keep (h : b.state = .BULLET) :
    (b.step fire false frameClk stopBullet dir m).isBulletOut = b.isBulletOut := by
  simp [step, isBulletOutIn, h]

theorem motionIn_injective : Function.Injective motionIn := by
  intro d e h
  cases d <;> cases e <;> first | rfl | exact absurd h (by decide)

end Bullet

/-! ### Launches -/

section Launch

variable {g : Gun} (R : BulletRun g)

/-- In cycle `c` the module is still in `NOBULLET`, and two cycles later the bullet flies. -/
structure Launch (c : ℕ) : Prop where
  idle : (R.state c).state = .NOBULLET
  wait : (R.state (c + 1)).state = .NOBULLET_WAIT
  flight : (R.state (c + 2)).state = .BULLET

theorem bulletRun_zero : (R.state 0).state = .NOBULLET := by
  obtain ⟨i, b₀, hr, hs⟩ := R.start
  rw [hs, g.clock_eq, hr]
  rfl

theorem bulletRun_ne_BULLET_LOAD (n : ℕ) : (R.state n).state ≠ .BULLET_LOAD := by
  cases n with
  | zero => rw [bulletRun_zero]; decide
  | succ n => rw [R.succ, g.clock_eq]; exact Bullet.step_ne_BULLET_LOAD

/-- Every flight is launched. -/
theorem exists_launch {n : ℕ} (h : (R.state n).state ≠ .BULLET)
    (hs : (R.state (n + 1)).state = .BULLET) : ∃ c, n = c + 1 ∧ Launch R c := by
  have hwait : (R.state n).state = .NOBULLET_WAIT := by
    rw [R.succ, g.clock_eq] at hs
    exact (Bullet.step_BULLET h hs).2.resolve_right (bulletRun_ne_BULLET_LOAD R n)
  cases n with
  | zero => rw [bulletRun_zero] at hwait; cases hwait
  | succ c =>
    refine ⟨c, rfl, ?_, hwait, hs⟩
    rw [R.succ, g.clock_eq] at hwait
    exact (Bullet.step_NOBULLET_WAIT hwait).2

/-- The motion is loaded with the direction of the shooter in the first of the two cycles,
`is_bullet_out` with the one in the second. -/
theorem Launch.loads {c : ℕ} (h : Launch R c) :
    (R.state (c + 2)).Flies (R.input c).dir ∧
      (R.state (c + 2)).isBulletOut = (R.input (c + 1)).dir := by
  obtain ⟨hidle, hwait, hflight⟩ := h
  have hout : (R.state (c + 1)).isBulletOut = (R.input c).dir := by
    have hr := hwait
    rw [R.succ, g.clock_eq] at hr ⊢
    rw [(Bullet.step_NOBULLET_WAIT hr).1]
    exact Bullet.step_latch (Or.inl hidle)
  have hne : (R.state (c + 1)).state ≠ .BULLET := by rw [hwait]; decide
  rw [R.succ (c + 1), g.clock_eq] at hflight ⊢
  refine ⟨hout ▸ (Bullet.step_load hne hflight).2.2, ?_⟩
  rw [(Bullet.step_BULLET hne hflight).1]
  exact Bullet.step_latch (Or.inr hwait)

/-- The motion registers hold the step of the direction in `is_bullet_out`. -/
def FliesAsFired (b : Bullet) : Prop := b.Flies b.isBulletOut

theorem Launch.fliesAsFired_iff {c : ℕ} (h : Launch R c) :
    FliesAsFired (R.state (c + 2)) ↔ (R.input (c + 1)).dir = (R.input c).dir := by
  obtain ⟨hm, ho⟩ := h.loads
  rw [FliesAsFired, Bullet.Flies, ho, show ((R.state (c + 2)).xMotion, (R.state (c + 2)).yMotion) =
    Bullet.motionIn (R.input c).dir from hm, Bullet.motionIn_injective.eq_iff, eq_comm]

/-- Both are kept in the flight. -/
theorem fliesAsFired_succ {n : ℕ} (h : (R.state n).state = .BULLET)
    (hs : (R.state (n + 1)).state = .BULLET) :
    FliesAsFired (R.state (n + 1)) ↔ FliesAsFired (R.state n) := by
  have hr : (R.input n).reset = false := by
    rw [R.succ, g.clock_eq] at hs
    cases hr : (R.input n).reset with
    | true => rw [hr] at hs; simp [Bullet.step] at hs
    | false => rfl
  rw [R.succ, g.clock_eq, hr]
  rw [FliesAsFired, Bullet.Flies, (Bullet.step_airborne (Or.inl h)).2.2.1,
    (Bullet.step_airborne (Or.inl h)).2.2.2, Bullet.step_keep h]
  rfl

/-- **A bullet flies the way it was fired** in every state of a run if and only if the shooter never
turns between the two cycles of a launch. -/
theorem flies_as_fired_iff :
    (∀ n, (R.state n).state = .BULLET → FliesAsFired (R.state n)) ↔
      ∀ c, Launch R c → (R.input (c + 1)).dir = (R.input c).dir := by
  constructor
  · intro h c hc
    exact (Launch.fliesAsFired_iff R hc).1 (h (c + 2) hc.flight)
  · intro h n
    induction n with
    | zero =>
      intro hs
      rw [bulletRun_zero] at hs
      cases hs
    | succ n ih =>
      intro hs
      by_cases hn : (R.state n).state = .BULLET
      · exact (fliesAsFired_succ R hn hs).2 (ih hn)
      · obtain ⟨c, rfl, hc⟩ := exists_launch R hn hs
        exact (Launch.fliesAsFired_iff R hc).2 (h c hc)

end Launch

/-- The shooter faces to the right when the key c is pressed, and up from the next cycle on. -/
def turningShot : BulletRun .bullets1 :=
  Sync.Run.feed (Gun.clock .bullets1)
    (s := ⟨.NOBULLET, ⟨false, false⟩, 119, 109, 6, 0, 0, 0, .right⟩)
    ⟨⟨true, false, false, false, 0, .right, midsOf 100 100⟩, powerUp.bullets1, rfl, by decide⟩
    fun n => ⟨false, false, false, false, 0x06, if n = 0 then .right else .up, midsOf 100 100⟩

/-- The bullet flies to the right from the middle of the right edge, with `is_bullet_out` up. -/
theorem turningShot_flies :
    ¬ ∀ (g : Gun) (R : BulletRun g) (n : ℕ), (R.state n).state = .BULLET →
      FliesAsFired (R.state n) := by
  intro h
  have hs : (turningShot.state 2).state = .BULLET := by decide
  have hnot : ¬ FliesAsFired (turningShot.state 2) := by
    unfold FliesAsFired Bullet.Flies
    decide
  exact hnot (h .bullets1 turningShot 2 hs)

end TankBattle
