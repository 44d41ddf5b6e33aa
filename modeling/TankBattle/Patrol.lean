import TankBattle.Tracks

/-!
# An enemy on its own

The enemy modules with all their pins free and an `idx` register that takes any value in any cycle,
which covers every stream of stop signals.  The position registers are advanced in every cycle; the
motion registers are non-zero only in the cycle after a pulse of the frame clock detector, and the
detector never pulses twice in a row.

* `Enemy.clock`, `EnemyRun`: one edge, and the runs, of an enemy module;
* `motionIn_faces`: a frame pulse decides on no step, or on one pixel the way the enemy faces;
* `Patrolling`: the invariant of position, motion and detector;
* `enemy_patrols`: where an enemy goes after a reset, and how fast.
-/

namespace TankBattle

/-- What an enemy module samples in one cycle, with the next value of its `idx`. -/
structure EnemyInput where
  reset : Bool
  frameClk : Bool
  pins : EnemyPins
  idx : BitVec 3

/-- One edge of an enemy module with a free `idx`. -/
def Enemy.clock (c : EnemyConfig) (i : EnemyInput) (e : Enemy) : Enemy :=
  { e.step c i.reset i.frameClk i.pins with idx := i.idx }

/-- The two enemies. -/
inductive Foe
  | one
  | two
  deriving DecidableEq

/-- `enemy1` or `enemy2`. -/
def Foe.config : Foe → EnemyConfig
  | .one => enemy1Config
  | .two => enemy2Config

/-- The enemies of the design. -/
def Sys.enemyOf (s : Sys) : Foe → Enemy
  | .one => s.enemy1
  | .two => s.enemy2

/-- The detector's registers hold 0 or two samples of a frame clock; the other registers hold
anything. -/
def Enemy.Sampled (e : Enemy) : Prop := e.edge.rising = true → e.edge.delayed = true

/-- The runs of an enemy module. -/
abbrev EnemyRun (f : Foe) := Sync.Run (Enemy.clock f.config) Enemy.Sampled

theorem Enemy.sampled_of_cleared {e : Enemy} (h : e.edge = ⟨false, false⟩) : e.Sampled := by
  simp [Sampled, h]

/-- The place is in the enemies' part of the field. -/
def InPatrol (x y : ℤ) : Prop := 2 ≤ x ∧ x ≤ 458 ∧ 22 ≤ y ∧ y ≤ 459

/-- The motion registers of a step of one pixel. -/
def pixel : Dir → Coord × Coord
  | .right => (1, 0)
  | .up => (0, ~~~1 + 1)
  | .left => (~~~1 + 1, 0)
  | .down => (0, 1)

/-- A step of one pixel from the enemies' part of the field does not wrap. -/
theorem InPatrol.toNat_add {x y : Coord} (h : InPatrol x.toNat y.toNat) (d : Dir) :
    ((x + (pixel d).1).toNat : ℤ) = x.toNat + (stride 1 (some d)).1 ∧
      ((y + (pixel d).2).toNat : ℤ) = y.toNat + (stride 1 (some d)).2 := by
  obtain ⟨h1, h2, h3, h4⟩ := h
  cases d <;> simp only [pixel, stride] <;> constructor <;> bv_omega

namespace Enemy

/-- The motion registers are zero. -/
def Resting (e : Enemy) : Prop := (e.xMotion, e.yMotion) = (0, 0)

/-- A frame pulse decides on no step, or on one pixel in the direction that it makes the enemy face,
to a place in the enemies' part of the field. -/
theorem motionIn_faces (p : EnemyPins) {e : Enemy} (h : InPatrol e.xPos.toNat e.yPos.toNat) :
    ((e.motionIn p).1, (e.motionIn p).2.1) = (0, 0) ∨
      ((e.motionIn p).1, (e.motionIn p).2.1) = pixel (e.motionIn p).2.2 ∧
        InPatrol (e.xPos.toNat + (stride 1 (some (e.motionIn p).2.2)).1)
          (e.yPos.toNat + (stride 1 (some (e.motionIn p).2.2)).2) := by
  obtain ⟨h1, h2, h3, h4⟩ := h
  have hx : (e.xPos + size).toNat = e.xPos.toNat + 19 := toNat_add_size (by omega)
  have hy : (e.yPos + size).toNat = e.yPos.toNat + 19 := toNat_add_size (by omega)
  unfold motionIn InPatrol
  split_ifs with _ _ hg _ hg _ hg _ hg <;> (try exact Or.inl rfl) <;> right <;>
    refine ⟨rfl, ?_⟩ <;> simp only [stride] <;> rw [BitVec.lt_def] at hg <;>
    simp only [hx, hy, BitVec.reduceToNat] at hg <;> omega

/-- The enemy is about to make the step of one pixel that it faces, to a place in its part of the
field. -/
structure Stepping (e : Enemy) : Prop where
  motion : (e.xMotion, e.yMotion) = pixel e.isEnemyOut
  rising : e.edge.rising = false
  target : InPatrol (e.xPos.toNat + (stride 1 (some e.isEnemyOut)).1)
    (e.yPos.toNat + (stride 1 (some e.isEnemyOut)).2)

/-- The invariant of an enemy module after a reset. -/
structure Patrolling (e : Enemy) : Prop where
  place : InPatrol e.xPos.toNat e.yPos.toNat
  motion : e.Resting ∨ e.Stepping

variable {c : EnemyConfig} {i : EnemyInput} {e : Enemy}

theorem clock_edge (c : EnemyConfig) (i : EnemyInput) (e : Enemy) :
    (e.clock c i).edge = e.edge.step i.frameClk := rfl

theorem clock_reset (h : i.reset = true) :
    (e.clock c i).xPos = c.xStart ∧ (e.clock c i).yPos = c.yStart ∧ (e.clock c i).Resting := by
  simp [clock, step, h, Resting]

theorem clock_pos (h : i.reset = false) :
    (e.clock c i).xPos = e.xPos + e.xMotion ∧ (e.clock c i).yPos = e.yPos + e.yMotion := by
  simp [clock, step, h]

theorem clock_pulse (h : i.reset = false) (hp : e.edge.rising = true) :
    ((e.clock c i).xMotion, (e.clock c i).yMotion) =
        ((e.motionIn i.pins).1, (e.motionIn i.pins).2.1) ∧
      (e.clock c i).isEnemyOut = (e.motionIn i.pins).2.2 := by
  simp [clock, step, h, hp]

/-- The motion registers are loaded at a frame pulse only. -/
theorem resting_clock (hp : e.edge.rising = false) : (e.clock c i).Resting := by
  simp [clock, step, hp, Resting]

theorem Resting.clock_pos (h : e.Resting) (hr : i.reset = false) :
    (e.clock c i).xPos = e.xPos ∧ (e.clock c i).yPos = e.yPos := by
  obtain ⟨hx, hy⟩ := Enemy.clock_pos (c := c) (e := e) hr
  obtain ⟨mx, my⟩ := Prod.mk.inj h
  rw [hx, hy, mx, my]
  exact ⟨BitVec.add_zero _, BitVec.add_zero _⟩

theorem Stepping.clock_pos (h : e.Stepping) (hpl : InPatrol e.xPos.toNat e.yPos.toNat)
    (hr : i.reset = false) :
    ((e.clock c i).xPos.toNat : ℤ) = e.xPos.toNat + (stride 1 (some e.isEnemyOut)).1 ∧
      ((e.clock c i).yPos.toNat : ℤ) = e.yPos.toNat + (stride 1 (some e.isEnemyOut)).2 := by
  obtain ⟨hx, hy⟩ := Enemy.clock_pos (c := c) (e := e) hr
  have mx : e.xMotion = (pixel e.isEnemyOut).1 := congrArg Prod.fst h.motion
  have my : e.yMotion = (pixel e.isEnemyOut).2 := congrArg Prod.snd h.motion
  rw [hx, hy, mx, my]
  exact hpl.toNat_add e.isEnemyOut

/-- The detector does not pulse twice in a row. -/
theorem sampled_step (c : EnemyConfig) (reset frameClk : Bool) (p : EnemyPins) (e : Enemy) :
    (e.step c reset frameClk p).Sampled := by
  intro hr
  simp only [step, Edge.step, Bool.and_eq_true] at hr ⊢
  exact hr.1

/-- One edge keeps the invariant. -/
theorem Patrolling.clock (h : e.Patrolling) (hr : i.reset = false) (hd : e.Sampled) :
    (e.clock c i).Patrolling := by
  cases hp : e.edge.rising with
  | true =>
    -- a pulse finds the motion registers at zero, so the guard is read where the step begins
    have hrest : e.Resting := h.motion.resolve_right fun hs => by rw [hs.rising] at hp; cases hp
    obtain ⟨hx, hy⟩ := hrest.clock_pos (c := c) hr
    obtain ⟨hm, ho⟩ := clock_pulse (c := c) hr hp
    have hrising : (e.clock c i).edge.rising = false := by
      simp [clock_edge, Edge.step, hd hp]
    refine ⟨by rw [hx, hy]; exact h.place, ?_⟩
    rcases motionIn_faces i.pins h.place with h0 | ⟨h1, h2⟩
    · exact Or.inl (hm.trans h0)
    · exact Or.inr ⟨by rw [hm, ho, h1], hrising, by rw [ho, hx, hy]; exact h2⟩
  | false =>
    refine ⟨?_, Or.inl (resting_clock hp)⟩
    rcases h.motion with hrest | hs
    · obtain ⟨hx, hy⟩ := hrest.clock_pos (c := c) hr
      rw [hx, hy]
      exact h.place
    · obtain ⟨hx, hy⟩ := hs.clock_pos (c := c) h.place hr
      rw [hx, hy]
      exact hs.target

end Enemy

section Runs

variable {f : Foe} (R : EnemyRun f)

theorem sampled_run (n : ℕ) : (R.state n).Sampled :=
  R.invariant (fun _ h => h)
    (fun i e _ => Enemy.sampled_step f.config i.reset i.frameClk i.pins e) n

theorem patrolling_run {r n : ℕ} (hr : (R.input r).reset = true) (hrn : r < n) :
    (R.state n).Patrolling := by
  have hreset : ∀ m, (R.input m).reset = true → (R.state (m + 1)).Patrolling := by
    intro m hm
    obtain ⟨hx, hy, hrest⟩ := Enemy.clock_reset (c := f.config) (e := R.state m) hm
    rw [R.succ]
    refine ⟨?_, Or.inl hrest⟩
    rw [hx, hy]
    cases f <;> (unfold InPatrol; decide)
  refine R.invariant_until (m := r + 1) (k := n) (hreset r hr) (fun m _ _ h => ?_) hrn le_rfl
  cases hm : (R.input m).reset with
  | true => exact R.succ m ▸ hreset m hm
  | false => exact h.clock hm (sampled_run R m)

/-- `frame_clk` is high in this cycle and was low in the one before. -/
def FrameRises (n : ℕ) : Prop :=
  (R.input n).frameClk = true ∧ (R.state n).edge.delayed = false

/-- The motion registers are non-zero two cycles after a rising edge of `frame_clk` only. -/
theorem frameRises_of_not_resting {n : ℕ} (hn : ¬ (R.state (n + 2)).Resting) :
    FrameRises R n := by
  have hp : (R.state (n + 1)).edge.rising = true := by
    by_contra hp
    rw [R.succ] at hn
    exact hn (Enemy.resting_clock (by simpa using hp))
  rw [R.succ, Enemy.clock_edge] at hp
  simpa [Edge.step, FrameRises] using hp

/-- **An enemy stays in its part of the field and keeps its speed**: in every cycle after a reset
its motion is zero, or one pixel the way it faces; then it is zero again in the next cycle, the
enemy moves by exactly that pixel, and `frame_clk` had a rising edge two cycles ago. -/
theorem enemy_patrols {r n : ℕ} (hr : (R.input r).reset = true) (hrn : r < n) :
    InPatrol (R.state n).xPos.toNat (R.state n).yPos.toNat ∧
      (¬ (R.state n).Resting →
        ((R.state n).xMotion, (R.state n).yMotion) = pixel (R.state n).isEnemyOut ∧
          (R.state (n + 1)).Resting ∧ ∃ k, n = k + 2 ∧ FrameRises R k) ∧
      ((R.input n).reset = false →
        ((R.state n).Resting → (R.state (n + 1)).xPos = (R.state n).xPos ∧
          (R.state (n + 1)).yPos = (R.state n).yPos) ∧
        (¬ (R.state n).Resting →
          ((R.state (n + 1)).xPos.toNat : ℤ) = (R.state n).xPos.toNat +
              (stride 1 (some (R.state n).isEnemyOut)).1 ∧
            ((R.state (n + 1)).yPos.toNat : ℤ) = (R.state n).yPos.toNat +
              (stride 1 (some (R.state n).isEnemyOut)).2)) := by
  have h := patrolling_run R hr hrn
  have hstep : ¬ (R.state n).Resting → (R.state n).Stepping := h.motion.resolve_left
  refine ⟨h.place, fun hn => ⟨(hstep hn).motion, ?_, ?_⟩,
    fun hr' => ⟨fun hrest => ?_, fun hn => ?_⟩⟩
  · rw [R.succ]
    exact Enemy.resting_clock (hstep hn).rising
  · -- the cycle right after a reset is at rest
    obtain ⟨k, rfl⟩ : ∃ k, n = k + 2 := by
      refine ⟨n - 2, ?_⟩
      by_contra hlt
      obtain rfl : r = 0 := by omega
      obtain rfl : n = 1 := by omega
      rw [R.succ] at hn
      exact hn (Enemy.clock_reset hr).2.2
    exact ⟨k, rfl, frameRises_of_not_resting R hn⟩
  · rw [R.succ]
    exact hrest.clock_pos hr'
  · rw [R.succ]
    exact (hstep hn).clock_pos h.place hr'

end Runs

/-! ### The enemies of the design -/

section Design

open Sys

variable (R : Run) (m : ℕ)

/-- Enemy 1 of the design. -/
def enemy1Run : EnemyRun .one where
  state n := (R.state (m + 1 + n)).enemy1
  input n := ⟨(R.state (m + 1 + n)).resetTank, (R.input (m + 1 + n)).vgaVS,
    (R.state (m + 1 + n)).enemy1Pins, (R.state (m + 1 + n + 1)).enemy1.idx⟩
  start := by
    rw [Nat.add_zero, R.succ, step_enemy1]
    exact Enemy.sampled_step _ _ _ _ _
  succ n := by
    rw [← Nat.add_assoc, R.succ]
    rfl

/-- Enemy 2 of the design. -/
def enemy2Run : EnemyRun .two where
  state n := (R.state (m + 1 + n)).enemy2
  input n := ⟨(R.state (m + 1 + n)).resetTank, (R.input (m + 1 + n)).vgaVS,
    (R.state (m + 1 + n)).enemy2Pins, (R.state (m + 1 + n + 1)).enemy2.idx⟩
  start := by
    rw [Nat.add_zero, R.succ, step_enemy2]
    exact Enemy.sampled_step _ _ _ _ _
  succ n := by
    rw [← Nat.add_assoc, R.succ]
    rfl

end Design

/-- Enemy 1 is reset and then walks to the left. -/
def walking : EnemyRun .one :=
  Sync.Run.feed (Enemy.clock enemy1Config) (Enemy.sampled_of_cleared (e := powerUp.enemy1) rfl)
    fun n => ⟨n == 0, n % 2 == 0, ⟨2, 458, true, false, 23, 23⟩, 3⟩

theorem enemy_patrols_walking :
    (walking.state 5).Resting ∧ ∃ k, 4 = k + 2 ∧ FrameRises walking k :=
  ((enemy_patrols walking (r := 0) (n := 4) rfl (by decide)).2.1 (by
    unfold Enemy.Resting
    decide +kernel)).2

end TankBattle
