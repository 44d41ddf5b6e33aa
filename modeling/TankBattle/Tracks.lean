import Mathlib.Data.BitVec
import TankBattle.Menu

/-!
# Where the tanks and enemies are

A tank moves in steps of two pixels and an enemy in steps of one, each by motion registers that a
frame pulse has loaded.  What is common to both is proved for a `Mover`.

* `Mover.Heads`: the direction that the motion registers hold;
* `Mover.Free`: no stop signal stands against that direction;
* `OnGrid`: the body is inside the border, on multiples of its step, and so it is after the step
  that it is about to take;
* `OnGrid.move`: moving and deciding on the next step keeps it there;
* `onGrid_run`, `enemies_onGrid_run`: all bodies are on the grid during a game.
-/

namespace TankBattle

open Sys

/-- The position and motion registers of a tank or an enemy. -/
structure Mover where
  xPos : Coord
  yPos : Coord
  xMotion : Coord
  yMotion : Coord
  deriving DecidableEq

/-- The mover of a tank. -/
def Tank.mover (t : Tank) : Mover := ⟨t.xPos, t.yPos, t.xMotion, t.yMotion⟩

/-- The mover of an enemy. -/
def Enemy.mover (e : Enemy) : Mover := ⟨e.xPos, e.yPos, e.xMotion, e.yMotion⟩

/-- The motion registers hold a step of `k` pixels in the given direction, or none, that leads to a
place inside the border. -/
def Mover.Heads (b : Mover) (k : Coord) : Option Dir → Prop
  | none => b.xMotion = 0 ∧ b.yMotion = 0
  | some .right => b.xMotion = k ∧ b.yMotion = 0 ∧ b.xPos.toNat + k.toNat ≤ 460
  | some .up => b.xMotion = 0 ∧ b.yMotion = ~~~k + 1 ∧ 20 + k.toNat ≤ b.yPos.toNat
  | some .left => b.xMotion = ~~~k + 1 ∧ b.yMotion = 0 ∧ k.toNat ≤ b.xPos.toNat
  | some .down => b.xMotion = 0 ∧ b.yMotion = k ∧ b.yPos.toNat + k.toNat ≤ 462

/-- The body is inside the border, on multiples of its step. -/
structure OnGrid (k : Coord) (b : Mover) : Prop where
  x_mod : b.xPos.toNat % k.toNat = 0
  y_mod : b.yPos.toNat % k.toNat = 0
  x_le : b.xPos.toNat ≤ 460
  y_ge : 20 ≤ b.yPos.toNat
  y_le : b.yPos.toNat ≤ 462
  heads : ∃ m, b.Heads k m

theorem OnGrid.of_heads {k : Coord} {b : Mover} {m : Option Dir} (hm : b.Heads k m)
    (h : b.xPos.toNat % k.toNat = 0 ∧ b.yPos.toNat % k.toNat = 0 ∧ b.xPos.toNat ≤ 460 ∧
      20 ≤ b.yPos.toNat ∧ b.yPos.toNat ≤ 462) : OnGrid k b :=
  ⟨h.1, h.2.1, h.2.2.1, h.2.2.2.1, h.2.2.2.2, m, hm⟩

/-- A step of `k` pixels in a direction, or no step. -/
def stride (k : ℤ) : Option Dir → ℤ × ℤ
  | none => (0, 0)
  | some .right => (k, 0)
  | some .up => (0, -k)
  | some .left => (-k, 0)
  | some .down => (0, k)

/-- The motion registers of a step of two pixels. -/
def twoPixels : Dir → Coord × Coord
  | .right => (2, 0)
  | .up => (0, ~~~2 + 1)
  | .left => (~~~2 + 1, 0)
  | .down => (0, 2)

theorem twoPixels_ne (d : Dir) : twoPixels d ≠ 0 := by cases d <;> decide

theorem twoPixels_inj {d e : Dir} : twoPixels d = twoPixels e ↔ d = e := by
  cases d <;> cases e <;> decide

/-- The registers of a step of two pixels. -/
theorem Mover.Heads.motion {b : Mover} {d : Dir} (h : b.Heads 2 (some d)) :
    (b.xMotion, b.yMotion) = twoPixels d := by
  cases d <;> exact Prod.ext h.1 h.2.1

theorem toNat_back {k : Coord} (hk : k = 1 ∨ k = 2) : (~~~k + 1).toNat = 1024 - k.toNat := by
  rcases hk with rfl | rfl <;> rfl

/-- Where the step leads. -/
theorem Mover.Heads.shift {b : Mover} {k : Coord} (hk : k = 1 ∨ k = 2) {m : Option Dir}
    (h : b.Heads k m) (hb : OnGrid k b) :
    ((b.xPos + b.xMotion).toNat : ℤ) = b.xPos.toNat + (stride k.toNat m).1 ∧
      ((b.yPos + b.yMotion).toNat : ℤ) = b.yPos.toNat + (stride k.toNat m).2 := by
  have hx := hb.x_le
  have hy := hb.y_le
  have hplus : ∀ x : Coord, x.toNat + k.toNat ≤ 462 →
      ((x + k).toNat : ℤ) = x.toNat + k.toNat := fun x hx => by bv_omega
  have hminus : ∀ x : Coord, k.toNat ≤ x.toNat → x.toNat ≤ 462 →
      ((x + (~~~k + 1)).toNat : ℤ) = x.toNat + -k.toNat := fun x h1 h2 => by
    rw [BitVec.toNat_add, toNat_back hk]
    omega
  have hzero : ∀ x : Coord, x + 0 = x := fun x => BitVec.add_zero x
  match m, h with
  | none, ⟨h1, h2⟩ => simp [h1, h2, stride]
  | some .right, ⟨h1, h2, h3⟩ =>
    rw [h1, h2, hzero]
    exact ⟨hplus _ (by omega), (Int.add_zero _).symm⟩
  | some .up, ⟨h1, h2, h3⟩ =>
    rw [h1, h2, hzero]
    exact ⟨(Int.add_zero _).symm, hminus _ (by omega) (by omega)⟩
  | some .left, ⟨h1, h2, h3⟩ =>
    rw [h1, h2, hzero]
    exact ⟨hminus _ h3 (by omega), (Int.add_zero _).symm⟩
  | some .down, ⟨h1, h2, h3⟩ =>
    rw [h1, h2, hzero]
    exact ⟨(Int.add_zero _).symm, hplus _ h3⟩

/-- A step keeps to the multiples of its length inside the border. -/
theorem Mover.Heads.range {b : Mover} {k : Coord} (hk : k = 1 ∨ k = 2) {m : Option Dir}
    (h : b.Heads k m) (hb : OnGrid k b) :
    ((b.xPos.toNat : ℤ) + (stride k.toNat m).1) % k.toNat = 0 ∧
      ((b.yPos.toNat : ℤ) + (stride k.toNat m).2) % k.toNat = 0 ∧
      0 ≤ (b.xPos.toNat : ℤ) + (stride k.toNat m).1 ∧
      (b.xPos.toNat : ℤ) + (stride k.toNat m).1 ≤ 460 ∧
      20 ≤ (b.yPos.toNat : ℤ) + (stride k.toNat m).2 ∧
      (b.yPos.toNat : ℤ) + (stride k.toNat m).2 ≤ 462 := by
  obtain ⟨hxm, hym, hxl, hyg, hyl, -⟩ := hb
  have hk' : k.toNat = 1 ∨ k.toNat = 2 := by rcases hk with rfl | rfl <;> decide
  match m, h with
  | none, _ =>
    simp only [stride]
    generalize k.toNat = K at *
    rcases hk' with rfl | rfl <;> omega
  | some .right, ⟨_, _, h3⟩ | some .up, ⟨_, _, h3⟩ | some .left, ⟨_, _, h3⟩ |
    some .down, ⟨_, _, h3⟩ =>
    simp only [stride]
    generalize k.toNat = K at *
    rcases hk' with rfl | rfl <;> omega

theorem Mover.Heads.toInt {b : Mover} {k : Coord} (hk : k = 1 ∨ k = 2) {m : Option Dir}
    (h : b.Heads k m) : (b.xMotion.toInt, b.yMotion.toInt) = stride k.toNat m := by
  match m, h with
  | none, ⟨h1, h2⟩ | some .right, ⟨h1, h2, _⟩ | some .up, ⟨h1, h2, _⟩ | some .left, ⟨h1, h2, _⟩ |
    some .down, ⟨h1, h2, _⟩ =>
    rw [h1, h2]
    rcases hk with rfl | rfl <;> rfl

theorem abs_stride_le {k : ℤ} (hk : 0 ≤ k) (m : Option Dir) :
    -k ≤ (stride k m).1 ∧ (stride k m).1 ≤ k ∧ -k ≤ (stride k m).2 ∧ (stride k m).2 ≤ k := by
  rcases m with _ | (_ | _ | _ | _) <;> simp only [stride] <;> omega

/-- The stop signal of a direction. -/
def Stops.toward (stop : Stops) : Option Dir → Bool
  | .none => false
  | some .right => stop.right
  | some .up => stop.up
  | some .left => stop.left
  | some .down => stop.down

theorem Stops.or_toward {s t : Stops} {m : Option Dir} :
    (s.or t).toward m = false ↔ s.toward m = false ∧ t.toward m = false := by
  rcases m with _ | (_ | _ | _ | _) <;> simp [Stops.toward, Stops.or]

/-- The stop signal of the direction in the motion registers is low. -/
structure Mover.Free (b : Mover) (k : Coord) (stop : Stops) : Prop where
  right : b.xMotion = k → stop.right = false
  up : b.yMotion = ~~~k + 1 → stop.up = false
  left : b.xMotion = ~~~k + 1 → stop.left = false
  down : b.yMotion = k → stop.down = false

instance (b : Mover) (k : Coord) (stop : Stops) : Decidable (b.Free k stop) :=
  decidable_of_iff ((b.xMotion = k → stop.right = false) ∧
      (b.yMotion = ~~~k + 1 → stop.up = false) ∧ (b.xMotion = ~~~k + 1 → stop.left = false) ∧
      (b.yMotion = k → stop.down = false))
    ⟨fun ⟨h1, h2, h3, h4⟩ => ⟨h1, h2, h3, h4⟩, fun ⟨h1, h2, h3, h4⟩ => ⟨h1, h2, h3, h4⟩⟩

theorem Mover.Heads.free {b : Mover} {k : Coord} {m : Option Dir} {stop : Stops}
    (h : b.Heads k m) (hf : b.Free k stop) : stop.toward m = false :=
  match m, h with
  | none, _ => rfl
  | some .right, ⟨h1, _, _⟩ => hf.right h1
  | some .up, ⟨_, h2, _⟩ => hf.up h2
  | some .left, ⟨h1, _, _⟩ => hf.left h1
  | some .down, ⟨_, h2, _⟩ => hf.down h2

/-- A decision of a frame pulse: no step, or a step of `k` pixels towards a border that is not too
near. -/
def Mover.Decides (b : Mover) (k dx dy : Coord) : Prop :=
  dx = 0 ∧ dy = 0 ∨ dx = k ∧ dy = 0 ∧ b.xPos + size < 476 ∨
    dx = 0 ∧ dy = ~~~k + 1 ∧ 22 < b.yPos ∨ dx = ~~~k + 1 ∧ dy = 0 ∧ 2 < b.xPos ∨
    dx = 0 ∧ dy = k ∧ b.yPos + size < 478

/-- The second body is one step further, or in the same place. -/
def Mover.Shifted (b b' : Mover) (k : ℤ) (m : Option Dir) : Prop :=
  (b'.xPos.toNat : ℤ) = b.xPos.toNat + (stride k m).1 ∧
    (b'.yPos.toNat : ℤ) = b.yPos.toNat + (stride k m).2

section Decides

variable {b : Mover} {k : Coord} {P : Prop} [Decidable P]

theorem Mover.decides_right (h : P → b.xPos + size < 476) :
    b.Decides k (if P then k else 0) 0 := by
  split
  case isTrue hp => exact Or.inr (Or.inl ⟨rfl, rfl, h hp⟩)
  case isFalse => exact Or.inl ⟨rfl, rfl⟩

theorem Mover.decides_up (h : P → 22 < b.yPos) :
    b.Decides k 0 (if P then ~~~k + 1 else 0) := by
  split
  case isTrue hp => exact Or.inr (Or.inr (Or.inl ⟨rfl, rfl, h hp⟩))
  case isFalse => exact Or.inl ⟨rfl, rfl⟩

theorem Mover.decides_left (h : P → 2 < b.xPos) :
    b.Decides k (if P then ~~~k + 1 else 0) 0 := by
  split
  case isTrue hp => exact Or.inr (Or.inr (Or.inr (Or.inl ⟨rfl, rfl, h hp⟩)))
  case isFalse => exact Or.inl ⟨rfl, rfl⟩

theorem Mover.decides_down (h : P → b.yPos + size < 478) :
    b.Decides k 0 (if P then k else 0) := by
  split
  case isTrue hp => exact Or.inr (Or.inr (Or.inr (Or.inr ⟨rfl, rfl, h hp⟩)))
  case isFalse => exact Or.inl ⟨rfl, rfl⟩

end Decides

/-- Moving and deciding on the next step, at the position before the move, keeps a body on the
grid. -/
theorem OnGrid.move {k : Coord} (hk : k = 1 ∨ k = 2) {b b' : Mover} (h : OnGrid k b)
    (hx : b'.xPos = b.xPos + b.xMotion) (hy : b'.yPos = b.yPos + b.yMotion)
    (hd : b.Decides k b'.xMotion b'.yMotion) : OnGrid k b' := by
  obtain ⟨m, hm⟩ := h.heads
  obtain ⟨sx, sy⟩ := hm.shift hk h
  obtain ⟨r1, r2, r3, r4, r5, r6⟩ := hm.range hk h
  obtain ⟨b1, b2, b3, b4⟩ := abs_stride_le (Int.natCast_nonneg k.toNat) m
  rw [← hx] at sx
  rw [← hy] at sy
  rw [← sx] at r1 r3 r4
  rw [← sy] at r2 r5 r6
  have hk' : k.toNat = 1 ∨ k.toNat = 2 := by rcases hk with rfl | rfl <;> decide
  have hxm := h.x_mod
  have hym := h.y_mod
  have hxl := h.x_le
  have hyl := h.y_le
  refine ⟨by exact_mod_cast r1, by exact_mod_cast r2, by omega, by omega, by omega, ?_⟩
  rcases hd with ⟨e1, e2⟩ | ⟨e1, e2, hp⟩ | ⟨e1, e2, hp⟩ | ⟨e1, e2, hp⟩ | ⟨e1, e2, hp⟩
  · exact ⟨none, e1, e2⟩
  · refine ⟨some .right, e1, e2, ?_⟩
    have hp' : b.xPos.toNat + 19 < 476 := (add_size_lt_iff (by omega)).1 hp
    omega
  · refine ⟨some .up, e1, e2, ?_⟩
    have hp' : 22 < b.yPos.toNat := hp
    rcases hk' with e | e <;> rw [e] at hym ⊢ <;> omega
  · refine ⟨some .left, e1, e2, ?_⟩
    have hp' : 2 < b.xPos.toNat := hp
    rcases hk' with e | e <;> rw [e] at hxm ⊢ <;> omega
  · refine ⟨some .down, e1, e2, ?_⟩
    have hp' : b.yPos.toNat + 19 < 478 := (add_size_lt_iff (by omega)).1 hp
    omega

/-! ### The tanks -/

namespace Tank

variable {t : Tank}

/-- The decision of a frame pulse. -/
theorem motionIn_decides (c : TankConfig) (keycode : BitVec 32) (stop : Stops) :
    t.mover.Decides 2 (t.motionIn c keycode stop).1 (t.motionIn c keycode stop).2.1 := by
  unfold motionIn
  dsimp only
  split
  · exact Or.inl ⟨rfl, rfl⟩
  · split
    · exact Mover.decides_up fun h => h.1
    · split
      · exact Mover.decides_down fun h => h.1
      · split
        · exact Mover.decides_left fun h => h.1
        · exact Mover.decides_right fun h => h.1

/-- A frame pulse that moves the tank. -/
def Pulse (t : Tank) : Prop := t.edge.rising = true ∧ t.newInstance = false

instance (t : Tank) : Decidable t.Pulse := inferInstanceAs (Decidable (_ ∧ _))

/-- One edge puts the tank at its start, moves it or leaves it where it is. -/
theorem step_cases (c : TankConfig) (go reset frameClk : Bool) (keycode : BitVec 32)
    (stop : Stops) (t' : Tank) (h : t' = t.step c go reset frameClk keycode stop) :
    t'.mover = ⟨c.xStart, c.yStart, 0, 2⟩ ∨
      reset = false ∧ t.Pulse ∧ t'.mover = ⟨t.xPos + t.xMotion, t.yPos + t.yMotion,
        (t.motionIn c keycode stop).1, (t.motionIn c keycode stop).2.1⟩ ∨
      reset = false ∧ ¬ t.Pulse ∧ t'.mover = t.mover := by
  subst h
  unfold step
  simp only
  split
  case isTrue h => exact Or.inl rfl
  case isFalse h =>
    rw [Bool.not_eq_true, Bool.or_eq_false_iff] at h
    split
    case isTrue hp => exact Or.inr (Or.inl ⟨h.1, ⟨hp, h.2⟩, rfl⟩)
    case isFalse hp => exact Or.inr (Or.inr ⟨h.1, fun hq => hp hq.1, rfl⟩)

/-- The start position of a configuration is on the grid. -/
def StartOk (c : TankConfig) : Prop := OnGrid 2 ⟨c.xStart, c.yStart, 0, 2⟩

theorem onGrid_step {c : TankConfig} (hc : StartOk c) (go reset frameClk : Bool)
    (keycode : BitVec 32) (stop : Stops) (h : OnGrid 2 t.mover) :
    OnGrid 2 (t.step c go reset frameClk keycode stop).mover := by
  rcases t.step_cases c go reset frameClk keycode stop _ rfl with e | ⟨-, -, e⟩ | ⟨-, -, e⟩ <;>
    rw [e]
  · exact hc
  · exact h.move (Or.inr rfl) rfl rfl (motionIn_decides c keycode stop)
  · exact h

/-- A tank that has not yet seen all keys released stands at its start. -/
def Parked (c : TankConfig) (t : Tank) : Prop :=
  t.newInstance = true → t.mover = ⟨c.xStart, c.yStart, 0, 2⟩

theorem parked_step {c : TankConfig} (go reset frameClk : Bool) (keycode : BitVec 32)
    (stop : Stops) : Parked c (t.step c go reset frameClk keycode stop) := by
  intro h
  by_cases hr : (reset || t.newInstance) = true
  · simp only [step, hr, if_true, mover]
  · rw [Bool.not_eq_true, Bool.or_eq_false_iff] at hr
    have hs : t.state = .OTHER := by simpa [newInstance] using hr.2
    have hs' : (t.step c go reset frameClk keycode stop).state = .OTHER := by
      cases hp : t.edge.rising <;> simp [step, hr.1, hr.2, hp, nextState, hs]
    simp [newInstance, hs'] at h

/-- The step that a tank takes at the next edge. -/
def pending (t : Tank) : ℤ × ℤ :=
  if t.Pulse then (t.xMotion.toInt, t.yMotion.toInt) else (0, 0)

/-- One edge without reset moves a tank by the step that its motion registers hold, and only at a
frame pulse. -/
theorem shifted_step {c : TankConfig} (hp : Parked c t) (go frameClk : Bool)
    (keycode : BitVec 32) (stop : Stops) (h : OnGrid 2 t.mover) :
    ∃ m, t.mover.Shifted (t.step c go false frameClk keycode stop).mover 2 m ∧
      (¬ t.Pulse ∧ m = none ∨ t.Pulse ∧ t.mover.Heads 2 m) := by
  by_cases hpulse : t.Pulse
  · obtain ⟨m, hm⟩ := h.heads
    have hs : (t.step c go false frameClk keycode stop).mover =
        ⟨t.xPos + t.xMotion, t.yPos + t.yMotion, (t.motionIn c keycode stop).1,
          (t.motionIn c keycode stop).2.1⟩ := by
      simp [step, mover, hpulse.1, hpulse.2]
    refine ⟨m, ?_, Or.inr ⟨hpulse, hm⟩⟩
    rw [hs]
    exact hm.shift (Or.inr rfl) h
  · have hs : (t.step c go false frameClk keycode stop).mover = t.mover := by
      cases hn : t.newInstance
      · have : t.edge.rising = false := by
          rw [← Bool.not_eq_true]
          exact fun hr => hpulse ⟨hr, hn⟩
        simp [step, mover, hn, this]
      · rw [hp hn]
        simp [step, mover, hn]
    refine ⟨none, ?_, Or.inl ⟨hpulse, rfl⟩⟩
    rw [hs]
    exact ⟨(Int.add_zero _).symm, (Int.add_zero _).symm⟩

theorem pending_eq {m : Option Dir} (h : ¬ t.Pulse ∧ m = none ∨ t.Pulse ∧ t.mover.Heads 2 m) :
    t.pending = stride 2 m := by
  rcases h with ⟨hp, rfl⟩ | ⟨hp, hm⟩
  · exact if_neg hp
  · exact (if_pos hp).trans (hm.toInt (Or.inr rfl))

/-- The step is late: a stop signal forbids it where it starts. -/
def Late (t : Tank) (stop : Stops) : Prop := t.Pulse ∧ ¬ t.mover.Free 2 stop

instance (t : Tank) (stop : Stops) : Decidable (t.Late stop) := inferInstanceAs (Decidable (_ ∧ _))

theorem toward_eq_false {m : Option Dir} {stop : Stops}
    (h : ¬ t.Pulse ∧ m = none ∨ t.Pulse ∧ t.mover.Heads 2 m) (hl : ¬ t.Late stop) :
    stop.toward m = false := by
  rcases h with ⟨-, rfl⟩ | ⟨hp, hm⟩
  · rfl
  · exact hm.free (not_not.1 fun hf => hl ⟨hp, hf⟩)

end Tank

theorem startOk1 : Tank.StartOk tank1Config :=
  OnGrid.of_heads (m := some .down) ⟨rfl, rfl, by decide⟩ (by decide)

theorem startOk2 : Tank.StartOk tank2Config :=
  OnGrid.of_heads (m := some .down) ⟨rfl, rfl, by decide⟩ (by decide)

theorem tank1_reset {i : Pins} {s : Sys} (h : s.resetTank = true) :
    (s.step i).tank1.mover = ⟨2, 458, 0, 2⟩ := by
  simp [step_tank1, tank1, Tank.step, Tank.mover, h, tank1Config]

theorem tank2_reset {i : Pins} {s : Sys} (h : s.resetTank = true) :
    (s.step i).tank2.mover = ⟨2, 30, 0, 2⟩ := by
  simp [step_tank2, tank2_eq, Tank.step, Tank.mover, h, tank2Config]

/-- Both tanks are on the grid during a game. -/
theorem onGrid_run (R : Run) (n : ℕ) :
    (R.state n).InGame → OnGrid 2 (R.state n).tank1.mover ∧ OnGrid 2 (R.state n).tank2.mover := by
  refine game_induction R
    (P := fun s => OnGrid 2 s.tank1.mover ∧ OnGrid 2 s.tank2.mover)
    (fun i s hr _ => ?_) (fun n _ _ h => ?_) n
  · rw [tank1_reset hr, tank2_reset hr]
    exact ⟨startOk1, startOk2⟩
  · rw [step_tank2, tank2_eq]
    exact ⟨Tank.onGrid_step startOk1 _ _ _ _ _ h.1, Tank.onGrid_step startOk2 _ _ _ _ _ h.2⟩

/-- A tank that still waits for the keys to be released is where the game has put it. -/
theorem parked_run (R : Run) (n : ℕ) (h : (R.state n).InGame) :
    (R.state n).tank1.Parked tank1Config ∧ (R.state n).tank2.Parked tank2Config := by
  have hstep (i : Pins) (s : Sys) : (s.step i).tank1.Parked tank1Config ∧
      (s.step i).tank2.Parked tank2Config := by
    rw [step_tank2, tank2_eq]
    exact ⟨Tank.parked_step _ _ _ _ _, Tank.parked_step _ _ _ _ _⟩
  exact game_induction R
    (P := fun s => s.tank1.Parked tank1Config ∧ s.tank2.Parked tank2Config)
    (fun i s _ _ => hstep i s) (fun _ _ _ _ => hstep _ _) n h

/-! ### The enemies -/

namespace Enemy

variable {e : Enemy} {p : EnemyPins}

/-- The decision of a frame pulse. -/
theorem motionIn_decides : e.mover.Decides 1 (e.motionIn p).1 (e.motionIn p).2.1 := by
  unfold motionIn
  split
  · exact Or.inl ⟨rfl, rfl⟩
  · split
    · exact Mover.decides_up id
    · split
      · exact Mover.decides_down id
      · split
        · exact Mover.decides_left id
        · split
          · exact Mover.decides_right id
          · exact Or.inl ⟨rfl, rfl⟩

/-- Without a reset the enemy moves in every cycle, by motion registers that are mostly zero. -/
theorem onGrid_step {c : EnemyConfig} {frameClk : Bool} (h : OnGrid 1 e.mover) :
    OnGrid 1 (e.step c false frameClk p).mover := by
  refine h.move (Or.inl rfl) rfl rfl ?_
  cases hp : e.edge.rising
  · exact Or.inl ⟨by simp [mover, step, hp], by simp [mover, step, hp]⟩
  · simpa [mover, step, hp] using motionIn_decides (e := e) (p := p)

/-- One edge without reset moves an enemy by the step that its motion registers hold. -/
theorem shifted_step (c : EnemyConfig) (p : EnemyPins) (frameClk : Bool)
    (h : OnGrid 1 e.mover) :
    ∃ m, e.mover.Shifted (e.step c false frameClk p).mover 1 m ∧ e.mover.Heads 1 m := by
  obtain ⟨m, hm⟩ := h.heads
  exact ⟨m, hm.shift (Or.inl rfl) h, hm⟩

/-- The step that an enemy takes at the next edge. -/
def pending (e : Enemy) : ℤ × ℤ := (e.xMotion.toInt, e.yMotion.toInt)

theorem pending_eq {m : Option Dir} (h : e.mover.Heads 1 m) : e.pending = stride 1 m :=
  h.toInt (Or.inl rfl)

/-- The step is late: a stop signal forbids it where it starts. -/
def Late (e : Enemy) (stop : Stops) : Prop := ¬ e.mover.Free 1 stop

theorem toward_eq_false {m : Option Dir} {stop : Stops} (h : e.mover.Heads 1 m)
    (hl : ¬ e.Late stop) : stop.toward m = false :=
  h.free (not_not.1 hl)

end Enemy

theorem enemy1_reset {i : Pins} {s : Sys} (h : s.resetTank = true) :
    (s.step i).enemy1.mover = ⟨458, 23, 0, 0⟩ := by
  simp [step_enemy1, Enemy.step, Enemy.mover, h, enemy1Config]

theorem enemy2_reset {i : Pins} {s : Sys} (h : s.resetTank = true) :
    (s.step i).enemy2.mover = ⟨23, 23, 0, 0⟩ := by
  simp [step_enemy2, Enemy.step, Enemy.mover, h, enemy2Config]

/-- Both enemies are on the grid during a game. -/
theorem enemies_onGrid_run (R : Run) (n : ℕ) :
    (R.state n).InGame → OnGrid 1 (R.state n).enemy1.mover ∧ OnGrid 1 (R.state n).enemy2.mover := by
  refine game_induction R
    (P := fun s => OnGrid 1 s.enemy1.mover ∧ OnGrid 1 s.enemy2.mover)
    (fun i s hr _ => ?_) (fun n hg _ h => ?_) n
  · rw [enemy1_reset hr, enemy2_reset hr]
    exact ⟨OnGrid.of_heads (m := none) ⟨rfl, rfl⟩ (by decide),
      OnGrid.of_heads (m := none) ⟨rfl, rfl⟩ (by decide)⟩
  · rw [step_enemy1, step_enemy2, resetTank_eq_false hg]
    exact ⟨Enemy.onGrid_step h.1, Enemy.onGrid_step h.2⟩

end TankBattle
