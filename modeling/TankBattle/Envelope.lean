import TankBattle.OffLetters

/-!
# A tank on its own

The tank modules with all their pins free: any keys, any stop signals, any frame clock.  A run
starts when the position registers have been loaded, by a reset or by the hold of a new instance.

* `Tank.clock`, `TankRun`: one edge, and the runs, of a tank module;
* `tank1Run`, `tank2Run`: the tanks of the design make such runs from every tank reset on;
* `tank_exact`: positions stay even and in range, and no addition wraps;
* `tank_in_field_iff`: a tank stays inside the field if and only if the limits, which it checks
  when it decides on a step, still allow the step when it is taken;
* `falling`: where they do not.
-/

namespace TankBattle

open Sys

/-- What a tank module samples in one cycle; `go` is the condition for leaving `FIRST`. -/
structure TankPins where
  go : Bool
  reset : Bool
  frameClk : Bool
  keycode : BitVec 32
  stop : Stops

/-- One edge of a tank module. -/
def Tank.clock (c : TankConfig) (i : TankPins) (t : Tank) : Tank :=
  t.step c i.go i.reset i.frameClk i.keycode i.stop

/-- The position registers have just been loaded, whatever the registers held before. -/
def Tank.Loaded (c : TankConfig) (t : Tank) : Prop :=
  ∃ (i : TankPins) (t₀ : Tank), (i.reset || t₀.newInstance) = true ∧ t = t₀.clock c i

/-- The two tanks. -/
inductive Player
  | one
  | two
  deriving DecidableEq

/-- `tank1` or `tank2`. -/
def Player.config : Player → TankConfig
  | .one => tank1Config
  | .two => tank2Config

/-- The runs of a tank module. -/
abbrev TankRun (p : Player) := Sync.Run (Tank.clock p.config) (Tank.Loaded p.config)

theorem Player.startOk (p : Player) : Tank.StartOk p.config := by
  cases p
  · exact startOk1
  · exact startOk2

theorem Tank.Loaded.mover {c : TankConfig} {t : Tank} (h : t.Loaded c) :
    t.mover = ⟨c.xStart, c.yStart, 0, 2⟩ := by
  obtain ⟨i, t₀, hr, rfl⟩ := h
  simp only [Tank.clock, Tank.step, hr, if_true, Tank.mover]

section Runs

variable {p : Player} (R : TankRun p) (n : ℕ)

theorem tankRun_onGrid : OnGrid 2 (R.state n).mover :=
  R.invariant (P := fun t => OnGrid 2 t.mover) (fun _ h => h.mover ▸ p.startOk)
    (fun _ _ h => Tank.onGrid_step p.startOk _ _ _ _ _ h) n

theorem tankRun_parked : (R.state n).Parked p.config := by
  refine R.invariant (P := Tank.Parked p.config) (fun t h => ?_) (fun i t _ => ?_) n
  · obtain ⟨i, t₀, -, rfl⟩ := h
    exact Tank.parked_step _ _ _ _ _
  · exact Tank.parked_step _ _ _ _ _

/-- Without a reset a tank moves by the step in its motion registers, and at a pulse only. -/
theorem tankRun_shifted (hr : (R.input n).reset = false) :
    ∃ m, (R.state n).mover.Shifted (R.state (n + 1)).mover 2 m ∧
      (m = none ∨ (R.state n).Pulse ∧ (R.state n).mover.Heads 2 m) := by
  rw [R.succ, Tank.clock, hr]
  obtain ⟨m, hm, h⟩ := Tank.shifted_step (tankRun_parked R n) _ _ _ _ (tankRun_onGrid R n)
  exact ⟨m, hm, h.imp_left (·.2)⟩

end Runs

/-! ### The tanks of the design -/

section Design

variable (R : Run) {r : ℕ} (hr : (R.state r).resetTank = true)

/-- Tank 1 from a tank reset on. -/
def tank1Run : TankRun .one where
  state n := (R.state (r + 1 + n)).tank1
  input n := ⟨true, (R.state (r + 1 + n)).resetTank, (R.input (r + 1 + n)).vgaVS,
    (R.input (r + 1 + n)).keycode, (R.state (r + 1 + n)).tank1Stops⟩
  start := ⟨⟨true, true, (R.input r).vgaVS, (R.input r).keycode, (R.state r).tank1Stops⟩,
    (R.state r).tank1, rfl, by rw [Nat.add_zero, R.succ, step_tank1, hr]; rfl⟩
  succ n := by rw [← Nat.add_assoc, R.succ]; rfl

/-- Tank 2 from a tank reset on. -/
def tank2Run : TankRun .two where
  state n := (R.state (r + 1 + n)).tank2
  input n := ⟨(R.state (r + 1 + n)).twoPlayersMode, (R.state (r + 1 + n)).resetTank,
    (R.input (r + 1 + n)).vgaVS, (R.input (r + 1 + n)).keycode, (R.state (r + 1 + n)).tank2Stops⟩
  start := ⟨⟨(R.state r).twoPlayersMode, true, (R.input r).vgaVS, (R.input r).keycode,
    (R.state r).tank2Stops⟩, (R.state r).tank2, rfl,
    by rw [Nat.add_zero, R.succ, step_tank2, tank2_eq, hr]; rfl⟩
  succ n := by rw [← Nat.add_assoc, R.succ, step_tank2, tank2_eq]; rfl

end Design

/-! ### Positions and steps -/

/-- **The positions never wrap**: they are even and in range, adding the motion registers to them is
exact, and one edge without reset moves a tank by at most two pixels along one axis, at a frame
pulse only. -/
theorem tank_exact (p : Player) (R : TankRun p) (n : ℕ) :
    ((R.state n).xPos.toNat % 2 = 0 ∧ (R.state n).xPos.toNat ≤ 460) ∧
      ((R.state n).yPos.toNat % 2 = 0 ∧ 20 ≤ (R.state n).yPos.toNat ∧
        (R.state n).yPos.toNat ≤ 462) ∧
      ((((R.state n).xPos + (R.state n).xMotion).toNat : ℤ) =
          (R.state n).xPos.toNat + (R.state n).xMotion.toInt ∧
        (((R.state n).yPos + (R.state n).yMotion).toNat : ℤ) =
          (R.state n).yPos.toNat + (R.state n).yMotion.toInt) ∧
      ((R.input n).reset = false →
        ((R.state (n + 1)).xPos = (R.state n).xPos ∨ (R.state (n + 1)).yPos = (R.state n).yPos) ∧
        |((R.state (n + 1)).xPos.toNat : ℤ) - (R.state n).xPos.toNat| ≤ 2 ∧
        |((R.state (n + 1)).yPos.toNat : ℤ) - (R.state n).yPos.toNat| ≤ 2 ∧
        (¬ (R.state n).Pulse → (R.state (n + 1)).xPos = (R.state n).xPos ∧
          (R.state (n + 1)).yPos = (R.state n).yPos)) := by
  have h := tankRun_onGrid R n
  refine ⟨⟨h.x_mod, h.x_le⟩, ⟨h.y_mod, h.y_ge, h.y_le⟩, ?_, fun hr => ?_⟩
  · obtain ⟨m, hm⟩ := h.heads
    obtain ⟨sx, sy⟩ := hm.shift (Or.inr rfl) h
    obtain ⟨tx, ty⟩ := Prod.mk.inj (hm.toInt (Or.inr rfl))
    exact ⟨sx.trans (congrArg _ tx.symm), sy.trans (congrArg _ ty.symm)⟩
  · obtain ⟨m, ⟨sx, sy⟩, hm⟩ := tankRun_shifted R n hr
    have hx : (stride 2 m).1 = 0 → (R.state (n + 1)).xPos = (R.state n).xPos := fun h0 =>
      BitVec.eq_of_toNat_eq (by simp only [Tank.mover] at sx; omega)
    have hy : (stride 2 m).2 = 0 → (R.state (n + 1)).yPos = (R.state n).yPos := fun h0 =>
      BitVec.eq_of_toNat_eq (by simp only [Tank.mover] at sy; omega)
    obtain ⟨b1, b2, b3, b4⟩ := abs_stride_le (k := 2) (by decide) m
    simp only [Tank.mover] at sx sy
    refine ⟨?_, abs_le.2 ⟨by omega, by omega⟩, abs_le.2 ⟨by omega, by omega⟩, fun hp => ?_⟩
    · rcases m with _ | (_ | _ | _ | _)
      · exact Or.inl (hx rfl)
      · exact Or.inr (hy rfl)
      · exact Or.inl (hx rfl)
      · exact Or.inr (hy rfl)
      · exact Or.inl (hx rfl)
    · obtain rfl := hm.resolve_right fun hq => hp hq.1
      exact ⟨hx rfl, hy rfl⟩

/-! ### The field -/

/-- The footprint is in the columns 0 to 477 and the rows 19 to 479, off the border. -/
def Tank.InField (t : Tank) : Prop :=
  ∀ px py : Coord, InFootprint t.xPos t.yPos px py →
    px.toNat ≤ 477 ∧ 19 ≤ py.toNat ∧ py.toNat ≤ 479 ∧ drawWall px py = false

/-- If the tank is about to move to the right or down, then its limit still allows that. -/
structure Tank.Guarded (t : Tank) : Prop where
  right : t.xMotion = 2 → t.xPos + size < 476
  down : t.yMotion = 2 → t.yPos + size < 478

/-- The field left of the border is not drawn on. -/
theorem drawWall_eq_false {px py : Coord} (hx : px.toNat ≤ 477) (hy : 19 ≤ py.toNat) :
    drawWall px py = false := by
  rw [← Bool.not_eq_true]
  simp only [drawWall, Bool.or_eq_true, Bool.and_eq_true, decide_eq_true_eq, BitVec.le_def,
    BitVec.lt_def, BitVec.reduceToNat]
  omega

theorem inField_iff {t : Tank} (h : OnGrid 2 t.mover) :
    t.InField ↔ t.xPos.toNat ≤ 458 ∧ t.yPos.toNat ≤ 460 := by
  have hx : t.xPos.toNat ≤ 460 := h.x_le
  have hy : t.yPos.toNat ≤ 462 := h.y_le
  have hxm : t.xPos.toNat % 2 = 0 := h.x_mod
  have hym : t.yPos.toNat % 2 = 0 := h.y_mod
  have hyg : 20 ≤ t.yPos.toNat := h.y_ge
  constructor
  · intro hf
    -- the lower right pixel of the footprint
    have hpx : (t.xPos + 18).toNat = t.xPos.toNat + 18 := by bv_omega
    have hpy : (t.yPos + 18).toNat = t.yPos.toNat + 18 := by bv_omega
    obtain ⟨h1, -, h2, -⟩ := hf (t.xPos + 18) (t.yPos + 18)
      ⟨by omega, by omega, by omega, by omega⟩
    omega
  · rintro ⟨h1, h2⟩ px py ⟨p1, p2, p3, p4⟩
    exact ⟨by omega, by omega, by omega, drawWall_eq_false (by omega) (by omega)⟩

/-- A step from inside the field leads out of it if and only if its limit does not allow it any
more. -/
theorem guarded_iff {t : Tank} (h : OnGrid 2 t.mover) (hx : t.xPos.toNat ≤ 458)
    (hy : t.yPos.toNat ≤ 460) :
    t.Guarded ↔ (t.xPos + t.xMotion).toNat ≤ 458 ∧ (t.yPos + t.yMotion).toNat ≤ 460 := by
  have hxm : t.xPos.toNat % 2 = 0 := h.x_mod
  have hym : t.yPos.toNat % 2 = 0 := h.y_mod
  have hxs : t.xPos + size < 476 ↔ t.xPos.toNat + 19 < 476 := add_size_lt_iff (by omega)
  have hys : t.yPos + size < 478 ↔ t.yPos.toNat + 19 < 478 := add_size_lt_iff (by omega)
  obtain ⟨m, hm⟩ := h.heads
  obtain ⟨sx, sy⟩ := hm.shift (Or.inr rfl) h
  simp only [Tank.mover] at sx sy
  have hback : (~~~2 + 1 : Coord) ≠ 2 := by decide
  have hzero : (0 : Coord) ≠ 2 := by decide
  -- no limit is asked for a step up or to the left
  have hfree : t.xMotion ≠ 2 → t.yMotion ≠ 2 → (stride 2 m).1 ≤ 0 → (stride 2 m).2 ≤ 0 →
      (t.Guarded ↔ (t.xPos + t.xMotion).toNat ≤ 458 ∧ (t.yPos + t.yMotion).toNat ≤ 460) := by
    intro mx my lx ly
    simp only [BitVec.reduceToNat, Nat.cast_ofNat] at sx sy
    exact iff_of_true ⟨fun e => absurd e mx, fun e => absurd e my⟩ ⟨by omega, by omega⟩
  rcases m with _ | (_ | _ | _ | _)
  case none =>
    obtain ⟨h1, h2⟩ := hm
    exact hfree (h1.trans_ne hzero) (h2.trans_ne hzero) le_rfl le_rfl
  case some.right =>
    obtain ⟨h1, h2, -⟩ := hm
    simp only [stride, BitVec.reduceToNat, Nat.cast_ofNat] at sx sy
    constructor
    · intro hg
      have := hxs.1 (hg.right h1)
      omega
    · intro hle
      exact ⟨fun _ => hxs.2 (by omega), fun e => absurd (h2.symm.trans e) hzero⟩
  case some.up =>
    obtain ⟨h1, h2, -⟩ := hm
    exact hfree (h1.trans_ne hzero) (h2.trans_ne hback) le_rfl (by decide)
  case some.left =>
    obtain ⟨h1, h2, -⟩ := hm
    exact hfree (h1.trans_ne hback) (h2.trans_ne hzero) (by decide) le_rfl
  case some.down =>
    obtain ⟨h1, h2, -⟩ := hm
    simp only [stride, BitVec.reduceToNat, Nat.cast_ofNat] at sx sy
    constructor
    · intro hg
      have := hys.1 (hg.down h2)
      omega
    · intro hle
      exact ⟨fun e => absurd (h1.symm.trans e) hzero, fun _ => hys.2 (by omega)⟩

/-- A frame pulse moves the tank by its motion registers. -/
theorem Tank.clock_pulse {c : TankConfig} {i : TankPins} {t : Tank} (hr : i.reset = false)
    (hp : t.Pulse) :
    (t.clock c i).xPos = t.xPos + t.xMotion ∧ (t.clock c i).yPos = t.yPos + t.yMotion := by
  simp [clock, step, hr, hp.1, hp.2]

theorem Player.start_inField {p : Player} {t : Tank}
    (h : t.mover = ⟨p.config.xStart, p.config.yStart, 0, 2⟩) : t.InField := by
  refine (inField_iff (h ▸ p.startOk)).2 ?_
  have hx : t.xPos = p.config.xStart := congrArg Mover.xPos h
  have hy : t.yPos = p.config.yStart := congrArg Mover.yPos h
  rw [hx, hy]
  cases p <;> decide

/-- **A tank stays inside the field** if and only if, at every frame pulse without a reset, the
limits that it checks still allow the step it takes. -/
theorem tank_in_field_iff (p : Player) (R : TankRun p) :
    (∀ n, (R.state n).InField) ↔
      ∀ n, (R.input n).reset = false → (R.state n).Pulse → (R.state n).Guarded := by
  have hgrid := tankRun_onGrid R
  constructor
  · intro h n hr hp
    obtain ⟨h1, h2⟩ := (inField_iff (hgrid n)).1 (h n)
    obtain ⟨h3, h4⟩ := (inField_iff (hgrid (n + 1))).1 (h (n + 1))
    obtain ⟨ex, ey⟩ := Tank.clock_pulse (c := p.config) hr hp
    rw [R.succ, ex] at h3
    rw [R.succ, ey] at h4
    exact (guarded_iff (hgrid n) h1 h2).2 ⟨h3, h4⟩
  · intro h n
    induction n with
    | zero => exact Player.start_inField R.start.mover
    | succ n ih =>
      obtain ⟨h1, h2⟩ := (inField_iff (hgrid n)).1 ih
      rcases Tank.step_cases p.config _ _ _ _ _ _ (R.succ n) with e | ⟨hr, hp, -⟩ | ⟨-, -, e⟩
      · exact Player.start_inField e
      · obtain ⟨ex, ey⟩ := Tank.clock_pulse (c := p.config) hr hp
        rw [inField_iff (hgrid (n + 1)), R.succ, ex, ey]
        exact (guarded_iff (hgrid n) h1 h2).1 (h n hr hp)
      · have hx : (R.state (n + 1)).xPos = (R.state n).xPos := congrArg Mover.xPos e
        have hy : (R.state (n + 1)).yPos = (R.state n).yPos := congrArg Mover.yPos e
        rw [inField_iff (hgrid (n + 1)), hx, hy]
        exact ⟨h1, h2⟩

/-- A tank after a reset. -/
def freshTank : Tank := ⟨.FIRST, ⟨false, false⟩, 2, 458, 0, 2, .right⟩

theorem loaded_freshTank : freshTank.Loaded tank1Config :=
  ⟨⟨true, true, false, 0, .none⟩, freshTank, rfl, rfl⟩

/-- Tank 1 is driven down from its start. -/
def falling : TankRun .one :=
  Sync.Run.feed (Tank.clock tank1Config) loaded_freshTank fun n =>
    ⟨true, false, n % 2 == 0, if n < 2 then 0 else 0x16, .none⟩

/-- The second frame pulse takes it down, from 460 to 462. -/
theorem tank_exact_falling :
    (falling.state 5).yPos = 460 ∧ (falling.state 6).yPos = 462 ∧
      (falling.state 6).xPos = (falling.state 5).xPos ∧
        |((falling.state 6).yPos.toNat : ℤ) - (falling.state 5).yPos.toNat| ≤ 2 := by
  have hy : (falling.state 5).yPos = 460 ∧ (falling.state 6).yPos = 462 := by decide +kernel
  obtain ⟨haxis, -, hle, -⟩ := (tank_exact .one falling 5).2.2.2 rfl
  refine ⟨hy.1, hy.2, haxis.resolve_right ?_, hle⟩
  rw [hy.1, hy.2]
  decide

/-- The tank starts at `Y = 458` with a step down in its motion registers: at the first frame pulse
it goes to 460 and decides, at 458, on the step to 462. -/
theorem falling_leaves : ¬ ∀ (p : Player) (R : TankRun p) (n : ℕ), (R.state n).InField := by
  intro h
  have hin : InFootprint (falling.state 6).xPos (falling.state 6).yPos 2 480 := by
    have hpos : (falling.state 6).xPos = 2 ∧ (falling.state 6).yPos = 462 := by decide +kernel
    rw [hpos.1, hpos.2]
    exact ⟨by decide, by decide, by decide, by decide⟩
  have := (h .one falling 6 2 480 hin).2.2.1
  exact absurd this (by decide)

end TankBattle
