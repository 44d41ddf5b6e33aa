import Mathlib.Data.Int.CardIntervalMod
import TankBattle.Flights
import TankBattle.NewGame
import TankBattle.Serial
import TankBattle.ShotEnds
import TankBattle.VgaController

/-!
# The design on the board (`lab8.sv`, `vga_clk.v`)

`vga_clk` halves `Clk` for the video timing, whose `VGA_VS` is the frame clock of the game.  So the
frame pulses are not free, and what happens at frame pulses happens at a known pace.

* `Board`, `BoardRun`: the game with its video timing; `gameRun`: the run of the game in it;
* `place_succ`, `rises_vs_iff`: where the beam is, and when the frame clock rises;
* `rises_vs`: a frame takes 840000 cycles;
* `Detector`, `rising_iff`: the frame clock detectors of the modules;
* `frame_rate`: all modules see the same frame pulses, one in every frame.
-/

namespace TankBattle

open Serial

/-- What comes from outside: the key codes of the software, and the button. -/
structure BoardPins where
  keycode : BitVec 32
  key0 : Bool

/-- The game with its video timing; `vgaClk` tells whether `VGA_CLK` rises with the next edge. -/
structure Board where
  sys : Sys
  vga : VgaController
  vgaClk : Bool

namespace Board

/-- What the game samples. -/
def pins (i : BoardPins) (b : Board) : Pins := ⟨i.keycode, i.key0, b.vga.vs, b.vgaClk⟩

/-- `Reset_h`. -/
def resetH (i : BoardPins) (b : Board) : Bool := b.sys.resetH (b.pins i)

/-- One edge of `Clk`. -/
def step (i : BoardPins) (b : Board) : Board where
  sys := b.sys.step (b.pins i)
  vga := if b.vgaClk then b.vga.step (b.resetH i) else b.vga
  vgaClk := !b.vgaClk

/-- The state after a reset that both clocks have seen, whatever the registers held before. -/
def Started (t : Board) : Prop :=
  ∃ (i : BoardPins) (b : Board), b.vgaClk = true ∧ b.resetH i = true ∧ t = b.step i

end Board

/-- A run of the board. -/
abbrev BoardRun := Sync.Run Board.step Board.Started

/-- The run of the game. -/
def gameRun (R : BoardRun) : Run where
  state n := (R.state n).sys
  input n := (R.state n).pins (R.input n)
  start := by
    obtain ⟨i, b, hc, hr, h⟩ := R.start
    exact ⟨b.pins i, b.sys, hc, hr, congrArg Board.sys h⟩
  succ n := congrArg Board.sys (R.succ n)

/-! ### The beam -/

section Beam

variable {R : BoardRun} {a d n : ℕ}

/-- `VGA_VS`. -/
def vs (R : BoardRun) (n : ℕ) : Bool := (R.state n).vga.vs

/-- There is no reset. -/
def Quiet (R : BoardRun) (n : ℕ) : Prop := (R.state n).resetH (R.input n) = false

/-- The counters are in range. -/
structure Board.Scans (b : Board) : Prop where
  x : b.vga.drawX.toNat < 800
  y : b.vga.drawY.toNat < 525

/-- The place of the beam, in cycles of `Clk` since the first place. -/
def Board.place (b : Board) : ℕ :=
  2 * (b.vga.drawX.toNat + 800 * b.vga.drawY.toNat) + b.vgaClk.toNat

/-- The counters after a tick without a reset. -/
theorem counters_tick {c : VgaController} (hx : c.drawX.toNat < 800) (hy : c.drawY.toNat < 525) :
    (c.step false).drawX.toNat = (if c.drawX.toNat + 1 = 800 then 0 else c.drawX.toNat + 1) ∧
      (c.step false).drawY.toNat =
        if c.drawX.toNat + 1 = 800 then
          if c.drawY.toNat + 1 = 525 then 0 else c.drawY.toNat + 1
        else c.drawY.toNat := by
  have h := counters_step hx hy
  constructor
  · refine (congrArg Prod.fst h).trans ?_
    rw [Raster.advance, VgaController.counters]
    dsimp only
    split_ifs <;> rfl
  · refine (congrArg Prod.snd h).trans ?_
    rw [Raster.advance, VgaController.counters]
    dsimp only
    split_ifs <;> rfl

theorem scans (R : BoardRun) (n : ℕ) : (R.state n).Scans := by
  refine R.invariant (fun t ht => ?_) (fun i b hb => ?_) n
  · obtain ⟨i, b, hc, hr, rfl⟩ := ht
    constructor <;> simp [Board.step, hc, hr, VgaController.step, VgaController.drawX,
      VgaController.drawY]
  · cases hc : b.vgaClk with
    | false =>
      have hv : (b.step i).vga = b.vga := by simp [Board.step, hc]
      exact ⟨by rw [hv]; exact hb.x, by rw [hv]; exact hb.y⟩
    | true =>
      cases hr : b.resetH i with
      | true =>
        constructor <;> simp [Board.step, hc, hr, VgaController.step, VgaController.drawX,
          VgaController.drawY]
      | false =>
        have hv : (b.step i).vga = b.vga.step false := by simp [Board.step, hc, hr]
        obtain ⟨ex, ey⟩ := counters_tick hb.x hb.y
        have hx := hb.x
        have hy := hb.y
        constructor
        · rw [hv, ex]
          split_ifs <;> omega
        · rw [hv, ey]
          split_ifs <;> omega

/-- **The beam** moves on, and is back after 840000 cycles. -/
theorem place_succ (hq : Quiet R n) :
    (R.state (n + 1)).place = ((R.state n).place + 1) % 840000 := by
  obtain ⟨hx, hy⟩ := scans R n
  have hclk : (R.state (n + 1)).vgaClk = !(R.state n).vgaClk := by rw [R.succ]; rfl
  cases hc : (R.state n).vgaClk with
  | false =>
    have hv : (R.state (n + 1)).vga = (R.state n).vga := by rw [R.succ]; simp [Board.step, hc]
    rw [Board.place, Board.place, hv, hclk, hc]
    simp only [Bool.not_false, Bool.toNat_true, Bool.toNat_false]
    omega
  | true =>
    have hr : (R.state n).resetH (R.input n) = false := hq
    have hv : (R.state (n + 1)).vga = (R.state n).vga.step false := by
      rw [R.succ]
      simp [Board.step, hc, hr]
    obtain ⟨ex, ey⟩ := counters_tick hx hy
    rw [Board.place, Board.place, hv, hclk, hc, ex, ey]
    simp only [Bool.not_true, Bool.toNat_true, Bool.toNat_false]
    split_ifs <;> omega

theorem place_lt (R : BoardRun) (n : ℕ) : (R.state n).place < 840000 := by
  obtain ⟨hx, hy⟩ := scans R n
  have := Bool.toNat_lt (R.state n).vgaClk
  rw [Board.place]
  omega

theorem place_add (hq : ∀ k < d, Quiet R (n + k)) :
    (R.state (n + d)).place % 840000 = ((R.state n).place + d) % 840000 := by
  induction d with
  | zero => rfl
  | succ d ih =>
    have := ih fun k hk => hq k (by omega)
    rw [← Nat.add_assoc, place_succ (hq d (by omega))]
    omega

/-- Two cycles after a reset the signals go with the counters. -/
theorem aligned_two (h0 : Quiet R n) (h1 : Quiet R (n + 1)) : Aligned (R.state (n + 2)).vga := by
  have hr0 : (R.state n).resetH (R.input n) = false := h0
  have hr1 : (R.state (n + 1)).resetH (R.input (n + 1)) = false := h1
  have hclk : (R.state (n + 1)).vgaClk = !(R.state n).vgaClk := by rw [R.succ]; rfl
  cases hc : (R.state n).vgaClk with
  | false =>
    have hv : (R.state (n + 2)).vga = (R.state (n + 1)).vga.step false := by
      rw [R.succ (n + 1)]
      simp [Board.step, hclk, hc, hr1]
    rw [hv]
    exact aligned_step _
  | true =>
    have hv1 : (R.state (n + 1)).vga = (R.state n).vga.step false := by
      rw [R.succ n]
      simp [Board.step, hc, hr0]
    have hv2 : (R.state (n + 2)).vga = (R.state (n + 1)).vga := by
      rw [R.succ (n + 1)]
      simp [Board.step, hclk, hc]
    rw [hv2, hv1]
    exact aligned_step _

/-- The frame clock is low in two rows. -/
theorem vs_eq_false_iff (h : Aligned (R.state n).vga) :
    vs R n = false ↔ 784000 ≤ (R.state n).place ∧ (R.state n).place < 787200 := by
  have hx := (scans R n).x
  have hclk := Bool.toNat_lt (R.state n).vgaClk
  rw [vs, h.vs, Board.place]
  omega

/-- **The frame clock rises** where row 491 ends. -/
theorem rises_vs_iff (h0 : Quiet R n) (h1 : Quiet R (n + 1)) (h2 : Quiet R (n + 2)) :
    Rises (vs R) (n + 2) ↔ (R.state (n + 2)).place = 787199 := by
  have hlow := vs_eq_false_iff (aligned_two h0 h1)
  have hhigh := vs_eq_false_iff (n := n + 3) (aligned_two h1 h2)
  have hplace := place_succ h2
  rw [Rises, hlow, ← Bool.not_eq_false, hhigh, hplace]
  omega

/-- **A frame takes 840000 cycles**: as long as there is no reset the frame clock rises once in
each. -/
theorem rises_vs (hq : ∀ k < d + 2, Quiet R (a + k)) :
    d / 840000 ≤ rises (vs R) (a + 2) d ∧ rises (vs R) (a + 2) d ≤ (d + 839999) / 840000 := by
  have hcount : rises (vs R) (a + 2) d = Nat.count
      (· ≡ 787199 + 840000 - (R.state (a + 2)).place [MOD 840000]) d := by
    refine rises_eq_count fun k hk => ?_
    have hplace := place_add (n := a + 2) (d := k) fun j hj => by
      rw [Nat.add_assoc]
      exact hq _ (by omega)
    have hlt := place_lt R (a + 2 + k)
    have hlt' := place_lt R (a + 2)
    rw [show a + 2 + k = a + k + 2 by omega] at hplace hlt ⊢
    rw [rises_vs_iff (hq k (by omega)) (hq (k + 1) (by omega)) (hq (k + 2) (by omega)),
      Nat.ModEq]
    omega
  rw [hcount, Nat.count_modEq_card _ (by decide)]
  split_ifs <;> omega

end Beam

/-! ### The detectors -/

/-- The modules with a frame clock detector of their own. -/
inductive Detector
  | tank1
  | tank2
  | enemy1
  | enemy2
  | bullets1
  | bullets2
  | enb1
  | enb2

/-- The detector of a module. -/
def Sys.detector (s : Sys) : Detector → Edge
  | .tank1 => s.tank1.edge
  | .tank2 => s.tank2.edge
  | .enemy1 => s.enemy1.edge
  | .enemy2 => s.enemy2.edge
  | .bullets1 => s.bullets1.edge
  | .bullets2 => s.bullets2.edge
  | .enb1 => s.enemy1.bullet.edge
  | .enb2 => s.enemy2.bullet.edge

theorem Sys.detector_step (i : Pins) (s : Sys) (m : Detector) :
    (s.step i).detector m = (s.detector m).step i.vgaVS := by
  cases m with
  | tank1 => exact Tank.step_edge _ _ _ _ _ _ _
  | tank2 =>
    rw [detector, detector, step_tank2, tank2_eq]
    exact Tank.step_edge _ _ _ _ _ _ _
  | _ => rfl

section Pulses

variable {R : BoardRun} {a d n : ℕ}

/-- A detector pulses two cycles after the frame clock. -/
theorem rising_iff (R : BoardRun) (m : Detector) (n : ℕ) :
    ((R.state (n + 2)).sys.detector m).rising = true ↔ Rises (vs R) n := by
  have hstep : ∀ k, (R.state (k + 1)).sys.detector m =
      ((R.state k).sys.detector m).step (vs R k) := fun k => by
    rw [R.succ]
    exact Sys.detector_step _ _ _
  rw [hstep (n + 1), hstep n]
  simp [Edge.step, Rises, and_comm]

/-- The pulses of a detector in a stretch of cycles. -/
def framePulses (R : BoardRun) (m : Detector) (n d : ℕ) : ℕ :=
  Nat.count (fun k => ((R.state (n + k)).sys.detector m).rising = true) d

theorem framePulses_eq (R : BoardRun) (m : Detector) (n d : ℕ) :
    framePulses R m (n + 2) d = rises (vs R) n d := by
  refine (rises_eq_count fun k _ => ?_).symm
  rw [show n + 2 + k = n + k + 2 by omega, rising_iff]

/-- The pulses in a stretch that is two cycles away from a reset. -/
theorem framePulses_bounds (m : Detector) (hq : ∀ k, n ≤ k + 4 → k + 2 < n + d → Quiet R k)
    (hn : 4 ≤ n) :
    d / 840000 ≤ framePulses R m n d ∧ framePulses R m n d ≤ (d + 839999) / 840000 := by
  obtain ⟨a, rfl⟩ := Nat.exists_eq_add_of_le' hn
  rw [show a + 4 = a + 2 + 2 from rfl, framePulses_eq]
  exact rises_vs fun k hk => hq _ (by omega) (by omega)

/-- **The frame rate**: as long as there is no reset, all modules see the same frame pulses, one in
every 840000 cycles. -/
theorem frame_rate (m : Detector) (hq : ∀ k, n ≤ k + 4 → k + 2 < n + d → Quiet R k) (hn : 4 ≤ n) :
    (∀ m' k, 2 ≤ k → (((R.state k).sys.detector m').rising = true ↔
      ((R.state k).sys.detector m).rising = true)) ∧
    d / 840000 ≤ framePulses R m n d ∧ framePulses R m n d ≤ (d + 839999) / 840000 := by
  refine ⟨fun m' k hk => ?_, framePulses_bounds m hq hn⟩
  obtain ⟨j, rfl⟩ := Nat.exists_eq_add_of_le' hk
  rw [rising_iff, rising_iff]

/-- Everything is clear when power is switched on. -/
def boardUp : Board := ⟨powerUp, ⟨false, false, false, 0, 0⟩, true⟩

theorem started_boardUp : Board.Started (boardUp.step ⟨0x14, true⟩) :=
  ⟨_, _, rfl, by decide, rfl⟩

/-- After a reset, `C` is pressed in cycle 10. -/
def boardBench : BoardRun :=
  .feed Board.step started_boardUp fun n => ⟨if n = 10 then 0x06 else 0, true⟩

/-- The button is up, and the quit key is not pressed. -/
theorem quiet_feed {f : ℕ → BoardPins} (h : ∀ n, (f n).key0 = true ∧ (f n).keycode ≠ 0x14) (n : ℕ) :
    Quiet (.feed Board.step started_boardUp f) n := by
  have hhi : ((Sync.Run.feed Board.step started_boardUp f).state n).sys.resetHi = false := by
    cases n with
    | zero => rfl
    | succ n =>
      rw [Sync.Run.succ]
      show (!(f n).key0) = false
      rw [(h n).1]
      rfl
  rw [Quiet, Board.resetH, Sys.resetH, hhi, Bool.false_or]
  exact beq_eq_false_iff_ne.2 (h n).2

theorem boardBench_quiet (n : ℕ) : Quiet boardBench n :=
  quiet_feed (fun n => ⟨rfl, by dsimp only; split_ifs <;> decide⟩) n

theorem frame_rate_bench :
    (∀ m' k, 2 ≤ k → (((boardBench.state k).sys.detector m').rising = true ↔
      ((boardBench.state k).sys.detector .tank1).rising = true)) ∧
    1680000 / 840000 ≤ framePulses boardBench .tank1 4 1680000 ∧
      framePulses boardBench .tank1 4 1680000 ≤ (1680000 + 839999) / 840000 :=
  frame_rate .tank1 (fun k _ _ => boardBench_quiet k) le_rfl

end Pulses

end TankBattle
