import TankBattle.Letters
import TankBattle.Raster
import TankBattle.Sync

/-!
# The video timing (`VGA_controller.sv`)

Two 10-bit counters scan 800 columns and 525 rows on `VGA_CLK`.  The sync and blanking signals are
registers too, loaded from the next values of the counters, so that they go with the counters.

* `VgaController.step`: one edge of `VGA_CLK`;
* `scan`: the controller after a reset;
* `scan_place`: its counters are a raster scan;
* `raster_exact`: the counters and signals after every number of ticks; each visible pixel and each
  rising edge of `VGA_VS` occurs once in 420000 ticks.
-/

namespace TankBattle

/-- The registers of the controller. -/
structure VgaController where
  hs : Bool
  vs : Bool
  blankN : Bool
  hCounter : Coord
  vCounter : Coord
  deriving DecidableEq

namespace VgaController

/-- `H_TOTAL`: pixels per line. -/
def hTotal : Coord := 800

/-- `V_TOTAL`: lines per frame. -/
def vTotal : Coord := 525

/-- `DrawX`. -/
def drawX (c : VgaController) : Coord := c.hCounter

/-- `DrawY`. -/
def drawY (c : VgaController) : Coord := c.vCounter

/-- `h_counter_in`. -/
def hCounterIn (c : VgaController) : Coord :=
  if c.hCounter + 1 = hTotal then 0 else c.hCounter + 1

/-- `v_counter_in`. -/
def vCounterIn (c : VgaController) : Coord :=
  if c.hCounter + 1 = hTotal then if c.vCounter + 1 = vTotal then 0 else c.vCounter + 1
  else c.vCounter

/-- `VGA_HS_in`. -/
def hsIn (c : VgaController) : Bool :=
  !(decide (656 ≤ c.hCounterIn) && decide (c.hCounterIn < 752))

/-- `VGA_VS_in`. -/
def vsIn (c : VgaController) : Bool :=
  !(decide (490 ≤ c.vCounterIn) && decide (c.vCounterIn < 492))

/-- `VGA_BLANK_N_in`. -/
def blankNIn (c : VgaController) : Bool :=
  decide (c.hCounterIn < 640) && decide (c.vCounterIn < 480)

/-- One edge of `VGA_CLK`. -/
def step (reset : Bool) (c : VgaController) : VgaController :=
  if reset then ⟨false, false, false, 0, 0⟩
  else ⟨c.hsIn, c.vsIn, c.blankNIn, c.hCounterIn, c.vCounterIn⟩

/-- The counters as numbers. -/
def counters (c : VgaController) : ℕ × ℕ := (c.drawX.toNat, c.drawY.toNat)

end VgaController

open VgaController

/-- The controller `n` ticks after a reset, whatever the registers held before. -/
def scan (c₀ : VgaController) (n : ℕ) : VgaController :=
  Sync.Run.states step (fun _ => false) (c₀.step true) n

/-! ### The counters -/

theorem scan_succ (c₀ : VgaController) (n : ℕ) : scan c₀ (n + 1) = (scan c₀ n).step false := rfl

/-- A counter below its limit does not wrap around 1024. -/
theorem add_one_eq_iff {z t : Coord} (h : z.toNat < t.toNat) :
    z + 1 = t ↔ z.toNat + 1 = t.toNat := by
  have := t.isLt
  constructor <;> intro h' <;> bv_omega

theorem toNat_wrap {z t : Coord} (h : z.toNat < t.toNat) :
    (if z + 1 = t then 0 else z + 1).toNat = if z.toNat + 1 = t.toNat then 0 else z.toNat + 1 := by
  rw [if_congr (add_one_eq_iff h) rfl rfl]
  have := t.isLt
  split_ifs
  · rfl
  · bv_omega

/-- An edge without a reset advances the scan. -/
theorem counters_step {c : VgaController} (hx : c.drawX.toNat < 800) (hy : c.drawY.toNat < 525) :
    (c.step false).counters = Raster.advance 800 525 c.counters := by
  have hcol : c.hCounterIn.toNat = if c.drawX.toNat + 1 = 800 then 0 else c.drawX.toNat + 1 :=
    toNat_wrap (t := hTotal) hx
  have hrow : c.vCounterIn.toNat =
      if c.drawX.toNat + 1 = 800 then if c.drawY.toNat + 1 = 525 then 0 else c.drawY.toNat + 1
      else c.drawY.toNat := by
    rw [vCounterIn, apply_ite BitVec.toNat]
    exact if_congr (add_one_eq_iff (t := hTotal) hx) (toNat_wrap (t := vTotal) hy) rfl
  rw [counters, Raster.advance, show (c.step false).drawX = c.hCounterIn from rfl,
    show (c.step false).drawY = c.vCounterIn from rfl, hcol, hrow]
  unfold counters
  split_ifs <;> rfl

/-- The counters follow the raster scan. -/
theorem scan_place (c₀ : VgaController) (n : ℕ) :
    (scan c₀ n).counters = Raster.place 800 525 n := by
  induction n with
  | zero => rfl
  | succ n ih =>
    have hx : (scan c₀ n).drawX.toNat = n % 800 := congrArg Prod.fst ih
    have hy : (scan c₀ n).drawY.toNat = n / 800 % 525 := congrArg Prod.snd ih
    rw [scan_succ, counters_step (by omega) (by omega), ih,
      Raster.advance_place (by decide) (by decide)]

/-! ### The signals -/

/-- The signals belong to the place of the counters. -/
structure Aligned (c : VgaController) : Prop where
  hs : c.hs = false ↔ 656 ≤ c.drawX.toNat ∧ c.drawX.toNat < 752
  vs : c.vs = false ↔ 490 ≤ c.drawY.toNat ∧ c.drawY.toNat < 492
  blankN : c.blankN = true ↔ c.drawX.toNat < 640 ∧ c.drawY.toNat < 480

/-- Each edge without a reset aligns them, as all registers are loaded from the next counters. -/
theorem aligned_step (c : VgaController) : Aligned (c.step false) := by
  constructor
  · show (!(decide (656 ≤ c.hCounterIn) && decide (c.hCounterIn < 752))) = false ↔ _
    rw [Bool.not_eq_false', Bool.and_eq_true, decide_eq_true_eq, decide_eq_true_eq]
    rfl
  · show (!(decide (490 ≤ c.vCounterIn) && decide (c.vCounterIn < 492))) = false ↔ _
    rw [Bool.not_eq_false', Bool.and_eq_true, decide_eq_true_eq, decide_eq_true_eq]
    rfl
  · show (decide (c.hCounterIn < 640) && decide (c.vCounterIn < 480)) = true ↔ _
    rw [Bool.and_eq_true, decide_eq_true_eq, decide_eq_true_eq]
    rfl

/-- `VGA_VS` rises with the tick that brings the scan to the first place of row 492. -/
theorem vs_rises_iff (c₀ : VgaController) {n : ℕ} (hn : 2 ≤ n) :
    (scan c₀ (n - 1)).vs = false ∧ (scan c₀ n).vs = true ↔
      Raster.place 800 525 n = (0, 492) := by
  obtain ⟨k, rfl⟩ := Nat.exists_eq_add_of_le' hn
  have hbefore := (aligned_step (scan c₀ k)).vs
  have hafter := (aligned_step (scan c₀ (k + 1))).vs
  rw [← scan_succ, show (scan c₀ (k + 1)).drawY.toNat = _ from
    congrArg Prod.snd (scan_place c₀ (k + 1))] at hbefore
  rw [← scan_succ, show (scan c₀ (k + 1 + 1)).drawY.toNat = _ from
    congrArg Prod.snd (scan_place c₀ (k + 1 + 1))] at hafter
  rw [show k + 2 - 1 = k + 1 by omega, hbefore, ← Bool.not_eq_false, hafter]
  simp only [Raster.place, Prod.mk.injEq]
  omega

/-- **The raster scan is exact.** -/
theorem raster_exact (c₀ : VgaController) :
    (∀ n, 1 ≤ n → (scan c₀ n).drawX.toNat = n % 800 ∧ (scan c₀ n).drawY.toNat = n / 800 % 525 ∧
      Aligned (scan c₀ n)) ∧
    (∀ m x y, x < 640 → y < 480 → ∃! n, m < n ∧ n ≤ m + 420000 ∧
      (scan c₀ n).counters = (x, y) ∧ (scan c₀ n).blankN = true) ∧
    ∀ m, 1 ≤ m → ∃! n, m < n ∧ n ≤ m + 420000 ∧
      (scan c₀ (n - 1)).vs = false ∧ (scan c₀ n).vs = true := by
  have haligned : ∀ n, 1 ≤ n → Aligned (scan c₀ n) := by
    intro n hn
    obtain ⟨k, rfl⟩ := Nat.exists_eq_add_of_le' hn
    exact aligned_step _
  refine ⟨fun n hn => ⟨congrArg Prod.fst (scan_place c₀ n), congrArg Prod.snd (scan_place c₀ n),
    haligned n hn⟩, ?_, ?_⟩
  · intro m x y hx hy
    have hvisible : ∀ n, m < n → ((scan c₀ n).counters = (x, y) ∧ (scan c₀ n).blankN = true ↔
        Raster.place 800 525 n = (x, y)) := by
      intro n hn
      rw [← scan_place c₀ n]
      refine and_iff_left_of_imp fun hplace => (haligned n (by omega)).blankN.2 ?_
      obtain ⟨rfl, rfl⟩ := Prod.mk.inj hplace
      exact ⟨hx, hy⟩
    refine (existsUnique_congr fun n => ?_).2
      (Raster.existsUnique_place (hx.trans (by decide) : x < 800)
        (hy.trans (by decide) : y < 525) m)
    exact and_congr_right fun hn => and_congr_right fun _ => hvisible n hn
  · intro m hm
    refine (existsUnique_congr fun n => ?_).2
      (Raster.existsUnique_place (by decide : 0 < 800) (by decide : 492 < 525) m)
    exact and_congr_right fun hn => and_congr_right fun _ => vs_rises_iff c₀ (by omega)

end TankBattle
