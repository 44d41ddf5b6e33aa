import TankBattle.Shots

/-!
# A new game

`GAME_RST1` and `GAME_RST2` reset the tanks, enemies and bullets and load the counters.  Two kinds
of registers escape: `idx` has no reset, and a bullet machine is reset to the muzzle of the position
and direction that are being reset in the same cycle.

* `NewGame`: two runs that go through the same reset with the same inputs;
* `blank_step`: one reset cycle makes them equal up to `idx` and the bullets' positions and motions;
* `still_step`: the motion of an idle bullet is forgotten;
* `new_game_iff`: the two games are the same if and only if the headings agree and, when the reset
  lasts one cycle, so do the muzzles.
-/

namespace TankBattle

open Sys

/-- The registers in which two games are compared: the counters, the tanks' positions, motions and
directions, the enemies' headings, the bullets' states and positions. -/
structure View where
  lives : Counter → BitVec 6
  tanks : List (Coord × Coord × Coord × Coord × Dir)
  headings : BitVec 3 × BitVec 3
  bulletStates : List BulletState
  bulletPositions : List (Coord × Coord)

/-- The part of a tank in a view. -/
def Tank.view (t : Tank) : Coord × Coord × Coord × Coord × Dir :=
  (t.xPos, t.yPos, t.xMotion, t.yMotion, t.isTankDir)

namespace Sys

variable (s : Sys)

/-- The frame clock detectors. -/
def detectors : List Edge :=
  [s.tank1.edge, s.tank2.edge, s.enemy1.edge, s.enemy2.edge, s.bullets1.edge, s.bullets2.edge,
    s.enemy1.bullet.edge, s.enemy2.bullet.edge]

/-- The values that `idx` of the two enemies takes at the next edge. -/
def headings : BitVec 3 × BitVec 3 :=
  (s.enemy1.nextIdx (s.enemy1.stops enemy1Config s.enemy1Pins) s.enemy1Pins,
    s.enemy2.nextIdx (s.enemy2.stops enemy2Config s.enemy2Pins) s.enemy2Pins)

/-- The muzzles of the four bullet machines. -/
def muzzles : List (Coord × Coord) :=
  [Bullet.muzzle (midsOf s.tank1.xPos s.tank1.yPos) s.bullets1.isBulletOut,
    Bullet.muzzle (midsOf s.tank2.xPos s.tank2.yPos) s.bullets2.isBulletOut,
    Bullet.muzzle s.enemy1.mids s.enemy1.bullet.isBulletOut,
    Bullet.muzzle s.enemy2.mids s.enemy2.bullet.isBulletOut]

/-- The positions of the four bullets. -/
def bulletPositions : List (Coord × Coord) :=
  [(s.bullets1.xPos, s.bullets1.yPos), (s.bullets2.xPos, s.bullets2.yPos),
    (s.enemy1.bullet.xPos, s.enemy1.bullet.yPos), (s.enemy2.bullet.xPos, s.enemy2.bullet.yPos)]

/-- The view of the design. -/
def view : View where
  lives := s.lives
  tanks := [s.tank1.view, s.tank2.view]
  headings := (s.enemy1.idx, s.enemy2.idx)
  bulletStates :=
    [s.bullets1.state, s.bullets2.state, s.enemy1.bullet.state, s.enemy2.bullet.state]
  bulletPositions := s.bulletPositions

end Sys

/-! ### The frame clock -/

theorem Tank.step_edge (c : TankConfig) (go reset frameClk : Bool) (keycode : BitVec 32)
    (stop : Stops) (t : Tank) :
    (t.step c go reset frameClk keycode stop).edge = t.edge.step frameClk := by
  unfold Tank.step
  simp only
  split_ifs <;> rfl

theorem detectors_step (i : Pins) (s : Sys) :
    (s.step i).detectors = s.detectors.map (Edge.step i.vgaVS) := by
  simp only [detectors, Sys.step, tank1, tank2_eq, Tank.step_edge, Enemy.step, enemyBullets,
    bullets1, bullets2, Bullet.step, List.map]

/-- After two cycles all detectors hold the same. -/
theorem detectors_run (R : Run) (n : ℕ) :
    (R.state (n + 2)).detectors = List.replicate 8 (R.state (n + 2)).tank1.edge := by
  have h : (R.state (n + 2)).detectors = (R.state n).detectors.map fun _ =>
      ⟨(R.input (n + 1)).vgaVS, (R.input (n + 1)).vgaVS && !(R.input n).vgaVS⟩ := by
    rw [R.succ, detectors_step, R.succ, detectors_step, List.map_map]
    rfl
  have hlen : (R.state n).detectors.length = 8 := rfl
  rw [List.map_const', hlen] at h
  have hhead : (R.state (n + 2)).tank1.edge =
      ((R.state (n + 2)).detectors.head?).getD ⟨false, false⟩ := rfl
  rw [hhead, h]
  rfl

/-! ### A reset cycle -/

/-- The bullet without its position and motion. -/
def Bullet.clear (b : Bullet) : Bullet :=
  { b with xPos := 0, yPos := 0, xMotion := 0, yMotion := 0 }

/-- The design without the registers that the reset does not determine. -/
def Sys.blank (s : Sys) : Sys :=
  { s with
    enemy1 := { s.enemy1 with idx := 0, bullet := s.enemy1.bullet.clear }
    enemy2 := { s.enemy2 with idx := 0, bullet := s.enemy2.bullet.clear }
    bullets1 := s.bullets1.clear
    bullets2 := s.bullets2.clear }

/-- Two designs in the same reset state, with the same menus and the same phase of the frame
clock. -/
structure Meet (s t : Sys) : Prop where
  reset : s.resetTank = true
  state : t.state = s.state
  selector : s.selector = t.selector
  enDraw : s.enDraw = t.enDraw
  detectors : s.detectors = t.detectors

/-- One reset cycle makes two designs equal up to `idx` and the bullets' positions and motions. -/
theorem blank_step {i : Pins} {s t : Sys} (h : Meet s t) (hs : s.resetH i = false)
    (ht : t.resetH i = false) : (s.step i).blank = (t.step i).blank := by
  have hrt : t.resetTank = true := by
    rw [resetTank, h.state]
    exact h.reset
  have hls : s.livesLoad i = true := by
    rw [livesLoad, hs, Bool.false_or]
    exact h.reset
  have hlt : t.livesLoad i = true := by
    rw [livesLoad, ht, Bool.false_or]
    exact hrt
  have hnext : s.nextState i = t.nextState i := by
    have hr : s.state = .GAME_RST1 ∨ s.state = .GAME_RST2 := by simpa [resetTank] using h.reset
    rcases hr with hr | hr <;> simp only [nextState, h.state, hr]
  have hen : s.enState = t.enState := by rw [enState, enState, h.state]
  have hd := h.detectors
  simp only [Sys.detectors, List.cons.injEq, and_true] at hd
  obtain ⟨e1, e2, e3, e4, e5, e6, e7, e8⟩ := hd
  simp only [Sys.blank, Bullet.clear, Sys.step, tank1, tank2_eq, Tank.step, Enemy.step,
    enemyBullets, bullets1, bullets2, Bullet.step, hs, ht, h.reset, hrt, hls, hlt, hnext, hen,
    h.selector, h.enDraw, e1, e2, e3, e4, e5, e6, e7, e8, Bool.true_or, if_true]

theorem Meet.of_blank {s t : Sys} (h : s.blank = t.blank) (hr : s.resetTank = true) : Meet s t where
  reset := hr
  state := (congrArg Sys.state h.symm :)
  selector := (congrArg Sys.selector h :)
  enDraw := (congrArg Sys.enDraw h :)
  detectors := (congrArg Sys.detectors h :)

/-- A bullet machine in reset is loaded with its muzzle. -/
theorem bulletPositions_step {i : Pins} {s : Sys} (hr : s.resetTank = true) :
    (s.step i).bulletPositions = s.muzzles := by
  simp only [bulletPositions, muzzles, Sys.step, enemyBullets, bullets1, bullets2, Bullet.step,
    Enemy.step, hr, Bool.true_or, if_true]

theorem headings_step (i : Pins) (s : Sys) :
    ((s.step i).enemy1.idx, (s.step i).enemy2.idx) = s.headings := rfl

/-! ### The headings during the reset -/

/-- The tanks and enemies are in their start positions and no heading is being chosen. -/
structure AtStart (s : Sys) : Prop where
  tank1 : s.tank1.xPos = 2 ∧ s.tank1.yPos = 458
  enemy1 : s.enemy1.xPos = 458 ∧ s.enemy1.yPos = 23 ∧ s.enemy1.counter = 0
  enemy2 : s.enemy2.xPos = 23 ∧ s.enemy2.yPos = 23 ∧ s.enemy2.counter = 0

theorem atStart_step {i : Pins} {s : Sys} (hr : s.resetTank = true) : AtStart (s.step i) := by
  constructor <;> simp [Sys.step, TankBattle.tank1, Tank.step, Enemy.step, hr, tank1Config,
    enemy1Config, enemy2Config]

/-- Nothing stops an enemy in its start position. -/
theorem start_stops (e o : Bool) :
    enemyWallStops nearStops 458 23 2 458 e o 23 23 = .none ∧
      enemyWallStops nearStops2 23 23 2 458 e o 458 23 = .none := by
  revert e o
  decide +kernel

/-- The headings are kept in the start positions. -/
theorem AtStart.headings {s : Sys} (h : AtStart s) : s.headings = (s.enemy1.idx, s.enemy2.idx) := by
  obtain ⟨⟨t1, t2⟩, ⟨x1, y1, c1⟩, ⟨x2, y2, c2⟩⟩ := h
  have h1 : s.enemy1.stops enemy1Config s.enemy1Pins = .none := by
    simp only [Enemy.stops, enemy1Pins, t1, t2, x1, y1, x2, y2, enemy1Config]
    exact (start_stops _ _).1
  have h2 : s.enemy2.stops enemy2Config s.enemy2Pins = .none := by
    simp only [Enemy.stops, enemy2Pins, t1, t2, x1, y1, x2, y2, enemy2Config]
    exact (start_stops _ _).2
  rw [Sys.headings, h1, h2]
  simp [Enemy.nextIdx, c1, c2, Enemy.decisionCount, Stops.none]

/-! ### The first cycle of the game -/

/-- The bullet without its motion. -/
def Bullet.still (b : Bullet) : Bullet := { b with xMotion := 0, yMotion := 0 }

/-- The design without the motions of the bullets. -/
def Sys.still (s : Sys) : Sys :=
  { s with
    enemy1 := { s.enemy1 with bullet := s.enemy1.bullet.still }
    enemy2 := { s.enemy2 with bullet := s.enemy2.bullet.still }
    bullets1 := s.bullets1.still
    bullets2 := s.bullets2.still }

/-- An idle bullet machine loads its motion. -/
theorem Bullet.step_still {b : Bullet} (h : b.state = .NOBULLET)
    (fire reset frameClk stopBullet : Bool) (dir : Dir) (m : Mids) :
    b.still.step fire reset frameClk stopBullet dir m =
      b.step fire reset frameClk stopBullet dir m := by
  have hl : b.bulletLoad = true := by simp [bulletLoad, h]
  have hl' : b.still.bulletLoad = true := hl
  simp only [Bullet.step, hl, hl', Bool.or_true, if_true]
  rfl

/-- All bullet machines are idle. -/
def Sys.NoBullets (s : Sys) : Prop :=
  s.bullets1.state = .NOBULLET ∧ s.bullets2.state = .NOBULLET ∧
    s.enemy1.bullet.state = .NOBULLET ∧ s.enemy2.bullet.state = .NOBULLET

/-- The motion of an idle bullet is forgotten. -/
theorem still_step {s : Sys} (h : s.NoBullets) (i : Pins) : s.still.step i = s.step i := by
  obtain ⟨h1, h2, h3, h4⟩ := h
  have e1 : s.still.enemy1.step enemy1Config s.resetTank i.vgaVS s.enemy1Pins =
      s.enemy1.step enemy1Config s.resetTank i.vgaVS s.enemy1Pins := by
    have := Bullet.step_still h3 true s.resetTank i.vgaVS (s.enemy1.stopBullet s.enemy1Pins)
      s.enemy1.isEnemyOut s.enemy1.mids
    unfold Enemy.step enemyBullets
    rw [← this]
    rfl
  have e2 : s.still.enemy2.step enemy2Config s.resetTank i.vgaVS s.enemy2Pins =
      s.enemy2.step enemy2Config s.resetTank i.vgaVS s.enemy2Pins := by
    have := Bullet.step_still h4 true s.resetTank i.vgaVS (s.enemy2.stopBullet s.enemy2Pins)
      s.enemy2.isEnemyOut s.enemy2.mids
    unfold Enemy.step enemyBullets
    rw [← this]
    rfl
  have b1 := Bullet.step_still h1 (keyOn i.keycode 0x06) s.resetTank i.vgaVS s.stopBullet1
    s.tank1.isTankDir (midsOf s.tank1.xPos s.tank1.yPos)
  have b2 := Bullet.step_still h2 (keyOn i.keycode 0x0b && s.twoPlayersMode) s.resetTank i.vgaVS
    s.stopBullet2 s.tank2.isTankDir (midsOf s.tank2.xPos s.tank2.yPos)
  unfold Sys.step bullets1 bullets2
  rw [← e1, ← e2, ← b1, ← b2]
  rfl

theorem noBullets_step {i : Pins} {s : Sys} (hr : s.resetTank = true) : (s.step i).NoBullets := by
  simp [NoBullets, Sys.step, enemyBullets, bullets1, bullets2, Bullet.step, Enemy.step, hr]

/-- A bullet put at a position. -/
def Bullet.put (b : Bullet) (pos : Coord × Coord) : Bullet :=
  { b with xPos := pos.1, yPos := pos.2 }

/-- The design without the motions, from what the reset determines, the headings and the bullets'
positions. -/
def Sys.fill (s : Sys) (idx1 idx2 : BitVec 3) (p1 p2 p3 p4 : Coord × Coord) : Sys :=
  { s with
    enemy1 := { s.enemy1 with idx := idx1, bullet := s.enemy1.bullet.put p3 }
    enemy2 := { s.enemy2 with idx := idx2, bullet := s.enemy2.bullet.put p4 }
    bullets1 := s.bullets1.put p1
    bullets2 := s.bullets2.put p2 }

theorem still_eq_fill (s : Sys) :
    s.still = s.blank.fill s.enemy1.idx s.enemy2.idx (s.bullets1.xPos, s.bullets1.yPos)
      (s.bullets2.xPos, s.bullets2.yPos) (s.enemy1.bullet.xPos, s.enemy1.bullet.yPos)
      (s.enemy2.bullet.xPos, s.enemy2.bullet.yPos) := rfl

/-- After the reset two designs differ in the headings and the bullets' positions at most, beside
the motions. -/
theorem still_eq {s t : Sys} (h : s.blank = t.blank)
    (hidx : (s.enemy1.idx, s.enemy2.idx) = (t.enemy1.idx, t.enemy2.idx))
    (hpos : s.bulletPositions = t.bulletPositions) : s.still = t.still := by
  simp only [Prod.mk.injEq] at hidx
  simp only [bulletPositions, List.cons.injEq, and_true] at hpos
  obtain ⟨p1, p2, p3, p4⟩ := hpos
  rw [still_eq_fill, still_eq_fill, h, hidx.1, hidx.2, p1, p2, p3, p4]

/-! ### Two runs -/

/-- Two runs that are in the same reset state from cycles `a` and `b` on, for `k + 1` cycles, and
then go on to the game, with equal `en_num`, phase of the frame clock and inputs. -/
structure NewGame (R S : Run) (a b k : ℕ) : Prop where
  reset : ∀ j ≤ k, (R.state (a + j)).resetTank = true ∧
    (S.state (b + j)).state = (R.state (a + j)).state
  game : (R.state (a + (k + 1))).InGame ∧ (S.state (b + (k + 1))).InGame
  enNum : (R.state a).enNum = (S.state b).enNum
  phase : (R.state a).tank1.edge = (S.state b).tank1.edge
  input : ∀ j, R.input (a + j) = S.input (b + j)

theorem reset_cases {s : Sys} (h : s.resetTank = true) :
    s.state = .GAME_RST1 ∨ s.state = .GAME_RST2 := by
  simpa [resetTank] using h

/-- The reset states are not among the first two of a run. -/
theorem two_le_of_reset (R : Run) {n : ℕ} (h : (R.state n).resetTank = true) :
    ∃ m, n = m + 2 := by
  have h0 := state_zero R
  match n, h with
  | 0, h => rcases reset_cases h with h | h <;> rw [h0] at h <;> cases h
  | 1, h =>
    have hs := reset_cases h
    have hr : (R.state 0).resetH (R.input 0) = false :=
      not_resetH_of_state (by rw [← R.succ]; rcases hs with hs | hs <;> rw [hs] <;> decide)
    rw [R.succ, state_of_not_resetH hr] at hs
    rcases hs with hs | hs
    · rcases next_GAME_RST1 hs with h | h <;> rw [h0] at h <;> cases h
    · rcases next_GAME_RST2 hs with ⟨h, -⟩ | h <;> rw [h0] at h <;> cases h
  | n + 2, _ => exact ⟨n, rfl⟩

theorem detectors_of_reset (R : Run) {n : ℕ} (h : (R.state n).resetTank = true) :
    (R.state n).detectors = List.replicate 8 (R.state n).tank1.edge := by
  obtain ⟨m, rfl⟩ := two_le_of_reset R h
  exact detectors_run R m

namespace NewGame

variable {R S : Run} {a b k : ℕ}

theorem meet (h : NewGame R S a b k) : Meet (R.state a) (S.state b) := by
  obtain ⟨hr, hs⟩ : (R.state a).resetTank = true ∧ (S.state b).state = (R.state a).state :=
    h.reset 0 (Nat.zero_le k)
  have hrS : (S.state b).resetTank = true := by
    rw [resetTank, hs]
    exact hr
  have hmR := menuOk_run R a
  have hmS := menuOk_run S b
  have hd : (R.state a).detectors = (S.state b).detectors := by
    rw [detectors_of_reset R hr, detectors_of_reset S hrS, h.phase]
  rcases reset_cases hr with h1 | h2
  · have hsel : (R.state a).selector = (S.state b).selector := by
      rw [hmR.one (by simp [h1]), hmS.one (by simp [hs, h1])]
    have hen : (R.state a).enDraw = (S.state b).enDraw := by
      have e1 := hmR.done (by simp [h1])
      have e2 := hmS.done (by simp [hs, h1])
      have := h.enNum
      unfold Sys.enNum at this
      cases hR : (R.state a).enDraw
      cases hS : (S.state b).enDraw
      simp_all
    exact ⟨hr, hs, hsel, hen, hd⟩
  · have sR := hmR.two (by simp [h2])
    have sS := hmS.two (by simp [hs, h2])
    exact ⟨hr, hs, sR.trans sS.symm, (hmR.idle (by simp [sR])).trans (hmS.idle (by simp [sS])).symm,
      hd⟩

/-- Neither run is reset on the way to the game. -/
theorem not_resetH (h : NewGame R S a b k) {j : ℕ} (hj : j ≤ k) :
    (R.state (a + j)).resetH (R.input (a + j)) = false ∧
      (S.state (b + j)).resetH (R.input (a + j)) = false := by
  have hne : (R.state (a + j + 1)).state ≠ .BG ∧ (S.state (b + j + 1)).state ≠ .BG := by
    rw [Nat.add_assoc, Nat.add_assoc]
    rcases Nat.eq_or_lt_of_le hj with rfl | hlt
    · exact ⟨by rcases h.game.1 with hg | hg <;> rw [hg] <;> decide,
        by rcases h.game.2 with hg | hg <;> rw [hg] <;> decide⟩
    · obtain ⟨hr, hs⟩ := h.reset (j + 1) hlt
      rw [hs]
      rcases reset_cases hr with hg | hg <;> rw [hg] <;> decide
  rw [R.succ, S.succ, ← h.input] at hne
  exact ⟨not_resetH_of_state hne.1, not_resetH_of_state hne.2⟩

theorem blank (h : NewGame R S a b k) {j : ℕ} (hj : j ≤ k) :
    (R.state (a + (j + 1))).blank = (S.state (b + (j + 1))).blank := by
  have hstep : ∀ j ≤ k, Meet (R.state (a + j)) (S.state (b + j)) →
      (R.state (a + (j + 1))).blank = (S.state (b + (j + 1))).blank := fun j hj hm => by
    rw [← Nat.add_assoc, ← Nat.add_assoc, R.succ, S.succ, ← h.input]
    exact blank_step hm (h.not_resetH hj).1 (h.not_resetH hj).2
  induction j with
  | zero => exact hstep 0 hj h.meet
  | succ j ih => exact hstep (j + 1) hj (Meet.of_blank (ih (by omega)) (h.reset (j + 1) hj).1)

end NewGame

/-- The headings of the new game are those of the first reset cycle. -/
theorem idx_of_reset (R : Run) {a k : ℕ} (hr : ∀ j ≤ k, (R.state (a + j)).resetTank = true) {j : ℕ}
    (hj : j ≤ k) :
    ((R.state (a + (j + 1))).enemy1.idx, (R.state (a + (j + 1))).enemy2.idx) =
      (R.state a).headings := by
  induction j with
  | zero => rw [← headings_step (R.input a), ← R.succ]
  | succ j ih =>
    have hstart : AtStart (R.state (a + (j + 1))) := by
      rw [← Nat.add_assoc, R.succ]
      exact atStart_step (hr j (by omega))
    rw [← ih (by omega), ← hstart.headings, ← headings_step (R.input (a + (j + 1))), ← R.succ]
    rfl

namespace NewGame

variable {R S : Run} {a b k : ℕ}

theorem reset_left (h : NewGame R S a b k) : ∀ j ≤ k, (R.state (a + j)).resetTank = true :=
  fun j hj => (h.reset j hj).1

theorem reset_right (h : NewGame R S a b k) : ∀ j ≤ k, (S.state (b + j)).resetTank = true :=
  fun j hj => by
    obtain ⟨hr, hs⟩ := h.reset j hj
    rw [resetTank, hs]
    exact hr

/-- The bullets of the new games start at the same points if and only if the muzzles agree in a
reset of one cycle; a longer one clears them. -/
theorem bulletPositions_iff (h : NewGame R S a b k) :
    (R.state (a + (k + 1))).bulletPositions = (S.state (b + (k + 1))).bulletPositions ↔
      (k = 0 → (R.state a).muzzles = (S.state b).muzzles) := by
  rw [← Nat.add_assoc, ← Nat.add_assoc, R.succ, S.succ,
    bulletPositions_step (h.reset_left k le_rfl), bulletPositions_step (h.reset_right k le_rfl)]
  cases k with
  | zero => exact (imp_iff_right rfl).symm
  | succ k =>
    have hb := h.blank (j := k) (by omega)
    exact iff_of_true (congrArg Sys.muzzles hb :) (fun h0 => absurd h0 (by omega))

/-- From the second cycle of the game on nothing differs any more. -/
theorem state_eq (h : NewGame R S a b k)
    (hs : (R.state (a + (k + 1))).still = (S.state (b + (k + 1))).still) (j : ℕ) :
    R.state (a + (k + 1) + 1 + j) = S.state (b + (k + 1) + 1 + j) := by
  refine R.eq_of_eq S ?_ (fun j => ?_) j
  · have hR : (R.state (a + (k + 1))).NoBullets := by
      rw [← Nat.add_assoc, R.succ]
      exact noBullets_step (h.reset_left k le_rfl)
    have hS : (S.state (b + (k + 1))).NoBullets := by
      rw [← Nat.add_assoc, S.succ]
      exact noBullets_step (h.reset_right k le_rfl)
    rw [R.succ, S.succ, ← still_step hR, ← still_step hS, hs, h.input]
  · have := h.input (k + 1 + 1 + j)
    rwa [← Nat.add_assoc, ← Nat.add_assoc, ← Nat.add_assoc, ← Nat.add_assoc] at this

end NewGame

/-- **A new game does not depend on history** if and only if the headings of the first reset cycle
agree and, in a reset of one cycle, the muzzles do. -/
theorem new_game_iff (R S : Run) (a b k : ℕ) (h : NewGame R S a b k) :
    (∀ j, k < j → (R.state (a + j)).view = (S.state (b + j)).view) ↔
      (R.state a).headings = (S.state b).headings ∧
        (k = 0 → (R.state a).muzzles = (S.state b).muzzles) := by
  have hidx : ((R.state (a + (k + 1))).enemy1.idx, (R.state (a + (k + 1))).enemy2.idx) =
        ((S.state (b + (k + 1))).enemy1.idx, (S.state (b + (k + 1))).enemy2.idx) ↔
      (R.state a).headings = (S.state b).headings := by
    rw [idx_of_reset R h.reset_left le_rfl, idx_of_reset S h.reset_right le_rfl]
  rw [← hidx, ← h.bulletPositions_iff]
  constructor
  · intro hv
    have h1 := hv (k + 1) (Nat.lt_succ_self k)
    exact ⟨congrArg View.headings h1, congrArg View.bulletPositions h1⟩
  · rintro ⟨hi, hp⟩ j hj
    have hstill := still_eq (h.blank le_rfl) hi hp
    obtain ⟨d, rfl⟩ := Nat.exists_eq_add_of_lt hj
    cases d with
    | zero => exact (congrArg Sys.view hstill :)
    | succ d =>
      have := h.state_eq hstill d
      rw [show a + (k + (d + 1) + 1) = a + (k + 1) + 1 + d by omega,
        show b + (k + (d + 1) + 1) = b + (k + 1) + 1 + d by omega, this]

/-- Two players who never touch a key. -/
def resting : Run := runOf fun n => press (twoPlayerKeys n) false

/-- The keys of `resting`, with a frame pulse while the mode is being chosen. -/
def earlyPulse : Run := runOf fun n => press (twoPlayerKeys n) (n == 2)

theorem resting_earlyPulse : NewGame resting earlyPulse 5 5 0 where
  reset j hj := by
    obtain rfl : j = 0 := by omega
    decide +kernel
  game := by unfold InGame; decide +kernel
  enNum := by decide +kernel
  phase := by decide +kernel
  input j := by
    have : (5 + j == 2) = false := by simp; omega
    show press (twoPlayerKeys (5 + j)) false = press (twoPlayerKeys (5 + j)) (5 + j == 2)
    rw [this]

theorem new_game_iff_earlyPulse :
    (∀ j, 0 < j → (resting.state (5 + j)).view = (earlyPulse.state (5 + j)).view) ↔
      (resting.state 5).headings = (earlyPulse.state 5).headings ∧
        (0 = 0 → (resting.state 5).muzzles = (earlyPulse.state 5).muzzles) :=
  new_game_iff resting earlyPulse 5 5 0 resting_earlyPulse

/-- The pulse moved tank 1 by two pixels, and the bullet's first position in the game tells. -/
theorem history_matters :
    ¬ ∀ (R S : Run) (a b k : ℕ), NewGame R S a b k →
      ∀ j, k < j → (R.state (a + j)).view = (S.state (b + j)).view := by
  intro h
  have hv := h resting earlyPulse 5 5 0 resting_earlyPulse 1 Nat.one_pos
  have hp : (resting.state 6).bulletPositions = (earlyPulse.state 6).bulletPositions :=
    congrArg View.bulletPositions hv
  exact absurd hp (by decide +kernel)

end TankBattle
