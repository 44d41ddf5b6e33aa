import TankBattle.Shots
import TankBattle.Envelope
import TankBattle.Patrol

/-!
# Flights in exact arithmetic

From the muzzle on, a bullet moves by six pixels at every frame pulse that finds it inside the
border.  The border guard reads the position before the step and keeps three pixels off, half of a
step.

* `stopOf`, `midsFor`: the inputs of the bullet machine of a pair;
* `Flight`: a stretch of `BULLET` and `BULLET_BOOM` after an entry;
* `FliesExactly`: the registers hold the muzzle plus six pixels for every update;
* `unstopped`: the frame pulses up to the first that finds a stop signal;
* `Underruns`: the muzzles, directions and numbers of such pulses with which a flight wraps;
* `flies_exactly_iff`: no other flight does; after a tank reset it is one to the left from a column
  with a remainder of at least 3 by 6;
* `underrun`: such a flight.
-/

namespace TankBattle

open Sys

namespace Sys

/-- The stop input of the bullet machine of a pair. -/
def stopOf (s : Sys) : Pair → Bool
  | .bullets1_enemy1 | .bullets1_enemy2 | .bullets1_tank2 => s.stopBullet1
  | .bullets2_tank1 => s.stopBullet2
  | .enemy1_tank1 => s.enemy1.stopBullet s.enemy1Pins
  | .enemy2_tank1 => s.enemy2.stopBullet s.enemy2Pins

/-- The muzzle coordinates that the bullet machine of a pair is wired to. -/
def midsFor (s : Sys) : Pair → Mids
  | .bullets1_enemy1 | .bullets1_enemy2 | .bullets1_tank2 => midsOf s.tank1.xPos s.tank1.yPos
  | .bullets2_tank1 => midsOf s.tank2.xPos s.tank2.yPos
  | .enemy1_tank1 => s.enemy1.mids
  | .enemy2_tank1 => s.enemy2.mids

/-- `Bullet_X_Start`, `Bullet_Y_Start` of the bullet machine of a pair. -/
def muzzleOf (s : Sys) (p : Pair) : Coord × Coord :=
  Bullet.muzzle (s.midsFor p) (s.shooter p).isBulletOut

/-- The bullet of a pair is moved at the next edge. -/
def Advances (s : Sys) (p : Pair) : Prop :=
  ((s.shooter p).edge.rising && (s.shooter p).drawBullet && (s.shooter p).free (s.stopOf p)) = true

instance (s : Sys) (p : Pair) : Decidable (s.Advances p) := inferInstanceAs (Decidable (_ = true))

variable {s : Sys} {p : Pair}

theorem Advances.posIn (h : s.Advances p) : (s.shooter p).posIn (s.stopOf p) =
    ((s.shooter p).xPos + (s.shooter p).xMotion, (s.shooter p).yPos + (s.shooter p).yMotion) :=
  if_pos h

theorem posIn_of_not_advances (h : ¬ s.Advances p) :
    (s.shooter p).posIn (s.stopOf p) = ((s.shooter p).xPos, (s.shooter p).yPos) :=
  if_neg h

theorem Advances.free (h : s.Advances p) : (s.shooter p).free (s.stopOf p) = true :=
  (Bool.and_eq_true_iff.1 h).2

theorem Advances.rising (h : s.Advances p) : (s.shooter p).edge.rising = true :=
  (Bool.and_eq_true_iff.1 (Bool.and_eq_true_iff.1 h).1).1

theorem Advances.state (h : s.Advances p) : (s.shooter p).state = .BULLET :=
  beq_iff_eq.1 (Bool.and_eq_true_iff.1 (Bool.and_eq_true_iff.1 h).1).2

theorem advances_of_free (hs : (s.shooter p).state = .BULLET)
    (hr : (s.shooter p).edge.rising = true) (hf : (s.shooter p).free (s.stopOf p) = true) :
    s.Advances p := by
  rw [Advances, hr, hf, Bullet.drawBullet, hs]
  rfl

end Sys

theorem shooter_step_of (i : Pins) (s : Sys) (p : Pair) :
    ∃ (fire : Bool) (dir : Dir), (s.step i).shooter p =
      (s.shooter p).step fire s.resetTank i.vgaVS (s.stopOf p) dir (s.midsFor p) := by
  cases p <;> exact ⟨_, _, rfl⟩

/-! ### Steps of six pixels -/

/-- The position registers can hold the place. -/
def Storable (q : ℤ × ℤ) : Prop := 0 ≤ q.1 ∧ q.1 < 1024 ∧ 0 ≤ q.2 ∧ q.2 < 1024

/-- The border guard of a bullet at a place that the registers can hold. -/
def InBorder (q : ℤ × ℤ) : Prop :=
  (2 < q.1 ∧ q.1 ≤ 474 ∨ 1021 ≤ q.1) ∧ (20 < q.2 ∧ q.2 ≤ 474 ∨ 1021 ≤ q.2)

/-- The place after `k` updates in the direction `d` from the muzzle `m`. -/
def along (m : Coord × Coord) (d : Dir) (k : ℕ) : ℤ × ℤ :=
  (m.1.toNat + k * (stride 6 (some d)).1, m.2.toNat + k * (stride 6 (some d)).2)

/-- With `n` frame pulses, a flight from the muzzle `m` in the direction `d` wraps.  To the left it
does so from a column with a remainder of at least 3, after as many updates as fit; to the right
and down, from a muzzle at the end of the registers only. -/
def Underruns (m : Coord × Coord) (d : Dir) (n : ℕ) : Prop :=
  InBorder (m.1.toNat, m.2.toNat) ∧
    (d = .left ∧ m.1.toNat ≤ 474 ∧ 3 ≤ m.1.toNat % 6 ∧ m.1.toNat / 6 < n ∨
      d = .right ∧ 1021 ≤ m.1.toNat ∧ 0 < n ∨ d = .down ∧ 1021 ≤ m.2.toNat ∧ 0 < n)

section Along

variable {m : Coord × Coord} {d : Dir} {k n : ℕ}

theorem along_zero : along m d 0 = (↑m.1.toNat, ↑m.2.toNat) := by simp [along]

theorem along_succ : along m d (k + 1) =
    ((along m d k).1 + (stride 6 (some d)).1, (along m d k).2 + (stride 6 (some d)).2) := by
  simp only [along, Nat.cast_add, Nat.cast_one, add_one_mul, add_assoc]

/-- A place beyond one that is out of range is out of range. -/
theorem storable_of_le {k' : ℕ} (hk : k ≤ k') (h : Storable (along m d k')) :
    Storable (along m d k) := by
  have := m.1.isLt
  have := m.2.isLt
  unfold Storable along at *
  cases d <;> simp only [stride] at * <;> omega

/-- A flight wraps when the border guard passes all places up to one whose next is out of range. -/
theorem underruns_iff : Underruns m d n ↔
    ∃ u < n, (∀ k ≤ u, InBorder (along m d k)) ∧ ¬ Storable (along m d (u + 1)) := by
  have hx := m.1.isLt
  have hy := m.2.isLt
  constructor
  · rintro ⟨hb, ⟨rfl, h1, h2, h3⟩ | ⟨rfl, h1, h2⟩ | ⟨rfl, h1, h2⟩⟩
    · refine ⟨m.1.toNat / 6, h3, fun k hk => ?_, ?_⟩ <;>
        simp only [InBorder, Storable, along, stride] at * <;> omega
    all_goals
      refine ⟨0, h2, fun k hk => ?_, ?_⟩
      · rwa [Nat.le_zero.1 hk, along_zero]
      · simp only [InBorder, Storable, along, stride] at *
        omega
  · rintro ⟨u, hu, hb, hr⟩
    have h0 := hb 0 (Nat.zero_le u)
    have hlast := hb u le_rfl
    refine ⟨by rwa [along_zero] at h0, ?_⟩
    -- right and down, a muzzle in the field has a place between the border and the end of the
    -- registers; left, a muzzle at the end of the registers has one above the border
    have hfield := hb ((480 - m.1.toNat) / 6)
    have hfield' := hb ((480 - m.2.toNat) / 6)
    have hend := hb 1
    cases d <;>
      simp only [InBorder, Storable, along, stride, reduceCtorEq, true_and, false_and, false_or,
        or_false] at * <;>
      omega

end Along

namespace Bullet

variable {b : Bullet}

theorem free_iff {stop : Bool} :
    b.free stop = true ↔ InBorder (b.xPos.toNat, b.yPos.toNat) ∧ stop = false := by
  have hx := b.xPos.isLt
  have hy := b.yPos.isLt
  simp only [free, InBorder, Bool.and_eq_true, decide_eq_true_eq, Bool.not_eq_true', BitVec.lt_def,
    BitVec.toNat_add, BitVec.reduceToNat]
  refine and_congr_left fun _ => ?_
  omega

/-- The motion registers hold six pixels in a direction. -/
def Flies (b : Bullet) (d : Dir) : Prop := (b.xMotion, b.yMotion) = motionIn d

theorem toNat_add_six (x : Coord) :
    ((x + 6).toNat : ℤ) = x.toNat + 6 ↔ (x.toNat : ℤ) + 6 < 1024 := by
  rw [BitVec.toNat_add, show (6 : Coord).toNat = 6 from rfl]
  have := x.isLt
  omega

theorem toNat_sub_six (x : Coord) :
    ((x + (~~~6 + 1)).toNat : ℤ) = x.toNat - 6 ↔ 0 ≤ (x.toNat : ℤ) - 6 := by
  rw [BitVec.toNat_add, show (~~~6 + 1 : Coord).toNat = 1018 from rfl]
  have := x.isLt
  omega

theorem toNat_add_zero (x : Coord) : ((x + 0).toNat : ℤ) = x.toNat + 0 := by
  rw [show x + 0 = x from BitVec.add_zero x, Int.add_zero]

/-- A step is exact if and only if the registers can hold its result. -/
theorem Flies.exact_iff {d : Dir} (h : b.Flies d) :
    ((b.xPos + b.xMotion).toNat : ℤ) = b.xPos.toNat + (stride 6 (some d)).1 ∧
        ((b.yPos + b.yMotion).toNat : ℤ) = b.yPos.toNat + (stride 6 (some d)).2 ↔
      Storable (b.xPos.toNat + (stride 6 (some d)).1, b.yPos.toNat + (stride 6 (some d)).2) := by
  have hx1024 := b.xPos.isLt
  have hy1024 := b.yPos.isLt
  obtain ⟨hx, hy⟩ := Prod.mk.inj h
  rw [hx, hy]
  unfold Storable
  cases d with
  | right =>
    refine (and_iff_left (toNat_add_zero _)).trans ((toNat_add_six _).trans ?_)
    simp only [stride]
    omega
  | up =>
    refine (and_iff_right (toNat_add_zero _)).trans ((toNat_sub_six _).trans ?_)
    simp only [stride]
    omega
  | left =>
    refine (and_iff_left (toNat_add_zero _)).trans ((toNat_sub_six _).trans ?_)
    simp only [stride]
    omega
  | down =>
    refine (and_iff_right (toNat_add_zero _)).trans ((toNat_add_six _).trans ?_)
    simp only [stride]
    omega

variable {fire reset frameClk stopBullet : Bool} {dir : Dir} {m : Mids}

/-- A flight begins at the muzzle, with six pixels in the direction of the muzzle. -/
theorem step_load (h : b.state ≠ .BULLET)
    (hs : (b.step fire reset frameClk stopBullet dir m).state = .BULLET) :
    (b.step fire reset frameClk stopBullet dir m).xPos = (muzzle m b.isBulletOut).1 ∧
      (b.step fire reset frameClk stopBullet dir m).yPos = (muzzle m b.isBulletOut).2 ∧
      (b.step fire reset frameClk stopBullet dir m).Flies b.isBulletOut := by
  have hload : b.bulletLoad = true := by
    cases reset
    · have hboom : b.state ≠ .BULLET_BOOM := by
        intro hb
        simp only [step, nextState, hb, Bool.false_eq_true, if_false] at hs
        split_ifs at hs
      simp [bulletLoad, h, hboom]
    · simp [step] at hs
  simp [step, hload, Flies]

/-- In the flight and in the explosion the motion registers are kept. -/
theorem step_airborne (h : b.state = .BULLET ∨ b.state = .BULLET_BOOM) :
    (b.step fire false frameClk stopBullet dir m).xPos = (b.posIn stopBullet).1 ∧
      (b.step fire false frameClk stopBullet dir m).yPos = (b.posIn stopBullet).2 ∧
      (b.step fire false frameClk stopBullet dir m).xMotion = b.xMotion ∧
      (b.step fire false frameClk stopBullet dir m).yMotion = b.yMotion := by
  have hload : b.bulletLoad = false := by rcases h with h | h <;> simp [bulletLoad, h]
  simp [step, hload]

end Bullet

/-! ### Flights -/

/-- The bullet of the pair has left the muzzle in cycle `c` and is drawn, flying or exploding, up
to cycle `t`. -/
structure Flight (R : Run) (p : Pair) (c t : ℕ) : Prop where
  entry : Entry R p c
  le : c ≤ t
  airborne : ∀ j, c ≤ j → j ≤ t → shot R p j = .BULLET ∨ shot R p j = .BULLET_BOOM

/-- The direction of a flight that begins in cycle `c`. -/
def heading (R : Run) (p : Pair) (c : ℕ) : Dir := ((R.state (c - 1)).shooter p).isBulletOut

/-- How often the bullet has been moved between the cycles `c` and `t`. -/
def updates (R : Run) (p : Pair) (c t : ℕ) : ℕ :=
  Nat.count (fun k => (R.state (c + k)).Advances p) (t - c)

/-- In cycle `t` the position registers hold the muzzle and six pixels for every update, as
integers. -/
structure FliesExactly (R : Run) (p : Pair) (c t : ℕ) : Prop where
  x : (((R.state t).shooter p).xPos.toNat : ℤ) = ((R.state (c - 1)).muzzleOf p).1.toNat +
    updates R p c t * (stride 6 (some (heading R p c))).1
  y : (((R.state t).shooter p).yPos.toNat : ℤ) = ((R.state (c - 1)).muzzleOf p).2.toNat +
    updates R p c t * (stride 6 (some (heading R p c))).2

/-- A frame pulse of a flight, no later than the first that finds a stop signal, which it is not. -/
def Unstopped (R : Run) (p : Pair) (c j : ℕ) : Prop :=
  ((R.state j).shooter p).edge.rising = true ∧
    ∀ i, c ≤ i → i ≤ j → ((R.state i).shooter p).edge.rising = true → (R.state i).stopOf p = false

instance (R : Run) (p : Pair) (c j : ℕ) : Decidable (Unstopped R p c j) :=
  inferInstanceAs (Decidable (_ ∧ _))

/-- How many of these pulses there are between the cycles `c` and `t`. -/
def unstopped (R : Run) (p : Pair) (c t : ℕ) : ℕ :=
  Nat.count (fun k => Unstopped R p c (c + k)) (t - c)

theorem updates_self (R : Run) (p : Pair) (c : ℕ) : updates R p c c = 0 := by
  rw [updates, Nat.sub_self, Nat.count_zero]

theorem updates_succ (R : Run) (p : Pair) {c j : ℕ} (h : c ≤ j) :
    updates R p c (j + 1) = updates R p c j + if (R.state j).Advances p then 1 else 0 := by
  rw [updates, updates, Nat.succ_sub h, Nat.count_succ, Nat.add_sub_cancel' h]

theorem unstopped_self (R : Run) (p : Pair) (c : ℕ) : unstopped R p c c = 0 := by
  rw [unstopped, Nat.sub_self, Nat.count_zero]

theorem unstopped_succ (R : Run) (p : Pair) {c j : ℕ} (h : c ≤ j) :
    unstopped R p c (j + 1) = unstopped R p c j + if Unstopped R p c j then 1 else 0 := by
  rw [unstopped, unstopped, Nat.succ_sub h, Nat.count_succ, Nat.add_sub_cancel' h]

theorem updates_mono (R : Run) (p : Pair) {c i j : ℕ} (h : i ≤ j) :
    updates R p c i ≤ updates R p c j :=
  Nat.count_monotone _ (Nat.sub_le_sub_right h c)

theorem unstopped_mono (R : Run) (p : Pair) {c i j : ℕ} (h : i ≤ j) :
    unstopped R p c i ≤ unstopped R p c j :=
  Nat.count_monotone _ (Nat.sub_le_sub_right h c)

section Flight

variable {R : Run} {p : Pair} {c t : ℕ} (h : Flight R p c t)

include h

/-- A flight begins at the muzzle. -/
theorem Flight.start : ((R.state c).shooter p).xPos = ((R.state (c - 1)).muzzleOf p).1 ∧
    ((R.state c).shooter p).yPos = ((R.state (c - 1)).muzzleOf p).2 ∧
    ((R.state c).shooter p).Flies (heading R p c) := by
  obtain ⟨hpos, hout, hin⟩ := h.entry
  obtain ⟨n, rfl⟩ : ∃ n, c = n + 1 := ⟨c - 1, by omega⟩
  obtain ⟨fire, dir, hs⟩ := shooter_step_of (R.input n) (R.state n) p
  rw [shot, R.succ, hs] at hin
  rw [R.succ, hs]
  exact Bullet.step_load hout hin

/-- There is no tank reset in a flight. -/
theorem Flight.resetTank {j : ℕ} (hc : c ≤ j) (ht : j < t) : (R.state j).resetTank = false := by
  rcases shot_succ R p j with ⟨-, hs⟩ | ⟨hr, -⟩
  · rcases h.airborne (j + 1) (by omega) ht with h' | h' <;> rw [hs] at h' <;> cases h'
  · exact hr

/-- What one edge does to a bullet that is drawn. -/
theorem Flight.next {j : ℕ} (hc : c ≤ j) (ht : j < t) :
    ((R.state (j + 1)).shooter p).xPos =
        (((R.state j).shooter p).posIn ((R.state j).stopOf p)).1 ∧
      ((R.state (j + 1)).shooter p).yPos =
        (((R.state j).shooter p).posIn ((R.state j).stopOf p)).2 ∧
      ((R.state (j + 1)).shooter p).xMotion = ((R.state j).shooter p).xMotion ∧
      ((R.state (j + 1)).shooter p).yMotion = ((R.state j).shooter p).yMotion := by
  obtain ⟨fire, dir, hs⟩ := shooter_step_of (R.input j) (R.state j) p
  rw [h.resetTank hc ht] at hs
  rw [R.succ, hs]
  exact Bullet.step_airborne (h.airborne j hc ht.le)

/-- The motion registers hold the direction of the flight. -/
theorem Flight.flies {j : ℕ} (hc : c ≤ j) (ht : j ≤ t) :
    ((R.state j).shooter p).Flies (heading R p c) := by
  induction j, hc using Nat.le_induction with
  | base => exact h.start.2.2
  | succ j hc ih =>
    obtain ⟨-, -, hx, hy⟩ := h.next hc ht
    rw [Bullet.Flies, hx, hy]
    exact ih (by omega)

theorem Flight.exact_self : FliesExactly R p c c := by
  obtain ⟨hx, hy, -⟩ := h.start
  constructor
  · rw [hx, updates_self, Nat.cast_zero, Int.zero_mul, Int.add_zero]
  · rw [hy, updates_self, Nat.cast_zero, Int.zero_mul, Int.add_zero]

omit h in
/-- The place of an exact flight. -/
theorem FliesExactly.place (he : FliesExactly R p c t) :
    ((((R.state t).shooter p).xPos.toNat : ℤ), (((R.state t).shooter p).yPos.toNat : ℤ)) =
      along ((R.state (c - 1)).muzzleOf p) (heading R p c) (updates R p c t) :=
  Prod.ext he.x he.y

/-- An exact position stays exact unless the edge moves the bullet out of range. -/
theorem Flight.exact_succ {j : ℕ} (hc : c ≤ j) (ht : j < t) (he : FliesExactly R p c j) :
    FliesExactly R p c (j + 1) ↔ ((R.state j).Advances p → Storable
      (along ((R.state (c - 1)).muzzleOf p) (heading R p c) (updates R p c j + 1))) := by
  obtain ⟨hx, hy, -⟩ := h.next hc ht
  have hu := updates_succ R p hc
  by_cases ha : (R.state j).Advances p
  · rw [ha.posIn] at hx hy
    rw [if_pos ha] at hu
    rw [forall_prop_of_true ha, along_succ, ← he.place, ← (h.flies hc ht.le).exact_iff]
    constructor
    · rintro ⟨ex, ey⟩
      rw [hx, hu, Nat.cast_add, Int.add_mul, ← Int.add_assoc, ← he.x] at ex
      rw [hy, hu, Nat.cast_add, Int.add_mul, ← Int.add_assoc, ← he.y] at ey
      simpa using And.intro ex ey
    · rintro ⟨ex, ey⟩
      constructor
      · rw [hx, hu, ex, he.x]
        push_cast
        ring
      · rw [hy, hu, ey, he.y]
        push_cast
        ring
  · rw [posIn_of_not_advances ha] at hx hy
    rw [if_neg ha, Nat.add_zero] at hu
    refine iff_of_true ⟨?_, ?_⟩ fun hj => absurd hj ha
    · rw [hx, hu]
      exact he.x
    · rw [hy, hu]
      exact he.y

/-- A flight that explodes is over. -/
theorem Flight.bullet_before {i j : ℕ} (hj : shot R p j = .BULLET) (hjt : j ≤ t) (hci : c ≤ i)
    (hij : i ≤ j) : shot R p i = .BULLET := by
  revert hci
  induction hij using Nat.decreasingInduction with
  | self => exact fun _ => hj
  | of_succ i hij ih =>
    intro hci
    have ih := ih (by omega)
    refine (h.airborne i hci (by omega)).resolve_right fun hboom => ?_
    obtain ⟨fire, dir, hs⟩ := shooter_step_of (R.input i) (R.state i) p
    have hstate : ((R.state i).shooter p).state = .BULLET_BOOM := hboom
    rw [shot, R.succ, hs, h.resetTank hci (by omega)] at ih
    simp only [Bullet.step, Bullet.nextState, hstate, Bool.false_eq_true, if_false] at ih
    split_ifs at ih

/-- A frame pulse that does not end the flight moves the bullet. -/
theorem Flight.advances_of_rising {i j : ℕ} (hj : shot R p j = .BULLET) (hjt : j ≤ t) (hci : c ≤ i)
    (hij : i < j) (hr : ((R.state i).shooter p).edge.rising = true) :
    (R.state i).Advances p := by
  have hi : ((R.state i).shooter p).state = .BULLET := h.bullet_before hj hjt hci hij.le
  have hi' := h.bullet_before hj hjt (i := i + 1) (by omega) hij
  obtain ⟨fire, dir, hs⟩ := shooter_step_of (R.input i) (R.state i) p
  rw [shot, R.succ, hs, h.resetTank hci (by omega)] at hi'
  simp only [Bullet.step, Bullet.nextState, hi, Bullet.interrupt, Bullet.drawBullet, hr,
    Bool.false_eq_true, if_false, beq_self_eq_true, Bool.true_and] at hi'
  refine advances_of_free hi hr ?_
  split_ifs at hi' with h1 h2
  simpa using h2

omit h in
/-- Every place that an exact flight has been moved from is inside the border. -/
theorem inBorder_of_exact {j : ℕ} (hc : c ≤ j)
    (he : ∀ i, c ≤ i → i < j → FliesExactly R p c i) : ∀ k < updates R p c j,
      InBorder (along ((R.state (c - 1)).muzzleOf p) (heading R p c) k) := by
  induction j, hc using Nat.le_induction with
  | base =>
    intro k hk
    rw [updates_self] at hk
    omega
  | succ j hc ih =>
    intro k hk
    have ih := ih fun i h1 h2 => he i h1 (by omega)
    rw [updates_succ R p hc] at hk
    split_ifs at hk with ha
    · rcases Nat.lt_succ_iff_lt_or_eq.1 hk with hk | rfl
      · exact ih k hk
      · rw [← (he j hc (by omega)).place]
        exact (Bullet.free_iff.1 ha.free).1
    · exact ih k hk

/-- A bullet that explodes has been interrupted in the flight. -/
theorem Flight.interrupted {j : ℕ} (hc : c ≤ j) (ht : j ≤ t) (hj : shot R p j = .BULLET_BOOM) :
    ∃ i, c ≤ i ∧ i < j ∧ ((R.state i).shooter p).edge.rising = true ∧
      ((R.state i).shooter p).free ((R.state i).stopOf p) = false := by
  induction j, hc using Nat.le_induction with
  | base =>
    rw [h.entry.2.2] at hj
    cases hj
  | succ j hc ih =>
    rcases h.airborne j hc (by omega) with hb | hb
    · obtain ⟨fire, dir, hs⟩ := shooter_step_of (R.input j) (R.state j) p
      have hstate : ((R.state j).shooter p).state = .BULLET := hb
      rw [shot, R.succ, hs, h.resetTank hc (by omega)] at hj
      simp only [Bullet.step, Bullet.nextState, hstate, Bool.false_eq_true, if_false] at hj
      split_ifs at hj with h1 h2
      simp only [Bullet.interrupt, Bool.and_eq_true, Bool.not_eq_true'] at h2
      exact ⟨j, hc, by omega, h2.1.1, h2.2⟩
    · obtain ⟨i, h1, h2, h3⟩ := ih (by omega) hb
      exact ⟨i, h1, by omega, h3⟩

/-- A bullet that flies has not been stopped. -/
theorem Flight.unstopped_of_advances {j : ℕ} (hc : c ≤ j) (ht : j < t)
    (ha : (R.state j).Advances p) : Unstopped R p c j := by
  refine ⟨ha.rising, fun i h1 h2 hr => ?_⟩
  rcases Nat.lt_or_eq_of_le h2 with h2 | rfl
  · exact (Bullet.free_iff.1 (h.advances_of_rising ha.state ht.le h1 h2 hr).free).2
  · exact (Bullet.free_iff.1 ha.free).2

theorem Flight.updates_le_unstopped {j : ℕ} (hc : c ≤ j) (ht : j ≤ t) :
    updates R p c j ≤ unstopped R p c j := by
  induction j, hc using Nat.le_induction with
  | base => rw [updates_self, unstopped_self]
  | succ j hc ih =>
    have ih := ih (by omega)
    rw [updates_succ R p hc, unstopped_succ R p hc]
    by_cases ha : (R.state j).Advances p
    · rw [if_pos ha, if_pos (h.unstopped_of_advances hc ht ha)]
      omega
    · rw [if_neg ha]
      omega

/-- As long as an exact flight is inside the border, every unstopped frame pulse moves it. -/
theorem Flight.le_updates_of_inBorder {j u : ℕ} (hc : c ≤ j) (ht : j ≤ t)
    (he : ∀ i, c ≤ i → i ≤ t → FliesExactly R p c i)
    (hb : ∀ k ≤ u, InBorder (along ((R.state (c - 1)).muzzleOf p) (heading R p c) k)) :
    min (unstopped R p c j) (u + 1) ≤ updates R p c j := by
  induction j, hc using Nat.le_induction with
  | base =>
    rw [unstopped_self, Nat.zero_min]
    exact Nat.zero_le _
  | succ j hc ih =>
    have ih := ih (by omega)
    have hmono := updates_mono R p (c := c) (Nat.le_add_right j 1)
    rw [unstopped_succ R p hc]
    by_cases hu : Unstopped R p c j
    · rcases Nat.lt_or_ge u (updates R p c j) with hlt | hge
      · omega
      · -- the bullet is still inside the border, and has been there at all pulses so far
        have hin : ∀ i, c ≤ i → i ≤ j → ((R.state i).shooter p).edge.rising = true →
            ((R.state i).shooter p).free ((R.state i).stopOf p) = true := by
          intro i h1 h2 hr
          refine Bullet.free_iff.2 ⟨?_, hu.2 i h1 h2 hr⟩
          rw [(he i h1 (by omega)).place]
          exact hb _ ((updates_mono R p h2).trans hge)
        have hstate : shot R p j = .BULLET := by
          refine (h.airborne j hc (by omega)).resolve_right fun hboom => ?_
          obtain ⟨i, h1, h2, hr, hf⟩ := h.interrupted hc (by omega) hboom
          rw [hin i h1 h2.le hr] at hf
          cases hf
        have ha := advances_of_free hstate hu.1 (hin j hc le_rfl hu.1)
        rw [updates_succ R p hc, if_pos ha, if_pos hu]
        omega
    · rw [if_neg hu]
      omega

/-- **A flight is exact** unless its muzzle, direction and number of frame pulses make it wrap. -/
theorem Flight.exact_iff : (∀ j, c ≤ j → j ≤ t → FliesExactly R p c j) ↔
    ¬ Underruns ((R.state (c - 1)).muzzleOf p) (heading R p c) (unstopped R p c t) := by
  rw [underruns_iff]
  constructor
  · rintro he ⟨u, hu, hb, hr⟩
    have hle := h.le_updates_of_inBorder h.le le_rfl he hb
    rw [Nat.min_eq_right hu] at hle
    have hin : Storable (along ((R.state (c - 1)).muzzleOf p) (heading R p c)
        (updates R p c t)) := by
      rw [← (he t h.le le_rfl).place]
      exact ⟨by omega, by have := ((R.state t).shooter p).xPos.isLt; omega, by omega,
        by have := ((R.state t).shooter p).yPos.isLt; omega⟩
    exact hr (storable_of_le hle hin)
  · intro hno j hc ht
    induction j using Nat.strong_induction_on with
    | _ j ih =>
      rcases Nat.lt_or_eq_of_le hc with hlt | rfl
      · obtain ⟨k, rfl⟩ : ∃ k, j = k + 1 := ⟨j - 1, by omega⟩
        have he : ∀ i, c ≤ i → i < k + 1 → FliesExactly R p c i := fun i h1 h2 =>
          ih i h2 h1 (by omega)
        refine (h.exact_succ (by omega) ht (he k (by omega) (by omega))).2 fun ha => ?_
        by_contra hr
        have hu : updates R p c (k + 1) = updates R p c k + 1 := by
          rw [updates_succ R p (by omega), if_pos ha]
        have hle := h.updates_le_unstopped (by omega) ht
        have hmono := unstopped_mono R p (c := c) ht
        refine hno ⟨updates R p c k, by omega, fun i hi => ?_, hr⟩
        exact inBorder_of_exact (by omega) he i (by omega)
      · exact h.exact_self

end Flight

/-! ### Where the muzzles are -/

/-- A muzzle in the field, and to the left inside the border. -/
def FieldMuzzle (m : Coord × Coord) (d : Dir) : Prop :=
  m.1.toNat ≤ 481 ∧ m.2.toNat ≤ 481 ∧
    (d = .left → m.1.toNat ≤ 474 ∧ 20 < m.2.toNat ∧ m.2.toNat ≤ 474)

theorem muzzle_midsOf_field {x y : Coord} (hx : x.toNat ≤ 460)
    (hy : 20 ≤ y.toNat ∧ y.toNat ≤ 462) (d : Dir) :
    FieldMuzzle (Bullet.muzzle (midsOf x y) d) d := by
  have hsize : size = 19 := rfl
  cases d <;> simp only [FieldMuzzle, Bullet.muzzle, midsOf, hsize, reduceCtorEq, false_imp_iff,
    true_imp_iff, and_true] <;> bv_omega

theorem Enemy.muzzle_mids_field {e : Enemy} (h : InPatrol e.xPos.toNat e.yPos.toNat) (d : Dir) :
    FieldMuzzle (Bullet.muzzle e.mids d) d := by
  obtain ⟨-, hx, hy, hy'⟩ := h
  have hm := muzzle_midsOf_field (x := e.xPos) (y := e.yPos) (by omega) ⟨by omega, by omega⟩
  cases d with
  | right => exact hm .right
  | up => exact hm .up
  | left => exact hm .left
  | down => exact ⟨(hm .down).1, (hm .right).2.1, nofun⟩

/-- From a muzzle in the field a flight wraps to the left only. -/
theorem FieldMuzzle.underruns_iff {m : Coord × Coord} {d : Dir} {n : ℕ} (h : FieldMuzzle m d) :
    Underruns m d n ↔ d = .left ∧ 3 ≤ m.1.toNat % 6 ∧ m.1.toNat / 6 < n := by
  obtain ⟨hx, hy, hleft⟩ := h
  unfold Underruns InBorder
  constructor
  · rintro ⟨-, ⟨hd, -, h1, h2⟩ | ⟨-, h1, -⟩ | ⟨-, h1, -⟩⟩
    · exact ⟨hd, h1, h2⟩
    all_goals omega
  · rintro ⟨hd, h1, h2⟩
    obtain ⟨g1, g2, g3⟩ := hleft hd
    dsimp only
    exact ⟨by omega, Or.inl ⟨hd, g1, h1, h2⟩⟩

/-- After a tank reset every muzzle is in the field. -/
theorem muzzleOf_field (R : Run) (p : Pair) {r n : ℕ} (hr : (R.state r).resetTank = true)
    (hrn : r < n) :
    FieldMuzzle ((R.state n).muzzleOf p) ((R.state n).shooter p).isBulletOut := by
  obtain ⟨k, rfl⟩ := Nat.exists_eq_add_of_lt hrn
  have hpos : 0 < r := by
    refine Nat.pos_of_ne_zero ?_
    rintro rfl
    rw [resetTank, state_zero R] at hr
    cases hr
  obtain ⟨m, rfl⟩ : ∃ m, r = m + 1 := ⟨r - 1, by omega⟩
  rw [show m + 1 + k + 1 = m + 1 + 1 + k by omega]
  have h1 : OnGrid 2 (R.state (m + 1 + 1 + k)).tank1.mover := tankRun_onGrid (tank1Run R hr) k
  have h2 : OnGrid 2 (R.state (m + 1 + 1 + k)).tank2.mover := tankRun_onGrid (tank2Run R hr) k
  have h3 := patrolling_run (enemy1Run R m) (r := 0) (n := k + 1) hr (by omega)
  have h4 := patrolling_run (enemy2Run R m) (r := 0) (n := k + 1) hr (by omega)
  rw [show m + 1 + 1 + k = m + 1 + (k + 1) by omega] at h1 h2 ⊢
  cases p
  case bullets2_tank1 => exact muzzle_midsOf_field h2.x_le ⟨h2.y_ge, h2.y_le⟩ _
  case enemy1_tank1 => exact Enemy.muzzle_mids_field h3.place _
  case enemy2_tank1 => exact Enemy.muzzle_mids_field h4.place _
  all_goals exact muzzle_midsOf_field h1.x_le ⟨h1.y_ge, h1.y_le⟩ _

/-- No flight begins with a reset. -/
theorem Flight.reset_lt {R : Run} {p : Pair} {c t r : ℕ} (h : Flight R p c t) (hrc : r < c)
    (hr : (R.state r).resetTank = true) : r < c - 1 := by
  refine Nat.lt_of_le_of_ne (by omega) ?_
  rintro rfl
  have hin := h.entry.2.2
  rcases shot_succ R p (c - 1) with ⟨-, hs⟩ | ⟨hr', -⟩
  · rw [Nat.sub_add_cancel h.entry.1, hin] at hs
    cases hs
  · rw [hr] at hr'
    cases hr'

/-- **A flight is exact** if and only if its muzzle, its direction and its number of unstopped frame
pulses do not make it wrap.  After a tank reset only those to the left can: from a column with a
remainder of at least 3 by 6, when there are more frame pulses than whole steps to the edge. -/
theorem flies_exactly_iff (R : Run) (p : Pair) {c t : ℕ} (h : Flight R p c t) :
    ((∀ j, c ≤ j → j ≤ t → FliesExactly R p c j) ↔
      ¬ Underruns ((R.state (c - 1)).muzzleOf p) (heading R p c) (unstopped R p c t)) ∧
      ∀ r < c, (R.state r).resetTank = true →
        ((∀ j, c ≤ j → j ≤ t → FliesExactly R p c j) ↔
          ¬ (heading R p c = .left ∧ 3 ≤ ((R.state (c - 1)).muzzleOf p).1.toNat % 6 ∧
            ((R.state (c - 1)).muzzleOf p).1.toNat / 6 < unstopped R p c t)) :=
  ⟨h.exact_iff, fun _ hrc hr =>
    h.exact_iff.trans (not_congr (muzzleOf_field R p hr (h.reset_lt hrc hr)).underruns_iff)⟩

/-- Two players: tank 1 drives to the right and back to the left, to column 10 of its muzzle, and
fires. -/
def underrunKeys (n : ℕ) : BitVec 32 :=
  if n < 8 then twoPlayerKeys n else if n < 18 then 0x07 else if n < 20 then 0x04
  else if n < 22 then 0 else 0x06

/-- The run with these keys and a frame pulse every other cycle of the game. -/
def underrun : Run := runOf fun n => press (underrunKeys n) (decide (8 ≤ n) && n % 2 == 0)

theorem underrun_flight {t : ℕ} (h : 24 ≤ t) (ht : t ≤ 28) :
    Flight underrun .bullets1_tank2 24 t := by
  have hair : ∀ k < 5, shot underrun .bullets1_tank2 (24 + k) = .BULLET := by decide +kernel
  refine ⟨⟨by decide, by decide +kernel, by decide +kernel⟩, h, fun j h1 h2 => Or.inl ?_⟩
  obtain ⟨k, rfl⟩ := Nat.exists_eq_add_of_le h1
  exact hair k (by omega)

/-- From column 10, a flight to the left is exact at the first frame pulse and wraps at the
second. -/
theorem flies_exactly_iff_underrun :
    (∀ j, 24 ≤ j → j ≤ 27 → FliesExactly underrun .bullets1_tank2 24 j) ∧
      ¬ ∀ j, 24 ≤ j → j ≤ 28 → FliesExactly underrun .bullets1_tank2 24 j := by
  have hr : (underrun.state 5).resetTank = true := by decide +kernel
  have h27 := (flies_exactly_iff underrun .bullets1_tank2
    (underrun_flight (t := 27) (by decide) (by decide))).2 5 (by decide) hr
  have h28 := (flies_exactly_iff underrun .bullets1_tank2
    (underrun_flight (t := 28) (by decide) le_rfl)).2 5 (by decide) hr
  rw [h27, h28]
  decide +kernel

/-- From the muzzle in column 10 the bullet goes to column 4 and from there, four cycles after it
was fired, to column 1022. -/
theorem underrun_wraps :
    ¬ ∀ (R : Run) (p : Pair) (r c t : ℕ), r < c → (R.state r).resetTank = true →
      Flight R p c t → FliesExactly R p c t := by
  intro h
  have hx := (h underrun .bullets1_tank2 5 24 28 (by decide) (by decide +kernel)
    (underrun_flight (by decide) le_rfl)).x
  have h1022 : ((underrun.state 28).shooter .bullets1_tank2).xPos = 1022 := by decide +kernel
  have hmuzzle : ((underrun.state 23).muzzleOf .bullets1_tank2).1 = 10 := by decide +kernel
  have hleft : heading underrun .bullets1_tank2 24 = .left := by decide +kernel
  rw [h1022, hmuzzle, hleft] at hx
  simp only [stride, BitVec.reduceToNat] at hx
  omega

end TankBattle
