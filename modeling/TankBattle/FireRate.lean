import TankBattle.ShotEnds

/-!
# The rate of fire (`bullets.sv`, `bullets2.sv`, `enemy_wall.sv`)

A bullet machine has one bullet, and a new shot waits for the end of the last one.

* `Bullet.soonest`: the least number of cycles until the next shot can begin;
* `Bullet.latest`: the most cycles until it does begin, if the machine is always asked to shoot;
* `soonest_step`, `latest_step`: how they go down;
* `rate_of_fire`: the number of shots in a stretch of cycles.
-/

namespace TankBattle

namespace Bullet

/-- The machine begins a flight with the next edge, if there is no reset. -/
def Ready (b : Bullet) : Prop := b.state = .NOBULLET_WAIT

instance (b : Bullet) : Decidable b.Ready := inferInstanceAs (Decidable (_ = _))

/-- At least this many cycles are left until the machine is ready. -/
def soonest (b : Bullet) : ℕ :=
  match b.state with
  | .NOBULLET_WAIT | .BULLET_LOAD => 0
  | .NOBULLET => 1
  | .BULLET_WAIT | .BOOM_WAIT => 2
  | .BULLET_BOOM => 15 * 2 ^ 18 - b.bCounter.toNat + 3
  | .BULLET => min (3 * 2 ^ 23 - b.counter.toNat + 3) (15 * 2 ^ 18 + 4)

/-- At most this many cycles are left until a machine that is asked to shoot is ready. -/
def latest (b : Bullet) : ℕ := if b.Ready then 0 else b.remaining + 1

theorem soonest_le (b : Bullet) : b.soonest ≤ 15 * 2 ^ 18 + 4 := by
  unfold soonest
  cases b.state <;> simp only <;> omega

theorem latest_le {b : Bullet} (h : b.state ≠ .BULLET_LOAD) :
    b.latest ≤ 3 * 2 ^ 23 + 15 * 2 ^ 18 + 4 := by
  by_cases hw : b.Ready
  · rw [latest, if_pos hw]
    omega
  · have hle : b.remaining ≤ 3 * 2 ^ 23 + 15 * 2 ^ 18 + 3 := by
      cases hs : b.state with
      | NOBULLET_WAIT => exact absurd hs hw
      | BULLET_LOAD => exact absurd hs h
      | _ => simp only [remaining, hs]; omega
    rw [latest, if_neg hw]
    omega

section Step

variable {b : Bullet} (fire frameClk stopBullet : Bool) (dir : Dir) (m : Mids)

theorem toNat_add_one_le (c : BitVec 26) : (c + 1).toNat ≤ c.toNat + 1 := by
  rw [BitVec.toNat_add]
  exact Nat.mod_le _ _

/-- Only the time limit ends a flight without an explosion. -/
theorem counter_of_step (h : b.state = .BULLET)
    (hs : (b.step fire false frameClk stopBullet dir m).state = .BULLET_WAIT) :
    b.counter = flightLimit := by
  by_contra hc
  simp only [step, nextState, h, hc, Bool.false_eq_true, if_false] at hs
  split_ifs at hs

/-- No edge brings the next shot closer by more than one cycle. -/
theorem soonest_step (h : ¬ b.Ready) :
    b.soonest ≤ (b.step fire false frameClk stopBullet dir m).soonest + 1 := by
  cases hs : b.state with
  | NOBULLET_WAIT => exact absurd hs h
  | BULLET_LOAD => simp [soonest, hs]
  | NOBULLET => simp [soonest, hs]
  | BULLET_WAIT =>
    simp only [soonest, step_back _ _ _ _ _ (Or.inl hs), hs]
    omega
  | BOOM_WAIT =>
    simp only [soonest, step_back _ _ _ _ _ (Or.inr hs), hs]
    omega
  | BULLET_BOOM =>
    by_cases hc : b.bCounter = boomLimit
    · simp only [soonest, (step_boom_last hs hc _ _ _ _ _).1, hs, hc, boomLimit_toNat]
      omega
    · have hle := toNat_add_one_le b.bCounter
      simp only [soonest, step_boom hs hc, hs]
      omega
  | BULLET =>
    by_cases hc : b.counter = flightLimit
    · have hlimit : b.counter.toNat = 3 * 2 ^ 23 := congrArg BitVec.toNat hc
      simp only [soonest, step_flight_last hs hc, hs, hlimit]
      omega
    · have hle := toNat_add_one_le b.counter
      rcases step_flight fire frameClk stopBullet dir m hs with h | h | h
      · simp only [soonest, h, hs, step_counter hs]
        omega
      · exact absurd (counter_of_step _ _ _ _ _ hs h) hc
      · have hclear : (b.step fire false frameClk stopBullet dir m).bCounter.toNat = 0 :=
          congrArg BitVec.toNat (step_bCounter_clear (by rw [hs]; decide))
        simp only [soonest, h, hs, hclear]
        omega

/-- With a flight the waiting begins again. -/
theorem soonest_launch (h : b.Ready) :
    15 * 2 ^ 18 + 5 ≤ (b.step fire false frameClk stopBullet dir m).soonest + 1 := by
  have hclear : (b.step fire false frameClk stopBullet dir m).counter.toNat = 0 :=
    congrArg BitVec.toNat (step_counter_clear (by rw [h]; decide))
  simp only [soonest, step_launch _ _ _ _ _ (Or.inl h), hclear]
  omega

/-- If it is asked to shoot, every edge brings the next shot closer. -/
theorem latest_step (hb : b.Timed) (h : ¬ b.Ready) :
    (b.step true false frameClk stopBullet dir m).latest + 1 ≤ b.latest := by
  by_cases hs : b.state = .NOBULLET
  · have hready : (b.step true false frameClk stopBullet dir m).Ready := by
      simp [Ready, step, nextState, hs]
    rw [latest, latest, if_pos hready, if_neg h]
    omega
  · have hfall := remaining_step hb hs true false frameClk stopBullet dir m
    rw [latest, latest, if_neg h]
    split_ifs <;> omega

theorem latest_launch (hb : b.Timed) (h : b.Ready) :
    (b.step fire false frameClk stopBullet dir m).latest + 1 ≤ 3 * 2 ^ 23 + 15 * 2 ^ 18 + 5 := by
  have hfall := remaining_step hb (by rw [h]; decide) fire false frameClk stopBullet dir m
  have hle := b.remaining_le
  unfold latest
  split_ifs <;> omega

end Step

end Bullet

/-! ### Counting shots -/

section Count

variable {g : Gun} (R : BulletRun g) {n d : ℕ}

open Bullet

/-- The shots in a stretch of cycles. -/
def shots (n d : ℕ) : ℕ := Nat.count (fun k => (R.state (n + k)).Ready) d

/-- **The rate of fire**: in any stretch of `d` cycles without a reset a bullet machine begins a new
shot every `15 * 2 ^ 18 + 5` cycles at most; and one that is asked to shoot in every cycle, as that
of an enemy is, begins one every `3 * 2 ^ 23 + 15 * 2 ^ 18 + 5` cycles at least. -/
theorem rate_of_fire (hr : ∀ k < d, (R.input (n + k)).reset = false) :
    shots R n d ≤ (d + 15 * 2 ^ 18 + 4) / (15 * 2 ^ 18 + 5) ∧
      ((∀ k < d, g.fire (R.input (n + k)) = true) →
        d / (3 * 2 ^ 23 + 15 * 2 ^ 18 + 5) ≤ shots R n d) := by
  constructor
  · have hcount := Sync.count_mul_le (p := fun k => (R.state (n + k)).Ready)
      (v := fun k => (R.state (n + k)).soonest) (g := 15 * 2 ^ 18 + 5) (d := d)
      (fun k hk h => by
        rw [← Nat.add_assoc, R.succ, g.clock_eq, hr k hk]
        exact soonest_step _ _ _ _ _ h)
      fun k hk h => by
        refine ⟨by rw [soonest, h], ?_⟩
        rw [← Nat.add_assoc, R.succ, g.clock_eq, hr k hk]
        exact soonest_launch _ _ _ _ _ h
    have hle := (R.state (n + d)).soonest_le
    rw [Nat.le_div_iff_mul_le (by decide), Nat.mul_comm]
    exact hcount.trans (by omega)
  · intro hf
    have hcount := Sync.le_count_mul (p := fun k => (R.state (n + k)).Ready)
      (v := fun k => (R.state (n + k)).latest) (g := 3 * 2 ^ 23 + 15 * 2 ^ 18 + 5) (d := d)
      (fun k hk h => by
        rw [← Nat.add_assoc, R.succ, g.clock_eq, hr k hk, hf k hk]
        exact latest_step _ _ _ _ (timed R _) h)
      fun k hk h => by
        rw [← Nat.add_assoc, R.succ, g.clock_eq, hr k hk]
        exact latest_launch _ _ _ _ _ (timed R _) h
    have hle := latest_le (bulletRun_ne_BULLET_LOAD R n)
    rw [Nat.add_zero n] at hcount
    rw [Nat.div_le_iff_le_mul_add_pred (by decide)]
    exact (Nat.le_add_right d _).trans (hcount.trans (Nat.add_le_add_left hle _))

/-- The bullet machine of an enemy that stands still. -/
def enemyBench : BulletRun .enemy_bullets :=
  .feed Gun.enemy_bullets.clock
    ⟨⟨true, false, false, false, 0, .right, midsOf 100 100⟩, powerUp.bullets1, rfl, rfl⟩
    fun _ => ⟨false, false, false, false, 0, .right, midsOf 100 100⟩

theorem rate_of_fire_bench :
    shots enemyBench 0 100000000 ≤ 26 ∧ 3 ≤ shots enemyBench 0 100000000 := by
  obtain ⟨h1, h2⟩ := rate_of_fire enemyBench (n := 0) (d := 100000000) fun _ _ => rfl
  exact ⟨h1, h2 fun _ _ => rfl⟩

end Count

end TankBattle
