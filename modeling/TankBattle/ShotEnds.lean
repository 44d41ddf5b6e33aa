import TankBattle.Explosions
import TankBattle.Launch
import TankBattle.Timers

/-!
# Every shot ends

The flight and the explosion are left when a 26-bit counter is equal to its limit; the counters
are cleared in the other states only.

* `flightTimer`, `boomTimer`: the two counters are timers of the runs of a bullet module;
* `remaining`: an upper bound for the cycles up to the next `NOBULLET`, which falls at every edge;
* `returns`, `shooter_returns`: it comes, in every run and for the machines of the design;
* `every_shot_ends`: the counters hold the cycles since the entry, both stays are bounded, and the
  machine always comes back.
-/

namespace TankBattle

namespace Bullet

/-- The machine is in a given state. -/
def In (q : BulletState) (b : Bullet) : Prop := b.state = q

section Step

variable {b : Bullet} {fire reset frameClk stopBullet : Bool} {dir : Dir} {m : Mids}

theorem step_reset : (b.step fire true frameClk stopBullet dir m).state = .NOBULLET := rfl

/-- Only a machine without a reset comes into another state than `NOBULLET`. -/
theorem reset_of_step {q : BulletState} (hq : q ≠ .NOBULLET)
    (hs : (b.step fire reset frameClk stopBullet dir m).state = q) : reset = false := by
  cases reset with
  | true => exact absurd (step_reset.symm.trans hs).symm hq
  | false => rfl

theorem step_counter (h : b.state = .BULLET) :
    (b.step fire false frameClk stopBullet dir m).counter = b.counter + 1 := by
  simp [step, counterIn, h]

theorem step_counter_clear (h : b.state ≠ .BULLET) :
    (b.step fire reset frameClk stopBullet dir m).counter = 0 := by
  simp [step, counterIn, h]

theorem step_bCounter_clear (h : b.state ≠ .BULLET_BOOM) :
    (b.step fire reset frameClk stopBullet dir m).bCounter = 0 := by
  simp [step, bCounterIn, h]

/-- At its limit the flight is over, whatever stops the bullet. -/
theorem step_flight_last (h : b.state = .BULLET) (hc : b.counter = flightLimit) :
    (b.step fire false frameClk stopBullet dir m).state = .BULLET_WAIT := by
  simp [step, nextState, h, hc]

variable (fire frameClk stopBullet : Bool) (dir : Dir) (m : Mids)

/-- What follows a cycle of the flight. -/
theorem step_flight (h : b.state = .BULLET) :
    (b.step fire false frameClk stopBullet dir m).state = .BULLET ∨
      (b.step fire false frameClk stopBullet dir m).state = .BULLET_WAIT ∨
      (b.step fire false frameClk stopBullet dir m).state = .BULLET_BOOM := by
  simp only [step, nextState, h, Bool.false_eq_true, if_false]
  split_ifs <;> simp

theorem step_launch (h : b.state = .NOBULLET_WAIT ∨ b.state = .BULLET_LOAD) :
    (b.step fire false frameClk stopBullet dir m).state = .BULLET := by
  rcases h with h | h <;> simp [step, nextState, h]

theorem step_back (h : b.state = .BULLET_WAIT ∨ b.state = .BOOM_WAIT) :
    (b.step fire false frameClk stopBullet dir m).state = .NOBULLET :=
  next_wait h

end Step

/-- Adding one to a counter below a limit that fits does not wrap. -/
theorem toNat_add_one {c : BitVec 26} {k : ℕ} (hc : c.toNat < k) (hk : k < 2 ^ 26) :
    (c + 1).toNat = c.toNat + 1 := by
  rw [BitVec.toNat_add, show (1 : BitVec 26).toNat = 1 from rfl]
  omega

/-- At most this many cycles are left until the machine is in `NOBULLET`. -/
def remaining (b : Bullet) : ℕ :=
  match b.state with
  | .NOBULLET => 0
  | .NOBULLET_WAIT | .BULLET_LOAD => 3 * 2 ^ 23 + 15 * 2 ^ 18 + 4
  | .BULLET => 3 * 2 ^ 23 - b.counter.toNat + 15 * 2 ^ 18 + 3
  | .BULLET_WAIT | .BOOM_WAIT => 1
  | .BULLET_BOOM => 15 * 2 ^ 18 - b.bCounter.toNat + 2

theorem remaining_le (b : Bullet) : b.remaining ≤ 3 * 2 ^ 23 + 15 * 2 ^ 18 + 4 := by
  unfold remaining
  cases b.state <;> simp only <;> omega

theorem remaining_pos {b : Bullet} (h : b.state ≠ .NOBULLET) : 0 < b.remaining := by
  cases hs : b.state <;> simp only [remaining, hs] <;> first | omega | exact absurd hs h

/-- The counters have not passed their limits. -/
structure Timed (b : Bullet) : Prop where
  flight : b.state = .BULLET → b.counter.toNat ≤ 3 * 2 ^ 23
  boom : b.state = .BULLET_BOOM → b.bCounter.toNat ≤ 15 * 2 ^ 18

section Timed

variable {b : Bullet} (hb : b.Timed)

include hb

/-- In a flight that goes on the counter is below its limit. -/
theorem Timed.flight_lt {fire frameClk stopBullet : Bool} {dir : Dir} {m : Mids}
    (h : b.state = .BULLET)
    (hs : (b.step fire false frameClk stopBullet dir m).state = .BULLET) :
    b.counter.toNat < 3 * 2 ^ 23 := by
  refine lt_of_le_of_ne (hb.flight h) fun heq => ?_
  rw [step_flight_last h (BitVec.eq_of_toNat_eq heq)] at hs
  cases hs

theorem Timed.boom_lt (h : b.state = .BULLET_BOOM) (hc : b.bCounter ≠ boomLimit) :
    b.bCounter.toNat < 15 * 2 ^ 18 :=
  lt_of_le_of_ne (hb.boom h) fun heq => hc (BitVec.eq_of_toNat_eq heq)

/-- No edge takes a counter past its limit. -/
theorem Timed.step (fire reset frameClk stopBullet : Bool) (dir : Dir) (m : Mids) :
    (b.step fire reset frameClk stopBullet dir m).Timed := by
  constructor
  · intro hs
    have hr := reset_of_step (by decide) hs
    subst hr
    by_cases h : b.state = .BULLET
    · have hlt := hb.flight_lt h hs
      rw [step_counter h, toNat_add_one hlt (by decide)]
      exact hlt
    · rw [step_counter_clear h]
      exact Nat.zero_le _
  · intro hs
    have hr := reset_of_step (by decide) hs
    subst hr
    by_cases h : b.state = .BULLET_BOOM
    · have hc : b.bCounter ≠ boomLimit := fun hc => by
        rw [(step_boom_last h hc _ _ _ _ _).1] at hs
        cases hs
      have hlt := hb.boom_lt h hc
      rw [step_boom h hc]
      exact (toNat_add_one hlt (by decide)).trans_le hlt
    · rw [step_bCounter_clear h]
      exact Nat.zero_le _

/-- Every edge brings a machine closer to `NOBULLET`. -/
theorem remaining_step (hn : b.state ≠ .NOBULLET) (fire reset frameClk stopBullet : Bool)
    (dir : Dir) (m : Mids) :
    (b.step fire reset frameClk stopBullet dir m).remaining < b.remaining := by
  cases reset with
  | true =>
    have hzero : (b.step fire true frameClk stopBullet dir m).remaining = 0 := by
      rw [remaining, step_reset]
    rw [hzero]
    exact remaining_pos hn
  | false =>
    cases hs : b.state with
    | NOBULLET => exact absurd hs hn
    | NOBULLET_WAIT =>
      simp only [remaining, step_launch _ _ _ _ _ (Or.inl hs), hs]
      omega
    | BULLET_LOAD =>
      simp only [remaining, step_launch _ _ _ _ _ (Or.inr hs), hs]
      omega
    | BULLET =>
      have hle := hb.flight hs
      rcases step_flight fire frameClk stopBullet dir m hs with h | h | h
      · have hlt := hb.flight_lt hs h
        simp only [remaining, h, hs, step_counter hs, toNat_add_one hlt (by decide)]
        omega
      · simp only [remaining, h, hs]
        omega
      · simp only [remaining, h, hs]
        omega
    | BULLET_WAIT =>
      simp only [remaining, step_back _ _ _ _ _ (Or.inl hs), hs]
      omega
    | BULLET_BOOM =>
      have hle := hb.boom hs
      by_cases hc : b.bCounter = boomLimit
      · simp only [remaining, (step_boom_last hs hc _ _ _ _ _).1, hs]
        omega
      · have hlt := hb.boom_lt hs hc
        simp only [remaining, step_boom hs hc, hs, toNat_add_one hlt (by decide)]
        omega
    | BOOM_WAIT =>
      simp only [remaining, step_back _ _ _ _ _ (Or.inr hs), hs]
      omega

end Timed

end Bullet

/-! ### The timers -/

section Timers

variable {g : Gun}

open Bullet

/-- After a reset there is no bullet. -/
theorem Gun.Started.state {b : Bullet} (h : g.Started b) : b.state = .NOBULLET := by
  obtain ⟨i, b₀, hr, rfl⟩ := h
  rw [g.clock_eq, hr]
  exact step_reset

/-- The counter of the flight. -/
theorem flightTimer (g : Gun) :
    Sync.Timer g.clock g.Started (In .BULLET) (fun b => b.counter.toNat) (3 * 2 ^ 23) where
  start b hb h := absurd (hb.state.symm.trans h) (by decide)
  clear i b hb _ := by
    rw [g.clock_eq, step_counter_clear hb]
    rfl
  tick i b hb hs hc := by
    rw [In, g.clock_eq] at hs
    rw [g.clock_eq, reset_of_step (by decide) hs, step_counter hb]
    exact toNat_add_one hc (by decide)
  limit i b hb hc hs := by
    rw [In, g.clock_eq] at hs
    have hr := reset_of_step (by decide) hs
    rw [hr, step_flight_last hb (BitVec.eq_of_toNat_eq hc)] at hs
    cases hs

/-- The counter of the explosion. -/
theorem boomTimer (g : Gun) :
    Sync.Timer g.clock g.Started (In .BULLET_BOOM) (fun b => b.bCounter.toNat) (15 * 2 ^ 18) where
  start b hb h := absurd (hb.state.symm.trans h) (by decide)
  clear i b hb _ := by
    rw [g.clock_eq, step_bCounter_clear hb]
    rfl
  tick i b hb hs hc := by
    have hne : b.bCounter ≠ boomLimit := fun h => by
      rw [h, boomLimit_toNat] at hc
      exact lt_irrefl _ hc
    rw [In, g.clock_eq] at hs
    rw [g.clock_eq, reset_of_step (by decide) hs, step_boom hb hne]
    exact toNat_add_one hc (by decide)
  limit i b hb hc hs := by
    rw [In, g.clock_eq] at hs
    have hr := reset_of_step (by decide) hs
    rw [hr, (step_boom_last hb (BitVec.eq_of_toNat_eq hc) _ _ _ _ _).1] at hs
    cases hs

/-- In a run from a reset no counter is past its limit. -/
theorem timed (R : BulletRun g) (n : ℕ) : (R.state n).Timed := by
  refine R.invariant (fun b hb => ?_) (fun i b hb => ?_) n
  · constructor <;> exact fun h => absurd (hb.state.symm.trans h) (by decide)
  · rw [g.clock_eq]
    exact hb.step _ _ _ _ _ _

/-- An explosion that no reset cuts short takes all of its cycles. -/
theorem boom_full (R : BulletRun g) {e : ℕ} (h : R.Stay (In .BULLET_BOOM) e e)
    (hr : ∀ k, e ≤ k → k ≤ e + 15 * 2 ^ 18 → (R.input k).reset = false) :
    R.Stay (In .BULLET_BOOM) e (e + 15 * 2 ^ 18) ∧
      (R.state (e + 15 * 2 ^ 18 + 1)).state = .BOOM_WAIT := by
  have hfull := (boomTimer g).full h fun n hn hlt => by
    have hne : (R.state n).bCounter ≠ boomLimit := fun hc => by
      have heq := ((boomTimer g).eq hn).1
      rw [hc, boomLimit_toNat] at heq
      have := hn.le
      omega
    rw [In, R.succ, g.clock_eq, hr n hn.le hlt.le, step_boom hn.last hne]
    exact hn.last
  refine ⟨hfull.1, ?_⟩
  have hc : (R.state (e + 15 * 2 ^ 18)).bCounter = boomLimit :=
    BitVec.eq_of_toNat_eq (((boomTimer g).eq hfull.1).1.trans (Nat.add_sub_cancel_left e _))
  rw [R.succ, g.clock_eq, hr _ (Nat.le_add_right e _) le_rfl]
  exact (step_boom_last hfull.1.last hc _ _ _ _ _).1

/-- From every cycle on the machine comes back to `NOBULLET`. -/
theorem returns (R : BulletRun g) (n : ℕ) :
    ∃ m, n ≤ m ∧ m ≤ n + (3 * 2 ^ 23 + 15 * 2 ^ 18 + 4) ∧ (R.state m).state = .NOBULLET := by
  obtain ⟨k, hk, hP⟩ := R.exists_of_variant (P := In .NOBULLET) (timed R) remaining
    (fun i b hb hn => by
      rw [g.clock_eq]
      exact remaining_step hb hn _ _ _ _ _ _) n
  exact ⟨n + k, Nat.le_add_right n k, Nat.add_le_add_left (hk.trans (remaining_le _)) n, hP⟩

/-- **In the design**, from a tank reset on, every bullet machine is soon ready for another shot,
whatever its shooter and its targets do. -/
theorem shooter_returns (R : Run) (p : Pair) {r n : ℕ} (hr : (R.state r).resetTank = true)
    (hn : r < n) : ∃ m, n ≤ m ∧ m ≤ n + (3 * 2 ^ 23 + 15 * 2 ^ 18 + 4) ∧
      ((R.state m).shooter p).state = .NOBULLET := by
  obtain ⟨k, rfl⟩ := Nat.exists_eq_add_of_lt hn
  obtain ⟨m, h1, h2, hm⟩ := returns (shooterRun R p hr) k
  exact ⟨r + 1 + m, by omega, by omega, hm⟩

/-- **Every shot ends.**  In the flight and in the explosion the counter holds the cycles since the
entry and does not pass its limit; so a flight takes at most `3 * 2^23 + 1` cycles, an explosion
without a reset exactly `15 * 2^18 + 1`, and from every cycle on the machine comes back to
`NOBULLET`. -/
theorem every_shot_ends (g : Gun) (R : BulletRun g) :
    (∀ n, (R.state n).state = .BULLET → ∃ e, R.Stay (In .BULLET) e n ∧
      (R.state n).counter.toNat = n - e ∧ (R.state n).counter.toNat ≤ 3 * 2 ^ 23) ∧
    (∀ n, (R.state n).state = .BULLET_BOOM → ∃ e, R.Stay (In .BULLET_BOOM) e n ∧
      (R.state n).bCounter.toNat = n - e ∧ (R.state n).bCounter.toNat ≤ 15 * 2 ^ 18) ∧
    (∀ e n, R.Stay (In .BULLET) e n → n + 1 - e ≤ 3 * 2 ^ 23 + 1) ∧
    (∀ e, R.Stay (In .BULLET_BOOM) e e →
      (∀ k, e ≤ k → k ≤ e + 15 * 2 ^ 18 → (R.input k).reset = false) →
      R.Stay (In .BULLET_BOOM) e (e + 15 * 2 ^ 18) ∧
        (R.state (e + 15 * 2 ^ 18 + 1)).state = .BOOM_WAIT) ∧
    ∀ n, ∃ m, n ≤ m ∧ m ≤ n + (3 * 2 ^ 23 + 15 * 2 ^ 18 + 4) ∧ (R.state m).state = .NOBULLET := by
  refine ⟨fun n h => ?_, fun n h => ?_, fun e n h => ?_, fun e h hr => boom_full R h hr,
    returns R⟩
  · obtain ⟨e, he⟩ := Sync.Run.exists_stay (R := R) (P := In .BULLET) h
    exact ⟨e, he, (flightTimer g).eq he⟩
  · obtain ⟨e, he⟩ := Sync.Run.exists_stay (R := R) (P := In .BULLET_BOOM) h
    exact ⟨e, he, (boomTimer g).eq he⟩
  · have := (flightTimer g).leaves h
    omega

end Timers

end TankBattle
