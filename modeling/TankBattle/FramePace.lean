import TankBattle.Board
import TankBattle.Drive

/-!
# Ranges and speeds on the board

Bullets, tanks and enemies move at frame pulses, and a flight ends by a counter of `Clk`.  The video
timing ties the two.

* `travel_le`: how far steps of one length lead;
* `boardGame`: a game in which tank 1 drives and fires;
* `Flight.bullet_le`, `Flight.succ`: how long a bullet flies;
* `shot_range`: how far it flies;
* `body_pace`: how fast tanks and enemies are.
-/

namespace TankBattle

open Serial

/-! ### Steps -/

/-- **Steps of `s` pixels** lead no further than `s` times their number. -/
theorem travel_le {x y : ℕ → ℤ} {s d : ℕ} {q : ℕ → Prop} [DecidablePred q]
    (h : ∀ k < d, ∃ m, x (k + 1) = x k + (stride s m).1 ∧ y (k + 1) = y k + (stride s m).2 ∧
      (m = none ∨ q k)) :
    |x d - x 0| + |y d - y 0| ≤ s * Nat.count q d := by
  induction d with
  | zero => simp
  | succ d ih =>
    have ih := ih fun k hk => h k (by omega)
    obtain ⟨m, hx, hy, hm⟩ := h d (by omega)
    have hstep : |x (d + 1) - x 0| + |y (d + 1) - y 0| ≤
        |x d - x 0| + |y d - y 0| + (|(stride s m).1| + |(stride s m).2|) := by
      have h1 := abs_add_le (x d - x 0) (stride s m).1
      have h2 := abs_add_le (y d - y 0) (stride s m).2
      rw [hx, hy, show x d + (stride s m).1 - x 0 = x d - x 0 + (stride s m).1 by ring,
        show y d + (stride s m).2 - y 0 = y d - y 0 + (stride s m).2 by ring]
      omega
    have hs : |(s : ℤ)| = s := abs_of_nonneg (Int.natCast_nonneg s)
    rw [Nat.count_succ]
    rcases m with _ | m
    · simp only [stride, abs_zero] at hstep
      push_cast
      split_ifs <;> simp only [mul_add, mul_one, mul_zero] <;> omega
    · have hq : q d := hm.resolve_left (Option.some_ne_none m)
      have hlen : |(stride s (some m)).1| + |(stride s (some m)).2| = s := by
        cases m <;> simp [stride, hs]
      rw [if_pos hq]
      push_cast
      rw [mul_add, mul_one]
      omega

/-! ### A game -/

/-- The shortest way into a two-player game, with menus that look at every other cycle; then tank 1
drives to the right and fires once. -/
def boardKeys (n : ℕ) : BitVec 32 :=
  if n < 16 then twoPlayerKeys (n / 2) else if n = 20 then 0x0607 else 0x07

/-- The game with these keys. -/
def boardGame : BoardRun := .feed Board.step started_boardUp fun n => ⟨boardKeys n, true⟩

theorem boardKeys_game {n : ℕ} (hn : 16 ≤ n) : boardKeys n = 0x0607 ∨ boardKeys n = 0x07 := by
  rw [boardKeys, if_neg (by omega)]
  exact ite_eq_or_eq ..

theorem boardGame_quiet (n : ℕ) : Quiet boardGame n := by
  refine quiet_feed (fun n => ⟨rfl, ?_⟩) n
  rcases Nat.lt_or_ge n 16 with h | h
  · interval_cases n <;> decide
  · rcases boardKeys_game h with hk | hk <;> dsimp only <;> rw [hk] <;> decide

/-- The game may end, but no key leads back to the menus. -/
theorem boardGame_state {n : ℕ} (hn : 16 ≤ n) :
    (boardGame.state n).sys.state = .GAME2 ∨ (boardGame.state n).sys.state = .END := by
  induction n, hn using Nat.le_induction with
  | base => exact Or.inl (by decide +kernel)
  | succ n hn ih =>
    have hkey : lowKey (boardKeys n) ≠ 0x14 := by
      rcases boardKeys_game hn with h | h <;> rw [h] <;> decide
    have hq : (boardGame.state n).resetH (boardGame.input n) = false := boardGame_quiet n
    have hstep : (boardGame.state (n + 1)).sys.state =
        (boardGame.state n).sys.nextState ((boardGame.state n).pins (boardGame.input n)) := by
      rw [boardGame.succ]
      exact if_neg (Bool.eq_false_iff.1 hq)
    rw [hstep, Sys.nextState]
    rcases ih with h | h <;> rw [h]
    · dsimp only
      split_ifs <;> simp
    · exact Or.inr (if_neg hkey)

theorem boardGame_resetTank {n : ℕ} (hn : 9 < n) : (boardGame.state n).sys.resetTank = false := by
  rcases Nat.lt_or_ge n 16 with h | h
  · interval_cases n <;> decide +kernel
  · rw [Sys.resetTank]
    rcases boardGame_state h with h | h <;> rw [h] <;> rfl

/-! ### Bullets -/

/-- The detector of the bullet machine of a pair. -/
def Pair.detector : Pair → Detector
  | .bullets1_enemy1 | .bullets1_enemy2 | .bullets1_tank2 => .bullets1
  | .bullets2_tank1 => .bullets2
  | .enemy1_tank1 => .enb1
  | .enemy2_tank1 => .enb2

theorem detector_shooter (s : Sys) (p : Pair) : s.detector p.detector = (s.shooter p).edge := by
  cases p <;> rfl

/-- The counter of a flight, from any cycle without a flight on. -/
theorem airTimer (g : Gun) : Sync.Timer g.clock (fun b => b.state ≠ .BULLET) (Bullet.In .BULLET)
    (fun b => b.counter.toNat) (3 * 2 ^ 23) where
  start _ hb h := absurd h hb
  clear := (flightTimer g).clear
  tick := (flightTimer g).tick
  limit := (flightTimer g).limit

section Flight

variable {R : Run} {p : Pair} {c t j : ℕ} (h : Flight R p c t)

/-- The bullet machine of a pair from the cycle before an entry on. -/
def entryRun (R : Run) (p : Pair) {c : ℕ} (h : Entry R p c) :
    Sync.Run p.gun.clock fun b => b.state ≠ .BULLET where
  state n := (R.state (c - 1 + n)).shooter p
  input n := (R.state (c - 1 + n)).bulletPins (R.input (c - 1 + n)) p
  start := h.2.1
  succ n := by rw [← Nat.add_assoc, R.succ, shooter_clock]

include h

/-- The stay of a bullet in the air, in the run from the cycle before its entry on. -/
theorem Flight.stay (hj : shot R p j = .BULLET) (hcj : c ≤ j) (hjt : j ≤ t) :
    (entryRun R p h.entry).Stay (Bullet.In .BULLET) 1 (j - (c - 1)) := by
  have hc : 0 < c := h.entry.1
  refine ⟨by omega, fun k hk => ?_, fun k h1 hk => ?_⟩
  · obtain rfl : k = 0 := by omega
    exact h.entry.2.1
  · exact h.bullet_before hj hjt (i := c - 1 + k) (by omega) (by omega)

/-- **A flight is over** after `3 * 2 ^ 23 + 1` cycles. -/
theorem Flight.bullet_le (hj : shot R p j = .BULLET) (hcj : c ≤ j) (hjt : j ≤ t) :
    j ≤ c + 3 * 2 ^ 23 := by
  have hc : 0 < c := h.entry.1
  have hle := (airTimer p.gun).leaves (h.stay hj hcj hjt)
  omega

/-- Before that time only a stop signal, the border or a reset ends it. -/
theorem Flight.succ (ht : shot R p t = .BULLET) (hlt : t < c + 3 * 2 ^ 23)
    (hr : (R.state t).resetTank = false)
    (hfree : ((R.state t).shooter p).free ((R.state t).stopOf p) = true) :
    shot R p (t + 1) = .BULLET ∧ Flight R p c (t + 1) := by
  have hc : 0 < c := h.entry.1
  have hct := h.le
  have hcounter : ((R.state t).shooter p).counter ≠ Bullet.flightLimit := by
    intro heq
    have htimer := ((airTimer p.gun).eq (h.stay ht h.le le_rfl)).1
    rw [show (entryRun R p h.entry).state (t - (c - 1)) = (R.state t).shooter p from
      congrArg (fun k => (R.state k).shooter p) (by omega), heq,
      show Bullet.flightLimit.toNat = 3 * 2 ^ 23 from rfl] at htimer
    omega
  have hnext : shot R p (t + 1) = .BULLET := by
    obtain ⟨fire, dir, hs⟩ := shooter_step_of (R.input t) (R.state t) p
    have hstate : ((R.state t).shooter p).state = .BULLET := ht
    rw [shot, R.succ, hs, hr]
    simp [Bullet.step, Bullet.nextState, hstate, hcounter, Bullet.interrupt, hfree]
  refine ⟨hnext, h.entry, by omega, fun j h1 h2 => ?_⟩
  rcases Nat.lt_or_eq_of_le h2 with h2 | rfl
  · exact h.airborne j h1 (by omega)
  · exact Or.inl hnext

end Flight

/-- An exact flight is as long as its updates. -/
theorem FliesExactly.length {R : Run} {p : Pair} {c t : ℕ} (he : FliesExactly R p c t) :
    |(((R.state t).shooter p).xPos.toNat : ℤ) - ((R.state (c - 1)).muzzleOf p).1.toNat| +
      |(((R.state t).shooter p).yPos.toNat : ℤ) - ((R.state (c - 1)).muzzleOf p).2.toNat| =
        6 * updates R p c t := by
  rw [he.x, he.y, add_sub_cancel_left, add_sub_cancel_left]
  cases heading R p c <;> simp [stride] <;> omega

section Range

variable {R : BoardRun} {p : Pair} {c t j : ℕ}

variable (h : Flight (gameRun R) p c t) (hc : 4 ≤ c)
  (hq : ∀ k, c ≤ k + 4 → k + 2 < t → Quiet R k)

include h hc hq

theorem Flight.updates_le : updates (gameRun R) p c t ≤ 30 := by
  have hcount : updates (gameRun R) p c t ≤
      framePulses R p.detector c (min (t - c) (3 * 2 ^ 23 + 1)) :=
    Sync.count_le_count fun k hk ha => by
      have hle := h.bullet_le ha.state (by omega) (by omega)
      refine ⟨by omega, ?_⟩
      rw [detector_shooter]
      exact ha.rising
  have hct := h.le
  have hpulses := (framePulses_bounds p.detector (n := c) (d := min (t - c) (3 * 2 ^ 23 + 1))
    (fun k h0 h1 => hq k h0 (by omega)) hc).2
  omega

/-- A flight that takes all of its time. -/
theorem Flight.le_updates (ht : t = c + 3 * 2 ^ 23) (hb : shot (gameRun R) p t = .BULLET) :
    29 ≤ updates (gameRun R) p c t := by
  have hcount : framePulses R p.detector c (t - c) ≤ updates (gameRun R) p c t := by
    have hle := Sync.count_le_count (d := t - c) (L := t - c)
      (p := fun k => ((R.state (c + k)).sys.detector p.detector).rising = true)
      (q := fun k => ((gameRun R).state (c + k)).Advances p) fun k hk hr => by
        refine ⟨hk, h.advances_of_rising hb le_rfl (by omega) (by omega) ?_⟩
        rw [detector_shooter] at hr
        exact hr
    rwa [Nat.min_self] at hle
  have hpulses := (framePulses_bounds p.detector (n := c) (d := t - c)
    (fun k h0 h1 => hq k h0 (by omega)) hc).1
  omega

/-- **The range of a shot**: a bullet is moved at most 30 times, and at least 29 times if nothing
stops it; so, unless its position wraps, it flies 180 pixels at most, and 174 or 180 if nothing
stops it. -/
theorem shot_range : updates (gameRun R) p c t ≤ 30 ∧
    (t = c + 3 * 2 ^ 23 → shot (gameRun R) p t = .BULLET → 29 ≤ updates (gameRun R) p c t) ∧
    (¬ Underruns (((gameRun R).state (c - 1)).muzzleOf p) (heading (gameRun R) p c)
        (unstopped (gameRun R) p c t) →
      |((((gameRun R).state t).shooter p).xPos.toNat : ℤ) -
          (((gameRun R).state (c - 1)).muzzleOf p).1.toNat| +
        |((((gameRun R).state t).shooter p).yPos.toNat : ℤ) -
          (((gameRun R).state (c - 1)).muzzleOf p).2.toNat| =
          6 * updates (gameRun R) p c t) :=
  ⟨h.updates_le hc hq, h.le_updates hc hq, fun hw =>
    FliesExactly.length (h.exact_iff.2 hw t h.le le_rfl)⟩

end Range

section Bench

/-- Tank 2 is left alone: the first frame pulse takes it to row 32. -/
def Tank.Idles (t : Tank) : Prop :=
  t.state = .OTHER ∧ (t.yPos = 30 ∧ t.yMotion = 2 ∨ t.yPos = 32 ∧ t.yMotion = 0)

theorem Tank.Idles.step {t : Tank} (h : t.Idles) {keycode : BitVec 32}
    (hk : Tank.moveKey tank2Config keycode = false) (go frameClk : Bool) (stop : Stops) :
    (t.step tank2Config go false frameClk keycode stop).Idles := by
  obtain ⟨hs, hy⟩ := h
  have hnew : t.newInstance = false := by simp [newInstance, hs]
  have hmotion := congrArg Prod.snd (Tank.motionIn_of_not_moveKey (t := t) hk stop)
  cases hr : t.edge.rising with
  | false => simpa [Idles, Tank.step, hnew, hr, nextState, hs] using hy
  | true =>
    refine ⟨by simp [Tank.step, hnew, hr, nextState, hs], Or.inr ?_⟩
    simp only [Tank.step, hnew, hr, Bool.or_false, Bool.false_eq_true, if_false, if_true]
    exact ⟨by rcases hy with ⟨h1, h2⟩ | ⟨h1, h2⟩ <;> rw [h1, h2] <;> rfl, hmotion⟩

theorem boardGame_idles {n : ℕ} (hn : 16 ≤ n) : (boardGame.state n).sys.tank2.Idles := by
  induction n, hn using Nat.le_induction with
  | base => exact ⟨by decide +kernel, Or.inl (by decide +kernel)⟩
  | succ n hn ih =>
    have hkey : Tank.moveKey tank2Config (boardKeys n) = false := by
      rcases boardKeys_game hn with h | h <;> rw [h] <;> decide
    have hstep : (boardGame.state (n + 1)).sys.tank2 =
        (boardGame.state n).sys.tank2.step tank2Config (boardGame.state n).sys.twoPlayersMode false
          (vs boardGame n) (boardKeys n) (boardGame.state n).sys.tank2Stops := by
      rw [boardGame.succ]
      show ((boardGame.state n).sys.step _).tank2 = _
      rw [Sys.step_tank2, tank2_eq, boardGame_resetTank (by omega)]
      rfl
    rw [hstep]
    exact ih.step hkey _ _ _

/-- Tank 1 fires to the right, along the lowest rows. -/
theorem boardGame_entry : Entry (gameRun boardGame) .bullets1_tank2 22 :=
  ⟨by decide, by decide +kernel, by decide +kernel⟩

theorem boardGame_muzzle :
    ((gameRun boardGame).state (22 - 1)).muzzleOf .bullets1_tank2 = (21, 467) ∧
      heading (gameRun boardGame) .bullets1_tank2 22 = .right := by
  decide +kernel


theorem boardGame_not_underruns (n : ℕ) :
    ¬ Underruns (((gameRun boardGame).state (22 - 1)).muzzleOf .bullets1_tank2)
      (heading (gameRun boardGame) .bullets1_tank2 22) n := by
  rw [boardGame_muzzle.1, boardGame_muzzle.2]
  rintro ⟨-, ⟨h, -⟩ | ⟨-, h, -⟩ | ⟨h, -⟩⟩
  · cases h
  · exact absurd h (by decide)
  · cases h

/-- There is no letter there, and tank 2 is far away. -/
theorem boardGame_stopBullet1 {n u : ℕ} (hn : 16 ≤ n) (hu : u ≤ 30)
    (hx : (boardGame.state n).sys.bullets1.xPos = BitVec.ofNat 10 (21 + 6 * u))
    (hy : (boardGame.state n).sys.bullets1.yPos = 467) :
    (boardGame.state n).sys.stopBullet1 = false := by
  have hletters : ∀ u : Fin 31, let x := BitVec.ofNat 10 (21 + 6 * u)
      bulletOnLetter x 467 (funcUp x) (funcDown x) = false := by
    decide +kernel
  have htank : stopBullet21 (boardGame.state n).sys.tank2.xPos (boardGame.state n).sys.tank2.yPos
      (boardGame.state n).sys.bulletx1 (boardGame.state n).sys.bullety1 = false := by
    rw [stopBullet21, inBox, Sys.bullety1, hy]
    rcases (boardGame_idles hn).2 with ⟨h, -⟩ | ⟨h, -⟩ <;> rw [h] <;> simp [size]
  have hgate : (boardGame.state n).sys.enable1 = false ∧
      (boardGame.state n).sys.enable12 = false := by
    rcases boardGame_state hn with h | h <;> simp [Sys.enable1, Sys.enable12, h]
  rw [Sys.stopBullet1, htank, wallStopBullet, hgate.1, hgate.2, hx, hy,
    hletters ⟨u, Nat.lt_succ_of_le hu⟩]
  rfl

theorem boardGame_free {t : ℕ} (h : Flight (gameRun boardGame) .bullets1_tank2 22 t) :
    (((gameRun boardGame).state t).shooter .bullets1_tank2).free
      (((gameRun boardGame).state t).stopOf .bullets1_tank2) = true := by
  obtain ⟨hx, hy⟩ := h.exact_iff.2 (boardGame_not_underruns _) t h.le le_rfl
  have hu := h.updates_le (by decide) fun k _ _ => boardGame_quiet k
  rw [boardGame_muzzle.1, boardGame_muzzle.2] at hx hy
  generalize updates (gameRun boardGame) .bullets1_tank2 22 t = u at hx hy hu
  replace hx : ((boardGame.state t).sys.bullets1.xPos.toNat : ℤ) = 21 + u * 6 := hx
  replace hy : ((boardGame.state t).sys.bullets1.yPos.toNat : ℤ) = 467 + u * 0 := hy
  have hstop := boardGame_stopBullet1 (n := t) (u := u) (h.le.trans' (by decide)) hu
    (BitVec.eq_of_toNat_eq (by rw [BitVec.toNat_ofNat]; omega))
    (BitVec.eq_of_toNat_eq (show _ = 467 by omega))
  refine Bullet.free_iff.2 ⟨?_, hstop⟩
  show InBorder (((boardGame.state t).sys.bullets1.xPos.toNat : ℤ),
    ((boardGame.state t).sys.bullets1.yPos.toNat : ℤ))
  rw [hx, hy, InBorder]
  dsimp only
  omega

/-- The flight takes all of its time. -/
theorem boardGame_flight {d : ℕ} (hd : d ≤ 3 * 2 ^ 23) :
    shot (gameRun boardGame) .bullets1_tank2 (22 + d) = .BULLET ∧
      Flight (gameRun boardGame) .bullets1_tank2 22 (22 + d) := by
  induction d with
  | zero =>
    refine ⟨boardGame_entry.2.2, boardGame_entry, le_rfl, fun j h1 h2 => Or.inl ?_⟩
    obtain rfl : j = 22 := by omega
    exact boardGame_entry.2.2
  | succ d ih =>
    obtain ⟨hs, hf⟩ := ih (by omega)
    exact hf.succ hs (by omega) (boardGame_resetTank (by omega)) (boardGame_free hf)

theorem shot_range_bench :
    29 ≤ updates (gameRun boardGame) .bullets1_tank2 22 (22 + 3 * 2 ^ 23) ∧
      updates (gameRun boardGame) .bullets1_tank2 22 (22 + 3 * 2 ^ 23) ≤ 30 ∧
      |((boardGame.state (22 + 3 * 2 ^ 23)).sys.bullets1.xPos.toNat : ℤ) - 21| +
        |((boardGame.state (22 + 3 * 2 ^ 23)).sys.bullets1.yPos.toNat : ℤ) - 467| =
        6 * updates (gameRun boardGame) .bullets1_tank2 22 (22 + 3 * 2 ^ 23) := by
  obtain ⟨d, hd⟩ : ∃ d, d = 3 * 2 ^ 23 := ⟨_, rfl⟩
  obtain ⟨hs, hf⟩ := boardGame_flight hd.le
  obtain ⟨hle, hall, hway⟩ := shot_range hf (by decide) fun k _ _ => boardGame_quiet k
  have hway := hway (boardGame_not_underruns _)
  rw [boardGame_muzzle.1] at hway
  rw [← hd]
  exact ⟨hall (by rw [hd]) hs, hle, hway⟩

end Bench

/-! ### Tanks and enemies -/

/-- The tank of a player. -/
def Sys.tankOf (s : Sys) : Player → Tank
  | .one => s.tank1
  | .two => s.tank2

/-- The detector of a tank. -/
def Player.detector : Player → Detector
  | .one => .tank1
  | .two => .tank2

/-- The detector of an enemy. -/
def Foe.detector : Foe → Detector
  | .one => .enemy1
  | .two => .enemy2

section Pace

variable {R : Run} {r n : ℕ} (hr : (R.state r).resetTank = true) (hn : r < n)

include hr hn

/-- A tank after a tank reset. -/
theorem tankOf_placed (p : Player) : OnGrid 2 ((R.state n).tankOf p).mover ∧
    ((R.state n).tankOf p).Parked p.config := by
  obtain ⟨k, rfl⟩ : ∃ k, n = r + 1 + k := ⟨n - r - 1, by omega⟩
  cases p with
  | one => exact ⟨tankRun_onGrid (tank1Run R hr) k, tankRun_parked (tank1Run R hr) k⟩
  | two => exact ⟨tankRun_onGrid (tank2Run R hr) k, tankRun_parked (tank2Run R hr) k⟩

/-- One edge moves a tank by two pixels at most, and at a frame pulse only. -/
theorem tankOf_shifted (p : Player) (h : (R.state n).resetTank = false) :
    ∃ m, ((R.state n).tankOf p).mover.Shifted ((R.state (n + 1)).tankOf p).mover 2 m ∧
      (m = none ∨ ((R.state n).detector p.detector).rising = true) := by
  obtain ⟨hgrid, hpark⟩ := tankOf_placed hr hn p
  rw [R.succ]
  cases p with
  | one =>
    have hs : ((R.state n).step (R.input n)).tankOf .one = TankBattle.tank1 false
        (R.input n).vgaVS (R.input n).keycode (R.state n).tank1Stops (R.state n).tank1 := by
      rw [Sys.tankOf, Sys.step_tank1, h]
    obtain ⟨m, hm, hp⟩ := Tank.shifted_step hpark true (R.input n).vgaVS (R.input n).keycode
      (R.state n).tank1Stops hgrid
    exact ⟨m, by rw [hs]; exact hm, hp.imp (·.2) fun hp => hp.1.1⟩
  | two =>
    have hs : ((R.state n).step (R.input n)).tankOf .two = (R.state n).tank2.step tank2Config
        (R.state n).twoPlayersMode false (R.input n).vgaVS (R.input n).keycode
        (R.state n).tank2Stops := by
      rw [Sys.tankOf, Sys.step_tank2, tank2_eq, h]
    obtain ⟨m, hm, hp⟩ := Tank.shifted_step hpark (R.state n).twoPlayersMode (R.input n).vgaVS
      (R.input n).keycode (R.state n).tank2Stops hgrid
    exact ⟨m, by rw [hs]; exact hm, hp.imp (·.2) fun hp => hp.1.1⟩

omit hr hn in
/-- What one edge does to an enemy. -/
theorem enemyOf_step (i : Pins) (s : Sys) (f : Foe) : ∃ p,
    (s.step i).enemyOf f = (s.enemyOf f).step f.config s.resetTank i.vgaVS p := by
  cases f <;> exact ⟨_, rfl⟩

/-- An enemy after a tank reset. -/
theorem enemyOf_placed (f : Foe) (h : ∀ k, r < k → k < n → (R.state k).resetTank = false) :
    OnGrid 1 ((R.state n).enemyOf f).mover := by
  induction n, hn using Nat.le_induction with
  | base =>
    have hstart : ((R.state (r + 1)).enemyOf f).mover =
        ⟨f.config.xStart, f.config.yStart, 0, 0⟩ := by
      obtain ⟨p, hs⟩ := enemyOf_step (R.input r) (R.state r) f
      rw [R.succ, hs, hr]
      rfl
    rw [hstart]
    exact OnGrid.of_heads (m := none) ⟨rfl, rfl⟩ (by cases f <;> decide)
  | succ n hn ih =>
    obtain ⟨p, hs⟩ := enemyOf_step (R.input n) (R.state n) f
    rw [R.succ, hs, h n (by omega) (by omega)]
    exact Enemy.onGrid_step (ih fun k h1 h2 => h k h1 (by omega))

/-- One edge moves an enemy by one pixel at most, and in the cycle after a frame pulse only. -/
theorem enemyOf_shifted (f : Foe) (h : ∀ k, r < k → k ≤ n + 1 → (R.state k).resetTank = false) :
    ∃ m, ((R.state (n + 1)).enemyOf f).mover.Shifted ((R.state (n + 2)).enemyOf f).mover 1 m ∧
      (m = none ∨ ((R.state n).detector f.detector).rising = true) := by
  obtain ⟨p, hs⟩ := enemyOf_step (R.input (n + 1)) (R.state (n + 1)) f
  rw [h (n + 1) (by omega) le_rfl] at hs
  obtain ⟨m, hm, hheads⟩ := Enemy.shifted_step f.config p (R.input (n + 1)).vgaVS
    (enemyOf_placed (n := n + 1) hr (by omega) f fun k h1 h2 => h k h1 (by omega))
  refine ⟨m, by rw [R.succ (n + 1), hs]; exact hm, ?_⟩
  by_contra hno
  push Not at hno
  -- without a frame pulse the motion registers are cleared
  have hrest : ((R.state (n + 1)).enemyOf f).xMotion = 0 ∧
      ((R.state (n + 1)).enemyOf f).yMotion = 0 := by
    have hrising : ((R.state n).enemyOf f).edge.rising = false := by
      cases f <;> exact Bool.eq_false_iff.2 hno.2
    obtain ⟨p', hs'⟩ := enemyOf_step (R.input n) (R.state n) f
    rw [R.succ, hs']
    simp [Enemy.step, hrising]
  obtain ⟨d, rfl⟩ := Option.ne_none_iff_exists'.1 hno.1
  have hx : ((R.state (n + 1)).enemyOf f).mover.xMotion = 0 := hrest.1
  have hy : ((R.state (n + 1)).enemyOf f).mover.yMotion = 0 := hrest.2
  cases d <;> simp [Mover.Heads, hx, hy] at hheads

end Pace

/-- **The pace of the game**: in any stretch without a reset, after a tank reset, a tank goes two
pixels a frame at most, and an enemy one. -/
theorem body_pace (R : BoardRun) {r n d : ℕ} (hr : (R.state r).sys.resetTank = true)
    (hn : r + 2 ≤ n) (hn5 : 5 ≤ n)
    (ht : ∀ k, r < k → k < n + d → (R.state k).sys.resetTank = false)
    (hq : ∀ k, n ≤ k + 5 → k + 2 < n + d → Quiet R k) (p : Player) (f : Foe) :
    |(((R.state (n + d)).sys.tankOf p).xPos.toNat : ℤ) - ((R.state n).sys.tankOf p).xPos.toNat| +
        |(((R.state (n + d)).sys.tankOf p).yPos.toNat : ℤ) -
          ((R.state n).sys.tankOf p).yPos.toNat| ≤ 2 * ((d + 839999) / 840000 : ℕ) ∧
      |(((R.state (n + d)).sys.enemyOf f).xPos.toNat : ℤ) -
          ((R.state n).sys.enemyOf f).xPos.toNat| +
        |(((R.state (n + d)).sys.enemyOf f).yPos.toNat : ℤ) -
          ((R.state n).sys.enemyOf f).yPos.toNat| ≤ ((d + 839999) / 840000 : ℕ) := by
  constructor
  · have hway := travel_le (s := 2) (d := d)
      (x := fun k => (((R.state (n + k)).sys.tankOf p).xPos.toNat : ℤ))
      (y := fun k => (((R.state (n + k)).sys.tankOf p).yPos.toNat : ℤ))
      (q := fun k => ((R.state (n + k)).sys.detector p.detector).rising = true) fun k hk => by
        obtain ⟨m, ⟨hx, hy⟩, hm⟩ := tankOf_shifted (R := gameRun R) hr (n := n + k) (by omega) p
          (ht _ (by omega) (by omega))
        exact ⟨m, hx, hy, hm⟩
    have hpulses := (framePulses_bounds p.detector (d := d)
      (fun k h1 h2 => hq k (by omega) h2) (by omega : 4 ≤ n)).2
    refine hway.trans ?_
    exact_mod_cast Nat.mul_le_mul_left 2 hpulses
  · obtain ⟨n, rfl⟩ : ∃ m, n = m + 1 := ⟨n - 1, by omega⟩
    have hway := travel_le (s := 1) (d := d)
      (x := fun k => (((R.state (n + 1 + k)).sys.enemyOf f).xPos.toNat : ℤ))
      (y := fun k => (((R.state (n + 1 + k)).sys.enemyOf f).yPos.toNat : ℤ))
      (q := fun k => ((R.state (n + k)).sys.detector f.detector).rising = true) fun k hk => by
        obtain ⟨m, ⟨hx, hy⟩, hm⟩ := enemyOf_shifted (R := gameRun R) hr (n := n + k) (by omega) f
          fun j h1 h2 => ht j h1 (by omega)
        rw [show n + k + 1 = n + 1 + k by omega, show n + k + 2 = n + 1 + k + 1 by omega] at hx hy
        exact ⟨m, hx, hy, hm⟩
    have hpulses := (framePulses_bounds f.detector (d := d)
      (fun k h1 h2 => hq k (by omega) (by omega)) (by omega : 4 ≤ n)).2
    refine hway.trans ?_
    rw [Nat.cast_one, one_mul]
    exact_mod_cast hpulses

theorem body_pace_bench :
    2 ≤ framePulses boardGame Player.one.detector 11 1680000 ∧
    |(((boardGame.state (11 + 1680000)).sys.tankOf .one).xPos.toNat : ℤ) -
          ((boardGame.state 11).sys.tankOf .one).xPos.toNat| +
        |(((boardGame.state (11 + 1680000)).sys.tankOf .one).yPos.toNat : ℤ) -
          ((boardGame.state 11).sys.tankOf .one).yPos.toNat| ≤
        2 * ((1680000 + 839999) / 840000 : ℕ) ∧
      |(((boardGame.state (11 + 1680000)).sys.enemyOf .one).xPos.toNat : ℤ) -
          ((boardGame.state 11).sys.enemyOf .one).xPos.toNat| +
        |(((boardGame.state (11 + 1680000)).sys.enemyOf .one).yPos.toNat : ℤ) -
          ((boardGame.state 11).sys.enemyOf .one).yPos.toNat| ≤
        ((1680000 + 839999) / 840000 : ℕ) := by
  have hpulses := framePulses_bounds (R := boardGame) (n := 11) (d := 1680000) Player.one.detector
    (fun k _ _ => boardGame_quiet k) (by decide)
  refine ⟨hpulses.1, ?_⟩
  exact body_pace boardGame (r := 9) (by decide +kernel) le_rfl (by decide)
    (fun k h1 _ => boardGame_resetTank h1) (fun k _ _ => boardGame_quiet k) .one .one

end TankBattle
