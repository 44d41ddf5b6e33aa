import TankBattle.Strokes
import TankBattle.Tracks
import TankBattle.Shots

/-!
# The tanks and the letters

A tank carries out a step one frame pulse after it has decided on it, so the stop signals that it
has looked at belong to the position before.  The bands of the up and left checks are wide enough to
absorb this in a straight drive, those of the right and down checks are not.

* `LetterAhead`: a letter is less than two pixels ahead of the body;
* `Clear.step_iff`: otherwise, and only then, a step of two pixels leads to a clear place;
* `Tank.Misstep`: the tank is about to take a step that is stopped where it starts, by a letter less
  than two pixels ahead, or one from a hole of the checks;
* `tanks_off_letters_iff`: as long as no tank does so, and no longer, they stay off the letters;
* `parking`: a tank that is stopped in time;
* `tank2_on_letter`: a tank that turns the corner into the orange I.
-/

namespace TankBattle

open Sys

/-! ### Steps of two pixels -/

/-- The box `[a, b) × [c, e)` is less than two pixels ahead of the body at `(X, Y)`. -/
def Ahead (d : Dir) (X Y a b c e : ℤ) : Prop :=
  match d with
  | .right => (X + 19 ≤ a ∧ a < X + 21) ∧ c < Y + 19 ∧ Y < e
  | .up => (e ≤ Y ∧ Y - 2 < e) ∧ a < X + 19 ∧ X < b
  | .left => (b ≤ X ∧ X - 2 < b) ∧ c < Y + 19 ∧ Y < e
  | .down => (Y + 19 ≤ c ∧ c < Y + 21) ∧ a < X + 19 ∧ X < b

instance (d : Dir) (X Y a b c e : ℤ) : Decidable (Ahead d X Y a b c e) := by
  cases d <;> exact inferInstanceAs (Decidable (_ ∧ _))

/-- A stroke of a letter, or a column of the slanted one, is less than two pixels ahead. -/
def LetterAhead (d : Dir) (X Y : ℤ) : Prop :=
  (∃ b ∈ letterBoxes, Ahead d X Y b.left b.right b.top b.bottom) ∨
    ∃ k : ℕ, k < 30 ∧ Ahead d X Y (185 + k) (186 + k) (250 + 4 * k) (270 + 4 * k)

instance (d : Dir) (X Y : ℤ) : Decidable (LetterAhead d X Y) :=
  inferInstanceAs (Decidable (_ ∨ _))

section Steps

variable {d : Dir} {X Y : ℤ}

/-- A step of two pixels leads onto a box if and only if the box is ahead. -/
theorem Off.step_iff {a b c e : ℤ} (h : Off X Y a b c e) (hab : a < b) (hce : c < e) :
    Off (X + (stride 2 (some d)).1) (Y + (stride 2 (some d)).2) a b c e ↔
      ¬ Ahead d X Y a b c e := by
  cases d <;> simp only [Off, Ahead, stride] at * <;> omega

/-- The slanted stroke, column by column. -/
theorem offSlant_iff : OffSlant X Y ↔
    ∀ k < 30, Off X Y (185 + (k : ℕ)) (186 + k) (250 + 4 * k) (270 + 4 * k) := by
  constructor
  · intro h k hk
    by_contra hn
    unfold Off at hn
    have := h (185 + k) (by omega) (by omega) (by omega) (by omega)
    omega
  · intro h x h1 h2 h3 h4
    have := h (x - 185).toNat (by omega)
    unfold Off at this
    omega

/-- **A step of two pixels** leads from a clear place to a clear one if and only if no letter is
ahead. -/
theorem Clear.step_iff (h : Clear X Y) :
    Clear (X + (stride 2 (some d)).1) (Y + (stride 2 (some d)).2) ↔ ¬ LetterAhead d X Y := by
  obtain ⟨hb, hs⟩ := clear_iff.1 h
  rw [offSlant_iff] at hs
  rw [clear_iff, offSlant_iff, LetterAhead, not_or]
  push Not
  refine and_congr (forall₂_congr fun b hm => ?_) (forall₂_congr fun k hk => ?_)
  · exact (hb b hm).step_iff (by exact_mod_cast b.left_lt_right) (by exact_mod_cast b.top_lt_bottom)
  · exact (hs k hk).step_iff (by omega) (by omega)

end Steps

/-- The places from which a step of two pixels leads onto a letter although its check is low: above
the right stem of the N, and below the slanted stroke. -/
def TankHole (d : Dir) (x y : ℕ) : Prop :=
  match d with
  | .right => False
  | .up => 186 ≤ x ∧ x ≤ 196 ∧ y + 398 = 4 * x
  | .left => 188 ≤ x ∧ x ≤ 196 ∧ 4 * x ≤ y + 516 ∧ y + 510 ≤ 4 * x
  | .down => 212 ≤ x ∧ x ≤ 228 ∧ y = 230

instance (d : Dir) (x y : ℕ) : Decidable (TankHole d x y) := by
  cases d
  · exact inferInstanceAs (Decidable False)
  all_goals exact inferInstanceAs (Decidable (_ ∧ _))

theorem TankHole.ahead {d : Dir} {x y : ℕ} (h : TankHole d x y) : LetterAhead d x y := by
  cases d with
  | right => exact h.elim
  | up =>
    obtain ⟨h1, h2, h3⟩ := h
    refine Or.inr ⟨x - 167, by omega, ?_⟩
    unfold Ahead
    omega
  | left =>
    obtain ⟨h1, h2, h3, h4⟩ := h
    refine Or.inr ⟨x - 187, by omega, ?_⟩
    unfold Ahead
    omega
  | down =>
    obtain ⟨h1, h2, h3⟩ := h
    refine Or.inl ⟨⟨215, 230, 250, 390, by decide, by decide⟩, by simp [letterBoxes], ?_⟩
    simp only [Ahead, Nat.cast_ofNat]
    omega

/-- Elsewhere a low check means that no letter is ahead. -/
theorem not_letterAhead {x y : Coord} {d : Dir} (hx : x.toNat ≤ 460) (hy : y.toNat ≤ 462)
    (heven : x.toNat % 2 = 0 ∧ y.toNat % 2 = 0) (hc : Clear x.toNat y.toNat)
    (hs : (letterStops x y).toward (some d) = false) (hh : ¬ TankHole d x.toNat y.toNat) :
    ¬ LetterAhead d x.toNat y.toNat := by
  have htwo : Strides 2 x.toNat y.toNat := by
    unfold Strides
    omega
  rw [← hc.step_iff]
  cases d <;> simp only [TankHole] at hh <;> simp only [stride, add_zero, ← sub_eq_add_neg]
  · exact clear_right hx hy htwo hc hs
  · exact clear_up hx hy htwo hc hs (by omega)
  · exact clear_left hx hy htwo hc hs (by omega)
  · exact clear_down hx hy htwo hc hs (by omega)

/-! ### Missteps -/

/-- The tank is about to take a step that the letters stop where it starts, with a letter less than
two pixels ahead, or a step from a hole of the checks. -/
def Tank.Misstep (t : Tank) : Prop :=
  t.Pulse ∧ ∃ d, (t.xMotion, t.yMotion) = twoPixels d ∧
    ((letterStops t.xPos t.yPos).toward (some d) = true ∧
        LetterAhead d t.xPos.toNat t.yPos.toNat ∨
      TankHole d t.xPos.toNat t.yPos.toNat)

instance (t : Tank) : Decidable t.Misstep := inferInstanceAs (Decidable (_ ∧ _))

section Step

variable {t : Tank}

/-- A frame pulse takes a tank from a clear place to a clear place unless it is a misstep. -/
theorem clear_shift_iff (hg : OnGrid 2 t.mover) (hc : Clear t.xPos.toNat t.yPos.toNat)
    (hp : t.Pulse) :
    Clear (t.xPos + t.xMotion).toNat (t.yPos + t.yMotion).toNat ↔ ¬ t.Misstep := by
  obtain ⟨m, hm⟩ := hg.heads
  obtain ⟨sx, sy⟩ := hm.shift (Or.inr rfl) hg
  change ((t.xPos + t.xMotion).toNat : ℤ) = t.xPos.toNat + (stride 2 m).1 at sx
  change ((t.yPos + t.yMotion).toNat : ℤ) = t.yPos.toNat + (stride 2 m).2 at sy
  rw [sx, sy, Tank.Misstep, and_iff_right hp]
  cases m with
  | none =>
    refine iff_of_true (by simpa [stride] using hc) ?_
    rintro ⟨d, hd, -⟩
    exact twoPixels_ne d (hd.symm.trans (Prod.ext hm.1 hm.2))
  | some d =>
    rw [hc.step_iff]
    refine not_congr ⟨fun h => ⟨d, hm.motion, ?_⟩, ?_⟩
    · by_cases hh : TankHole d t.xPos.toNat t.yPos.toNat
      · exact Or.inr hh
      · refine Or.inl ⟨?_, h⟩
        by_contra hs
        exact not_letterAhead hg.x_le hg.y_le ⟨hg.x_mod, hg.y_mod⟩ hc (Bool.not_eq_true _ ▸ hs) hh h
    · rintro ⟨e, he, h⟩
      obtain rfl : d = e := twoPixels_inj.1 (hm.motion.symm.trans he)
      exact h.elim (·.2) TankHole.ahead

theorem clear_step_iff {c : TankConfig} (hx : c.xStart = 2) (go frameClk : Bool)
    (keycode : BitVec 32) (stop : Stops) (hg : OnGrid 2 t.mover)
    (hc : Clear t.xPos.toNat t.yPos.toNat) :
    Clear (t.step c go false frameClk keycode stop).mover.xPos.toNat
      (t.step c go false frameClk keycode stop).mover.yPos.toNat ↔ ¬ t.Misstep := by
  by_cases hp : t.Pulse
  · rw [← clear_shift_iff hg hc hp]
    simp [Tank.step, Tank.mover, hp.1, hp.2]
  · refine iff_of_true ?_ fun h => hp h.1
    rcases t.step_cases c go false frameClk keycode stop _ rfl with e | ⟨-, hp', -⟩ | ⟨-, -, e⟩
    · rw [e]
      simp only [hx]
      exact clear_edge _
    · exact absurd hp' hp
    · rw [e]
      exact hc

end Step

/-- No letter pixel is under the tank. -/
def OffLetters (t : Tank) : Prop := Vacant t.xPos t.yPos

theorem offLetters_iff {t : Tank} (hg : OnGrid 2 t.mover) :
    OffLetters t ↔ Clear t.xPos.toNat t.yPos.toNat := by
  have hx : t.xPos.toNat ≤ 460 := hg.x_le
  have hy : t.yPos.toNat ≤ 462 := hg.y_le
  exact vacant_iff (by omega) (by omega)

section Runs

variable {R : Run} {n : ℕ}

/-- What one edge of a game does to tanks at clear places. -/
theorem clear_succ_iff (hg : (R.state n).InGame) :
    (Clear (R.state n).tank1.xPos.toNat (R.state n).tank1.yPos.toNat →
      (Clear (R.state (n + 1)).tank1.xPos.toNat (R.state (n + 1)).tank1.yPos.toNat ↔
        ¬ (R.state n).tank1.Misstep)) ∧
    (Clear (R.state n).tank2.xPos.toNat (R.state n).tank2.yPos.toNat →
      (Clear (R.state (n + 1)).tank2.xPos.toNat (R.state (n + 1)).tank2.yPos.toNat ↔
        ¬ (R.state n).tank2.Misstep)) := by
  obtain ⟨g1, g2⟩ := onGrid_run R n hg
  rw [R.succ, step_tank1, step_tank2, tank2_eq, resetTank_eq_false hg]
  exact ⟨clear_step_iff rfl _ _ _ _ g1, clear_step_iff rfl _ _ _ _ g2⟩

/-- The tanks start at the left edge, where there is no letter, and stay at clear places. -/
theorem clear_run (h : ∀ n, (R.state n).InGame → (R.state (n + 1)).state = (R.state n).state →
      ¬ (R.state n).tank1.Misstep ∧ ((R.state n).state = .GAME2 → ¬ (R.state n).tank2.Misstep))
    (hg : (R.state n).InGame) :
    Clear (R.state n).tank1.xPos.toNat (R.state n).tank1.yPos.toNat ∧
      ((R.state n).state = .GAME2 →
        Clear (R.state n).tank2.xPos.toNat (R.state n).tank2.yPos.toNat) := by
  refine game_induction R (P := fun s => Clear s.tank1.xPos.toNat s.tank1.yPos.toNat ∧
    (s.state = .GAME2 → Clear s.tank2.xPos.toNat s.tank2.yPos.toNat))
    (fun i s hr _ => ?_) (fun n hg hs ih => ?_) n hg
  · have hx1 : (s.step i).tank1.xPos = 2 := congrArg Mover.xPos (tank1_reset hr)
    have hx2 : (s.step i).tank2.xPos = 2 := congrArg Mover.xPos (tank2_reset hr)
    rw [hx1, hx2]
    exact ⟨clear_edge _, fun _ => clear_edge _⟩
  · obtain ⟨s1, s2⟩ := clear_succ_iff hg
    obtain ⟨l1, l2⟩ := h n hg hs
    rw [← R.succ]
    refine ⟨(s1 ih.1).2 l1, fun h2 => ?_⟩
    rw [hs] at h2
    exact (s2 (ih.2 h2)).2 (l2 h2)

end Runs

/-- **The tanks never stand on a letter** if and only if no tank of a game makes a misstep. -/
theorem tanks_off_letters_iff (R : Run) :
    (∀ n, ((R.state n).InGame → OffLetters (R.state n).tank1) ∧
        ((R.state n).state = .GAME2 → OffLetters (R.state n).tank2)) ↔
      ∀ n, (R.state n).InGame → (R.state (n + 1)).state = (R.state n).state →
        ¬ (R.state n).tank1.Misstep ∧
          ((R.state n).state = .GAME2 → ¬ (R.state n).tank2.Misstep) := by
  constructor
  · intro h n hg hs
    have hg' : (R.state (n + 1)).InGame := by rwa [InGame, hs]
    obtain ⟨g1, g2⟩ := onGrid_run R n hg
    obtain ⟨g1', g2'⟩ := onGrid_run R (n + 1) hg'
    obtain ⟨s1, s2⟩ := clear_succ_iff hg
    refine ⟨?_, fun h2 => ?_⟩
    · exact (s1 ((offLetters_iff g1).1 ((h n).1 hg))).1
        ((offLetters_iff g1').1 ((h (n + 1)).1 hg'))
    · exact (s2 ((offLetters_iff g2).1 ((h n).2 h2))).1
        ((offLetters_iff g2').1 ((h (n + 1)).2 (hs.trans h2)))
  · intro h n
    refine ⟨fun hg => ?_, fun h2 => ?_⟩
    · exact (offLetters_iff (onGrid_run R n hg).1).2 (clear_run h hg).1
    · exact (offLetters_iff (onGrid_run R n (Or.inr h2)).2).2 ((clear_run h (Or.inr h2)).2 h2)

/-- Tank 1 drives to the right along the lower edge, below the blue I, and then up against it. -/
def parking : Run := runOf fun n =>
  press (if n < 8 then twoPlayerKeys n else if n < 68 then 0x07 else 0x1A)
    (decide (8 ≤ n) && n % 2 == 0)

/-- The registers below the I, at a frame pulse and between two of them. -/
def parked (pulse : Bool) : Duel :=
  ⟨⟨.OTHER, ⟨pulse, pulse⟩, 62, 390, 0, 0, .up⟩, ⟨.OTHER, ⟨pulse, pulse⟩, 2, 32, 0, 0, .right⟩,
    ⟨.NOBULLET, ⟨pulse, pulse⟩, 71, 390, 0, ~~~6 + 1, 0, 0, .up⟩,
    ⟨.NOBULLET, ⟨pulse, pulse⟩, 21, 41, 6, 0, 0, 0, .right⟩, 5, 5⟩

theorem parking_parked {n : ℕ} (hn : 144 ≤ n) :
    InDuel (parked false) (parking.state n) ∨ InDuel (parked true) (parking.state n) := by
  have hin : ∀ k, parking.input (144 + k) = press 0x1A (k % 2 == 0) := by
    intro k
    show press (if 144 + k < 8 then _ else if 144 + k < 68 then _ else _) _ = _
    rw [if_neg (by omega), if_neg (by omega), decide_eq_true (show 8 ≤ 144 + k by omega),
      Bool.true_and, show 144 + k = k + 2 * 72 by omega, Nat.add_mul_mod_self_left]
  refine InDuel.swing (m := 144) (i := press 0x1A true) (j := press 0x1A false)
    (by decide +kernel) (fun k => ?_) (fun k => ?_) (by decide) (by decide) hn
  · rw [hin, Nat.mul_mod_right]
    rfl
  · rw [Nat.add_assoc, hin, Nat.mul_add_mod]
    rfl

theorem parking_not_misstep (n : ℕ) :
    ¬ (parking.state n).tank1.Misstep ∧ ¬ (parking.state n).tank2.Misstep := by
  rcases Nat.lt_or_ge n 144 with hn | hn
  · have : ∀ k < 144, ¬ (parking.state k).tank1.Misstep ∧ ¬ (parking.state k).tank2.Misstep := by
      decide +kernel
    exact this n hn
  · obtain ⟨b, hb⟩ : ∃ b, InDuel (parked b) (parking.state n) :=
      (parking_parked hn).elim (⟨_, ·⟩) (⟨_, ·⟩)
    have h1 : (parking.state n).tank1 = (parked b).tank1 := congrArg Duel.tank1 hb.duel
    have h2 : (parking.state n).tank2 = (parked b).tank2 := congrArg Duel.tank2 hb.duel
    rw [h1, h2]
    cases b <;> decide

/-- In cycle 139 the stop signal is high and tank 1 takes its last step up, which the wide band
absorbs: it stops below the letter and stays there. -/
theorem tanks_off_letters_iff_parking :
    ((parking.state 139).tank1.Pulse ∧ (parking.state 139).tank1Stops.up = true ∧
        (parking.state 139).tank1.yMotion = ~~~2 + 1 ∧ (parking.state 140).tank1.yPos = 390) ∧
      ∀ n, ((parking.state n).InGame → OffLetters (parking.state n).tank1) ∧
        ((parking.state n).state = .GAME2 → OffLetters (parking.state n).tank2) :=
  ⟨by decide +kernel, (tanks_off_letters_iff parking).2 fun n _ _ =>
    ⟨(parking_not_misstep n).1, fun _ => (parking_not_misstep n).2⟩⟩

/-- Tank 2 drives down the left edge and turns to the right towards the orange I. -/
def turning : Run :=
  runOf fun n => if n < 8 then press (twoPlayerKeys n) false else
    press (if n < 40 then 0x0c else 0x12) (n % 2 == 0)

/-- The stop signal is high at `X = 60`, but the step from there was decided on at `X = 58`: the
lower right corner of tank 2 ends on the serif of the I. -/
theorem tank2_on_letter :
    ¬ ∀ (R : Run) (n : ℕ), ((R.state n).InGame → OffLetters (R.state n).tank1) ∧
      ((R.state n).state = .GAME2 → OffLetters (R.state n).tank2) := by
  intro h
  have hs : (turning.state 102).state = .GAME2 := by decide +kernel
  have hp : (turning.state 102).tank2.xPos = 62 ∧ (turning.state 102).tank2.yPos = 64 := by
    decide +kernel
  have hoff := (h turning 102).2 hs 80 82
  rw [hp.1, hp.2] at hoff
  have := hoff ⟨by decide, by decide, by decide, by decide⟩
  exact absurd this (by decide)

end TankBattle
