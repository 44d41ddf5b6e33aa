import TankBattle.Chase

/-!
# How an enemy attacks the player

An enemy that is close to the player and lined up with it decides to stop, and an enemy that stands
still turns to the player.  Whether they are lined up is tested by `playerX + 2 >= X` and
`playerX - 2 <= X` in 32 bits, unsigned: in the columns 0 and 1 the difference wraps.

* `aligned_iff`: what the test says;
* `Attacks`: stopping and facing, by integer distances;
* `Blind`: the player is lined up in a column where the test fails;
* `attacks_iff`: the enemy attacks unless that matters.
-/

namespace TankBattle

/-- The coordinates differ by at most two. -/
def Near (a b : Coord) : Prop := a.toNat ≤ b.toNat + 2 ∧ b.toNat ≤ a.toNat + 2

instance (a b : Coord) : Decidable (Near a b) := inferInstanceAs (Decidable (_ ∧ _))

/-- The test of the source is that of the integers but for the two lowest coordinates of the
player. -/
theorem aligned_iff {player own : Coord} :
    Enemy.aligned player own = true ↔ 2 ≤ player.toNat ∧ Near player own := by
  have hp := player.isLt
  have ho := own.isLt
  simp only [Enemy.aligned, Bool.and_eq_true, decide_eq_true_eq, BitVec.le_def, BitVec.toNat_add,
    BitVec.toNat_sub, toNat_zext, BitVec.reduceToNat, Near]
  omega

theorem aligned_eq {player own : Coord} (h : 2 ≤ player.toNat) :
    Enemy.aligned player own = decide (Near player own) := by
  rw [Bool.eq_iff_iff, aligned_iff, and_iff_right h, decide_eq_true_iff]

namespace Enemy

variable (stop : Stops) (p : EnemyPins) (e : Enemy)

/-- Up or down, towards the player. -/
def towardY : Dir := if e.yPos < p.playerY then .down else .up

/-- Left or right, towards the player. -/
def towardX : Dir := if e.xPos < p.playerX then .right else .left

/-- Close to the player and lined up with it, the enemy decides to stop; standing still at a frame
pulse, it turns to the player with which it is lined up. -/
structure Attacks (f : Foe) : Prop where
  stops : e.Close stop p → Near p.playerX e.xPos ∨ Near p.playerY e.yPos → e.idxIn stop p = 0
  facesY : e.edge.rising = true → e.idx = 0 → Near p.playerX e.xPos → ¬ Near p.playerY e.yPos →
    ∀ frameClk, (e.step f.config false frameClk p).isEnemyOut = e.towardY p
  facesX : e.edge.rising = true → e.idx = 0 → Near p.playerY e.yPos → ¬ Near p.playerX e.xPos →
    ∀ frameClk, (e.step f.config false frameClk p).isEnemyOut = e.towardX p

/-- The player is lined up with the enemy in column 0 or 1, and not also in its rows. -/
def Blind : Prop :=
  p.playerX.toNat < 2 ∧ e.xPos.toNat ≤ p.playerX.toNat + 2 ∧ ¬ Near p.playerY e.yPos

variable {stop p e}

theorem step_facing {c : EnemyConfig} (hr : e.edge.rising = true) (hi : e.idx = 0)
    (frameClk : Bool) : (e.step c false frameClk p).isEnemyOut = e.facing p := by
  simp [step, motionIn, hr, hi]

theorem Near.not_lt_iff {a b : Coord} (h : ¬ Near a b) : ¬ b < a ↔ a < b := by
  unfold Near at h
  rw [BitVec.lt_def, BitVec.lt_def]
  omega

/-- Not lined up in its rows, the enemy turns up or down, if the test says that it is lined up in
its columns. -/
theorem facing_vertical (hy : 2 ≤ p.playerY.toNat) (hn : ¬ Near p.playerY e.yPos) :
    e.facing p = if aligned p.playerX e.xPos then e.towardY p else e.isEnemyOut := by
  have hay : aligned p.playerY e.yPos = false := by
    rw [aligned_eq hy, decide_eq_false hn]
  simp only [facing, hay, Bool.false_eq_true, if_false, towardY]
  by_cases hlt : e.yPos < p.playerY
  · simp only [if_pos hlt]
  · simp only [if_neg hlt, if_pos ((Near.not_lt_iff hn).1 hlt)]

/-- Lined up in its rows, it turns left or right. -/
theorem facing_horizontal (hy : 2 ≤ p.playerY.toNat) (hn : Near p.playerY e.yPos)
    (hx : ¬ Near p.playerX e.xPos) : e.facing p = e.towardX p := by
  have hay : aligned p.playerY e.yPos = true := by
    rw [aligned_eq hy, decide_eq_true hn]
  simp only [facing, hay, if_true, towardX]
  by_cases hlt : e.xPos < p.playerX
  · simp only [if_pos hlt]
  · simp only [if_neg hlt, if_pos ((Near.not_lt_iff hx).1 hlt)]

end Enemy

/-- **An enemy that is close and lined up stops and faces the player** unless it is blind to a
player in the two leftmost columns, and has a heading to keep or another direction to face. -/
theorem attacks_iff (f : Foe) (stop : Stops) (p : EnemyPins) (e : Enemy)
    (hp : InRange p.playerX.toNat p.playerY.toNat) :
    e.Attacks stop p f ↔
      ¬ (e.Blind p ∧ (e.Close stop p ∧ e.idx ≠ 0 ∨
        e.edge.rising = true ∧ e.idx = 0 ∧ e.isEnemyOut ≠ e.towardY p)) := by
  have hpy : 2 ≤ p.playerY.toNat := by
    have := hp.2.2.1
    omega
  have hblind : e.Blind p ↔
      Near p.playerX e.xPos ∧ Enemy.aligned p.playerX e.xPos = false ∧ ¬ Near p.playerY e.yPos := by
    rw [← Bool.not_eq_true, aligned_iff, Enemy.Blind]
    unfold Near
    omega
  constructor
  · rintro h ⟨hb, hor⟩
    obtain ⟨hnx, hax, hny⟩ := hblind.1 hb
    rcases hor with ⟨hc, hi⟩ | ⟨hr, hi, hd⟩
    · have h0 := h.stops hc (Or.inl hnx)
      rw [Enemy.idxIn_of_close _ _ _ hc, hax, aligned_eq hpy, decide_eq_false hny] at h0
      exact hi h0
    · have h0 := h.facesY hr hi hnx hny true
      rw [Enemy.step_facing hr hi, Enemy.facing_vertical hpy hny, hax] at h0
      exact hd h0
  · intro h
    refine ⟨fun hc hor => ?_, fun hr hi hnx hny fc => ?_, fun hr hi hny hnx fc => ?_⟩
    · rw [Enemy.idxIn_of_close _ _ _ hc]
      cases ha : Enemy.aligned p.playerX e.xPos || Enemy.aligned p.playerY e.yPos with
      | true => rfl
      | false =>
        rw [Bool.or_eq_false_iff, aligned_eq hpy, decide_eq_false_iff_not] at ha
        by_contra hi
        exact h ⟨hblind.2 ⟨hor.resolve_right ha.2, ha.1, ha.2⟩, Or.inl ⟨hc, hi⟩⟩
    · rw [Enemy.step_facing hr hi, Enemy.facing_vertical hpy hny]
      cases ha : Enemy.aligned p.playerX e.xPos with
      | true => rfl
      | false =>
        by_contra hd
        exact h ⟨hblind.2 ⟨hnx, ha, hny⟩, Or.inr ⟨hr, hi, hd⟩⟩
    · rw [Enemy.step_facing hr hi]
      exact Enemy.facing_horizontal hpy hny hnx

theorem attacks_iff_field :
    (enemyAt 200 300).Attacks .none (chasing 201 310) .one ↔
      ¬ ((enemyAt 200 300).Blind (chasing 201 310) ∧
        ((enemyAt 200 300).Close .none (chasing 201 310) ∧ (enemyAt 200 300).idx ≠ 0 ∨
          (enemyAt 200 300).edge.rising = true ∧ (enemyAt 200 300).idx = 0 ∧
            (enemyAt 200 300).isEnemyOut ≠ (enemyAt 200 300).towardY (chasing 201 310))) :=
  attacks_iff .one .none (chasing 201 310) (enemyAt 200 300) (by unfold InRange; decide)

/-- The player is at the left border, ten rows below an enemy on its way to the left: the decision
is to go on. -/
theorem border_blinds :
    ¬ ∀ (f : Foe) (stop : Stops) (p : EnemyPins) (e : Enemy), InPatrol e.xPos.toNat e.yPos.toNat →
      InRange p.playerX.toNat p.playerY.toNat → e.Attacks stop p f := by
  intro h
  have hgo : ({ enemyAt 2 100 with idx := 3 } : Enemy).idxIn .none (chasing 0 110) = 3 := by decide
  have h0 := (h .one .none (chasing 0 110) { enemyAt 2 100 with idx := 3 }
    (by unfold InPatrol; decide) (by unfold InRange; decide)).stops (by decide)
    (Or.inl (by decide))
  rw [hgo] at h0
  exact absurd h0 (by decide)

end TankBattle
