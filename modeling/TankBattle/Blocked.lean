import TankBattle.Chase

/-!
# A blocked enemy

The motion block of an enemy does not look at the stop signals.  A stopped heading is cleared by an
edge that may come too late, and not at all by an edge that decides on a new heading.

* `Enemy.tick`, `ChaseRun`: one edge, and the runs, of an enemy module with its own `idx`;
* `nextIdx_iff`: the heading after an edge;
* `HeldAt`: a frame pulse does not move the enemy against the stop signal of its heading;
* `held_iff`: it does not unless the edge before the pulse leaves such a heading;
* `foe_held`: what this means for the enemies of the design;
* `cornered`: an enemy that is stopped on all sides.
-/

namespace TankBattle

open Sys

/-- What an enemy module samples in one cycle. -/
structure ChasePins where
  reset : Bool
  frameClk : Bool
  pins : EnemyPins

/-- One edge of an enemy module. -/
def Enemy.tick (c : EnemyConfig) (i : ChasePins) (e : Enemy) : Enemy :=
  e.step c i.reset i.frameClk i.pins

/-- The runs of an enemy module from a cycle without a frame pulse on, with anything in the other
registers. -/
abbrev ChaseRun (f : Foe) := Sync.Run (Enemy.tick f.config) fun e => e.edge.rising = false

/-! ### The enemies of the design -/

section Design

variable (R : Run) {m : ℕ}

/-- The pins of the enemies. -/
def Sys.pinsOf (s : Sys) : Foe → EnemyPins
  | .one => s.enemy1Pins
  | .two => s.enemy2Pins

theorem enemyOf_tick (i : Pins) (s : Sys) (f : Foe) :
    (s.step i).enemyOf f =
      Enemy.tick f.config ⟨s.resetTank, i.vgaVS, s.pinsOf f⟩ (s.enemyOf f) := by
  cases f <;> rfl

/-- An enemy of the design. -/
def foeRun {f : Foe} (hm : ((R.state m).enemyOf f).edge.rising = false) : ChaseRun f where
  state n := (R.state (m + n)).enemyOf f
  input n := ⟨(R.state (m + n)).resetTank, (R.input (m + n)).vgaVS, (R.state (m + n)).pinsOf f⟩
  start := hm
  succ n := by rw [← Nat.add_assoc, R.succ, enemyOf_tick]

end Design

/-! ### The heading -/

namespace Enemy

/-- The direction is the first one of least distance, a stopped one counting `2^20 - 1`. -/
structure First (stop : Stops) (p : EnemyPins) (e : Enemy) (d : Dir) : Prop where
  least : ∀ d', (e.res stop p d).toInt ≤ (e.res stop p d').toInt
  before : ∀ d', idxOf d' < idxOf d → (e.res stop p d).toInt < (e.res stop p d').toInt

/-- The next edge loads `idx` with the direction or keeps it: by a decision, near the player or away
from it, or without one. -/
def Turns (stop : Stops) (p : EnemyPins) (e : Enemy) (d : Dir) : Prop :=
  (e.counter = decisionCount ∧ e.Close stop p ∧ aligned p.playerX e.xPos = false ∧
      aligned p.playerY e.yPos = false ∧ e.idx = idxOf d) ∨
    (e.counter = decisionCount ∧ ¬ e.Close stop p ∧ e.First stop p d) ∨
    e.counter ≠ decisionCount ∧ e.idx = idxOf d ∧ stop.toward (some d) = false

variable {stop : Stops} {p : EnemyPins} {e : Enemy} {d : Dir}

theorem First.unique {d' : Dir} (h : e.First stop p d) (h' : e.First stop p d') : d = d' := by
  by_contra hne
  have hlt : idxOf d < idxOf d' ∨ idxOf d' < idxOf d := by
    revert hne
    cases d <;> cases d' <;> decide
  rcases hlt with hlt | hlt
  · exact absurd (h.least d') (not_le.2 (h'.before d hlt))
  · exact absurd (h'.least d) (not_le.2 (h.before d' hlt))

theorem idxIn_iff_first (h : ¬ e.Close stop p) :
    e.idxIn stop p = idxOf d ↔ e.First stop p d := by
  obtain ⟨d', hidx, hle, hlt⟩ := e.idxIn_first stop p h
  have h' : e.First stop p d' := ⟨hle, hlt⟩
  rw [hidx, idxOf_injective.eq_iff]
  constructor
  · rintro rfl
    exact h'
  · exact fun hd => h'.unique hd

theorem idxOf_ne_zero (d : Dir) : (0 : BitVec 3) ≠ idxOf d := by
  cases d <;> decide

/-- Between two decisions the heading is cleared if it is stopped. -/
theorem nextIdx_of_ne (hc : e.counter ≠ decisionCount) :
    e.nextIdx stop p = idxOf d ↔ e.idx = idxOf d ∧ stop.toward (some d) = false := by
  rw [nextIdx, if_neg hc]
  constructor
  · intro h
    split_ifs at h with hs
    · exact absurd h (idxOf_ne_zero d)
    · refine ⟨h, ?_⟩
      rw [← Bool.not_eq_true]
      intro hd
      cases d <;> exact hs (by simp_all [idxOf, Stops.toward])
  · rintro ⟨hi, hs⟩
    rw [hi, if_neg]
    cases d <;> simp_all [idxOf, Stops.toward]

theorem nextIdx_iff : e.nextIdx stop p = idxOf d ↔ e.Turns stop p d := by
  by_cases hc : e.counter = decisionCount
  · rw [nextIdx, if_pos hc]
    by_cases hclose : e.Close stop p
    · rw [idxIn_of_close _ _ _ hclose]
      simp only [Turns, hc, hclose, true_and, not_true, false_and, ne_eq, or_false]
      cases aligned p.playerX e.xPos <;> cases aligned p.playerY e.yPos <;>
        simp <;> exact idxOf_ne_zero d
    · rw [idxIn_iff_first hclose]
      simp only [Turns, hc, hclose, true_and, not_false_iff, false_and, false_or, ne_eq, not_true,
        or_false]
  · rw [nextIdx_of_ne hc]
    simp only [Turns, hc, false_and, false_or, ne_eq, not_false_iff, true_and]

/-- With every direction stopped or at the border, the first one is to the right. -/
theorem first_right (h : ∀ d, ¬ e.Candidate stop d) : e.First stop p .right := by
  have hres : ∀ d, (e.res stop p d).toInt = 2 ^ 20 - 1 := fun d => by
    rw [res_toInt, if_neg (h d)]
  refine ⟨fun d' => by rw [hres, hres], fun d' hd' => ?_⟩
  cases d' <;> exact absurd hd' (by decide)

end Enemy

/-! ### Frame pulses -/

section Runs

variable {f : Foe} (R : ChaseRun f)

/-- The stop signals in a cycle. -/
def stopsAt (n : ℕ) : Stops := (R.state n).stops f.config (R.input n).pins

/-- A frame pulse with the stop signal of the heading high loads no motion. -/
def HeldAt (n : ℕ) : Prop :=
  (R.state n).edge.rising = true → ∀ d, (R.state n).idx = idxOf d →
    (stopsAt R n).toward (some d) = true → (R.state (n + 1)).Resting

/-- A frame pulse would move the enemy against a stop signal. -/
structure Threat (n : ℕ) (d : Dir) : Prop where
  pulse : (R.state n).edge.rising = true
  reset : (R.input n).reset = false
  stopped : (stopsAt R n).toward (some d) = true
  moves : (R.state n).Moves (R.input n).pins d

/-- A frame pulse moves the enemy if and only if the motion block does so for its heading. -/
theorem resting_succ_iff {n : ℕ} {d : Dir} (hp : (R.state n).edge.rising = true)
    (hi : (R.state n).idx = idxOf d) :
    (R.state (n + 1)).Resting ↔
      (R.input n).reset = true ∨ ¬ (R.state n).Moves (R.input n).pins d := by
  have he : ({ R.state n with idx := idxOf d } : Enemy) = R.state n := by rw [← hi]
  rw [R.succ, Enemy.Moves, he, not_not]
  cases hr : (R.input n).reset <;> simp [Enemy.tick, Enemy.step, Enemy.Resting, hr, hp]

theorem heldAt_iff (n : ℕ) :
    HeldAt R n ↔ ∀ d, Threat R n d → (R.state n).idx ≠ idxOf d := by
  constructor
  · intro h d ht hi
    rcases (resting_succ_iff R ht.pulse hi).1 (h ht.pulse d hi ht.stopped) with hr | hm
    · rw [ht.reset] at hr
      cases hr
    · exact hm ht.moves
  · intro h hp d hi hs
    refine (resting_succ_iff R hp hi).2 ?_
    cases hr : (R.input n).reset with
    | true => exact Or.inl rfl
    | false => exact Or.inr fun hm => h d ⟨hp, hr, hs, hm⟩ hi

/-- What the pulse finds in `idx` is what the edge before it has left there. -/
theorem heldAt_succ_iff (n : ℕ) :
    HeldAt R (n + 1) ↔
      ∀ d, Threat R (n + 1) d → ¬ (R.state n).Turns (stopsAt R n) (R.input n).pins d := by
  have hidx : ∀ d, (R.state (n + 1)).idx = idxOf d ↔
      (R.state n).Turns (stopsAt R n) (R.input n).pins d := by
    intro d
    rw [R.succ, ← Enemy.nextIdx_iff]
    rfl
  simp only [heldAt_iff, Ne, hidx]

/-- There is no pulse in the first cycle. -/
theorem heldAt_zero : HeldAt R 0 := by
  intro hp
  rw [R.start] at hp
  cases hp

/-- **A blocked enemy does not step** in any cycle of a run if and only if no edge before a frame
pulse turns it to a direction, or keeps it in one, that the pulse would take against its stop
signal. -/
theorem held_iff (f : Foe) (R : ChaseRun f) :
    (∀ n, HeldAt R n) ↔
      ∀ n d, Threat R (n + 1) d → ¬ (R.state n).Turns (stopsAt R n) (R.input n).pins d := by
  constructor
  · intro h n
    exact (heldAt_succ_iff R n).1 (h (n + 1))
  · intro h n
    cases n with
    | zero => exact heldAt_zero R
    | succ n => exact (heldAt_succ_iff R n).2 (h n)

/-- **In the design** a blocked enemy does not step if no frame pulse comes in the cycle after a
decision of it, or together with the rise of one of its stop signals. -/
theorem foe_held {S : Run} {f : Foe} {m : ℕ} (hm : ((S.state m).enemyOf f).edge.rising = false)
    (hp : ∀ n, ((foeRun S hm).state (n + 1)).edge.rising = true →
      ((foeRun S hm).state n).counter ≠ Enemy.decisionCount ∧
        ∀ d, (stopsAt (foeRun S hm) (n + 1)).toward (some d) = true →
          (stopsAt (foeRun S hm) n).toward (some d) = true) (n : ℕ) : HeldAt (foeRun S hm) n := by
  cases n with
  | zero => exact heldAt_zero _
  | succ n =>
    refine (heldAt_succ_iff _ n).2 fun d ht hturn => ?_
    obtain ⟨hc, hstop⟩ := hp n ht.pulse
    rcases hturn with ⟨h, -⟩ | ⟨h, -⟩ | ⟨-, -, hlow⟩
    · exact hc h
    · exact hc h
    · exact absurd (hstop d ht.stopped) (by rw [hlow]; exact Bool.false_ne_true)

end Runs

/-- An enemy in the open field, touched by the player at its upper right corner and by the other
enemy at its lower left one, at the time of a decision. -/
def cornered : ChaseRun .one :=
  Sync.Run.feed (Enemy.tick enemy1Config)
    (s := { enemyAt 401 301 with counter := Enemy.decisionCount }) rfl
    fun n => ⟨false, n % 2 == 0, ⟨420, 282, true, true, 382, 320⟩⟩

/-- All four stop signals are high, the decision is to go to the right, and the frame pulse in the
next cycle does. -/
theorem cornered_moves : ¬ ∀ (f : Foe) (R : ChaseRun f),
    (∀ n, (R.input n).pins.enable = true) → ∀ n, HeldAt R n := by
  intro h
  have hm : ¬ (cornered.state 2).Resting := by
    unfold Enemy.Resting
    decide
  exact hm (h .one cornered (fun _ => rfl) 1 (by decide) .right (by decide) (by decide))

end TankBattle
