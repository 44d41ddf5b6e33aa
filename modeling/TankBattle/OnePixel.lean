import TankBattle.OffLetters
import TankBattle.Patrol
import TankBattle.Tunnels

/-!
# The stop signals and a step of one pixel

A body whose footprint has no letter pixel, a direction whose stop signal is low, and a step of one
pixel in this direction.  The next footprint has no letter pixel either, but for the step down onto
the right stem of the N, where the check compares `x + size` where the others compare `x`, and for
the steps up and left into the slanted stroke, whose checks cover too few rows and columns.

* `BodyWall`: the stop signals of the four wall modules;
* `Hole`: the places in question;
* `one_pixel_iff`: there are no others.
-/

namespace TankBattle

/-! ### The four modules -/

/-- The wall modules with the bodies that stop a move besides the letters. -/
inductive BodyWall
  | wall (enemy1X enemy1Y enemy2X enemy2Y ballx2 bally2 : Coord) (enable1 enable2 enable12 : Bool)
  | wall2 (ballx bally : Coord)
  | enemy_wall (playerX playerY : Coord) (enableOther : Bool) (otherX otherY : Coord)
  | enemy_wall2 (playerX playerY : Coord) (enableOther : Bool) (otherX otherY : Coord)

namespace BodyWall

/-- The stop signals for a body at `(x, y)`, with the enable of the enemies' modules high. -/
def stops (x y : Coord) : BodyWall → Stops
  | .wall enemy1X enemy1Y enemy2X enemy2Y ballx2 bally2 enable1 enable2 enable12 =>
      wallStops x y enemy1X enemy1Y enemy2X enemy2Y ballx2 bally2 enable1 enable2 enable12
  | .wall2 ballx bally => wall2Stops x y ballx bally
  | .enemy_wall playerX playerY enableOther otherX otherY =>
      enemyWallStops nearStops x y playerX playerY true enableOther otherX otherY
  | .enemy_wall2 playerX playerY enableOther otherX otherY =>
      enemyWallStops nearStops2 x y playerX playerY true enableOther otherX otherY

/-- The part of them that the other bodies raise. -/
def bodyStops (x y : Coord) : BodyWall → Stops
  | .wall enemy1X enemy1Y enemy2X enemy2Y ballx2 bally2 enable1 enable2 enable12 =>
      (((nearStops x y enemy1X enemy1Y).gate enable1).or
        ((nearStops x y ballx2 bally2).gate enable2)).or
        ((nearStops x y enemy2X enemy2Y).gate enable12)
  | .wall2 ballx bally => nearStops x y ballx bally
  | .enemy_wall playerX playerY enableOther otherX otherY =>
      (playerStops x y playerX playerY).or ((nearStops x y otherX otherY).gate enableOther)
  | .enemy_wall2 playerX playerY enableOther otherX otherY =>
      (playerStops x y playerX playerY).or ((nearStops2 x y otherX otherY).gate enableOther)

/-- All four modules have the same checks against the letters. -/
theorem stops_toward (w : BodyWall) (x y : Coord) (m : Option Dir) :
    (w.stops x y).toward m = false ↔
      (letterStops x y).toward m = false ∧ (w.bodyStops x y).toward m = false := by
  cases w with
  | wall | wall2 =>
    simp only [stops, bodyStops, wallStops, wall2Stops_eq, Stops.or_toward]
    tauto
  | enemy_wall | enemy_wall2 =>
    simp only [stops, bodyStops, enemyWallStops, Stops.gate, if_true, Stops.or_toward]
    tauto

end BodyWall

/-! ### Steps of one pixel -/

section Step

variable {x y : Coord}

/-- The places whose check misses the letter that is one pixel ahead. -/
def Hole (d : Dir) (x y : ℕ) : Prop :=
  match d with
  | .right => False
  | .up => 185 ≤ x ∧ x ≤ 196 ∧ y + 398 = 4 * x
  | .left => 188 ≤ x ∧ x ≤ 196 ∧ 4 * x ≤ y + 512 ∧ y + 508 < 4 * x
  | .down => 211 ≤ x ∧ x ≤ 229 ∧ y = 231

/-- Elsewhere a low check and a clear footprint make the next footprint clear. -/
theorem clear_ahead {d : Dir} (hp : InPatrol x.toNat y.toNat) (hc : Clear x.toNat y.toNat)
    (hs : (letterStops x y).toward (some d) = false) (hh : ¬ Hole d x.toNat y.toNat) :
    Clear (x.toNat + (stride 1 (some d)).1) (y.toNat + (stride 1 (some d)).2) := by
  obtain ⟨h1, h2, h3, h4⟩ := hp
  have hx : x.toNat ≤ 460 := by omega
  have hy : y.toNat ≤ 462 := by omega
  have hone : Strides 1 x.toNat y.toNat := Or.inl rfl
  cases d <;> simp only [Hole] at hh <;> simp only [stride, add_zero, ← sub_eq_add_neg]
  · exact clear_right hx hy hone hc hs
  · exact clear_up hx hy hone hc hs (by omega)
  · exact clear_left hx hy hone hc hs (by omega)
  · exact clear_down hx hy hone hc hs (by omega)

/-- The check is low in a hole. -/
theorem Hole.low {d : Dir} (h : Hole d x.toNat y.toNat) :
    (letterStops x y).toward (some d) = false := by
  have hup : ∀ k < 12, upCheck (BitVec.ofNat 10 (185 + k)) (BitVec.ofNat 10 (342 + 4 * k)) =
      false := by decide
  have hleft : ∀ k < 9, ∀ j < 4, leftCheck (BitVec.ofNat 10 (188 + k))
      (BitVec.ofNat 10 (240 + 4 * k + j)) = false := by decide
  have hdown : ∀ k < 19, downCheck (BitVec.ofNat 10 (211 + k)) 231 = false := by decide
  have hof : ∀ {z : Coord} {n : ℕ}, n = z.toNat → BitVec.ofNat 10 n = z := by
    rintro z _ rfl
    exact (BitVec.ofNat_toNat _ _).trans (BitVec.setWidth_eq _)
  cases d <;> simp only [Hole] at h
  · have := hup (x.toNat - 185) (by omega)
    rwa [hof (z := x) (by omega), hof (z := y) (by omega)] at this
  · have := hleft (x.toNat - 188) (by omega) (y.toNat + 512 - 4 * x.toNat) (by omega)
    rwa [hof (z := x) (by omega), hof (z := y) (by omega)] at this
  · have := hdown (x.toNat - 211) (by omega)
    rwa [hof (z := x) (by omega), show (231 : Coord) = y by bv_omega] at this

/-- From a hole the step leads onto the letter. -/
theorem Hole.not_vacant {d : Dir} (hp : InPatrol x.toNat y.toNat) (h : Hole d x.toNat y.toNat) :
    ¬ Vacant (x + (pixel d).1) (y + (pixel d).2) := by
  obtain ⟨ax, ay⟩ := hp.toNat_add d
  obtain ⟨h1, h2, h3, h4⟩ := hp
  intro hv
  obtain ⟨g1, g2, g3, g4⟩ := abs_stride_le zero_le_one (some d)
  have hu := (vacant_iff_undrawn (by omega) (by omega)).1 hv
  cases d <;> simp only [Hole] at h <;> simp only [stride] at ax ay
  · -- the upper right corner enters the stroke
    refine hu (x.toNat + 18) (y.toNat - 1) (by omega) (by omega) (by omega) (by omega) (Or.inr ?_)
    unfold Stroke
    omega
  · -- the lower left corner
    refine hu (x.toNat - 1) (y.toNat + 18) (by omega) (by omega) (by omega) (by omega) ?_
    by_cases hx : x.toNat - 1 < 185
    · exact Or.inl (inBoxes_of_stem (by omega) (by omega))
    · refine Or.inr ?_
      unfold Stroke
      omega
  · -- the lower edge stands on the right stem
    exact hu 229 250 (by omega) (by omega) (by omega) (by omega)
      (Or.inl (inBoxes_of_stem (by omega) (by omega)))

end Step

/-- **The stop signals are sound for a step of one pixel** if and only if the step does not start in
a hole of the checks with the other bodies out of its way. -/
theorem one_pixel_iff (w : BodyWall) (d : Dir) (x y : Coord) (hp : InPatrol x.toNat y.toNat)
    (hv : Vacant x y) :
    ((w.stops x y).toward (some d) = false → Vacant (x + (pixel d).1) (y + (pixel d).2)) ↔
      ¬ (Hole d x.toNat y.toNat ∧ (w.bodyStops x y).toward (some d) = false) := by
  constructor
  · rintro h ⟨hh, hb⟩
    exact hh.not_vacant hp (h ((w.stops_toward x y _).2 ⟨hh.low, hb⟩))
  · intro h hs
    obtain ⟨hl, hb⟩ := (w.stops_toward x y _).1 hs
    obtain ⟨ax, ay⟩ := hp.toNat_add d
    obtain ⟨h1, h2, h3, h4⟩ := hp
    have hc := clear_ahead ⟨h1, h2, h3, h4⟩ ((vacant_iff (by omega) (by omega)).1 hv) hl
      fun hh => h ⟨hh, hb⟩
    rw [← ax, ← ay] at hc
    obtain ⟨g1, g2, g3, g4⟩ := abs_stride_le zero_le_one (some d)
    exact (vacant_iff (by omega) (by omega)).2 hc

/-- At the left edge of the field. -/
theorem one_pixel_iff_edge :
    InPatrol (2 : Coord).toNat (300 : Coord).toNat ∧ Vacant 2 300 ∧
      (((BodyWall.wall2 2 458).stops 2 300).toward (some .right) = false →
        Vacant (2 + (pixel .right).1) (300 + (pixel .right).2)) :=
  have hp : InPatrol (2 : Coord).toNat (300 : Coord).toNat := by unfold InPatrol; decide
  have hv : Vacant 2 300 := (vacant_iff (by decide) (by decide)).2 (clear_edge 300)
  ⟨hp, hv, (one_pixel_iff (.wall2 2 458) .right 2 300 hp hv).2 (by unfold Hole; tauto)⟩

/-- A body in the gap between the two rows of letters, above the right stem of the N. -/
theorem gap_vacant : Vacant 220 231 := by
  refine (vacant_iff (by decide) (by decide)).2 ?_
  have hs : OffSlant (220 : Coord).toNat (231 : Coord).toNat := fun x h1 _ _ h4 => by
    change (220 : ℤ) ≤ x at h1
    omega
  have hn : ((220 : Coord).toNat : ℤ) = 220 ∧ ((231 : Coord).toNat : ℤ) = 231 := by decide
  rw [hn.1, hn.2] at hs ⊢
  constructor <;> first | exact hs | (unfold Off; omega)

/-- It is not stopped on its way down. -/
theorem gap_unsound :
    ¬ ∀ (w : BodyWall) (d : Dir) (x y : Coord), InPatrol x.toNat y.toNat → Vacant x y →
      (w.stops x y).toward (some d) = false → Vacant (x + (pixel d).1) (y + (pixel d).2) := by
  intro h
  have hv : Vacant 220 232 :=
    h (.enemy_wall 2 458 false 458 23) .down 220 231 (by unfold InPatrol; decide) gap_vacant
      (by decide)
  have hq : isLetter 220 250 = false := hv 220 250 ⟨by decide, by decide, by decide, by decide⟩
  exact absurd hq (by decide)

end TankBattle
