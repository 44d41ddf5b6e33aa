import TankBattle.FramePace
import TankBattle.Sprites

/-!
# The picture (`lab8.sv`, `VGA_controller.sv`)

The registers of the game may change while the beam is on the screen.  But tanks and enemies, and
bullets in flight, are moved by frame pulses only, and the frame clock rises below the screen.

* `shownAt`: the cycle in which the beam is at a pixel;
* `place_of_rising`: where the beam is at a frame pulse;
* `place_still`, `explosion_still`: objects between frame pulses;
* `whole_picture`: every frame shows the tanks, enemies and bullets whole and in one place.
-/

namespace TankBattle

/-! ### The beam in a frame -/

/-- The cycles after the first cycle of a frame in which the beam is at a pixel. -/
def shownAt (x y e : ℕ) : ℕ := 2 * (x + 800 * y) + e

section Frame

variable {R : BoardRun} {n d : ℕ}

/-- At a frame pulse the beam is in row 492. -/
theorem place_of_rising (m : Detector) (hq : ∀ k < 4, Quiet R (n + k))
    (h : ((R.state (n + 4)).sys.detector m).rising = true) : (R.state (n + 4)).place = 787201 := by
  have hrises := (rises_vs_iff (hq 0 (by omega)) (hq 1 (by omega)) (hq 2 (by omega))).1
    ((rising_iff R m (n + 2)).1 h)
  have h3 := place_succ (hq 2 (by omega))
  have h4 := place_succ (hq 3 (by omega))
  rw [h4, h3, hrises]

/-- The beam in a frame. -/
theorem place_in_frame (h0 : (R.state n).place = 0) (hq : ∀ k < d, Quiet R (n + k))
    (hd : d < 840000) : (R.state (n + d)).place = d := by
  have hplace := place_add hq
  have hlt := place_lt R (n + d)
  rw [h0] at hplace
  omega

/-- The pixel that the beam is at. -/
theorem beam_at {x y e : ℕ} (hx : x < 640) (he : e < 2)
    (h : (R.state n).place = shownAt x y e) :
    (R.state n).vga.drawX.toNat = x ∧ (R.state n).vga.drawY.toNat = y := by
  have hscan := (scans R n).x
  have hclk := Bool.toNat_lt (R.state n).vgaClk
  rw [Board.place, shownAt] at h
  omega

end Frame

/-! ### Objects between frame pulses -/

/-- The frame clock detector of an object. -/
def Layer.detector : Layer → Detector
  | .tank1 => .tank1
  | .tank2 => .tank2
  | .enemy2 => .enemy2
  | .enemy1 => .enemy1

/-- The frame clock detector of an object's bullet machine. -/
def Layer.bulletDetector : Layer → Detector
  | .tank1 => .bullets1
  | .tank2 => .bullets2
  | .enemy2 => .enb2
  | .enemy1 => .enb1

/-- The bullet of an object is in flight, or explodes. -/
def Sys.Airborne (s : Sys) (l : Layer) : Prop :=
  (s.explosion l).state = .BULLET ∨ (s.explosion l).state = .BULLET_BOOM

section Still

variable {R : Run} {r n : ℕ}

/-- A body that has not been shifted. -/
theorem Mover.Shifted.still {b b' : Mover} {k : ℤ} (h : b.Shifted b' k none) :
    (b'.xPos, b'.yPos) = (b.xPos, b.yPos) := by
  obtain ⟨hx, hy⟩ := h
  simp only [stride, add_zero, Nat.cast_inj] at hx hy
  rw [BitVec.eq_of_toNat_eq hx, BitVec.eq_of_toNat_eq hy]

/-- **Tanks and enemies** stand still between frame pulses. -/
theorem place_still (hr : (R.state r).resetTank = true) (hn : r < n)
    (ht : ∀ k, r < k → k ≤ n + 1 → (R.state k).resetTank = false) (l : Layer)
    (h0 : ((R.state n).detector l.detector).rising = false)
    (h1 : ((R.state (n + 1)).detector l.detector).rising = false) :
    (R.state (n + 2)).place l = (R.state (n + 1)).place l := by
  have htank : ∀ p : Player, ((R.state (n + 1)).detector p.detector).rising = false →
      (((R.state (n + 2)).tankOf p).xPos, ((R.state (n + 2)).tankOf p).yPos) =
        (((R.state (n + 1)).tankOf p).xPos, ((R.state (n + 1)).tankOf p).yPos) := fun p hp => by
    obtain ⟨m, hm, hcause⟩ := tankOf_shifted hr (n := n + 1) (by omega) p
      (ht _ (by omega) le_rfl)
    obtain rfl : m = none := hcause.resolve_right (Bool.eq_false_iff.1 hp)
    exact hm.still
  have henemy : ∀ f : Foe, ((R.state n).detector f.detector).rising = false →
      (((R.state (n + 2)).enemyOf f).xPos, ((R.state (n + 2)).enemyOf f).yPos) =
        (((R.state (n + 1)).enemyOf f).xPos, ((R.state (n + 1)).enemyOf f).yPos) := fun f hf => by
    obtain ⟨m, hm, hcause⟩ := enemyOf_shifted hr hn f ht
    obtain rfl : m = none := hcause.resolve_right (Bool.eq_false_iff.1 hf)
    exact hm.still
  cases l with
  | tank1 => exact htank .one h1
  | tank2 => exact htank .two h1
  | enemy2 => exact henemy .two h0
  | enemy1 => exact henemy .one h0

/-- What one edge does to the bullet machine of an object. -/
theorem explosion_step (i : Pins) (s : Sys) (l : Layer) :
    ∃ (fire stop : Bool) (dir : Dir) (m : Mids), (s.step i).explosion l =
      (s.explosion l).step fire s.resetTank i.vgaVS stop dir m := by
  cases l <;> exact ⟨_, _, _, _, rfl⟩

theorem detector_explosion (s : Sys) (l : Layer) :
    s.detector l.bulletDetector = (s.explosion l).edge := by
  cases l <;> rfl

/-- **Bullets** stay where they are between frame pulses. -/
theorem explosion_still (l : Layer) (ht : (R.state n).resetTank = false)
    (ha : (R.state n).Airborne l)
    (h : ((R.state n).detector l.bulletDetector).rising = false) :
    (((R.state (n + 1)).explosion l).xPos, ((R.state (n + 1)).explosion l).yPos) =
      (((R.state n).explosion l).xPos, ((R.state n).explosion l).yPos) := by
  obtain ⟨fire, stop, dir, m, hs⟩ := explosion_step (R.input n) (R.state n) l
  rw [detector_explosion] at h
  rw [R.succ, hs, ht, (Bullet.step_airborne ha).1, (Bullet.step_airborne ha).2.1, Bullet.posIn, h]
  rfl

end Still

/-! ### What a frame shows -/

section Picture

variable {R : BoardRun} {r n k x y e : ℕ} (hn : 5 ≤ n) (h0 : (R.state n).place = 0)
  (hq : ∀ k, n ≤ k + 5 → k < n + 768000 → Quiet R k)

include hn h0 hq

/-- There is no frame pulse while the beam is on the screen, nor in the cycle before. -/
theorem no_pulse (m : Detector) (h1 : n ≤ k + 1) (h2 : k < n + 768000) :
    ((R.state k).sys.detector m).rising = false := by
  refine Bool.eq_false_iff.2 fun h => ?_
  obtain ⟨j, rfl⟩ := Nat.exists_eq_add_of_le' (show 4 ≤ k by omega)
  have hplace := place_of_rising m (fun i hi => hq _ (by omega) (by omega)) h
  rcases Nat.lt_or_ge (j + 4) n with hlt | hge
  · obtain rfl : n = j + 4 + 1 := by omega
    rw [place_succ (hq _ (by omega) (by omega)), hplace] at h0
    omega
  · obtain ⟨d, hd⟩ := Nat.exists_eq_add_of_le hge
    rw [hd, place_in_frame h0 (fun i hi => hq _ (by omega) (by omega)) (by omega)] at hplace
    omega

/-- The beam is at a pixel and is not blanked. -/
theorem beam_shown (hx : x < 640) (hy : y < 480) (he : e < 2) (hk : k = n + shownAt x y e) :
    (R.state k).vga.drawX.toNat = x ∧ (R.state k).vga.drawY.toNat = y ∧
      (R.state k).vga.blankN = true := by
  have hlt : shownAt x y e < 768000 := by
    rw [shownAt]
    omega
  have hplace : (R.state k).place = shownAt x y e := by
    rw [hk]
    exact place_in_frame h0 (fun i hi => hq _ (by omega) (by omega)) (by omega)
  obtain ⟨ex, ey⟩ := beam_at hx he hplace
  obtain ⟨j, rfl⟩ := Nat.exists_eq_add_of_le' (show 2 ≤ k by omega)
  have haligned := aligned_two (hq j (by omega) (by omega)) (hq (j + 1) (by omega) (by omega))
  exact ⟨ex, ey, haligned.blankN.2 ⟨ex ▸ hx, ey ▸ hy⟩⟩

/-- Tanks and enemies in the part of a frame that is on the screen. -/
theorem place_kept (hr : (R.state r).sys.resetTank = true) (hrn : r + 1 < n)
    (ht : ∀ k, r < k → k < n + 768000 → (R.state k).sys.resetTank = false) (l : Layer)
    (h1 : n ≤ k) (h2 : k < n + 768000) :
    (R.state k).sys.place l = (R.state n).sys.place l := by
  induction k, h1 using Nat.le_induction with
  | base => rfl
  | succ k h1 ih =>
    obtain ⟨j, rfl⟩ := Nat.exists_eq_add_of_le' (show 1 ≤ k by omega)
    rw [← ih (by omega)]
    exact place_still (R := gameRun R) hr (by omega) (fun i hi hi' => ht i hi (by omega)) l
      (no_pulse hn h0 hq _ (by omega) (by omega)) (no_pulse hn h0 hq _ (by omega) (by omega))

/-- Bullets that stay in the air. -/
theorem explosion_kept (ht : ∀ k, n ≤ k → k < n + 768000 → (R.state k).sys.resetTank = false)
    (l : Layer) (h1 : n ≤ k) (h2 : k < n + 768000)
    (ha : ∀ j, n ≤ j → j ≤ k → (R.state j).sys.Airborne l) :
    (((R.state k).sys.explosion l).xPos, ((R.state k).sys.explosion l).yPos) =
      (((R.state n).sys.explosion l).xPos, ((R.state n).sys.explosion l).yPos) := by
  induction k, h1 using Nat.le_induction with
  | base => rfl
  | succ k h1 ih =>
    rw [← ih (by omega) fun j hj hj' => ha j hj (by omega)]
    exact explosion_still (R := gameRun R) l (ht k h1 (by omega)) (ha k h1 (by omega))
      (no_pulse hn h0 hq _ (by omega) (by omega))

/-- **The picture is whole**: in every frame the beam comes to every pixel of the screen, and it
reads there the tanks and enemies as squares in the places that they had when the frame began; and a
bullet that has stayed in the air is still where it was then. -/
theorem whole_picture (hr : (R.state r).sys.resetTank = true) (hrn : r + 1 < n)
    (ht : ∀ k, r < k → k < n + 768000 → (R.state k).sys.resetTank = false) (l : Layer)
    (hx : x < 640) (hy : y < 480) (he : e < 2) (hk : k = n + shownAt x y e) :
    ((R.state k).vga.drawX.toNat = x ∧ (R.state k).vga.drawY.toNat = y ∧
        (R.state k).vga.blankN = true) ∧
      (isBody ((R.state k).sys.place l).1 ((R.state k).sys.place l).2 (R.state k).vga.drawX
          (R.state k).vga.drawY = true ↔
        ((R.state n).sys.place l).1.toNat ≤ x ∧ x < ((R.state n).sys.place l).1.toNat + 19 ∧
          ((R.state n).sys.place l).2.toNat ≤ y ∧ y < ((R.state n).sys.place l).2.toNat + 19) ∧
      ((∀ j, n ≤ j → j ≤ k → (R.state j).sys.Airborne l) →
        (((R.state k).sys.explosion l).xPos, ((R.state k).sys.explosion l).yPos) =
          (((R.state n).sys.explosion l).xPos, ((R.state n).sys.explosion l).yPos)) := by
  have hlt : shownAt x y e < 768000 := by
    rw [shownAt]
    omega
  have hbeam := beam_shown hn h0 hq hx hy he hk
  refine ⟨hbeam, ?_, explosion_kept hn h0 hq (fun k h1 h2 => ht k (by omega) h2) l (by omega)
    (by omega)⟩
  rw [place_kept hn h0 hq hr hrn ht l (by omega) (by omega), isBody_iff, hbeam.1, hbeam.2.1]

end Picture

/-! ### The first frame of a game -/

section Bench

variable {n : ℕ}

theorem boardGame_place (hn : n = 840000) : (boardGame.state n).place = 0 := by
  have hplace := place_add (R := boardGame) (n := 0) (d := n) fun k _ => boardGame_quiet _
  have hlt := place_lt boardGame n
  have hzero : (boardGame.state 0).place = 0 := by decide
  rw [hzero, Nat.zero_add] at hplace
  omega

theorem whole_picture_bench :
    ((boardGame.state 1576020).vga.drawX.toNat = 10 ∧
        (boardGame.state 1576020).vga.drawY.toNat = 460 ∧
        (boardGame.state 1576020).vga.blankN = true) ∧
      (isBody ((boardGame.state 1576020).sys.place .tank1).1
          ((boardGame.state 1576020).sys.place .tank1).2 (boardGame.state 1576020).vga.drawX
          (boardGame.state 1576020).vga.drawY = true ↔
        ((boardGame.state 840000).sys.place .tank1).1.toNat ≤ 10 ∧
          10 < ((boardGame.state 840000).sys.place .tank1).1.toNat + 19 ∧
          ((boardGame.state 840000).sys.place .tank1).2.toNat ≤ 460 ∧
          460 < ((boardGame.state 840000).sys.place .tank1).2.toNat + 19) := by
  obtain ⟨n, hn⟩ : ∃ n : ℕ, n = 840000 := exists_eq
  obtain ⟨hbeam, hbody, -⟩ := whole_picture (R := boardGame) (r := 9) (x := 10) (y := 460) (e := 0)
    (by omega) (boardGame_place hn) (fun k _ _ => boardGame_quiet k) (by decide +kernel) (by omega)
    (fun k h _ => boardGame_resetTank h) .tank1 (by decide) (by decide) (by decide) rfl
  subst hn
  simp only [shownAt, Nat.reduceMul, Nat.reduceAdd] at hbeam hbody
  exact ⟨hbeam, hbody⟩

end Bench

end TankBattle
