import TankBattle.OffLetters
import TankBattle.DeadEnemy

/-!
# The tanks and the enemies among themselves

The stop signals between two bodies are bands of a few pixels around the edges of the other body.
They are wide enough for bodies that move at once, as long as every step is checked at the position
that it starts from; but a tank takes its steps one frame pulse later, and two tanks can do so at
once.

* `Blocked`: another body lies within a band in the direction of a step;
* `apart_slow`, `apart_fast`: bodies that are not blocked stay apart, a fast pair only if it does
  not meet corner to corner (`Corner`);
* `Collide`: two bodies come closer by more than there is between them;
* `TanksCrash`, `EnemyCrash`, `EnemiesCrash`: they do so by a step that is stopped where it starts,
  or corner to corner;
* `bodies_disjoint_iff`: as long as nobody crashes, and no longer, no two bodies overlap;
* `visiting`: a tank that is stopped in time;
* `ramming_overlaps`: two tanks that drive into one another.
-/

namespace TankBattle

open Sys Boxes

/-! ### Two bodies -/

/-- The body at `(U, V)` lies in the band of `w` pixels that a body at `(X, Y)` faces. -/
def Blocked (w X Y U V : ℤ) : Option Dir → Prop
  | none => False
  | some .right => X + 19 ≤ U ∧ U ≤ X + 19 + w ∧ V ≤ Y + 19 ∧ Y ≤ V + 19
  | some .up => V + 19 ≤ Y ∧ Y ≤ V + 19 + w ∧ U ≤ X + 19 ∧ X ≤ U + 19
  | some .left => U + 19 ≤ X ∧ X ≤ U + 19 + w ∧ V ≤ Y + 19 ∧ Y ≤ V + 19
  | some .down => Y + 19 ≤ V ∧ V ≤ Y + 19 + w ∧ U ≤ X + 19 ∧ X ≤ U + 19

/-- Two bodies one pixel apart in both directions approach one another in both. -/
def Corner (X Y U V dx dy : ℤ) : Prop :=
  (U - X = 20 ∧ dx < 0 ∨ X - U = 20 ∧ 0 < dx) ∧ (V - Y = 20 ∧ dy < 0 ∨ Y - V = 20 ∧ 0 < dy)

instance (X Y U V dx dy : ℤ) : Decidable (Corner X Y U V dx dy) :=
  inferInstanceAs (Decidable ((_ ∨ _) ∧ (_ ∨ _)))

section Pairs

variable {X Y U V : ℤ}

/-- A body and an enemy, each checked against the other, stay apart. -/
theorem apart_slow {s w v : ℤ} (m k : Option Dir) (hs : 0 ≤ s) (hv : 1 ≤ v) (hw : s ≤ w)
    (h : Apart (body X Y) (body U V)) (hm : ¬ Blocked w X Y U V m) (hk : ¬ Blocked v U V X Y k) :
    Apart (body (X + (stride s m).1) (Y + (stride s m).2))
      (body (U + (stride 1 k).1) (V + (stride 1 k).2)) := by
  simp only [Apart, body] at *
  rcases m with _ | (_ | _ | _ | _) <;> rcases k with _ | (_ | _ | _ | _) <;>
    simp only [stride, Blocked, add_zero] at * <;> omega

/-- Two tanks, each checked against the other, stay apart unless they meet corner to corner. -/
theorem apart_fast (m k : Option Dir) (hX : X % 2 = 0) (hY : Y % 2 = 0) (hU : U % 2 = 0)
    (hV : V % 2 = 0) (h : Apart (body X Y) (body U V)) (hm : ¬ Blocked 4 X Y U V m)
    (hk : ¬ Blocked 4 U V X Y k)
    (hc : ¬ Corner X Y U V ((stride 2 k).1 - (stride 2 m).1) ((stride 2 k).2 - (stride 2 m).2)) :
    Apart (body (X + (stride 2 m).1) (Y + (stride 2 m).2))
      (body (U + (stride 2 k).1) (V + (stride 2 k).2)) := by
  simp only [Apart, body] at *
  rcases m with _ | (_ | _ | _ | _) <;> rcases k with _ | (_ | _ | _ | _) <;>
    simp only [stride, Blocked, Corner, add_zero] at * <;> omega

end Pairs

/-! ### The bands -/

section Band

variable {a o : Coord} {w : BitVec 32}

/-- The band in front of the left or upper edge of a body. -/
theorem band_before (hw : w.toNat ≤ 19) (ha : a.toNat ≤ 462) (h1 : (a.toNat : ℤ) + 19 ≤ o.toNat)
    (h2 : (o.toNat : ℤ) ≤ a.toNat + 19 + w.toNat) :
    zext o - w ≤ zext a + 19 ∧ zext a + 19 ≤ zext o + w := by
  have ea := toNat_zext a
  have eo := toNat_zext o
  constructor <;> bv_omega

/-- The band behind its right or lower edge. -/
theorem band_behind (hw : w.toNat ≤ 19) (ho : o.toNat ≤ 462) (h1 : (o.toNat : ℤ) + 19 ≤ a.toNat)
    (h2 : (a.toNat : ℤ) ≤ o.toNat + 19 + w.toNat) :
    zext o + 19 - w ≤ zext a ∧ zext a ≤ zext o + 19 + w := by
  have ea := toNat_zext a
  have eo := toNat_zext o
  constructor <;> bv_omega

/-- The rows, or the columns, of two bodies on the screen meet. -/
theorem edges_meet (ha : a.toNat ≤ 462) (ho : o.toNat ≤ 462) (h1 : (o.toNat : ℤ) ≤ a.toNat + 19)
    (h2 : (a.toNat : ℤ) ≤ o.toNat + 19) : o ≤ a + size ∧ a ≤ o + size := by
  simp only [size]
  constructor <;> bv_omega

end Band

section Bands

variable {x y u v : Coord} {m : Option Dir} (hx : x.toNat ≤ 460) (hy : y.toNat ≤ 462)
  (hu : u.toNat ≤ 460) (hv : v.toNat ≤ 462)

include hx hy hu hv

/-- The bands between bodies are four pixels wide. -/
theorem not_blocked_near (h : (nearStops x y u v).toward m = false) :
    ¬ Blocked 4 x.toNat y.toNat u.toNat v.toNat m := by
  intro hb
  have hw : (4 : BitVec 32).toNat ≤ 19 := by decide
  rw [← Bool.not_eq_true] at h
  apply h
  rcases m with _ | (_ | _ | _ | _)
  case none => exact hb.elim
  all_goals
    obtain ⟨h1, h2, h3, h4⟩ := hb
    simp only [Stops.toward, nearStops, Bool.and_eq_true, decide_eq_true_eq]
  case some.right => exact and_assoc.2 ⟨band_before hw (by omega) h1 h2, edges_meet hy hv h3 h4⟩
  case some.up =>
    exact and_assoc.2 ⟨edges_meet (by omega) (by omega) h3 h4, band_behind hw hv h1 h2⟩
  case some.left => exact and_assoc.2 ⟨band_behind hw (by omega) h1 h2, edges_meet hy hv h3 h4⟩
  case some.down =>
    exact and_assoc.2 ⟨edges_meet (by omega) (by omega) h3 h4, band_before hw hy h1 h2⟩

/-- So are those of `enemy_wall2`. -/
theorem not_blocked_near2 (h : (nearStops2 x y u v).toward m = false) :
    ¬ Blocked 4 x.toNat y.toNat u.toNat v.toNat m := by
  match m with
  | none | some .up | some .left | some .down => exact not_blocked_near hx hy hu hv h
  | some .right =>
    rintro ⟨h1, h2, h3, h4⟩
    rw [← Bool.not_eq_true] at h
    apply h
    simp only [Stops.toward, nearStops2, Bool.and_eq_true, decide_eq_true_eq]
    have hw : (4 : BitVec 32).toNat ≤ 19 := by decide
    have hcontact : x + size ≤ u := by
      simp only [size]
      bv_omega
    exact and_assoc.2 ⟨⟨(band_before hw (by omega) h1 h2).1, hcontact⟩, edges_meet hy hv h3 h4⟩

/-- The band of the player against an enemy is one pixel wide. -/
theorem not_blocked_player (h : (playerStops x y u v).toward m = false) :
    ¬ Blocked 1 x.toNat y.toNat u.toNat v.toNat m := by
  intro hb
  have hw : (1 : BitVec 32).toNat ≤ 19 := by decide
  rw [← Bool.not_eq_true] at h
  apply h
  rcases m with _ | (_ | _ | _ | _)
  case none => exact hb.elim
  all_goals
    obtain ⟨h1, h2, h3, h4⟩ := hb
    simp only [Stops.toward, playerStops, Bool.and_eq_true, decide_eq_true_eq]
  case some.right =>
    have hcontact : x + size ≤ u := by
      simp only [size]
      bv_omega
    exact and_assoc.2 ⟨⟨(band_before hw (by omega) h1 h2).1, hcontact⟩, edges_meet hy hv h3 h4⟩
  case some.up =>
    exact and_assoc.2 ⟨edges_meet (by omega) (by omega) h3 h4, band_behind hw hv h1 h2⟩
  case some.left => exact and_assoc.2 ⟨band_behind hw (by omega) h1 h2, edges_meet hy hv h3 h4⟩
  case some.down =>
    exact and_assoc.2 ⟨edges_meet (by omega) (by omega) h3 h4, band_before hw hy h1 h2⟩

end Bands

/-! ### Crashes -/

/-- The pixels between two bodies in one coordinate, negative where they overlap. -/
def spacing (a b : ℤ) : ℤ := |b - a| - 19

/-- How much closer the steps `v` and `w` bring them in this coordinate. -/
def closing (a b v w : ℤ) : ℤ := |b - a| - |b + w - (a + v)|

/-- In both coordinates the bodies come closer by more than there is between them. -/
def Collide (X Y U V : ℤ) (v w : ℤ × ℤ) : Prop :=
  spacing X U < closing X U v.1 w.1 ∧ spacing Y V < closing Y V v.2 w.2

instance (X Y U V : ℤ) (v w : ℤ × ℤ) : Decidable (Collide X Y U V v w) :=
  inferInstanceAs (Decidable (_ ∧ _))

theorem apart_iff_not_collide {X Y U V : ℤ} {v w : ℤ × ℤ} :
    Apart (body (X + v.1) (Y + v.2)) (body (U + w.1) (V + w.2)) ↔ ¬ Collide X Y U V v w := by
  have hlt : ∀ a b v w : ℤ, spacing a b < closing a b v w ↔
      -19 < b + w - (a + v) ∧ b + w - (a + v) < 19 := by
    intro a b v w
    rw [spacing, closing, sub_lt_sub_iff_left, abs_lt]
  rw [Collide, hlt, hlt]
  simp only [Apart, body]
  omega

/-- The tanks run into one another: one of them takes a step that the other one stops where it
starts, or they meet corner to corner, and there is too little between them. -/
def TanksCrash (t₁ t₂ : Tank) : Prop :=
  (t₁.Late (nearStops t₁.xPos t₁.yPos t₂.xPos t₂.yPos) ∨
      t₂.Late (nearStops t₂.xPos t₂.yPos t₁.xPos t₁.yPos) ∨
      Corner t₁.xPos.toNat t₁.yPos.toNat t₂.xPos.toNat t₂.yPos.toNat
        (t₂.pending.1 - t₁.pending.1) (t₂.pending.2 - t₁.pending.2)) ∧
    Collide t₁.xPos.toNat t₁.yPos.toNat t₂.xPos.toNat t₂.yPos.toNat t₁.pending t₂.pending

instance (t₁ t₂ : Tank) : Decidable (TanksCrash t₁ t₂) :=
  inferInstanceAs (Decidable ((_ ∨ _ ∨ _) ∧ _))

/-- Tank 1 and an enemy run into one another. -/
def EnemyCrash (t : Tank) (e : Enemy) : Prop :=
  (t.Late (nearStops t.xPos t.yPos e.xPos e.yPos) ∨
      e.Late (playerStops e.xPos e.yPos t.xPos t.yPos)) ∧
    Collide t.xPos.toNat t.yPos.toNat e.xPos.toNat e.yPos.toNat t.pending e.pending

/-- The two enemies run into one another. -/
def EnemiesCrash (e₁ e₂ : Enemy) : Prop :=
  (e₁.Late (nearStops e₁.xPos e₁.yPos e₂.xPos e₂.yPos) ∨
      e₂.Late (nearStops2 e₂.xPos e₂.yPos e₁.xPos e₁.yPos)) ∧
    Collide e₁.xPos.toNat e₁.yPos.toNat e₂.xPos.toNat e₂.yPos.toNat e₁.pending e₂.pending

/-- No two bodies of the game crash on the way to the state `s'`. -/
structure NoCrash (s s' : Sys) : Prop where
  tanks : s'.state = .GAME2 → ¬ TanksCrash s.tank1 s.tank2
  enemy1 : s'.enable1 = true → ¬ EnemyCrash s.tank1 s.enemy1
  enemy2 : s'.enable12 = true → ¬ EnemyCrash s.tank1 s.enemy2
  enemies : s'.enable1 = true → s'.enable12 = true → ¬ EnemiesCrash s.enemy1 s.enemy2

/-- The footprint of a tank or an enemy. -/
def Mover.box (b : Mover) : Box ℤ := body b.xPos.toNat b.yPos.toNat

/-- All bodies that take part in the game are apart. -/
structure Separate (s : Sys) : Prop where
  tanks : s.state = .GAME2 → Apart s.tank1.mover.box s.tank2.mover.box
  enemy1 : s.enable1 = true → Apart s.tank1.mover.box s.enemy1.mover.box
  enemy2 : s.enable12 = true → Apart s.tank1.mover.box s.enemy2.mover.box
  enemies : s.enable1 = true → s.enable12 = true → Apart s.enemy1.mover.box s.enemy2.mover.box

theorem separate_reset {i : Pins} {s : Sys} (hr : s.resetTank = true) : Separate (s.step i) := by
  have h1 := tank1_reset (i := i) hr
  have h2 := tank2_reset (i := i) hr
  have h3 := enemy1_reset (i := i) hr
  have h4 := enemy2_reset (i := i) hr
  constructor <;> intros <;> simp only [h1, h2, h3, h4] <;>
    simp [Apart, Mover.box, body]

section Enables

variable (R : Run) {n : ℕ}

theorem not_resetH_of_inGame (hg : (R.state n).InGame)
    (hs : (R.state (n + 1)).state = (R.state n).state) :
    (R.state n).resetH (R.input n) = false := by
  rw [R.succ] at hs
  refine not_resetH_of_state ?_
  rw [hs]
  rcases hg with h | h <;> rw [h] <;> decide

/-- In a game with two enemies, one without lives stays out. -/
theorem over_succ {c : Counter} (h1 : (R.state n).state = .GAME1) (hn : (R.state n).enNum = 2)
    (h0 : (R.state n).lives c = 0) (hc : (R.state n).charged c = false)
    (hr : (R.state n).resetH (R.input n) = false) : Over c (R.state (n + 1)) := by
  have ho : Over c (R.state n) := ⟨twoEnemyGame_run h1 hn, h0⟩
  rw [R.succ]
  exact ho.step (by simp [h1]) hc hr

/-- An enemy takes part in a game only if it did so in the cycle before. -/
theorem enable_of_step (hg : (R.state n).InGame)
    (hs : (R.state (n + 1)).state = (R.state n).state) :
    ((R.state (n + 1)).enable1 = true → (R.state n).enable1 = true) ∧
      ((R.state (n + 1)).enable12 = true → (R.state n).enable12 = true) := by
  have hr := not_resetH_of_inGame R hg hs
  have hst : ∀ {t}, t = .GAME_RST1 ∨ t = .GAME1 → t = (R.state n).state → t = .GAME1 := by
    rintro t (rfl | rfl) ht
    · rcases hg with h | h <;> rw [h] at ht <;> cases ht
    · rfl
  have hnum : (R.state n).state = .GAME1 → (R.state (n + 1)).enNum = (R.state n).enNum := by
    intro h1
    have hdone := (menuOk_run R n).done (by simp [h1])
    rw [R.succ, enNum, enNum, enDraw_step_done hr hdone]
  constructor
  · intro he'
    have h1' := hst (state_of_enable1 he') hs
    have h1 : (R.state n).state = .GAME1 := hs ▸ h1'
    by_contra he
    rcases hnum h1 ▸ enNum_of_enable1 he' with hn | hn
    · simp [enable1, h1, hn] at he
    · have h0 : (R.state n).enemy1Lives = 0 := by
        rw [((twoEnemies_run R n).enable_iff h1 hn).1] at he
        bv_omega
      have hc : (R.state n).charged .enemy1 = false := by
        simp [charged, playerHitEn1, wallPlayerHit, he]
      rw [(over_succ (c := .enemy1) R h1 hn h0 hc hr).enable1 (by simp [h1'])] at he'
      cases he'
  · intro he'
    have h1' := hst (state_of_enable12 he') hs
    have h1 : (R.state n).state = .GAME1 := hs ▸ h1'
    have hn := hnum h1 ▸ enNum_of_enable12 he'
    by_contra he
    have h0 : (R.state n).enemy2Lives = 0 := by
      rw [((twoEnemies_run R n).enable_iff h1 hn).2] at he
      bv_omega
    have hc : (R.state n).charged .enemy2 = false := by
      simp [charged, playerHitEn2, wallPlayerHit, he]
    rw [(over_succ (c := .enemy2) R h1 hn h0 hc hr).enable12 (by simp [h1'])] at he'
    cases he'

end Enables

section Steps

variable {t₁ t₂ : Tank} {e e' : Enemy} {m k : Option Dir}

/-- Two tanks that do not crash stay apart. -/
theorem apart_tanks (g1 : OnGrid 2 t₁.mover) (g2 : OnGrid 2 t₂.mover)
    (h1 : ¬ t₁.Pulse ∧ m = none ∨ t₁.Pulse ∧ t₁.mover.Heads 2 m)
    (h2 : ¬ t₂.Pulse ∧ k = none ∨ t₂.Pulse ∧ t₂.mover.Heads 2 k)
    (h : Apart t₁.mover.box t₂.mover.box) (hno : ¬ TanksCrash t₁ t₂) :
    ¬ Collide t₁.xPos.toNat t₁.yPos.toNat t₂.xPos.toNat t₂.yPos.toNat t₁.pending t₂.pending := by
  intro hcol
  obtain ⟨l1, hl⟩ := not_or.1 fun hl => hno ⟨hl, hcol⟩
  obtain ⟨l2, hc⟩ := not_or.1 hl
  rw [Tank.pending_eq h1, Tank.pending_eq h2] at hcol hc
  refine apart_iff_not_collide.1 (apart_fast m k ?_ ?_ ?_ ?_ h ?_ ?_ hc) hcol
  · exact_mod_cast g1.x_mod
  · exact_mod_cast g1.y_mod
  · exact_mod_cast g2.x_mod
  · exact_mod_cast g2.y_mod
  · exact not_blocked_near g1.x_le g1.y_le g2.x_le g2.y_le (Tank.toward_eq_false h1 l1)
  · exact not_blocked_near g2.x_le g2.y_le g1.x_le g1.y_le (Tank.toward_eq_false h2 l2)

/-- So do tank 1 and an enemy. -/
theorem apart_enemy (g1 : OnGrid 2 t₁.mover) (ge : OnGrid 1 e.mover)
    (h1 : ¬ t₁.Pulse ∧ m = none ∨ t₁.Pulse ∧ t₁.mover.Heads 2 m) (he : e.mover.Heads 1 k)
    (h : Apart t₁.mover.box e.mover.box) (hno : ¬ EnemyCrash t₁ e) :
    ¬ Collide t₁.xPos.toNat t₁.yPos.toNat e.xPos.toNat e.yPos.toNat t₁.pending e.pending := by
  intro hcol
  obtain ⟨l1, le⟩ := not_or.1 fun hl => hno ⟨hl, hcol⟩
  rw [Tank.pending_eq h1, Enemy.pending_eq he] at hcol
  refine apart_iff_not_collide.1 (apart_slow (s := 2) (w := 4) (v := 1) m k (by norm_num) le_rfl
    (by norm_num) h ?_ ?_) hcol
  · exact not_blocked_near g1.x_le g1.y_le ge.x_le ge.y_le (Tank.toward_eq_false h1 l1)
  · exact not_blocked_player ge.x_le ge.y_le g1.x_le g1.y_le (Enemy.toward_eq_false he le)

/-- So do the two enemies. -/
theorem apart_enemies (ge : OnGrid 1 e.mover) (ge' : OnGrid 1 e'.mover) (he : e.mover.Heads 1 m)
    (he' : e'.mover.Heads 1 k) (h : Apart e.mover.box e'.mover.box) (hno : ¬ EnemiesCrash e e') :
    ¬ Collide e.xPos.toNat e.yPos.toNat e'.xPos.toNat e'.yPos.toNat e.pending e'.pending := by
  intro hcol
  obtain ⟨l, l'⟩ := not_or.1 fun hl => hno ⟨hl, hcol⟩
  rw [Enemy.pending_eq he, Enemy.pending_eq he'] at hcol
  refine apart_iff_not_collide.1 (apart_slow (s := 1) (w := 4) (v := 4) m k (by norm_num)
    (by norm_num) (by norm_num) h ?_ ?_) hcol
  · exact not_blocked_near ge.x_le ge.y_le ge'.x_le ge'.y_le (Enemy.toward_eq_false he l)
  · exact not_blocked_near2 ge'.x_le ge'.y_le ge.x_le ge.y_le (Enemy.toward_eq_false he' l')

end Steps

/-- The second body is where the step `v` leads. -/
def Mover.Moved (b b' : Mover) (v : ℤ × ℤ) : Prop :=
  b'.box = body (b.xPos.toNat + v.1) (b.yPos.toNat + v.2)

theorem Mover.Shifted.moved {b b' : Mover} {k : ℤ} {m : Option Dir} (h : b.Shifted b' k m) :
    b.Moved b' (stride k m) := by
  rw [Moved, Mover.box, h.1, h.2]

/-- The steps of the four bodies at one edge of a game. -/
structure Moves (s s' : Sys) (m₁ m₂ k₁ k₂ : Option Dir) : Prop where
  tank1 : s.tank1.mover.Moved s'.tank1.mover s.tank1.pending
  tank2 : s.tank2.mover.Moved s'.tank2.mover s.tank2.pending
  enemy1 : s.enemy1.mover.Moved s'.enemy1.mover s.enemy1.pending
  enemy2 : s.enemy2.mover.Moved s'.enemy2.mover s.enemy2.pending
  heads1 : ¬ s.tank1.Pulse ∧ m₁ = none ∨ s.tank1.Pulse ∧ s.tank1.mover.Heads 2 m₁
  heads2 : ¬ s.tank2.Pulse ∧ m₂ = none ∨ s.tank2.Pulse ∧ s.tank2.mover.Heads 2 m₂
  heading1 : s.enemy1.mover.Heads 1 k₁
  heading2 : s.enemy2.mover.Heads 1 k₂

theorem exists_moves (R : Run) {n : ℕ} (hg : (R.state n).InGame) :
    ∃ m₁ m₂ k₁ k₂, Moves (R.state n) (R.state (n + 1)) m₁ m₂ k₁ k₂ := by
  obtain ⟨g1, g2⟩ := onGrid_run R n hg
  obtain ⟨ge1, ge2⟩ := enemies_onGrid_run R n hg
  obtain ⟨p1, p2⟩ := parked_run R n hg
  obtain ⟨m₁, s1, f1⟩ := Tank.shifted_step p1 true (R.input n).vgaVS (R.input n).keycode
    (R.state n).tank1Stops g1
  obtain ⟨m₂, s2, f2⟩ := Tank.shifted_step p2 (R.state n).twoPlayersMode (R.input n).vgaVS
    (R.input n).keycode (R.state n).tank2Stops g2
  obtain ⟨k₁, t1, e1⟩ := Enemy.shifted_step enemy1Config (R.state n).enemy1Pins
    (R.input n).vgaVS ge1
  obtain ⟨k₂, t2, e2⟩ := Enemy.shifted_step enemy2Config (R.state n).enemy2Pins
    (R.input n).vgaVS ge2
  refine ⟨m₁, m₂, k₁, k₂, ?_, ?_, ?_, ?_, f1, f2, e1, e2⟩ <;> rw [R.succ]
  · rw [step_tank1, resetTank_eq_false hg, Tank.pending_eq f1]
    exact s1.moved
  · rw [step_tank2, tank2_eq, resetTank_eq_false hg, Tank.pending_eq f2]
    exact s2.moved
  · rw [step_enemy1, resetTank_eq_false hg, Enemy.pending_eq e1]
    exact t1.moved
  · rw [step_enemy2, resetTank_eq_false hg, Enemy.pending_eq e2]
    exact t2.moved

/-- One edge of a game without a crash keeps the bodies apart. -/
theorem separate_step (R : Run) {n : ℕ} (hg : (R.state n).InGame)
    (hs : (R.state (n + 1)).state = (R.state n).state)
    (hno : NoCrash (R.state n) (R.state (n + 1))) (h : Separate (R.state n)) :
    Separate (R.state (n + 1)) := by
  obtain ⟨g1, g2⟩ := onGrid_run R n hg
  obtain ⟨ge1, ge2⟩ := enemies_onGrid_run R n hg
  obtain ⟨m₁, m₂, k₁, k₂, hm⟩ := exists_moves R hg
  obtain ⟨hen1, hen12⟩ := enable_of_step R hg hs
  constructor
  · intro h2
    rw [hm.tank1, hm.tank2]
    exact apart_iff_not_collide.2
      (apart_tanks g1 g2 hm.heads1 hm.heads2 (h.tanks (hs ▸ h2)) (hno.tanks h2))
  · intro h1
    rw [hm.tank1, hm.enemy1]
    exact apart_iff_not_collide.2
      (apart_enemy g1 ge1 hm.heads1 hm.heading1 (h.enemy1 (hen1 h1)) (hno.enemy1 h1))
  · intro h2
    rw [hm.tank1, hm.enemy2]
    exact apart_iff_not_collide.2
      (apart_enemy g1 ge2 hm.heads1 hm.heading2 (h.enemy2 (hen12 h2)) (hno.enemy2 h2))
  · intro h1 h2
    rw [hm.enemy1, hm.enemy2]
    exact apart_iff_not_collide.2 (apart_enemies ge1 ge2 hm.heading1 hm.heading2
      (h.enemies (hen1 h1) (hen12 h2)) (hno.enemies h1 h2))

/-- Bodies that are apart have not crashed. -/
theorem noCrash_of_separate (R : Run) {n : ℕ} (hg : (R.state n).InGame)
    (h : Separate (R.state (n + 1))) : NoCrash (R.state n) (R.state (n + 1)) := by
  obtain ⟨m₁, m₂, k₁, k₂, hm⟩ := exists_moves R hg
  constructor
  · intro h2 hc
    have := h.tanks h2
    rw [hm.tank1, hm.tank2] at this
    exact apart_iff_not_collide.1 this hc.2
  · intro h1 hc
    have := h.enemy1 h1
    rw [hm.tank1, hm.enemy1] at this
    exact apart_iff_not_collide.1 this hc.2
  · intro h2 hc
    have := h.enemy2 h2
    rw [hm.tank1, hm.enemy2] at this
    exact apart_iff_not_collide.1 this hc.2
  · intro h1 h2 hc
    have := h.enemies h1 h2
    rw [hm.enemy1, hm.enemy2] at this
    exact apart_iff_not_collide.1 this hc.2

/-- No two bodies that take part in the game overlap. -/
structure NoOverlap (s : Sys) : Prop where
  tanks : s.state = .GAME2 → Disjoint s.tank1.mover.box.points s.tank2.mover.box.points
  enemy1 : s.state = .GAME1 → s.enable1 = true →
    Disjoint s.tank1.mover.box.points s.enemy1.mover.box.points
  enemy2 : s.state = .GAME1 → s.enable12 = true →
    Disjoint s.tank1.mover.box.points s.enemy2.mover.box.points
  enemies : s.state = .GAME1 → s.enable1 = true → s.enable12 = true →
    Disjoint s.enemy1.mover.box.points s.enemy2.mover.box.points

/-- In a game without enemies no enemy is enabled. -/
theorem GAME1_of_enable {s : Sys} (hg : s.InGame)
    (h : s.enable1 = true ∨ s.enable12 = true) : s.state = .GAME1 := by
  refine hg.resolve_right fun h2 => ?_
  rcases h with h | h
  · simp [enable1, h2] at h
  · simp [enable12, h2] at h

theorem noOverlap_iff {s : Sys} (hg : s.InGame) : NoOverlap s ↔ Separate s := by
  constructor
  · intro h
    constructor
    · exact fun h2 => Box.disjoint_iff.1 (h.tanks h2)
    · exact fun h1 => Box.disjoint_iff.1 (h.enemy1 (GAME1_of_enable hg (Or.inl h1)) h1)
    · exact fun h2 => Box.disjoint_iff.1 (h.enemy2 (GAME1_of_enable hg (Or.inr h2)) h2)
    · exact fun h1 h2 => Box.disjoint_iff.1 (h.enemies (GAME1_of_enable hg (Or.inl h1)) h1 h2)
  · intro h
    constructor
    · exact fun h2 => Box.disjoint_iff.2 (h.tanks h2)
    · exact fun _ h1 => Box.disjoint_iff.2 (h.enemy1 h1)
    · exact fun _ h2 => Box.disjoint_iff.2 (h.enemy2 h2)
    · exact fun _ h1 h2 => Box.disjoint_iff.2 (h.enemies h1 h2)

/-- **No two bodies ever overlap** if and only if no two bodies of a game crash. -/
theorem bodies_disjoint_iff (R : Run) :
    (∀ n, NoOverlap (R.state n)) ↔
      ∀ n, (R.state n).InGame → (R.state (n + 1)).state = (R.state n).state →
        NoCrash (R.state n) (R.state (n + 1)) := by
  constructor
  · intro h n hg hs
    have hg' : (R.state (n + 1)).InGame := by rwa [InGame, hs]
    exact noCrash_of_separate R hg ((noOverlap_iff hg').1 (h (n + 1)))
  · intro h n
    have hsep : (R.state n).InGame → Separate (R.state n) :=
      game_induction R (fun _ _ hr _ => separate_reset hr)
        (fun n hg hs ih => R.succ n ▸ separate_step R hg hs (h n hg hs) ih) n
    by_cases hg : (R.state n).InGame
    · exact (noOverlap_iff hg).2 (hsep hg)
    · exact ⟨fun h2 => absurd (Or.inr h2) hg, fun h1 => absurd (Or.inl h1) hg,
        fun h1 => absurd (Or.inl h1) hg, fun h1 => absurd (Or.inl h1) hg⟩

/-- Both tanks drive towards one another along the left edge; tank 2 stops on the way and tank 1
keeps on. -/
def visiting : Run := runOf fun n =>
  press (if n < 8 then twoPlayerKeys n else if n < 204 then 0x0c1A else 0x1A)
    (decide (8 ≤ n) && n % 2 == 0)

/-- The registers one pixel below tank 2, at a frame pulse and between two of them. -/
def visited (pulse : Bool) : Duel :=
  ⟨⟨.OTHER, ⟨pulse, pulse⟩, 2, 248, 0, 0, .up⟩, ⟨.OTHER, ⟨pulse, pulse⟩, 2, 228, 0, 0, .down⟩,
    ⟨.NOBULLET, ⟨pulse, pulse⟩, 11, 248, 0, ~~~6 + 1, 0, 0, .up⟩,
    ⟨.NOBULLET, ⟨pulse, pulse⟩, 11, 247, 0, 6, 0, 0, .down⟩, 5, 5⟩

theorem visiting_visited {n : ℕ} (hn : 228 ≤ n) :
    InDuel (visited false) (visiting.state n) ∨ InDuel (visited true) (visiting.state n) := by
  have hin : ∀ k, visiting.input (228 + k) = press 0x1A (k % 2 == 0) := by
    intro k
    show press (if 228 + k < 8 then _ else if 228 + k < 204 then _ else _) _ = _
    rw [if_neg (by omega), if_neg (by omega), decide_eq_true (show 8 ≤ 228 + k by omega),
      Bool.true_and, show 228 + k = k + 2 * 114 by omega, Nat.add_mul_mod_self_left]
  refine InDuel.swing (m := 228) (i := press 0x1A true) (j := press 0x1A false)
    (by decide +kernel) (fun k => ?_) (fun k => ?_) (by decide) (by decide) hn
  · rw [hin, Nat.mul_mod_right]
    rfl
  · rw [Nat.add_assoc, hin, Nat.mul_add_mod]
    rfl

theorem visiting_not_crash (n : ℕ) :
    ¬ TanksCrash (visiting.state n).tank1 (visiting.state n).tank2 := by
  rcases Nat.lt_or_ge n 228 with hn | hn
  · have : ∀ k < 228, ¬ TanksCrash (visiting.state k).tank1 (visiting.state k).tank2 := by
      decide +kernel
    exact this n hn
  · obtain ⟨b, hb⟩ : ∃ b, InDuel (visited b) (visiting.state n) :=
      (visiting_visited hn).elim (⟨_, ·⟩) (⟨_, ·⟩)
    have h1 : (visiting.state n).tank1 = (visited b).tank1 := congrArg Duel.tank1 hb.duel
    have h2 : (visiting.state n).tank2 = (visited b).tank2 := congrArg Duel.tank2 hb.duel
    rw [h1, h2]
    cases b <;> decide

theorem visiting_not_GAME1 (n : ℕ) : (visiting.state n).state ≠ .GAME1 := by
  rcases Nat.lt_or_ge n 228 with hn | hn
  · have : ∀ k < 228, (visiting.state k).state ≠ .GAME1 := by decide +kernel
    exact this n hn
  · rcases visiting_visited hn with h | h <;> rw [h.state] <;> decide

/-- In cycle 221 the stop signal is high and tank 1 takes its last step up, for which there is just
room: it stops one pixel below tank 2 and stays there. -/
theorem bodies_disjoint_iff_visiting :
    ((visiting.state 221).tank1.Pulse ∧ (visiting.state 221).tank1Stops.up = true ∧
        (visiting.state 221).tank1.yMotion = ~~~2 + 1 ∧ (visiting.state 222).tank1.yPos = 248 ∧
        (visiting.state 222).tank2.yPos = 228) ∧
      ∀ n, NoOverlap (visiting.state n) := by
  refine ⟨by decide +kernel, (bodies_disjoint_iff visiting).2 fun n hg hs => ?_⟩
  have h2 : (visiting.state (n + 1)).state = .GAME2 :=
    hs.trans (hg.resolve_left (visiting_not_GAME1 n))
  have h1 : (visiting.state (n + 1)).enable1 = false := by simp [enable1, h2]
  have h12 : (visiting.state (n + 1)).enable12 = false := by simp [enable12, h2]
  constructor
  · exact fun _ => visiting_not_crash n
  · exact fun h => absurd h (by simp [h1])
  · exact fun h => absurd h (by simp [h12])
  · exact fun h => absurd h (by simp [h1])

/-- Two tanks that drive into one another overlap after 104 frame pulses: the last steps were
decided on when there was still room. -/
theorem ramming_overlaps : ¬ ∀ (R : Run) (n : ℕ), NoOverlap (R.state n) := by
  intro h
  have hs : (ramming.state 217).state = .GAME2 := by decide +kernel
  have h1 : (ramming.state 217).tank1.mover = ⟨2, 254, 0, 0⟩ ∧
      (ramming.state 217).tank2.mover = ⟨2, 238, 0, 0⟩ := by decide +kernel
  have hd := Box.disjoint_iff.1 ((h ramming 217).tanks hs)
  rw [h1.1, h1.2] at hd
  exact absurd hd (by simp [Apart, Mover.box, body])

end TankBattle
