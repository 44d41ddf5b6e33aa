import TankBattle.Patrol

/-!
# How an enemy chases the player

The decision of an enemy compares the squared distances after a step of two pixels in each
direction, computed in 32 bits; a direction that is stopped or at the border counts `2^20 - 1`.

* `gap`, `distances_exact`: the distances as integers, and the sentinel above them;
* `idxIn_first`: without a player near by, `idx_in` is the first nearest candidate;
* `greedy_iff`: the enemy chases greedily unless the nearest candidate is right or down at the
  border, which the motion block refuses and the decision does not.
-/

namespace TankBattle

/-- The place is in the players' part of the field. -/
def InRange (x y : ℤ) : Prop := 0 ≤ x ∧ x ≤ 460 ∧ 20 ≤ y ∧ y ≤ 462

/-- The value of `idx` for a direction. -/
def idxOf : Dir → BitVec 3
  | .right => 1
  | .up => 2
  | .left => 3
  | .down => 4

theorem idxOf_injective : Function.Injective idxOf := by
  intro d e h
  cases d <;> cases e <;> first | rfl | exact absurd h (by decide)

/-- The chain of comparisons by which the decision finds the least of four values. -/
def leastOf (v : Dir → ℤ) (otherwise : BitVec 3) : BitVec 3 :=
  if decide (v .right ≤ v .up) && decide (v .right ≤ v .left) && decide (v .right ≤ v .down) then 1
  else if decide (v .up ≤ v .right) && decide (v .up ≤ v .down) && decide (v .up ≤ v .left) then 2
  else if decide (v .left ≤ v .right) && decide (v .left ≤ v .down) && decide (v .left ≤ v .up) then
    3
  else if decide (v .down ≤ v .right) && decide (v .down ≤ v .up) && decide (v .down ≤ v .left) then
    4
  else otherwise

/-- It finds the first one. -/
theorem leastOf_first (v : Dir → ℤ) (otherwise : BitVec 3) :
    ∃ d, leastOf v otherwise = idxOf d ∧ (∀ d', v d ≤ v d') ∧
      ∀ d', idxOf d' < idxOf d → v d < v d' := by
  have hall : ∀ {P : Dir → Prop}, P .right → P .up → P .left → P .down → ∀ d, P d :=
    fun h1 h2 h3 h4 d => by cases d <;> assumption
  unfold leastOf
  simp only [Bool.and_eq_true, decide_eq_true_eq]
  split_ifs with h1 h2 h3 h4
  · refine ⟨.right, rfl, hall le_rfl h1.1.1 h1.1.2 h1.2, hall ?_ ?_ ?_ ?_⟩ <;>
      exact fun h => absurd h (by decide)
  · refine ⟨.up, rfl, hall h2.1.1 le_rfl h2.2 h2.1.2, hall (fun _ => ?_) ?_ ?_ ?_⟩
    · omega
    all_goals exact fun h => absurd h (by decide)
  · refine ⟨.left, rfl, hall h3.1.1 h3.2 le_rfl h3.1.2, hall (fun _ => ?_) (fun _ => ?_) ?_ ?_⟩
    · omega
    · omega
    all_goals exact fun h => absurd h (by decide)
  · refine ⟨.down, rfl, hall h4.1.1 h4.1.2 h4.2 le_rfl,
      hall (fun _ => ?_) (fun _ => ?_) (fun _ => ?_) ?_⟩
    · omega
    · omega
    · omega
    · exact fun h => absurd h (by decide)
  · omega

/-! ### Distances -/

/-- Squares of differences do not overflow the `int` targets. -/
theorem toInt_sq_add {a b : BitVec 32} (ha : |a.toInt| ≤ 1100) (hb : |b.toInt| ≤ 1100) :
    (Enemy.sq a + Enemy.sq b).toInt = a.toInt ^ 2 + b.toInt ^ 2 := by
  have ha2 : a.toInt ^ 2 ≤ 1100 ^ 2 := sq_le_sq' (abs_le.1 ha).1 (abs_le.1 ha).2
  have hb2 : b.toInt ^ 2 ≤ 1100 ^ 2 := sq_le_sq' (abs_le.1 hb).1 (abs_le.1 hb).2
  have ha0 : 0 ≤ a.toInt ^ 2 := sq_nonneg _
  have hb0 : 0 ≤ b.toInt ^ 2 := sq_nonneg _
  have hsq : ∀ c : BitVec 32, Enemy.sq c = BitVec.ofInt 32 (c.toInt ^ 2) := fun c => by
    rw [Enemy.sq, pow_two, BitVec.ofInt_mul, BitVec.ofInt_toInt]
  rw [hsq, hsq, ← BitVec.ofInt_add]
  exact BitVec.toInt_ofInt_eq_self (by decide) (by norm_num; linarith) (by norm_num; linarith)

section Diff

variable (a b : Coord)

theorem toInt_sub : (zext a - zext b).toInt = (a.toNat : ℤ) + 0 - b.toNat := by
  rw [toInt_zext_sub, add_zero]

theorem toInt_add_two_sub : (zext a + 2 - zext b).toInt = (a.toNat : ℤ) + 2 - b.toNat := by
  have := a.isLt
  have := b.isLt
  rw [BitVec.toInt_eq_toNat_cond, BitVec.toNat_sub, BitVec.toNat_add, toNat_zext, toNat_zext,
    show (2 : BitVec 32).toNat = 2 from rfl]
  split <;> omega

theorem toInt_sub_two_sub : (zext a - 2 - zext b).toInt = (a.toNat : ℤ) + -2 - b.toNat := by
  have := a.isLt
  have := b.isLt
  rw [BitVec.toInt_eq_toNat_cond, BitVec.toNat_sub, BitVec.toNat_sub, toNat_zext, toNat_zext,
    show (2 : BitVec 32).toNat = 2 from rfl]
  split <;> omega

end Diff

namespace Enemy

variable (stop : Stops) (p : EnemyPins) (e : Enemy)

/-- `res_right`, ..., `res_down`. -/
def res : Dir → BitVec 32
  | .right => e.resRight stop p
  | .up => e.resUp stop p
  | .left => e.resLeft stop p
  | .down => e.resDown stop p

/-- The direction is neither stopped nor at the border, as the decision sees it. -/
def Candidate : Dir → Prop
  | .right => stop.right = false ∧ e.xPos < 476
  | .up => stop.up = false ∧ 22 < e.yPos
  | .left => stop.left = false ∧ 2 < e.xPos
  | .down => stop.down = false ∧ e.yPos < 478

instance (d : Dir) : Decidable (e.Candidate stop d) := by
  cases d <;> exact inferInstanceAs (Decidable (_ ∧ _))

/-- `Exp_ext`, `Eyp_ext`, `px_ext`, `py_ext`: ten zeros above the coordinate. -/
def ext (x : Coord) : BitVec 20 := (0 : BitVec 10) ++ x

/-- A 20-bit operand in the 32-bit context of the `int` targets. -/
def widen (x : BitVec 20) : BitVec 32 := x.setWidth 32

/-- `res_right`, ..., `res_down` before the override. -/
def distance : Dir → BitVec 32
  | .right => sq (widen (ext e.xPos) + widen 2 - widen (ext p.playerX)) +
      sq (widen (ext e.yPos) - widen (ext p.playerY))
  | .up => sq (widen (ext e.xPos) - widen (ext p.playerX)) +
      sq (widen (ext e.yPos) - widen 2 - widen (ext p.playerY))
  | .left => sq (widen (ext e.xPos) - widen 2 - widen (ext p.playerX)) +
      sq (widen (ext e.yPos) - widen (ext p.playerY))
  | .down => sq (widen (ext e.xPos) - widen (ext p.playerX)) +
      sq (widen (ext e.yPos) + widen 2 - widen (ext p.playerY))

theorem widen_ext (x : Coord) : widen (ext x) = zext x := by
  apply BitVec.eq_of_toNat_eq
  have := x.isLt
  rw [toNat_zext, widen, ext, BitVec.toNat_setWidth, BitVec.toNat_append]
  simp only [BitVec.reduceToNat, Nat.zero_shiftLeft, Nat.zero_or]
  omega

/-- The override puts the sentinel in the place of the distance. -/
theorem res_eq (d : Dir) :
    e.res stop p d = if e.Candidate stop d then e.distance p d else blocked := by
  have hor : ∀ {b : Bool} {P : Prop}, (b = true ∨ P) ↔ ¬ (b = false ∧ ¬ P) := by
    intro b P
    cases b <;> simp
  have hle : ∀ {b : Bool} {x y : Coord} {u v : BitVec 32},
      (if b = true ∨ x ≤ y then u else v) = if b = false ∧ y < x then v else u := by
    intro b x y u v
    rw [if_congr (hor.trans (by rw [BitVec.not_le])) rfl rfl, ite_not]
  cases d <;> simp only [distance, widen_ext] <;> exact hle

/-- The squared distance to the player after a step of two pixels. -/
def gap (d : Dir) : ℤ :=
  (e.xPos.toNat + (stride 2 (some d)).1 - p.playerX.toNat) ^ 2 +
    (e.yPos.toNat + (stride 2 (some d)).2 - p.playerY.toNat) ^ 2

/-- Before the override the distances are exact. -/
theorem distance_toInt (d : Dir) : (e.distance p d).toInt = e.gap p d := by
  have hx := e.xPos.isLt
  have hy := e.yPos.isLt
  have hpx := p.playerX.isLt
  have hpy := p.playerY.isLt
  obtain ⟨s1, s2, s3, s4⟩ := abs_stride_le (k := 2) (by decide) (some d)
  have hdx : |(e.xPos.toNat : ℤ) + (stride 2 (some d)).1 - p.playerX.toNat| ≤ 1100 :=
    abs_le.2 ⟨by omega, by omega⟩
  have hdy : |(e.yPos.toNat : ℤ) + (stride 2 (some d)).2 - p.playerY.toNat| ≤ 1100 :=
    abs_le.2 ⟨by omega, by omega⟩
  have key : ∀ {a b : BitVec 32} {x y : ℤ}, a.toInt = x → b.toInt = y → |x| ≤ 1100 →
      |y| ≤ 1100 → (sq a + sq b).toInt = x ^ 2 + y ^ 2 := by
    intro a b x y ha hb hx hy
    rw [toInt_sq_add (by rwa [ha]) (by rwa [hb]), ha, hb]
  cases d <;> simp only [distance, widen_ext]
  · exact key (toInt_add_two_sub _ _) (toInt_sub _ _) hdx hdy
  · exact key (toInt_sub _ _) (toInt_sub_two_sub _ _) hdx hdy
  · exact key (toInt_sub_two_sub _ _) (toInt_sub _ _) hdx hdy
  · exact key (toInt_sub _ _) (toInt_add_two_sub _ _) hdx hdy

/-- The distances as they are compared. -/
theorem res_toInt (d : Dir) :
    (e.res stop p d).toInt = if e.Candidate stop d then e.gap p d else 2 ^ 20 - 1 := by
  rw [res_eq]
  split
  · exact e.distance_toInt p d
  · decide

/-- Some distance is below 900. -/
def Close : Prop := ∃ d, e.res stop p d < 900

theorem close_iff : e.Close stop p ↔ e.resRight stop p < 900 ∨ e.resUp stop p < 900 ∨
    e.resLeft stop p < 900 ∨ e.resDown stop p < 900 := by
  constructor
  · rintro ⟨d, h⟩
    cases d
    · exact Or.inl h
    · exact Or.inr (Or.inl h)
    · exact Or.inr (Or.inr (Or.inl h))
    · exact Or.inr (Or.inr (Or.inr h))
  · rintro (h | h | h | h)
    · exact ⟨.right, h⟩
    · exact ⟨.up, h⟩
    · exact ⟨.left, h⟩
    · exact ⟨.down, h⟩

instance : Decidable (e.Close stop p) := decidable_of_iff' _ (e.close_iff stop p)

/-- Close to the player the decision is to stop or to go on. -/
theorem idxIn_of_close (h : e.Close stop p) :
    e.idxIn stop p =
      if aligned p.playerX e.xPos || aligned p.playerY e.yPos then 0 else e.idx :=
  if_pos ((e.close_iff stop p).1 h)

/-- Otherwise it is the first direction of least distance. -/
theorem idxIn_first (h : ¬ e.Close stop p) :
    ∃ d, e.idxIn stop p = idxOf d ∧
      (∀ d', (e.res stop p d).toInt ≤ (e.res stop p d').toInt) ∧
      ∀ d', idxOf d' < idxOf d → (e.res stop p d).toInt < (e.res stop p d').toInt := by
  have hidx : e.idxIn stop p = leastOf (fun d => (e.res stop p d).toInt) e.idx :=
    if_neg (mt (e.close_iff stop p).2 h)
  rw [hidx]
  exact leastOf_first _ _

variable {stop p e}

/-- With coordinates up to 480 every distance is below the sentinel. -/
theorem gap_lt_of_le (hx : e.xPos.toNat ≤ 480) (hy : e.yPos.toNat ≤ 480)
    (hpx : p.playerX.toNat ≤ 480) (hpy : p.playerY.toNat ≤ 480) (d : Dir) :
    e.gap p d < 2 ^ 20 - 1 := by
  obtain ⟨s1, s2, s3, s4⟩ := abs_stride_le (k := 2) (by decide) (some d)
  have hdx : ((e.xPos.toNat : ℤ) + (stride 2 (some d)).1 - p.playerX.toNat) ^ 2 ≤ 500 ^ 2 :=
    sq_le_sq' (by omega) (by omega)
  have hdy : ((e.yPos.toNat : ℤ) + (stride 2 (some d)).2 - p.playerY.toNat) ^ 2 ≤ 500 ^ 2 :=
    sq_le_sq' (by omega) (by omega)
  unfold gap
  omega

/-- **The distances are exact** for all positions: the true squared distance after a step of two
pixels, below the sentinel as long as the coordinates are at most 480, and replaced by the sentinel
for a direction that is no candidate. -/
theorem distances_exact (p : EnemyPins) (e : Enemy) (d : Dir) :
    (e.distance p d).toInt = e.gap p d ∧
      (e.xPos ≤ 480 ∧ e.yPos ≤ 480 ∧ p.playerX ≤ 480 ∧ p.playerY ≤ 480 →
        (e.distance p d).toInt < blocked.toInt) ∧
      ∀ stop, e.res stop p d = if e.Candidate stop d then e.distance p d else blocked := by
  refine ⟨e.distance_toInt p d, ?_, fun stop => e.res_eq stop p d⟩
  rintro ⟨hx, hy, hpx, hpy⟩
  rw [distance_toInt, show blocked.toInt = 2 ^ 20 - 1 by decide]
  exact gap_lt_of_le hx hy hpx hpy d

/-- In the field every distance is below the value of a direction that is no candidate. -/
theorem gap_lt (he : InPatrol e.xPos.toNat e.yPos.toNat)
    (hp : InRange p.playerX.toNat p.playerY.toNat) (d : Dir) : e.gap p d < 2 ^ 20 - 1 := by
  obtain ⟨e1, e2, e3, e4⟩ := he
  obtain ⟨p1, p2, p3, p4⟩ := hp
  exact gap_lt_of_le (by omega) (by omega) (by omega) (by omega) d

/-- Away from the player the decision is the first nearest candidate. -/
theorem idxIn_candidate (he : InPatrol e.xPos.toNat e.yPos.toNat)
    (hp : InRange p.playerX.toNat p.playerY.toNat) (hc : ¬ e.Close stop p)
    (hex : ∃ d, e.Candidate stop d) :
    ∃ d, e.idxIn stop p = idxOf d ∧ e.Candidate stop d ∧
      (∀ d', e.Candidate stop d' → e.gap p d ≤ e.gap p d') ∧
      ∀ d', idxOf d' < idxOf d → e.Candidate stop d' → e.gap p d < e.gap p d' := by
  obtain ⟨d, hidx, hle, hlt⟩ := e.idxIn_first stop p hc
  have hres : ∀ d', e.Candidate stop d' → (e.res stop p d').toInt = e.gap p d' := fun d' h => by
    rw [res_toInt, if_pos h]
  have hd : e.Candidate stop d := by
    by_contra hn
    obtain ⟨d', h'⟩ := hex
    have h1 := hle d'
    rw [hres d' h', res_toInt, if_neg hn] at h1
    have h2 := gap_lt he hp d'
    omega
  refine ⟨d, hidx, hd, fun d' h' => ?_, fun d' hlt' h' => ?_⟩
  · rw [← hres d hd, ← hres d' h']
    exact hle d'
  · rw [← hres d hd, ← hres d' h']
    exact hlt d' hlt'

/-! ### The border -/

/-- The motion block moves the enemy if `idx` selects the direction. -/
def Moves (p : EnemyPins) (e : Enemy) (d : Dir) : Prop :=
  ((({ e with idx := idxOf d } : Enemy).motionIn p).1,
    (({ e with idx := idxOf d } : Enemy).motionIn p).2.1) ≠ (0, 0)

/-- The direction is not stopped and leads somewhere. -/
def Open (stop : Stops) (p : EnemyPins) (e : Enemy) (d : Dir) : Prop :=
  stop.toward (some d) = false ∧ e.Moves p d

/-- The border that the motion block heeds and the decision does not. -/
def AtBorder (e : Enemy) : Dir → Prop
  | .right => 457 ≤ e.xPos.toNat
  | .down => 459 ≤ e.yPos.toNat
  | _ => False

theorem moves_iff (he : InPatrol e.xPos.toNat e.yPos.toNat) (d : Dir) :
    e.Moves p d ↔ (match d with
      | .right => e.xPos.toNat < 457
      | .up => 22 < e.yPos
      | .left => 2 < e.xPos
      | .down => e.yPos.toNat < 459) := by
  obtain ⟨h1, h2, h3, h4⟩ := he
  have hx : e.xPos + size < 476 ↔ e.xPos.toNat + 19 < 476 := add_size_lt_iff (by omega)
  have hy : e.yPos + size < 478 ↔ e.yPos.toNat + 19 < 478 := add_size_lt_iff (by omega)
  cases d with
  | right =>
    have : e.xPos + size < 476 ↔ e.xPos.toNat < 457 := hx.trans (by omega)
    simpa [Moves, motionIn, idxOf] using this
  | up => simp [Moves, motionIn, idxOf]
  | left => simp [Moves, motionIn, idxOf]
  | down =>
    have : e.yPos + size < 478 ↔ e.yPos.toNat < 459 := hy.trans (by omega)
    simpa [Moves, motionIn, idxOf] using this

/-- The open directions are the candidates that are not at the border. -/
theorem open_iff (he : InPatrol e.xPos.toNat e.yPos.toNat) (d : Dir) :
    e.Open stop p d ↔ e.Candidate stop d ∧ ¬ e.AtBorder d := by
  have hx : e.xPos < 476 := BitVec.lt_def.2 (lt_of_le_of_lt (by exact_mod_cast he.2.1) (by decide))
  have hy : e.yPos < 478 :=
    BitVec.lt_def.2 (lt_of_le_of_lt (by exact_mod_cast he.2.2.2) (by decide))
  rw [Open, moves_iff he]
  cases d with
  | right => simp only [Candidate, AtBorder, Stops.toward, hx, and_true, not_le]
  | up => simp only [Candidate, AtBorder, Stops.toward, not_false_iff, and_true]
  | left => simp only [Candidate, AtBorder, Stops.toward, not_false_iff, and_true]
  | down => simp only [Candidate, AtBorder, Stops.toward, hy, and_true, not_le]

/-- The decision selects an open direction, and none that leads nearer to the player is open. -/
def Greedy (stop : Stops) (p : EnemyPins) (e : Enemy) : Prop :=
  ∃ d, e.idxIn stop p = idxOf d ∧ e.Open stop p d ∧
    ∀ d', e.Open stop p d' → e.gap p d ≤ e.gap p d'

/-- At the right or lower border, the way across it is the nearest one. -/
def Lured (stop : Stops) (p : EnemyPins) (e : Enemy) : Prop :=
  (457 ≤ e.xPos.toNat ∧ stop.right = false ∧
      ∀ d, e.Candidate stop d → e.gap p .right ≤ e.gap p d) ∨
    459 ≤ e.yPos.toNat ∧ stop.down = false ∧
      ∀ d, d ≠ .down → e.Candidate stop d → e.gap p .down < e.gap p d

/-- Being lured is to decide on a direction that is not open. -/
theorem lured_iff (he : InPatrol e.xPos.toNat e.yPos.toNat) {d : Dir}
    (hd : e.Candidate stop d) (hle : ∀ d', e.Candidate stop d' → e.gap p d ≤ e.gap p d')
    (hlt : ∀ d', idxOf d' < idxOf d → e.Candidate stop d' → e.gap p d < e.gap p d') :
    e.Lured stop p ↔ ¬ e.Open stop p d := by
  rw [open_iff he, and_iff_right hd, not_not]
  constructor
  · rintro (⟨hx, hs, hr⟩ | ⟨hy, hs, hr⟩)
    · have hc : e.Candidate stop .right :=
        ⟨hs, BitVec.lt_def.2 (lt_of_le_of_lt (by exact_mod_cast he.2.1) (by decide))⟩
      -- a later direction would have to be nearer than the one to the right
      have hright : ¬ idxOf .right < idxOf d := fun h => absurd (hr d hd) (not_le.2 (hlt _ h hc))
      cases d with
      | right => exact hx
      | up | left | down => exact absurd (by decide) hright
    · have hc : e.Candidate stop .down :=
        ⟨hs, BitVec.lt_def.2 (lt_of_le_of_lt (by exact_mod_cast he.2.2.2) (by decide))⟩
      have hdown : d = .down := by
        by_contra hne
        exact absurd (hle _ hc) (not_le.2 (hr d hne hd))
      rw [hdown]
      exact hy
  · intro hb
    cases d with
    | right => exact Or.inl ⟨hb, hd.1, hle⟩
    | up | left => exact hb.elim
    | down =>
      refine Or.inr ⟨hb, hd.1, fun d' hne h' => hlt d' ?_ h'⟩
      cases d' <;> first | decide | exact absurd rfl hne

end Enemy

/-- **The enemy chases greedily** if and only if it is not lured across a border. -/
theorem greedy_iff (stop : Stops) (p : EnemyPins) (e : Enemy)
    (he : InPatrol e.xPos.toNat e.yPos.toNat) (hp : InRange p.playerX.toNat p.playerY.toNat) :
    (¬ e.Close stop p → (∃ d, e.Open stop p d) → e.Greedy stop p) ↔
      ¬ (¬ e.Close stop p ∧ (∃ d, e.Open stop p d) ∧ e.Lured stop p) := by
  by_cases hc : e.Close stop p
  · exact iff_of_true (fun h => absurd hc h) fun h => h.1 hc
  by_cases hex : ∃ d, e.Open stop p d
  · have hcand : ∃ d, e.Candidate stop d := hex.imp fun d h => ((Enemy.open_iff he d).1 h).1
    obtain ⟨d, hidx, hd, hle, hlt⟩ := Enemy.idxIn_candidate he hp hc hcand
    rw [Enemy.lured_iff he hd hle hlt]
    constructor
    · rintro h ⟨-, -, hno⟩
      obtain ⟨d', hidx', ho, -⟩ := h hc hex
      rw [idxOf_injective (hidx.symm.trans hidx')] at hno
      exact hno ho
    · intro h _ _
      have ho : e.Open stop p d := by
        by_contra hno
        exact h ⟨hc, hex, hno⟩
      exact ⟨d, hidx, ho, fun d' h' => hle d' ((Enemy.open_iff he d').1 h').1⟩
  · exact iff_of_true (fun _ h => absurd h hex) fun h => hex h.2.1

/-- An enemy at the given place, with no heading. -/
def enemyAt (x y : Coord) : Enemy := { powerUp.enemy1 with xPos := x, yPos := y }

/-- The pins of an enemy that chases a player at the given place. -/
def chasing (playerX playerY : Coord) : EnemyPins := ⟨playerX, playerY, true, false, 0, 0⟩

theorem greedy_iff_field :
    (¬ (enemyAt 200 300).Close .none (chasing 300 100) →
        (∃ d, (enemyAt 200 300).Open .none (chasing 300 100) d) →
        (enemyAt 200 300).Greedy .none (chasing 300 100)) ↔
      ¬ (¬ (enemyAt 200 300).Close .none (chasing 300 100) ∧
        (∃ d, (enemyAt 200 300).Open .none (chasing 300 100) d) ∧
        (enemyAt 200 300).Lured .none (chasing 300 100)) :=
  greedy_iff .none (chasing 300 100) (enemyAt 200 300) (by unfold InPatrol; decide)
    (by unfold InRange; decide)

/-- The player is up and to the right of an enemy in the last column, and the way up is stopped: the
decision is to go to the right, where the enemy does not move. -/
theorem border_lures :
    ¬ ∀ (stop : Stops) (p : EnemyPins) (e : Enemy), InPatrol e.xPos.toNat e.yPos.toNat →
      InRange p.playerX.toNat p.playerY.toNat → ¬ e.Close stop p → (∃ d, e.Open stop p d) →
      e.Greedy stop p := by
  intro h
  have he : InPatrol (458 : Coord).toNat (300 : Coord).toNat := by unfold InPatrol; decide
  have hleft : (enemyAt 458 300).Open ⟨false, true, false, false⟩ (chasing 460 100) .left :=
    (Enemy.open_iff he .left).2 ⟨by decide, by simp [Enemy.AtBorder]⟩
  obtain ⟨d, hidx, hopen, -⟩ := h ⟨false, true, false, false⟩ (chasing 460 100) (enemyAt 458 300) he
    (by unfold InRange; decide) (by decide) ⟨.left, hleft⟩
  have hright : (enemyAt 458 300).idxIn ⟨false, true, false, false⟩ (chasing 460 100) =
    idxOf .right := by decide
  obtain rfl : Dir.right = d := idxOf_injective (hright.symm.trans hidx)
  exact ((Enemy.open_iff he .right).1 hopen).2 (by decide : 457 ≤ (458 : Coord).toNat)

end TankBattle
