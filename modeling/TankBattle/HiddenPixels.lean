import TankBattle.EndPicture
import TankBattle.Tracks

/-!
# Pixels that no object is painted at

Each object of `sp_addr_lookup` has a branch for its body and one for its explosion, and neither is
taken where the two overlap.  If no other object is taken there, the default address 0 stays.

* `PaintedFromPresent`: the address is that of an object whose flag is high;
* `backAddr_of_body`: behind the bodies is the default address;
* `bodyAt_eq_zero_iff`, `boomAt_ne_zero`: the objects whose address is the default one;
* `painted_iff`: the pixels at which the address is right;
* `own_goal`: a tank in the explosion of its own bullet.
-/

namespace TankBattle

open Sys

/-- If a flag of an object is high, the address is computed for such an object. -/
def SpPorts.PaintedFromPresent (p : SpPorts) : Prop :=
  (∃ l, p.body l = true ∨ p.boom l = true) →
    ∃ l, p.body l = true ∧ p.spAddrLookup = p.bodyAt l ∨
      p.boom l = true ∧ p.spAddrLookup = p.boomAt l

/-- The direction of an object. -/
def Sys.facing (s : Sys) : Layer → Dir
  | .tank1 => s.tank1.isTankDir
  | .tank2 => s.tank2.isTankDir
  | .enemy2 => s.enemy2.isEnemyOut
  | .enemy1 => s.enemy1.isEnemyOut

/-- The pixel is the first one of the first sprite of the sheet, which is that of tank 2 and of
enemy 1 to the right. -/
def FirstPixel (s : Sys) (drawX drawY : Coord) (l : Layer) : Prop :=
  (l = .tank2 ∨ l = .enemy1) ∧ s.place l = (drawX, drawY) ∧ s.facing l = .right

section Game

variable {s : Sys} {drawX drawY : Coord}

/-! ### The default address -/

theorem spAddrLookup_of_inGame (hg : s.InGame) :
    (s.spPorts drawX drawY).spAddrLookup = (s.spPorts drawX drawY).playAddr := by
  have hm : (s.spPorts drawX drawY).mode = 2 := by
    rcases hg with h | h <;> simp [spPorts, Sys.mode, h]
  simp [SpPorts.spAddrLookup, SpPorts.endBranch, hm]

/-- During a game there is no menu. -/
theorem menuAddr_of_inGame (hg : s.InGame) (hm : MenuOk s) :
    (s.spPorts drawX drawY).menuAddr = 0 := by
  have hen : s.enState = false := by
    rcases hg with h | h <;> simp [Sys.enState, h]
  have hsel : s.selector = .OPM_DONE ∨ s.selector = .TPM_DONE := by
    rcases hg with h | h
    · exact Or.inl (hm.one (by simp [h]))
    · exact Or.inr (hm.two (by simp [h]))
  obtain ⟨h1, h2, h3, h4⟩ := enDraw_off s.enDraw drawX drawY
  have h5 : s.selector.isOneTank drawX drawY = false := by
    rcases hsel with h | h <;> simp [SelectorState.isOneTank, h]
  have h6 : s.selector.areTwoTanks drawX drawY = false := by
    rcases hsel with h | h <;> simp [SelectorState.areTwoTanks, h]
  simp [SpPorts.menuAddr, spPorts, hen, h1, h2, h3, h4, h5, h6]

theorem place_le (hg1 : OnGrid 2 s.tank1.mover ∧ OnGrid 2 s.tank2.mover)
    (hg2 : OnGrid 1 s.enemy1.mover ∧ OnGrid 1 s.enemy2.mover) (l : Layer) :
    (s.place l).1.toNat ≤ 460 := by
  cases l with
  | tank1 => exact hg1.1.x_le
  | tank2 => exact hg1.2.x_le
  | enemy2 => exact hg2.2.x_le
  | enemy1 => exact hg2.1.x_le

/-- The icons are right of the field. -/
theorem iconAddr_of_le (h : drawX.toNat ≤ 510) (old : BitVec 20) :
    (s.spPorts drawX drawY).iconAddr old = old := by
  have hicon : ∀ {a b c d : Coord}, 510 ≤ a.toNat →
      icon s.gameMode drawX drawY a b c d = false := by
    intro a b c d ha
    have hlt : ¬ a < drawX := by bv_omega
    simp [icon, hlt]
  have h1 : isPlayer1 s.gameMode drawX drawY = false := hicon (by decide)
  have h2 : isPlayer2 s.gameMode drawX drawY = false := hicon (by decide)
  have h3 : isPlayerEn2 s.gameMode s.enNum drawX drawY = false := by
    rw [isPlayerEn2, hicon (by decide), Bool.false_and]
  simp [SpPorts.iconAddr, spPorts, h1, h2, h3]

/-- Behind a body is the default address. -/
theorem backAddr_of_body {R : Run} {n : ℕ} (hg : (R.state n).InGame) {l : Layer}
    (h : ((R.state n).spPorts drawX drawY).body l = true) :
    ((R.state n).spPorts drawX drawY).iconAddr ((R.state n).spPorts drawX drawY).menuAddr = 0 := by
  have hx := (isBody_iff.1 (isBody_of_body h)).2.1
  have hle := place_le (onGrid_run R n hg) (enemies_onGrid_run R n hg) l
  rw [menuAddr_of_inGame hg (menuOk_run R n), iconAddr_of_le (by omega)]

/-! ### Objects at the default address -/

theorem boomAt_ne_zero (l : Layer) : (s.spPorts drawX drawY).boomAt l ≠ 0 := by
  have key : ∀ b : Bullet, SpPorts.boomAddr (b.distXBoom drawX) (b.distYBoom drawY) ≠ 0 := by
    intro b
    have hx : (b.distXBoom drawX).toNat < 1024 := Bullet.distXBoom_lt
    have hy : (b.distYBoom drawY).toNat < 1024 := Bullet.distYBoom_lt
    have hrow : (b.distYBoom drawY + 183).toNat = (b.distYBoom drawY).toNat + 183 := by bv_omega
    have hsum : (SpPorts.boomAddr (b.distXBoom drawX) (b.distYBoom drawY)).toNat =
        ((b.distYBoom drawY).toNat + 183) * 320 + (b.distXBoom drawX).toNat + 19 := by
      rw [SpPorts.boomAddr, BitVec.toNat_add, BitVec.toNat_add, BitVec.toNat_mul, hrow]
      simp only [BitVec.reduceToNat]
      omega
    intro h0
    rw [h0] at hsum
    exact absurd hsum (by simp)
  cases l <;> exact key _

theorem bodyAddr_eq_zero_iff {x y : Coord} (h : isBody x y drawX drawY = true) (l : Layer)
    (d : Dir) : SpPorts.bodyAddr l.row (distOut drawX x) (distOut drawY y) d = 0 ↔
      (l = .tank2 ∨ l = .enemy1) ∧ (x, y) = (drawX, drawY) ∧ d = .right := by
  obtain ⟨h1, h2, h3, h4⟩ := isBody_iff.1 h
  have hx : (distOut drawX x).toNat = drawX.toNat - x.toNat := by
    unfold distOut zext
    bv_omega
  have hy : (distOut drawY y).toNat = drawY.toNat - y.toNat := by
    unfold distOut zext
    bv_omega
  have hd : (SpPorts.dirOffset d).toNat ≤ 110 ∧ ((SpPorts.dirOffset d).toNat = 0 ↔ d = .right) := by
    cases d <;> decide
  have hr : l.row.toNat ≤ 155 ∧ (l.row.toNat = 0 ↔ l = .tank2 ∨ l = .enemy1) := by
    cases l <;> decide
  have hsum : (SpPorts.bodyAddr l.row (distOut drawX x) (distOut drawY y) d).toNat =
      (drawY.toNat - y.toNat + l.row.toNat) * 320 + (drawX.toNat - x.toNat) +
        (SpPorts.dirOffset d).toNat := by
    obtain ⟨hd, -⟩ := hd
    obtain ⟨hr, -⟩ := hr
    unfold SpPorts.bodyAddr
    bv_omega
  rw [← hd.2, ← hr.2, Prod.mk.injEq]
  constructor
  · intro h0
    rw [h0] at hsum
    have hzero : (0 : BitVec 20).toNat = 0 := rfl
    rw [hzero] at hsum
    exact ⟨by omega, ⟨BitVec.eq_of_toNat_eq (by omega), BitVec.eq_of_toNat_eq (by omega)⟩, by omega⟩
  · rintro ⟨hrow, ⟨rfl, rfl⟩, hoff⟩
    refine BitVec.eq_of_toNat_eq ?_
    rw [hsum, hrow, hoff]
    simp

/-- The default address is also that of the first pixel of two objects. -/
theorem bodyAt_eq_zero_iff {l : Layer} (h : (s.spPorts drawX drawY).body l = true) :
    (s.spPorts drawX drawY).bodyAt l = 0 ↔ FirstPixel s drawX drawY l := by
  have hbody := isBody_of_body h
  cases l with
  | tank1 => exact bodyAddr_eq_zero_iff hbody .tank1 _
  | tank2 => exact bodyAddr_eq_zero_iff hbody .tank2 _
  | enemy2 => exact bodyAddr_eq_zero_iff hbody .enemy2 _
  | enemy1 => exact bodyAddr_eq_zero_iff hbody .enemy1 _

end Game

/-! ### The pixels that are painted -/

section Painted

variable {p : SpPorts}

theorem taken_iff {l : Layer} : p.taken l = true ↔ p.body l ≠ p.boom l := by
  rw [SpPorts.taken, bne_iff_ne]

/-- An object that is taken is present, and the address is its own. -/
theorem layerAddr_present {l : Layer} (h : p.taken l = true) :
    p.body l = true ∧ p.layerAddr l = p.bodyAt l ∨
      p.boom l = true ∧ p.layerAddr l = p.boomAt l := by
  have hne := taken_iff.1 h
  rw [SpPorts.layerAddr]
  cases hb : p.body l with
  | true => exact Or.inl ⟨rfl, rfl⟩
  | false => exact Or.inr ⟨by simpa [hb] using hne, rfl⟩

theorem topLayer_eq_none_iff : p.topLayer = none ↔ ∀ l, p.body l = p.boom l := by
  rw [SpPorts.topLayer, List.find?_eq_none]
  constructor
  · intro h l
    have hl := h l (by cases l <;> decide)
    by_contra hne
    exact hl (taken_iff.2 hne)
  · intro h l _ ht
    exact taken_iff.1 ht (h l)

end Painted

/-- **A pixel is painted from an object that is there** if and only if some object has just one of
its two flags high, or none is high, or the default address is the object's own. -/
theorem painted_iff (R : Run) (n : ℕ) (hg : (R.state n).InGame) (drawX drawY : Coord) :
    ((R.state n).spPorts drawX drawY).PaintedFromPresent ↔
      (∃ l, ((R.state n).spPorts drawX drawY).body l ≠ ((R.state n).spPorts drawX drawY).boom l) ∨
      (∀ l, ((R.state n).spPorts drawX drawY).body l = false ∧
        ((R.state n).spPorts drawX drawY).boom l = false) ∨
      ∃ l, ((R.state n).spPorts drawX drawY).body l = true ∧
        FirstPixel (R.state n) drawX drawY l := by
  have hback : ∀ {l}, ((R.state n).spPorts drawX drawY).body l = true → _ := backAddr_of_body hg
  have hzero : ∀ {l}, ((R.state n).spPorts drawX drawY).body l = true → _ := bodyAt_eq_zero_iff
  have hboom : ∀ l, ((R.state n).spPorts drawX drawY).boomAt l ≠ 0 := boomAt_ne_zero
  rw [SpPorts.PaintedFromPresent, spAddrLookup_of_inGame hg, SpPorts.playAddr_eq]
  generalize (R.state n).spPorts drawX drawY = p at hback hzero hboom ⊢
  cases htop : p.topLayer with
  | some l =>
    have ht : p.taken l = true := List.find?_some htop
    exact iff_of_true (fun _ => ⟨l, layerAddr_present ht⟩) (Or.inl ⟨l, taken_iff.1 ht⟩)
  | none =>
    have hsame := topLayer_eq_none_iff.1 htop
    constructor
    · intro h
      by_cases hnone : ∀ l, p.body l = false ∧ p.boom l = false
      · exact Or.inr (Or.inl hnone)
      have hex : ∃ l, p.body l = true := by
        by_contra hno
        push Not at hno
        refine hnone fun l => ?_
        have hl := Bool.eq_false_iff.2 (hno l)
        exact ⟨hl, hsame l ▸ hl⟩
      obtain ⟨l₀, h₀⟩ := hex
      -- the default address is left, and of the objects that are there only a body may have it
      obtain ⟨l, ⟨hl, haddr⟩ | ⟨-, haddr⟩⟩ := h ⟨l₀, Or.inl h₀⟩
      · exact Or.inr (Or.inr ⟨l, hl, (hzero hl).1 (haddr.symm.trans (hback h₀))⟩)
      · exact absurd (haddr.symm.trans (hback h₀)) (hboom l)
    · rintro (⟨l, hl⟩ | hnone | ⟨l, hl, hfirst⟩)
      · exact absurd (hsame l) hl
      · rintro ⟨l, hl⟩
        simp [hnone l] at hl
      · exact fun _ => ⟨l, Or.inl ⟨hl, (hback hl).trans ((hzero hl).2 hfirst).symm⟩⟩

/-- Two players: tank 1 turns to the left border and fires. -/
def ownGoalKeys (n : ℕ) : BitVec 32 :=
  if n < 8 then twoPlayerKeys n else if n < 12 then 0x04 else 0x06

/-- The run with these keys and a frame pulse every other cycle of the game. -/
def ownGoal : Run := runOf fun n => press (ownGoalKeys n) (decide (8 ≤ n) && n % 2 == 0)

theorem painted_iff_ownGoal :
    ((ownGoal.state 16).spPorts 5 465).PaintedFromPresent ↔
      (∃ l, ((ownGoal.state 16).spPorts 5 465).body l ≠
        ((ownGoal.state 16).spPorts 5 465).boom l) ∨
      (∀ l, ((ownGoal.state 16).spPorts 5 465).body l = false ∧
        ((ownGoal.state 16).spPorts 5 465).boom l = false) ∨
      ∃ l, ((ownGoal.state 16).spPorts 5 465).body l = true ∧
        FirstPixel (ownGoal.state 16) 5 465 l :=
  painted_iff ownGoal 16 (by unfold InGame; decide +kernel) 5 465

/-- The bullet explodes where it was fired, and half of the tank is painted from the address 0. -/
theorem own_goal :
    ¬ ∀ (R : Run) (n : ℕ), (R.state n).InGame → ∀ drawX drawY : Coord,
      ((R.state n).spPorts drawX drawY).PaintedFromPresent := by
  intro h
  have hgame : (ownGoal.state 16).InGame := by unfold InGame; decide +kernel
  have hbody : ((ownGoal.state 16).spPorts 5 465).body .tank1 = true := by decide +kernel
  obtain ⟨l, hl⟩ := h ownGoal 16 hgame 5 465 ⟨.tank1, Or.inl hbody⟩
  revert hl
  cases l <;> decide +kernel

end TankBattle
