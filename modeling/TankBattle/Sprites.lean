import TankBattle.Screen
import TankBattle.Menu

/-!
# Addresses in the sprite sheets

A sheet has 240 rows of 320 pixels.  `sp_addr_lookup` overwrites its address object by object, so
the object in front decides; on the end screen the last chain decides.

* `Layer`, `topLayer`, `playAddr_eq`: the address is that of the foremost object that is taken;
* `isBody_iff`, `isSquare_iff`: the pixels of a body and of an explosion;
* `menuAddr_lt_iff`, `iconAddr_lt`, `bodyAt_lt`, `boomAt_lt_iff`, `endAddr_lt_iff`: the address
  formulas, each over all pixels at which it is taken;
* `sprite_in_rom_iff`: the pixels that are painted from an address below the last row of a sheet;
* `below_sheet`: a pixel of the enemy menu that is.
-/

namespace TankBattle

/-- `spROM` and `endROM` hold 240 rows of 320 pixels. -/
def romDepth : BitVec 20 := 76800

/-- The objects of `sp_addr_lookup` that move, from front to back. -/
inductive Layer
  | tank1
  | tank2
  | enemy2
  | enemy1
  deriving DecidableEq

namespace Layer

/-- The order of overwriting, the last object first. -/
def all : List Layer := [.tank1, .tank2, .enemy2, .enemy1]

/-- The row of the sheet in which the sprites of a body start. -/
def row : Layer → BitVec 20
  | .tank1 => 155
  | .tank2 => 0
  | .enemy2 => 104
  | .enemy1 => 0

end Layer

namespace SpPorts

variable (p : SpPorts)

/-- The pixel is in the body of an object. -/
def body : Layer → Bool
  | .tank1 => p.isTankFinal
  | .tank2 => p.isTankFinal2
  | .enemy2 => p.isEnemy2Final
  | .enemy1 => p.isEnemy1Final

/-- The pixel is in the explosion of an object's bullet. -/
def boom : Layer → Bool
  | .tank1 => p.isBoom
  | .tank2 => p.isBoom2
  | .enemy2 => p.isBoomEn2
  | .enemy1 => p.isBoomEn1

/-- The address in the sprite of a body. -/
def bodyAt (l : Layer) : BitVec 20 :=
  match l with
  | .tank1 => bodyAddr l.row p.distX p.distY p.isTankOut
  | .tank2 => bodyAddr l.row p.distX2 p.distY2 p.isTankOut2
  | .enemy2 => bodyAddr l.row p.enemy2DisX p.enemy2DisY p.isEnemy2Out
  | .enemy1 => bodyAddr l.row p.enemy1DisX p.enemy1DisY p.isEnemy1Out

/-- The address in the sprite of an explosion. -/
def boomAt : Layer → BitVec 20
  | .tank1 => boomAddr p.distXBoom p.distYBoom
  | .tank2 => boomAddr p.distXBoom2 p.distYBoom2
  | .enemy2 => boomAddr p.distXBoomEn2 p.distYBoomEn2
  | .enemy1 => boomAddr p.distXBoomEn1 p.distYBoomEn1

/-- One of the two branches of an object is taken: not both the body and the explosion cover the
pixel. -/
def taken (l : Layer) : Bool := p.body l != p.boom l

/-- The address that an object is taken with. -/
def layerAddr (l : Layer) : BitVec 20 := if p.body l then p.bodyAt l else p.boomAt l

/-- The foremost object that is taken. -/
def topLayer : Option Layer := Layer.all.find? p.taken

theorem objectAddr_eq (body boom : Bool) (bodyAddr boomAddr old : BitVec 20) :
    objectAddr body boom bodyAddr boomAddr old =
      if body != boom then (if body then bodyAddr else boomAddr) else old := by
  cases body <;> cases boom <;> rfl

/-- Overwriting from back to front leaves the address of the first object that is taken. -/
theorem foldr_objectAddr (ls : List Layer) (a : BitVec 20) :
    ls.foldr (fun l => objectAddr (p.body l) (p.boom l) (p.bodyAt l) (p.boomAt l)) a =
      (ls.find? p.taken).elim a p.layerAddr := by
  induction ls with
  | nil => rfl
  | cons l ls ih =>
    rw [List.foldr_cons, ih, objectAddr_eq, List.find?_cons]
    show (if p.taken l = true then p.layerAddr l else _) = _
    cases p.taken l <;> rfl

theorem playAddr_eq : p.playAddr = p.topLayer.elim (p.iconAddr p.menuAddr) p.layerAddr :=
  p.foldr_objectAddr Layer.all (p.iconAddr p.menuAddr)

end SpPorts

/-! ### Rows and columns -/

theorem addr_lt_iff {row col : BitVec 20} {r c : ℕ} (hr : row.toNat = r) (hc : col.toNat = c)
    (h : r * 320 + c < 2 ^ 20) : row * 320 + col < romDepth ↔ r * 320 + c < 76800 := by
  subst hr hc
  unfold romDepth
  bv_omega

theorem toNat_shift {x : Coord} {c d : BitVec 20} (h : c.toNat ≤ x.toNat + d.toNat)
    (hd : d.toNat < 1024 := by decide) :
    (x.setWidth 20 - c + d).toNat = x.toNat + d.toNat - c.toNat := by
  bv_omega

theorem toNat_plus {a b : BitVec 20} (ha : a.toNat < 1024) (hb : b.toNat < 1024 := by decide) :
    (a + b).toNat = a.toNat + b.toNat := by
  bv_omega

theorem toNat_drop {x : Coord} {c : BitVec 20} (h : c.toNat ≤ x.toNat) :
    (x.setWidth 20 - c).toNat = x.toNat - c.toNat := by
  bv_omega

/-- A pixel of a sprite that is cut out of the sheet: row 239 and column 319 are the last ones. -/
theorem sprite_lt {x y : Coord} {a b c : BitVec 20} (hy : a.toNat ≤ y.toNat)
    (hy' : y.toNat + b.toNat ≤ a.toNat + 239) (hx : c.toNat ≤ x.toNat)
    (hx' : x.toNat ≤ c.toNat + 319) (hb : b.toNat < 1024 := by decide) :
    (y.setWidth 20 - a + b) * 320 + (x.setWidth 20 - c) < romDepth := by
  rw [addr_lt_iff (toNat_shift (by omega) hb) (toNat_drop hx) (by omega)]
  omega

/-! ### Bodies and explosions -/

theorem isBody_iff {x y drawX drawY : Coord} : isBody x y drawX drawY = true ↔
    x.toNat ≤ drawX.toNat ∧ drawX.toNat < x.toNat + 19 ∧
      y.toNat ≤ drawY.toNat ∧ drawY.toNat < y.toNat + 19 := by
  have h0 : (0 : BitVec 32).toInt = 0 := by decide
  have hs : (zext size).toInt = 19 := by decide
  simp only [isBody, Bool.and_eq_true, BitVec.sle, BitVec.slt, decide_eq_true_eq, toInt_zext_sub,
    h0, hs]
  omega

namespace Bullet

variable {b : Bullet} {drawX drawY : Coord}

theorem isSquare_iff : b.isSquare drawX drawY = true ↔
    b.xPos.toNat ≤ drawX.toNat + 9 ∧ drawX.toNat < b.xPos.toNat + 9 ∧
      b.yPos.toNat ≤ drawY.toNat + 9 ∧ drawY.toNat < b.yPos.toNat + 9 := by
  have h9 : (9 : BitVec 32).toInt = 9 := by decide
  have hm : (-9 : BitVec 32).toInt = -9 := by decide
  simp only [isSquare, distX, distY, Bool.and_eq_true, BitVec.sle, BitVec.slt, decide_eq_true_eq,
    toInt_zext_sub, h9, hm]
  omega

theorem distXBoom_lt : (b.distXBoom drawX).toNat < 1024 := by
  unfold distXBoom
  bv_omega

theorem distYBoom_lt : (b.distYBoom drawY).toNat < 1024 := by
  unfold distYBoom
  bv_omega

/-- The low ten bits of a distance. -/
theorem toNat_distYBoom (b : Bullet) (drawY : Coord) : (b.distYBoom drawY).toNat =
    if b.yPos.toNat ≤ drawY.toNat then drawY.toNat - b.yPos.toNat
    else 1024 + drawY.toNat - b.yPos.toNat := by
  unfold distYBoom distY zext
  split <;> bv_omega

/-- In the rows above the bullet the distance is negative, and its low ten bits lead below the
sheet. -/
theorem boomAddr_lt_iff (h : b.isSquare drawX drawY = true) :
    SpPorts.boomAddr (b.distXBoom drawX) (b.distYBoom drawY) < romDepth ↔
      ¬ drawY.toNat < b.yPos.toNat := by
  obtain ⟨-, -, h1, h2⟩ := isSquare_iff.1 h
  have hx : (b.distXBoom drawX).toNat < 1024 := distXBoom_lt
  have hy := toNat_distYBoom b drawY
  have hrow : (b.distYBoom drawY + 183).toNat = (b.distYBoom drawY).toNat + 183 := by
    split at hy <;> bv_omega
  have hcol : (b.distXBoom drawX + 19).toNat = (b.distXBoom drawX).toNat + 19 := by bv_omega
  rw [SpPorts.boomAddr, BitVec.add_assoc, addr_lt_iff hrow hcol (by split at hy <;> omega)]
  split at hy <;> omega

end Bullet

/-- The sprites of the bodies lie in the sheet. -/
theorem bodyAddr_lt {x y drawX drawY : Coord} (h : isBody x y drawX drawY = true) (l : Layer)
    (d : Dir) :
    SpPorts.bodyAddr l.row (Sys.distOut drawX x) (Sys.distOut drawY y) d < romDepth := by
  obtain ⟨h1, h2, h3, h4⟩ := isBody_iff.1 h
  have hx : (Sys.distOut drawX x).toNat < 19 := by
    unfold Sys.distOut zext
    bv_omega
  have hy : (Sys.distOut drawY y).toNat < 19 := by
    unfold Sys.distOut zext
    bv_omega
  have hd : (SpPorts.dirOffset d).toNat ≤ 110 := by cases d <;> decide
  have hr : l.row.toNat ≤ 155 := by cases l <;> decide
  have hrow : (Sys.distOut drawY y + l.row).toNat = (Sys.distOut drawY y).toNat + l.row.toNat := by
    bv_omega
  have hcol : (Sys.distOut drawX x + SpPorts.dirOffset d).toNat =
      (Sys.distOut drawX x).toNat + (SpPorts.dirOffset d).toNat := by bv_omega
  rw [SpPorts.bodyAddr, BitVec.add_assoc, addr_lt_iff hrow hcol (by omega)]
  omega

/-! ### The menus, the icons and the end screen -/

section Screens

variable (s : Sys) {drawX drawY : Coord}

theorem markerAddr_lt (drawX drawY : Coord) :
    (if s.selector.isOneTank drawX drawY then
        (drawY.setWidth 20 - 285 + 155) * 320 + (drawX.setWidth 20 - 195)
      else if s.selector.areTwoTanks drawX drawY then
        (drawY.setWidth 20 - 315 + 155) * 320 + (drawX.setWidth 20 - 195)
      else 0) < romDepth := by
  split_ifs with h1 h2
  · simp only [SelectorState.isOneTank, Bool.and_eq_true, decide_eq_true_eq, and_assoc] at h1
    obtain ⟨-, a1, a2, a3, a4⟩ := h1
    exact sprite_lt (by bv_omega) (by bv_omega) (by bv_omega) (by bv_omega)
  · simp only [SelectorState.areTwoTanks, Bool.and_eq_true, decide_eq_true_eq, and_assoc] at h2
    obtain ⟨-, a1, a2, a3, a4⟩ := h2
    exact sprite_lt (by bv_omega) (by bv_omega) (by bv_omega) (by bv_omega)
  · decide

section Menu

variable {e : EnDraw} {enState : Bool}

theorem enTankAddr_lt (h : EnDraw.enTank enState drawX drawY = true) :
    (drawY.setWidth 20 - 458 + 155) * 320 + (drawX.setWidth 20 - 2) < romDepth := by
  simp only [EnDraw.enTank, Bool.and_eq_true, decide_eq_true_eq, and_assoc] at h
  obtain ⟨-, a1, a2, a3, a4⟩ := h
  exact sprite_lt (by bv_omega) (by bv_omega) (by bv_omega) (by bv_omega)

/-- The region of the counter has fifty rows; the sheet ends 49 rows after the first of them. -/
theorem enCountAddr_lt_iff (h : EnDraw.enCount enState drawX drawY = true) :
    (drawY.setWidth 20 - 428 + 190) * 320 + (drawX.setWidth 20 - 567 + 245) < romDepth ↔
      ¬ drawY = 478 := by
  simp only [EnDraw.enCount, Bool.and_eq_true, decide_eq_true_eq, and_assoc] at h
  obtain ⟨-, -, a1, a2, a3, a4⟩ := h
  rw [addr_lt_iff (toNat_shift (by bv_omega)) (toNat_shift (by bv_omega)) (by bv_omega)]
  bv_omega

theorem enNumberAddr_lt (h : EnDraw.enNumber enState drawX drawY = true) :
    (drawY.setWidth 20 - 442 + 201) * 320 + (drawX.setWidth 20 - 408) < romDepth := by
  simp only [EnDraw.enNumber, Bool.and_eq_true, decide_eq_true_eq, and_assoc] at h
  obtain ⟨-, -, -, a1, a2, a3, a4⟩ := h
  exact sprite_lt (by bv_omega) (by bv_omega) (by bv_omega) (by bv_omega)

/-- The markers of the three numbers lie side by side. -/
theorem isEnnumber_bounds (h : e.isEnnumber enState drawX drawY = true) :
    414 < drawX ∧ drawX < 449 ∧ 416 < drawY ∧ drawY < 435 := by
  unfold EnDraw.isEnnumber at h
  cases he : e.state <;> simp only [he, Bool.and_eq_true, decide_eq_true_eq, and_assoc,
    Bool.false_eq_true] at h <;> obtain ⟨-, a1, a2, a3, a4⟩ := h <;>
    exact ⟨by bv_omega, by bv_omega, a3, a4⟩

/-- The address of a marker; `left` is the left edge of the marker of `en_num`, which need not be
the one that is drawn. -/
theorem ennumberAddr_lt (h : e.isEnnumber enState drawX drawY = true) (left : BitVec 20)
    (hl : left.toNat ≤ 438) :
    (drawY.setWidth 20 - 416) * 320 + (drawX.setWidth 20 - left + 114) < romDepth := by
  obtain ⟨a1, a2, a3, a4⟩ := isEnnumber_bounds h
  rw [addr_lt_iff (toNat_drop (by bv_omega)) (toNat_shift (by bv_omega)) (by bv_omega)]
  bv_omega

end Menu

/-- Of the menus the last row of the counter lies below the sheet. -/
theorem menuAddr_lt_iff : (s.spPorts drawX drawY).menuAddr < romDepth ↔
    ¬ (EnDraw.enCount s.enState drawX drawY = true ∧ drawY = 478) := by
  have hm := markerAddr_lt s drawX drawY
  simp only [SpPorts.menuAddr]
  by_cases hc : (s.spPorts drawX drawY).enCount = true
  · have ht : ¬ (s.spPorts drawX drawY).enTank = true := by
      have hc : EnDraw.enCount s.enState drawX drawY = true := hc
      simp only [EnDraw.enCount, Bool.and_eq_true, Bool.not_eq_true'] at hc
      exact Bool.eq_false_iff.1 hc.1
    rw [if_neg ht, if_pos hc]
    exact (enCountAddr_lt_iff hc).trans (not_congr (and_iff_right hc).symm)
  · refine iff_of_true ?_ fun h => hc h.1
    rw [if_neg hc]
    split
    case isTrue ht => exact enTankAddr_lt ht
    split
    case isTrue hn => exact enNumberAddr_lt hn
    split
    case isTrue he =>
      split
      · exact ennumberAddr_lt he 414 (by decide)
      · split
        · exact ennumberAddr_lt he 426 (by decide)
        · split
          · exact ennumberAddr_lt he 438 (by decide)
          · exact hm
    exact hm

theorem icon_bounds {gameMode : Bool} {a b c d : Coord}
    (h : icon gameMode drawX drawY a b c d = true) :
    a < drawX ∧ drawX < b ∧ c < drawY ∧ drawY < d := by
  simp only [icon, Bool.and_eq_true, decide_eq_true_eq, and_assoc] at h
  exact h.2

theorem iconAddr_lt {old : BitVec 20} (ho : old < romDepth) :
    (s.spPorts drawX drawY).iconAddr old < romDepth := by
  simp only [SpPorts.iconAddr]
  split
  case isTrue h =>
    obtain ⟨a1, a2, a3, a4⟩ := icon_bounds (show isPlayer1 s.gameMode drawX drawY = true from h)
    show (drawY.setWidth 20 - 190 + 155) * 320 + (drawX.setWidth 20 - 510) < romDepth
    exact sprite_lt (by bv_omega) (by bv_omega) (by bv_omega) (by bv_omega)
  split
  case isTrue h =>
    obtain ⟨a1, a2, a3, a4⟩ := icon_bounds (show isPlayer2 s.gameMode drawX drawY = true from h)
    show (drawY.setWidth 20 - 310) * 320 + (drawX.setWidth 20 - 510) < romDepth
    rw [addr_lt_iff (toNat_drop (by bv_omega)) (toNat_drop (by bv_omega)) (by bv_omega)]
    bv_omega
  split
  case isTrue h =>
    obtain ⟨a1, a2, a3, a4⟩ := icon_bounds (Bool.and_eq_true_iff.1 h).1
    show (drawY.setWidth 20 - 310 + 104) * 320 + (drawX.setWidth 20 - 530) < romDepth
    exact sprite_lt (by bv_omega) (by bv_omega) (by bv_omega) (by bv_omega)
  exact ho

/-- Where no object moves, the last row of the counter lies below the sheet: the icons are not
shown with the menu. -/
theorem backAddr_lt_iff :
    (s.spPorts drawX drawY).iconAddr (s.spPorts drawX drawY).menuAddr < romDepth ↔
      ¬ (EnDraw.enCount s.enState drawX drawY = true ∧ drawY = 478) := by
  by_cases hm : (s.spPorts drawX drawY).menuAddr < romDepth
  · exact iff_of_true (iconAddr_lt s hm) ((menuAddr_lt_iff s).1 hm)
  · have hc := not_not.1 (mt (menuAddr_lt_iff s).2 hm)
    have hg : s.gameMode = false := by
      have he : s.enState = true := by
        have := hc.1
        simp only [EnDraw.enCount, Bool.and_eq_true] at this
        exact this.2.1.1.1.1
      simp only [Sys.enState, Bool.or_eq_true, beq_iff_eq] at he
      rcases he with he | he <;> simp [Sys.gameMode, Sys.enable1, Sys.enable2, Sys.enable12, he]
    have hi : (s.spPorts drawX drawY).iconAddr (s.spPorts drawX drawY).menuAddr =
        (s.spPorts drawX drawY).menuAddr := by
      simp [SpPorts.iconAddr, Sys.spPorts, isPlayer1, isPlayer2, isPlayerEn2, icon, hg]
    rw [hi]
    exact menuAddr_lt_iff s

/-- The end screen of a player who has lost against the enemies is shown from column 170 of the
sheet on, of which 640 pixels of the screen need 160 columns: ten too many in its last row. -/
theorem endAddr_lt_iff (hx : drawX < 640) (hy : drawY < 480) (b : EndBranch) :
    (s.spPorts drawX drawY).endAddr b < romDepth ↔
      ¬ (b = .player ∧ 600 ≤ drawX ∧ 476 ≤ drawY) := by
  have hrow : (s.spPorts drawX drawY).drawYShf.toNat = drawY.toNat / 4 := by
    show (drawY.setWidth 20 >>> 2).toNat = _
    bv_omega
  have hcol : (s.spPorts drawX drawY).drawXShf.toNat = drawX.toNat / 4 := by
    show (drawX.setWidth 20 >>> 2).toNat = _
    bv_omega
  -- a quarter of the screen, shifted by whole rows and columns of the sheet
  have key : ∀ row col : BitVec 20, row.toNat ≤ 120 → col.toNat ≤ 173 →
      (((s.spPorts drawX drawY).drawYShf + row) * 320 + ((s.spPorts drawX drawY).drawXShf + col) <
          romDepth ↔
        (drawY.toNat / 4 + row.toNat) * 320 + (drawX.toNat / 4 + col.toNat) < 76800) := by
    intro row col hr hc
    rw [addr_lt_iff (toNat_plus (by omega) (by omega)) (toNat_plus (by omega) (by omega))
      (by bv_omega), hrow, hcol]
  cases b with
  | player =>
    rw [SpPorts.endAddr, key 120 170 (by decide) (by decide), and_iff_right rfl]
    bv_omega
  | player1 =>
    rw [SpPorts.endAddr, key 120 10 (by decide) (by decide)]
    exact iff_of_true (by bv_omega) fun h => by cases h.1
  | player2 =>
    rw [SpPorts.endAddr, ← BitVec.add_zero (SpPorts.drawYShf _), key _ 173 (by decide) (by decide)]
    exact iff_of_true (by bv_omega) fun h => by cases h.1
  | _ =>
    rw [SpPorts.endAddr, addr_lt_iff hrow hcol (by bv_omega)]
    exact iff_of_true (by bv_omega) fun h => by cases h.1

end Screens

/-! ### The address of a pixel -/

namespace Sys

variable (s : Sys) (drawX drawY : Coord)

/-- The bullet whose explosion an object is drawn with. -/
def explosion : Layer → Bullet
  | .tank1 => s.bullets1
  | .tank2 => s.bullets2
  | .enemy2 => s.enemy2.bullet
  | .enemy1 => s.enemy1.bullet

/-- The pixel is in the last four rows of the end screen, right of the sheet; or the foremost object
is an explosion above whose centre it lies; or nothing covers the last row of the counter. -/
def Outside : Prop :=
  match (s.spPorts drawX drawY).endBranch, (s.spPorts drawX drawY).topLayer with
  | some b, _ => b = .player ∧ 600 ≤ drawX ∧ 476 ≤ drawY
  | none, some l => (s.spPorts drawX drawY).boom l = true ∧ drawY < (s.explosion l).yPos
  | none, none => EnDraw.enCount s.enState drawX drawY = true ∧ drawY = 478

/-- `code` is taken from one of the sheets that `sp_addr_lookup` addresses. -/
def PaintsSprite : Prop := s.code drawX drawY = .str_data ∨ s.code drawX drawY = .end_data

instance : Decidable (s.PaintsSprite drawX drawY) := inferInstanceAs (Decidable (_ ∨ _))

/-- The position registers of an object. -/
def place : Layer → Coord × Coord
  | .tank1 => (s.tank1.xPos, s.tank1.yPos)
  | .tank2 => (s.tank2.xPos, s.tank2.yPos)
  | .enemy2 => (s.enemy2.xPos, s.enemy2.yPos)
  | .enemy1 => (s.enemy1.xPos, s.enemy1.yPos)

variable {s drawX drawY}

/-- The pixels of an object are those of its body, behind the gates. -/
theorem isBody_of_body {l : Layer} (h : (s.spPorts drawX drawY).body l = true) :
    isBody (s.place l).1 (s.place l).2 drawX drawY = true := by
  cases l with
  | tank1 => exact (Bool.and_eq_true_iff.1 h).1
  | tank2 => exact (Bool.and_eq_true_iff.1 (Bool.and_eq_true_iff.1 h).1).1
  | enemy2 =>
    have h : s.isEnemy2Final drawX drawY = true := h
    rw [isEnemy2Final, ite_eq_iff] at h
    exact (h.resolve_right fun hn => Bool.noConfusion hn.2).2
  | enemy1 =>
    have h : s.isEnemy1Final drawX drawY = true := h
    rw [isEnemy1Final, ite_eq_iff] at h
    exact (h.resolve_right fun hn => Bool.noConfusion hn.2).2

theorem bodyAt_lt (l : Layer) (h : (s.spPorts drawX drawY).body l = true) :
    (s.spPorts drawX drawY).bodyAt l < romDepth := by
  have hbody := isBody_of_body h
  cases l with
  | tank1 => exact bodyAddr_lt hbody .tank1 _
  | tank2 => exact bodyAddr_lt hbody .tank2 _
  | enemy2 => exact bodyAddr_lt hbody .enemy2 _
  | enemy1 => exact bodyAddr_lt hbody .enemy1 _

theorem boomAt_lt_iff (l : Layer) (h : (s.spPorts drawX drawY).boom l = true) :
    (s.spPorts drawX drawY).boomAt l < romDepth ↔ ¬ drawY < (s.explosion l).yPos := by
  cases l <;> exact Bullet.boomAddr_lt_iff (Bool.and_eq_true_iff.1 h).2

/-- An object that is taken is addressed in the sheet unless it is an explosion seen above its
centre. -/
theorem layerAddr_lt_iff {l : Layer} (h : (s.spPorts drawX drawY).taken l = true) :
    (s.spPorts drawX drawY).layerAddr l < romDepth ↔
      ¬ ((s.spPorts drawX drawY).boom l = true ∧ drawY < (s.explosion l).yPos) := by
  have hne : (s.spPorts drawX drawY).body l ≠ (s.spPorts drawX drawY).boom l := by
    simpa only [SpPorts.taken, bne_iff_ne] using h
  rw [SpPorts.layerAddr]
  split
  case isTrue hb =>
    refine iff_of_true (bodyAt_lt l hb) fun hn => hne ?_
    rw [hb, hn.1]
  case isFalse hb =>
    have hboom : (s.spPorts drawX drawY).boom l = true := by
      cases hbm : (s.spPorts drawX drawY).boom l
      · exact absurd ((Bool.eq_false_iff.2 hb).trans hbm.symm) hne
      · rfl
    rw [and_iff_right hboom]
    exact boomAt_lt_iff l hboom

theorem spAddrLookup_lt_iff (hx : drawX < 640) (hy : drawY < 480) :
    (s.spPorts drawX drawY).spAddrLookup < romDepth ↔ ¬ s.Outside drawX drawY := by
  rw [SpPorts.spAddrLookup, Outside]
  cases (s.spPorts drawX drawY).endBranch with
  | some b => exact endAddr_lt_iff s hx hy b
  | none =>
    simp only [SpPorts.playAddr_eq]
    cases ht : (s.spPorts drawX drawY).topLayer with
    | some l => exact layerAddr_lt_iff (List.find?_some ht)
    | none => exact backAddr_lt_iff s

end Sys

/-- **A sprite is read from the sheet** if and only if the pixel is not painted from one of the
three kinds of places outside. -/
theorem sprite_in_rom_iff (s : Sys) {drawX drawY : Coord} (hx : drawX < 640) (hy : drawY < 480) :
    (s.PaintsSprite drawX drawY → (s.spPorts drawX drawY).spAddrLookup < romDepth) ↔
      ¬ (s.PaintsSprite drawX drawY ∧ s.Outside drawX drawY) := by
  rw [Sys.spAddrLookup_lt_iff hx hy, not_and]

/-- One player, in the enemy menu. -/
def choosing : Run := runOf fun n => press ([0x28, 0x28, 0].getD n 0) false

theorem sprite_in_rom_iff_choosing :
    ((choosing.state 3).PaintsSprite 600 477 →
        ((choosing.state 3).spPorts 600 477).spAddrLookup < romDepth) ↔
      ¬ ((choosing.state 3).PaintsSprite 600 477 ∧ (choosing.state 3).Outside 600 477) :=
  sprite_in_rom_iff (choosing.state 3) (by decide) (by decide)

/-- The last row of the counter in the enemy menu is painted from row 240 of the sheet, below its
last row. -/
theorem below_sheet :
    ¬ ∀ (R : Run) (n : ℕ) (drawX drawY : Coord), drawX < 640 → drawY < 480 →
      (R.state n).PaintsSprite drawX drawY →
        ((R.state n).spPorts drawX drawY).spAddrLookup < romDepth := by
  intro h
  have haddr : ((choosing.state 3).spPorts 600 478).spAddrLookup = 77078 := by decide +kernel
  have := h choosing 3 600 478 (by decide) (by decide) (by decide +kernel)
  rw [haddr] at this
  exact absurd this (by decide)

end TankBattle
