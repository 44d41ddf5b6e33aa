import TankBattle.Tank

/-!
# The sprite address (`sp_addr_lookup.sv`)

For each pixel `sp_addr_lookup` computes an address in the sprite sheets, in 20-bit arithmetic,
by overwriting `Addr_out` object by object.  On the end screen the last chain of conditions
overwrites all of them; `endBranch` says which branch of it is taken, if any.
-/

namespace TankBattle

/-- The input ports of `sp_addr_lookup`. -/
structure SpPorts where
  isOneTank : Bool
  areTwoTanks : Bool
  isTankFinal : Bool
  isTankFinal2 : Bool
  isEnemy1Final : Bool
  isEnemy2Final : Bool
  enTank : Bool
  enCount : Bool
  enNumber : Bool
  isEnnumber : Bool
  isBoom : Bool
  isBoom2 : Bool
  isBoomEn1 : Bool
  isBoomEn2 : Bool
  isPlayer1 : Bool
  isPlayer2 : Bool
  isPlayerEn2 : Bool
  onePlayerMode : Bool
  isTankOut : Dir
  isTankOut2 : Dir
  isEnemy1Out : Dir
  isEnemy2Out : Dir
  mode : BitVec 2
  playerLives : BitVec 6
  enemy1Lives : BitVec 6
  enemy2Lives : BitVec 6
  player1Lives : BitVec 6
  player2Lives : BitVec 6
  drawX : Coord
  drawY : Coord
  distX : BitVec 20
  distY : BitVec 20
  distX2 : BitVec 20
  distY2 : BitVec 20
  enemy1DisX : BitVec 20
  enemy1DisY : BitVec 20
  enemy2DisX : BitVec 20
  enemy2DisY : BitVec 20
  distXBoom : BitVec 20
  distYBoom : BitVec 20
  distXBoom2 : BitVec 20
  distYBoom2 : BitVec 20
  distXBoomEn1 : BitVec 20
  distYBoomEn1 : BitVec 20
  distXBoomEn2 : BitVec 20
  distYBoomEn2 : BitVec 20
  enNum : BitVec 4

namespace SpPorts

/-- `DrawX_ext`. -/
def drawXExt (p : SpPorts) : BitVec 20 := p.drawX.setWidth 20

/-- `DrawY_ext`. -/
def drawYExt (p : SpPorts) : BitVec 20 := p.drawY.setWidth 20

/-- `DrawX_shf`. -/
def drawXShf (p : SpPorts) : BitVec 20 := p.drawXExt >>> 2

/-- `DrawY_shf`. -/
def drawYShf (p : SpPorts) : BitVec 20 := p.drawYExt >>> 2

/-- The offset of a tank's sprite for its direction. -/
def dirOffset : Dir → BitVec 20
  | .right => 0
  | .up => 37
  | .left => 91
  | .down => 110

/-- The two branches of one object: its body without an explosion, or its explosion without the
body; with both or neither `old` stays. -/
def objectAddr (body boom : Bool) (bodyAddr boomAddr old : BitVec 20) : BitVec 20 :=
  if body && !boom then bodyAddr else if !body && boom then boomAddr else old

/-- The address of a body's sprite that starts in row `row` of the sheet. -/
def bodyAddr (row distX distY : BitVec 20) (dir : Dir) : BitVec 20 :=
  (distY + row) * 320 + distX + dirOffset dir

/-- The address of an explosion. -/
def boomAddr (distX distY : BitVec 20) : BitVec 20 := (distY + 183) * 320 + distX + 19

/-- The addresses of the menus: the marker of the mode, then the objects of the enemy menu. -/
def menuAddr (p : SpPorts) : BitVec 20 :=
  let a :=
    if p.isOneTank then (p.drawYExt - 285 + 155) * 320 + (p.drawXExt - 195)
    else if p.areTwoTanks then (p.drawYExt - 315 + 155) * 320 + (p.drawXExt - 195)
    else 0
  if p.enTank then (p.drawYExt - 458 + 155) * 320 + (p.drawXExt - 2)
  else if p.enCount then (p.drawYExt - 428 + 190) * 320 + (p.drawXExt - 567 + 245)
  else if p.enNumber then (p.drawYExt - 442 + 201) * 320 + (p.drawXExt - 408)
  else if p.isEnnumber then
    if p.enNum = 0 then (p.drawYExt - 416) * 320 + (p.drawXExt - 414 + 114)
    else if p.enNum = 1 then (p.drawYExt - 416) * 320 + (p.drawXExt - 426 + 114)
    else if p.enNum = 2 then (p.drawYExt - 416) * 320 + (p.drawXExt - 438 + 114)
    else a
  else a

/-- The addresses of the icons beside the field. -/
def iconAddr (p : SpPorts) (old : BitVec 20) : BitVec 20 :=
  if p.isPlayer1 then (p.drawYExt - 190 + 155) * 320 + (p.drawXExt - 510)
  else if p.isPlayer2 then (p.drawYExt - 310) * 320 + (p.drawXExt - 510)
  else if p.isPlayerEn2 then (p.drawYExt - 310 + 104) * 320 + (p.drawXExt - 530)
  else old

/-- `Addr_out` before the end screen: enemy 1, enemy 2, tank 2 and tank 1 over the rest. -/
def playAddr (p : SpPorts) : BitVec 20 :=
  let a := p.iconAddr p.menuAddr
  let a := objectAddr p.isEnemy1Final p.isBoomEn1
    (bodyAddr 0 p.enemy1DisX p.enemy1DisY p.isEnemy1Out) (boomAddr p.distXBoomEn1 p.distYBoomEn1) a
  let a := objectAddr p.isEnemy2Final p.isBoomEn2
    (bodyAddr 104 p.enemy2DisX p.enemy2DisY p.isEnemy2Out)
    (boomAddr p.distXBoomEn2 p.distYBoomEn2) a
  let a := objectAddr p.isTankFinal2 p.isBoom2
    (bodyAddr 0 p.distX2 p.distY2 p.isTankOut2) (boomAddr p.distXBoom2 p.distYBoom2) a
  objectAddr p.isTankFinal p.isBoom
    (bodyAddr 155 p.distX p.distY p.isTankOut) (boomAddr p.distXBoom p.distYBoom) a

end SpPorts

/-- The branches of the end-screen chain, in its order. -/
inductive EndBranch
  | noEnemy
  | enemy1
  | enemies
  | player
  | player1
  | player2
  deriving DecidableEq

namespace SpPorts

/-- The branch of the end-screen chain that is taken. -/
def endBranch (p : SpPorts) : Option EndBranch :=
  if p.mode = 3 ∧ p.enNum = 0 ∧ p.onePlayerMode = true then some .noEnemy
  else if p.enemy1Lives = 0 ∧ p.mode = 3 ∧ p.enNum = 1 then some .enemy1
  else if p.enemy1Lives.setWidth 32 + p.enemy2Lives.setWidth 32 = 0#32 ∧ p.mode = 3 ∧ p.enNum = 2
    then some .enemies
  else if p.playerLives = 0 ∧ p.mode = 3 then some .player
  else if p.player1Lives = 0 ∧ p.mode = 3 then some .player1
  else if p.player2Lives = 0 ∧ p.mode = 3 then some .player2
  else none

/-- The address of a branch of the end-screen chain. -/
def endAddr (p : SpPorts) : EndBranch → BitVec 20
  | .noEnemy | .enemy1 | .enemies => p.drawYShf * 320 + p.drawXShf
  | .player => (p.drawYShf + 120) * 320 + (p.drawXShf + 170)
  | .player1 => (p.drawYShf + 120) * 320 + (p.drawXShf + 10)
  | .player2 => p.drawYShf * 320 + (p.drawXShf + 173)

/-- `sp_addr_lookup`. -/
def spAddrLookup (p : SpPorts) : BitVec 20 :=
  match p.endBranch with
  | some b => p.endAddr b
  | none => p.playAddr

end SpPorts

end TankBattle
