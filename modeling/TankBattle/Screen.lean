import TankBattle.Lab8

/-!
# What the beam reads (`lab8.sv`)

The pixel signals of the tanks, enemies, bullets and explosions, with the gates that `lab8` puts
on them, the hearts of `heart.sv` and `heart2p.sv`, the ports of `sp_addr_lookup` and the choice of
`code`.  All of it is combinational: a function of the registers and of the pixel
`(drawX, drawY)`.
-/

namespace TankBattle

/-- One heart of a row: lit if at least `least` lives remain. -/
def heart (enable : Bool) (lives least : BitVec 6) (left top drawX drawY : Coord) : Bool :=
  decide (left ≤ drawX) && decide (drawX < left + 20) && decide (top ≤ drawY) &&
    decide (drawY < top + 20) && decide (least ≤ lives) && enable

/-- The five hearts of a row. -/
def heartRow (enable : Bool) (lives : BitVec 6) (top drawX drawY : Coord) : Bool :=
  heart enable lives 1 510 top drawX drawY || heart enable lives 2 530 top drawX drawY ||
    heart enable lives 3 550 top drawX drawY || heart enable lives 4 570 top drawX drawY ||
    heart enable lives 5 590 top drawX drawY

/-- What `code` is taken from. -/
inductive Code
  | bg_data
  | str_data
  | heart_code
  | heart_code2
  | en_data
  | end_data
  | black
  deriving DecidableEq

namespace Sys

variable (s : Sys) (drawX drawY : Coord)

/-- `is_tank_final`. -/
def isTankFinal : Bool := isBody s.tank1.xPos s.tank1.yPos drawX drawY && s.mode == 2

/-- `is_tank_final2`. -/
def isTankFinal2 : Bool :=
  isBody s.tank2.xPos s.tank2.yPos drawX drawY && s.mode == 2 && s.twoPlayersMode

/-- `is_enemy1_final`. -/
def isEnemy1Final : Bool :=
  if (s.enNum = 1 ∨ s.enNum = 2) ∧ s.mode = 2 ∧ s.enable1 = true then
    isBody s.enemy1.xPos s.enemy1.yPos drawX drawY
  else false

/-- `is_enemy2_final`. -/
def isEnemy2Final : Bool :=
  if s.enNum = 2 ∧ s.mode = 2 ∧ s.enable12 = true then
    isBody s.enemy2.xPos s.enemy2.yPos drawX drawY
  else false

/-- `is_boom`, which `bullets1` gates with `mode`. -/
def isBoom : Bool := s.bullets1.isBoom (s.mode == 2) drawX drawY

/-- `is_boom2`, which has no gate. -/
def isBoom2 : Bool := s.bullets2.isBoom true drawX drawY

/-- `is_bullet_en1`. -/
def isBulletEn1 : Bool := s.enemy1.bullet.isBullet s.enable1 drawX drawY

/-- `is_boom_en1`. -/
def isBoomEn1 : Bool := s.enemy1.bullet.isBoom s.enable1 drawX drawY

/-- `is_bullet_en2`. -/
def isBulletEn2 : Bool := s.enemy2.bullet.isBullet s.enable12 drawX drawY

/-- `is_boom_en2`. -/
def isBoomEn2 : Bool := s.enemy2.bullet.isBoom s.enable12 drawX drawY

/-- The twenty bits of `DistX` that the tanks and enemies put out. -/
def distOut (draw own : Coord) : BitVec 20 := (zext draw - zext own).setWidth 20

/-- The wiring of `sal`. -/
def spPorts : SpPorts where
  isOneTank := s.selector.isOneTank drawX drawY
  areTwoTanks := s.selector.areTwoTanks drawX drawY
  isTankFinal := s.isTankFinal drawX drawY
  isTankFinal2 := s.isTankFinal2 drawX drawY
  isEnemy1Final := s.isEnemy1Final drawX drawY
  isEnemy2Final := s.isEnemy2Final drawX drawY
  enTank := EnDraw.enTank s.enState drawX drawY
  enCount := EnDraw.enCount s.enState drawX drawY
  enNumber := EnDraw.enNumber s.enState drawX drawY
  isEnnumber := s.enDraw.isEnnumber s.enState drawX drawY
  isBoom := s.isBoom drawX drawY
  isBoom2 := s.isBoom2 drawX drawY
  isBoomEn1 := s.isBoomEn1 drawX drawY
  isBoomEn2 := s.isBoomEn2 drawX drawY
  isPlayer1 := TankBattle.isPlayer1 s.gameMode drawX drawY
  isPlayer2 := TankBattle.isPlayer2 s.gameMode drawX drawY
  isPlayerEn2 := TankBattle.isPlayerEn2 s.gameMode s.enNum drawX drawY
  onePlayerMode := s.onePlayerMode
  isTankOut := s.tank1.isTankDir
  isTankOut2 := s.tank2.isTankDir
  isEnemy1Out := s.enemy1.isEnemyOut
  isEnemy2Out := s.enemy2.isEnemyOut
  mode := s.mode
  playerLives := s.playerLives
  enemy1Lives := s.enemy1Lives
  enemy2Lives := s.enemy2Lives
  player1Lives := s.player1Lives
  player2Lives := s.player2Lives
  drawX := drawX
  drawY := drawY
  distX := distOut drawX s.tank1.xPos
  distY := distOut drawY s.tank1.yPos
  distX2 := distOut drawX s.tank2.xPos
  distY2 := distOut drawY s.tank2.yPos
  enemy1DisX := distOut drawX s.enemy1.xPos
  enemy1DisY := distOut drawY s.enemy1.yPos
  enemy2DisX := distOut drawX s.enemy2.xPos
  enemy2DisY := distOut drawY s.enemy2.yPos
  distXBoom := s.bullets1.distXBoom drawX
  distYBoom := s.bullets1.distYBoom drawY
  distXBoom2 := s.bullets2.distXBoom drawX
  distYBoom2 := s.bullets2.distYBoom drawY
  distXBoomEn1 := s.enemy1.bullet.distXBoom drawX
  distYBoomEn1 := s.enemy1.bullet.distYBoom drawY
  distXBoomEn2 := s.enemy2.bullet.distXBoom drawX
  distYBoomEn2 := s.enemy2.bullet.distYBoom drawY
  enNum := s.enNum

/-- `is_heart` of `heart_mapper1`: the player, enemy 1 and enemy 2. -/
def isHeart : Bool :=
  let heartEnable := s.onePlayerMode && s.mode == 2
  heartRow heartEnable s.playerLives 220 drawX drawY ||
    heartRow heartEnable s.enemy1Lives 260 drawX drawY ||
    heartRow s.enable12 s.enemy2Lives 290 drawX drawY

/-- `is_heart2` of `heart_mapper_2p`. -/
def isHeart2 : Bool :=
  let heartEnable2 := s.twoPlayersMode && s.mode == 2
  heartRow heartEnable2 s.player1Lives 220 drawX drawY ||
    heartRow heartEnable2 s.player2Lives 260 drawX drawY

/-- `en_tank_final`. -/
def enTankFinal : Bool := EnDraw.enTank s.enState drawX drawY && s.mode == 1

/-- `code`. -/
def code : Code :=
  let p := s.spPorts drawX drawY
  if s.mode = 0 ∧ p.isOneTank = false ∧ p.areTwoTanks = false then .bg_data
  else if p.isOneTank || p.areTwoTanks || p.isTankFinal || p.enNumber ||
      s.enTankFinal drawX drawY || p.isEnnumber || p.enCount || p.isBoom || p.isBoom2 ||
      p.isTankFinal2 then .str_data
  else if p.isEnemy1Final || p.isEnemy2Final || p.isBoomEn1 || p.isBoomEn2 then .str_data
  else if s.isHeart drawX drawY then .heart_code
  else if s.isHeart2 drawX drawY then .heart_code2
  else if p.isPlayer1 || p.isPlayer2 || p.isPlayerEn2 then .str_data
  else if s.enState then .en_data
  else if s.mode = 3 then .end_data
  else .black

end Sys

end TankBattle
