import TankBattle.Tank

/-!
# The bullet machines (`bullets.sv`, `bullets2.sv`, `enemy_bullets`)

One machine with three conditions for firing: a key, a key in a two-player game, and always.  In
`NOBULLET` the position is reloaded from the muzzle in every cycle; `BULLET` is the flight,
`BULLET_BOOM` the explosion of `15 * 2^18 + 1` cycles, and `BOOM_WAIT` the cycle after it.
-/

namespace TankBattle

/-- The states of a bullet machine. -/
inductive BulletState
  | NOBULLET
  | NOBULLET_WAIT
  | BULLET_LOAD
  | BULLET
  | BULLET_WAIT
  | BULLET_BOOM
  | BOOM_WAIT
  deriving DecidableEq

/-- The registers of a bullet machine. -/
structure Bullet where
  state : BulletState
  edge : Edge
  xPos : Coord
  yPos : Coord
  xMotion : Coord
  yMotion : Coord
  counter : BitVec 26
  bCounter : BitVec 26
  isBulletOut : Dir
  deriving DecidableEq

namespace Bullet

/-- The flight is abandoned after `3 * 2^23` cycles. -/
def flightLimit : BitVec 26 := 0b01100000000000000000000000

/-- The explosion is over after `15 * 2^18` cycles. -/
def boomLimit : BitVec 26 := 0b00001111000000000000000000

theorem boomLimit_toNat : boomLimit.toNat = 15 * 2 ^ 18 := rfl

/-- `draw_bullet`. -/
def drawBullet (b : Bullet) : Bool := b.state == .BULLET

/-- `draw_boom`. -/
def drawBoom (b : Bullet) : Bool := b.state == .BULLET_BOOM

/-- `bullet_load`: low in the flight and in the explosion. -/
def bulletLoad (b : Bullet) : Bool := !(b.state == .BULLET) && !(b.state == .BULLET_BOOM)

/-- `Bullet_X_Start`, `Bullet_Y_Start`. -/
def muzzle (m : Mids) : Dir → Coord × Coord
  | .right => (m.rightX, m.rightY)
  | .up => (m.upX, m.upY)
  | .left => (m.leftX, m.leftY)
  | .down => (m.downX, m.downY)

/-- `Bullet_X_Motion_in`, `Bullet_Y_Motion_in`: six pixels in the given direction. -/
def motionIn : Dir → Coord × Coord
  | .right => (6, 0)
  | .up => (0, ~~~6 + 1)
  | .left => (~~~6 + 1, 0)
  | .down => (0, 6)

/-- The bullet is inside the border and nothing stops it. -/
def free (stopBullet : Bool) (b : Bullet) : Bool :=
  decide (b.xPos + 3 < 478) && decide (2 < b.xPos) && decide (b.yPos + 3 < 478) &&
    decide (20 < b.yPos) && !stopBullet

/-- `interrupt`. -/
def interrupt (stopBullet : Bool) (b : Bullet) : Bool :=
  b.edge.rising && b.drawBullet && !b.free stopBullet

/-- The state machine; `fire` is the condition for leaving `NOBULLET`. -/
def nextState (fire stopBullet : Bool) (b : Bullet) : BulletState :=
  match b.state with
  | .NOBULLET => if fire then .NOBULLET_WAIT else .NOBULLET
  | .NOBULLET_WAIT => .BULLET
  | .BULLET_LOAD => .BULLET
  | .BULLET =>
      if b.counter = flightLimit then .BULLET_WAIT
      else if b.interrupt stopBullet then .BULLET_BOOM else .BULLET
  | .BULLET_WAIT => .NOBULLET
  | .BULLET_BOOM => if b.bCounter = boomLimit then .BOOM_WAIT else .BULLET_BOOM
  | .BOOM_WAIT => .NOBULLET

/-- `counter_in`. -/
def counterIn (b : Bullet) : BitVec 26 := if b.state = .BULLET then b.counter + 1 else 0

/-- `b_counter_in`. -/
def bCounterIn (b : Bullet) : BitVec 26 := if b.state = .BULLET_BOOM then b.bCounter + 1 else 0

/-- `is_bullet_out_in`: the direction is latched while there is no bullet. -/
def isBulletOutIn (dir : Dir) (b : Bullet) : Dir :=
  if b.state = .NOBULLET ∨ b.state = .NOBULLET_WAIT then dir else b.isBulletOut

/-- `Bullet_X_Pos_in`, `Bullet_Y_Pos_in`. -/
def posIn (stopBullet : Bool) (b : Bullet) : Coord × Coord :=
  if b.edge.rising && b.drawBullet && b.free stopBullet then
    (b.xPos + b.xMotion, b.yPos + b.yMotion)
  else (b.xPos, b.yPos)

/-- One clock edge of a bullet machine. -/
def step (fire reset frameClk stopBullet : Bool) (dir : Dir) (m : Mids) (b : Bullet) : Bullet where
  state := if reset then .NOBULLET else b.nextState fire stopBullet
  edge := b.edge.step frameClk
  xPos := if reset || b.bulletLoad then (muzzle m b.isBulletOut).1 else (b.posIn stopBullet).1
  yPos := if reset || b.bulletLoad then (muzzle m b.isBulletOut).2 else (b.posIn stopBullet).2
  xMotion := if reset || b.bulletLoad then (motionIn b.isBulletOut).1 else b.xMotion
  yMotion := if reset || b.bulletLoad then (motionIn b.isBulletOut).2 else b.yMotion
  counter := if reset then 0 else b.counterIn
  bCounter := if reset then 0 else b.bCounterIn
  isBulletOut := if reset then .right else b.isBulletOutIn dir

/-! ### Pixels -/

/-- `DistX`. -/
def distX (b : Bullet) (drawX : Coord) : BitVec 32 := zext drawX - zext b.xPos

/-- `DistY`. -/
def distY (b : Bullet) (drawY : Coord) : BitVec 32 := zext drawY - zext b.yPos

/-- The pixel is at most three pixels away from the bullet. -/
def isDisc (b : Bullet) (drawX drawY : Coord) : Bool :=
  (b.distX drawX * b.distX drawX + b.distY drawY * b.distY drawY).sle (3 * 3)

/-- The pixel is in the square of the explosion. -/
def isSquare (b : Bullet) (drawX drawY : Coord) : Bool :=
  (-9 : BitVec 32).sle (b.distX drawX) && (b.distX drawX).slt 9 &&
    (-9 : BitVec 32).sle (b.distY drawY) && (b.distY drawY).slt 9

/-- `is_bullet`; `shown` is the module's own gate. -/
def isBullet (shown : Bool) (b : Bullet) (drawX drawY : Coord) : Bool :=
  shown && b.drawBullet && b.isDisc drawX drawY

/-- `is_boom`. -/
def isBoom (shown : Bool) (b : Bullet) (drawX drawY : Coord) : Bool :=
  shown && b.drawBoom && b.isSquare drawX drawY

/-- `Dist_X_boom`: the low ten bits of `DistX`. -/
def distXBoom (b : Bullet) (drawX : Coord) : BitVec 20 :=
  ((b.distX drawX).setWidth 10).setWidth 20

/-- `Dist_Y_boom`. -/
def distYBoom (b : Bullet) (drawY : Coord) : BitVec 20 :=
  ((b.distY drawY).setWidth 10).setWidth 20

end Bullet

/-- `bullets1`: fires on the key c. -/
def bullets1 (reset frameClk stopBullet : Bool) (keycode : BitVec 32) (dir : Dir) (m : Mids)
    (b : Bullet) : Bullet :=
  b.step (keyOn keycode 0x06) reset frameClk stopBullet dir m

/-- `bullets2`: fires on the key h when there are two players. -/
def bullets2 (twoPlayersMode reset frameClk stopBullet : Bool) (keycode : BitVec 32) (dir : Dir)
    (m : Mids) (b : Bullet) : Bullet :=
  b.step (keyOn keycode 0x0b && twoPlayersMode) reset frameClk stopBullet dir m

/-- `enemy_bullets`: always fires. -/
def enemyBullets (reset frameClk stopBullet : Bool) (dir : Dir) (m : Mids) (b : Bullet) : Bullet :=
  b.step true reset frameClk stopBullet dir m

end TankBattle
