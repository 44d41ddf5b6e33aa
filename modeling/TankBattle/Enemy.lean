import TankBattle.Wall

/-!
# The enemies (`enemy.sv`)

`enemy1` and `enemy2` differ in their start position and direction and in the right band of their
wall module.  The heading `idx` is chosen anew when the decision counter passes `2^24` and is
cleared a cycle after the heading is blocked; it has no reset.  The motion registers are non-zero
for one cycle only, the one after a frame pulse.
-/

namespace TankBattle

/-- The registers of `enemy1`, `enemy2`, with their `enemy_bullets`. -/
structure Enemy where
  edge : Edge
  xPos : Coord
  yPos : Coord
  xMotion : Coord
  yMotion : Coord
  isEnemyOut : Dir
  idx : BitVec 3
  counter : BitVec 26
  bullet : Bullet
  deriving DecidableEq

/-- What differs between `enemy1` and `enemy2`. -/
structure EnemyConfig where
  xStart : Coord
  yStart : Coord
  dirStart : Dir
  near : Coord → Coord → Coord → Coord → Stops

/-- `enemy1` with `enemy_wall`. -/
def enemy1Config : EnemyConfig := ⟨458, 23, .left, nearStops⟩

/-- `enemy2` with `enemy_wall2`. -/
def enemy2Config : EnemyConfig := ⟨23, 23, .right, nearStops2⟩

/-- The pins of an enemy module. -/
structure EnemyPins where
  playerX : Coord
  playerY : Coord
  enable : Bool
  enableOther : Bool
  otherX : Coord
  otherY : Coord

namespace Enemy

/-- The four stop signals of the enemy's wall module. -/
def stops (c : EnemyConfig) (p : EnemyPins) (e : Enemy) : Stops :=
  enemyWallStops c.near e.xPos e.yPos p.playerX p.playerY p.enable p.enableOther p.otherX p.otherY

/-- `stop_bullet`. -/
def stopBullet (p : EnemyPins) (e : Enemy) : Bool :=
  enemyWallStopBullet p.enable e.bullet p.playerX p.playerY

/-- `player_hit`. -/
def playerHit (p : EnemyPins) (e : Enemy) : Bool :=
  enemyWallPlayerHit p.enable e.bullet p.playerX p.playerY

/-- The eight muzzle coordinates as `enb1` and `enb2` are wired: `Down_mid_Y` of the bullet
machine is connected to `Right_mid_Y`. -/
def mids (e : Enemy) : Mids :=
  let m := midsOf e.xPos e.yPos
  { m with downY := m.rightY }

/-- `playerX + 2 >= X && playerX - 2 <= X`, in 32 bits, unsigned. -/
def aligned (player own : Coord) : Bool :=
  decide (zext own ≤ zext player + 2) && decide (zext player - 2 ≤ zext own)

/-- The direction of an enemy that stands still at a frame pulse. -/
def facing (p : EnemyPins) (e : Enemy) : Dir :=
  let vertical :=
    if aligned p.playerX e.xPos then
      if e.yPos < p.playerY then .down else if p.playerY < e.yPos then .up else e.isEnemyOut
    else e.isEnemyOut
  if aligned p.playerY e.yPos then
    if e.xPos < p.playerX then .right else if p.playerX < e.xPos then .left else vertical
  else vertical

/-- `X_Motion_in`, `Y_Motion_in`, `is_enemy_in` of a frame pulse. -/
def motionIn (p : EnemyPins) (e : Enemy) : Coord × Coord × Dir :=
  if e.idx = 0 then (0, 0, e.facing p)
  else if e.idx = 2 then (0, if 22 < e.yPos then ~~~1 + 1 else 0, .up)
  else if e.idx = 4 then (0, if e.yPos + size < 478 then 1 else 0, .down)
  else if e.idx = 3 then (if 2 < e.xPos then ~~~1 + 1 else 0, 0, .left)
  else if e.idx = 1 then (if e.xPos + size < 476 then 1 else 0, 0, .right)
  else (0, 0, e.isEnemyOut)

/-- The square of a difference of 20-bit words, in the 32-bit context of the `int` targets. -/
def sq (d : BitVec 32) : BitVec 32 := d * d

/-- The value of a distance to a direction that is not open. -/
def blocked : BitVec 32 := 0b11111111111111111111

/-- `res_right`. -/
def resRight (stop : Stops) (p : EnemyPins) (e : Enemy) : BitVec 32 :=
  if stop.right = true ∨ 476 ≤ e.xPos then blocked
  else sq (zext e.xPos + 2 - zext p.playerX) + sq (zext e.yPos - zext p.playerY)

/-- `res_up`. -/
def resUp (stop : Stops) (p : EnemyPins) (e : Enemy) : BitVec 32 :=
  if stop.up = true ∨ e.yPos ≤ 22 then blocked
  else sq (zext e.xPos - zext p.playerX) + sq (zext e.yPos - 2 - zext p.playerY)

/-- `res_left`. -/
def resLeft (stop : Stops) (p : EnemyPins) (e : Enemy) : BitVec 32 :=
  if stop.left = true ∨ e.xPos ≤ 2 then blocked
  else sq (zext e.xPos - 2 - zext p.playerX) + sq (zext e.yPos - zext p.playerY)

/-- `res_down`. -/
def resDown (stop : Stops) (p : EnemyPins) (e : Enemy) : BitVec 32 :=
  if stop.down = true ∨ 478 ≤ e.yPos then blocked
  else sq (zext e.xPos - zext p.playerX) + sq (zext e.yPos + 2 - zext p.playerY)

/-- `idx_in`.  The distances are compared with `20'd900` unsigned and with one another signed. -/
def idxIn (stop : Stops) (p : EnemyPins) (e : Enemy) : BitVec 3 :=
  let r := e.resRight stop p
  let u := e.resUp stop p
  let l := e.resLeft stop p
  let d := e.resDown stop p
  if r < 900 ∨ u < 900 ∨ l < 900 ∨ d < 900 then
    if aligned p.playerX e.xPos || aligned p.playerY e.yPos then 0 else e.idx
  else if r.sle u && r.sle l && r.sle d then 1
  else if u.sle r && u.sle d && u.sle l then 2
  else if l.sle r && l.sle d && l.sle u then 3
  else if d.sle r && d.sle u && d.sle l then 4
  else e.idx

/-- The value `2^24` at which `idx` is chosen. -/
def decisionCount : BitVec 26 := 0b01000000000000000000000000

/-- The next `idx`: chosen, cleared or kept. -/
def nextIdx (stop : Stops) (p : EnemyPins) (e : Enemy) : BitVec 3 :=
  if e.counter = decisionCount then e.idxIn stop p
  else if e.idx = 1 ∧ stop.right = true ∨ e.idx = 2 ∧ stop.up = true ∨
      e.idx = 3 ∧ stop.left = true ∨ e.idx = 4 ∧ stop.down = true then 0
  else e.idx

/-- `counter_in`: modulo `2^24 + 2`. -/
def counterIn (e : Enemy) : BitVec 26 :=
  if e.counter = decisionCount + 1 then 0 else e.counter + 1

/-- One clock edge of an enemy module. -/
def step (c : EnemyConfig) (reset frameClk : Bool) (p : EnemyPins) (e : Enemy) : Enemy :=
  let pulse := e.edge.rising
  { edge := e.edge.step frameClk
    xPos := if reset then c.xStart else e.xPos + e.xMotion
    yPos := if reset then c.yStart else e.yPos + e.yMotion
    xMotion := if reset then 0 else if pulse then (e.motionIn p).1 else 0
    yMotion := if reset then 0 else if pulse then (e.motionIn p).2.1 else 0
    isEnemyOut := if reset then c.dirStart else if pulse then (e.motionIn p).2.2 else e.isEnemyOut
    idx := e.nextIdx (e.stops c p) p
    counter := if reset then 0 else e.counterIn
    bullet := enemyBullets reset frameClk (e.stopBullet p) e.isEnemyOut e.mids e.bullet }

end Enemy

end TankBattle
