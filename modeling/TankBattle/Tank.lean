import TankBattle.Letters

/-!
# The players' tanks (`ball.sv`, `tank2.sv`)

`tank1` and `tank2` are two copies of one machine with different key codes, start positions and
conditions for leaving `FIRST`.  `Tank.step` is the machine of `ball.sv` with these as parameters
(`TankConfig`); `tank2` is written out from its own file, and `tank2_eq` relates the two.

The position registers are advanced at a frame pulse by the motion *registers*, while the same
pulse loads the motion registers from the keys and the stop signals at the old position: a step is
taken one frame after it was decided.
-/

namespace TankBattle

/-- The four bytes of the key code word. -/
def keyByte (keycode : BitVec 32) (j : ℕ) : BitVec 8 := keycode.extractLsb' (8 * j) 8

/-- The key with code `k` is down: it is in one of the four bytes. -/
def keyOn (keycode : BitVec 32) (k : BitVec 8) : Bool :=
  keyByte keycode 3 == k || keyByte keycode 2 == k || keyByte keycode 1 == k ||
    keyByte keycode 0 == k

/-- `00` right, `01` up, `10` left, `11` down. -/
inductive Dir
  | right
  | up
  | left
  | down
  deriving DecidableEq

instance : Fintype Dir := ⟨{.right, .up, .left, .down}, by rintro (_ | _ | _ | _) <;> decide⟩

/-- `frame_clk_delayed` and `frame_clk_rising_edge`. -/
structure Edge where
  delayed : Bool
  rising : Bool
  deriving DecidableEq

/-- The frame clock detector that every module has a copy of. -/
def Edge.step (frameClk : Bool) (e : Edge) : Edge := ⟨frameClk, frameClk && !e.delayed⟩

/-- The states of a tank's start-up machine. -/
inductive TankState
  | FIRST
  | FIRST_WAIT
  | OTHER
  deriving DecidableEq

/-- The registers of `tank1`, `tank2`. -/
structure Tank where
  state : TankState
  edge : Edge
  xPos : Coord
  yPos : Coord
  xMotion : Coord
  yMotion : Coord
  isTankDir : Dir
  deriving DecidableEq

/-- What differs between `tank1` and `tank2`. -/
structure TankConfig where
  xStart : Coord
  yStart : Coord
  upKey : BitVec 8
  downKey : BitVec 8
  leftKey : BitVec 8
  rightKey : BitVec 8

/-- `Ball_X_Start`, ..., and the keys w, s, a, d. -/
def tank1Config : TankConfig := ⟨2, 458, 0x1A, 0x16, 0x04, 0x07⟩

/-- `tank_X_Start`, ..., and the keys 8, i, u, o. -/
def tank2Config : TankConfig := ⟨2, 30, 0x25, 0x0c, 0x18, 0x12⟩

/-- `new_instance`: held high until the tank has seen all keys released. -/
def Tank.newInstance (t : Tank) : Bool := !(t.state == .OTHER)

/-- The start-up machine; `go` is the condition for leaving `FIRST`. -/
def Tank.nextState (go : Bool) (keycode : BitVec 32) (t : Tank) : TankState :=
  match t.state with
  | .FIRST => if go then .FIRST_WAIT else .FIRST
  | .FIRST_WAIT => if keycode = 0 then .OTHER else .FIRST_WAIT
  | .OTHER => .OTHER

/-- The motion and direction that the keys ask for, at the present position: `X_Motion_in`,
`Y_Motion_in`, `is_tank_in` of a frame pulse. -/
def Tank.motionIn (c : TankConfig) (keycode : BitVec 32) (stop : Stops) (t : Tank) :
    Coord × Coord × Dir :=
  let upOn := keyOn keycode c.upKey
  let downOn := keyOn keycode c.downKey
  let leftOn := keyOn keycode c.leftKey
  let rightOn := keyOn keycode c.rightKey
  if !upOn && !leftOn && !downOn && !rightOn then (0, 0, t.isTankDir)
  else if upOn then
    (0, if 22 < t.yPos ∧ stop.up = false then ~~~2 + 1 else 0, .up)
  else if downOn then
    (0, if t.yPos + size < 478 ∧ stop.down = false then 2 else 0, .down)
  else if leftOn then
    (if 2 < t.xPos ∧ stop.left = false then ~~~2 + 1 else 0, 0, .left)
  else
    (if t.xPos + size < 476 ∧ stop.right = false then 2 else 0, 0, .right)

/-- One clock edge of a tank. -/
def Tank.step (c : TankConfig) (go reset frameClk : Bool) (keycode : BitVec 32) (stop : Stops)
    (t : Tank) : Tank :=
  let state := if reset then .FIRST else t.nextState go keycode
  let edge := t.edge.step frameClk
  if reset || t.newInstance then ⟨state, edge, c.xStart, c.yStart, 0, 2, .right⟩
  else if t.edge.rising then
    let (xMotionIn, yMotionIn, isTankIn) := t.motionIn c keycode stop
    ⟨state, edge, t.xPos + t.xMotion, t.yPos + t.yMotion, xMotionIn, yMotionIn, isTankIn⟩
  else { t with state := state, edge := edge }

/-- `tank1`. -/
def tank1 (reset frameClk : Bool) (keycode : BitVec 32) (stop : Stops) (t : Tank) : Tank :=
  t.step tank1Config true reset frameClk keycode stop

/-! ### `tank2`

The keys and limits of `tank2.sv`, as they stand there. -/

/-- The start-up machine of `tank2`, which stays in `FIRST` until there are two players. -/
def Tank.nextState2 (twoPlayersMode : Bool) (keycode : BitVec 32) (t : Tank) : TankState :=
  match t.state with
  | .FIRST => if !twoPlayersMode then .FIRST else .FIRST_WAIT
  | .FIRST_WAIT => if keycode = 0 then .OTHER else .FIRST_WAIT
  | .OTHER => .OTHER

/-- `tank_X_Motion_in`, `tank_Y_Motion_in`, `is_tank_in` of a frame pulse. -/
def Tank.motionIn2 (keycode : BitVec 32) (stop : Stops) (t : Tank) : Coord × Coord × Dir :=
  let uOn := keyOn keycode 0x25
  let lOn := keyOn keycode 0x18
  let dOn := keyOn keycode 0x0c
  let rOn := keyOn keycode 0x12
  let allOff := !uOn && !lOn && !dOn && !rOn
  if allOff then (0, 0, t.isTankDir)
  else if uOn then
    if 22 < t.yPos ∧ stop.up = false then (0, ~~~2 + 1, .up) else (0, 0, .up)
  else if dOn then
    if t.yPos + 19 < 478 ∧ stop.down = false then (0, 2, .down) else (0, 0, .down)
  else if lOn then
    if 2 < t.xPos ∧ stop.left = false then (~~~2 + 1, 0, .left) else (0, 0, .left)
  else if rOn then
    if t.xPos + 19 < 476 ∧ stop.right = false then (2, 0, .right) else (0, 0, .right)
  else (t.xMotion, t.yMotion, t.isTankDir)

/-- `tank2`. -/
def tank2 (twoPlayersMode reset frameClk : Bool) (keycode : BitVec 32) (stop : Stops) (t : Tank) :
    Tank :=
  let state := if reset then .FIRST else t.nextState2 twoPlayersMode keycode
  let newInstance := !(t.state == .OTHER)
  let edge := t.edge.step frameClk
  if reset || newInstance then ⟨state, edge, 2, 30, 0, 2, .right⟩
  else if t.edge.rising then
    let (tankXMotionIn, tankYMotionIn, isTankIn) := t.motionIn2 keycode stop
    ⟨state, edge, t.xPos + t.xMotion, t.yPos + t.yMotion, tankXMotionIn, tankYMotionIn, isTankIn⟩
  else ⟨state, edge, t.xPos, t.yPos, t.xMotion, t.yMotion, t.isTankDir⟩

theorem Tank.nextState2_eq (twoPlayersMode : Bool) (keycode : BitVec 32) (t : Tank) :
    t.nextState2 twoPlayersMode keycode = t.nextState twoPlayersMode keycode := by
  unfold nextState2 nextState
  cases t.state <;> cases twoPlayersMode <;> rfl

/-- The two chains of keys and limits take the same decisions. -/
theorem Tank.motionIn2_eq (keycode : BitVec 32) (stop : Stops) (t : Tank) :
    t.motionIn2 keycode stop = t.motionIn tank2Config keycode stop := by
  unfold motionIn2 motionIn tank2Config size
  dsimp only
  generalize keyOn keycode 0x25 = uOn
  generalize keyOn keycode 0x0c = dOn
  generalize keyOn keycode 0x18 = lOn
  generalize keyOn keycode 0x12 = rOn
  -- the last branch of `tank2` is never taken: without a key `all_off` is high
  cases uOn <;> cases dOn <;> cases lOn <;> cases rOn <;>
    simp only [Bool.not_false, Bool.not_true, Bool.and_true, Bool.and_false, Bool.false_eq_true,
      if_true, if_false] <;>
    split_ifs <;> rfl

/-- **`tank2` is `tank1`** with its own start, keys and condition for leaving `FIRST`. -/
theorem tank2_eq (twoPlayersMode reset frameClk : Bool) (keycode : BitVec 32) (stop : Stops)
    (t : Tank) : tank2 twoPlayersMode reset frameClk keycode stop t =
      t.step tank2Config twoPlayersMode reset frameClk keycode stop := by
  simp only [tank2, Tank.step, Tank.nextState2_eq, Tank.motionIn2_eq]
  rfl

/-- `Right_mid_X`, ..., `Down_mid_Y`: the middle of each edge, where bullets start. -/
structure Mids where
  rightX : Coord
  rightY : Coord
  upX : Coord
  upY : Coord
  leftX : Coord
  leftY : Coord
  downX : Coord
  downY : Coord

/-- The outputs `Right_mid_X`, ..., `Down_mid_Y` of a body at `(x, y)`. -/
def midsOf (x y : Coord) : Mids :=
  ⟨x + size, y + (size >>> 1), x + (size >>> 1), y, x, y + (size >>> 1), x + (size >>> 1), y + size⟩

/-- `DistX >= 0 && DistX < Size && DistY >= 0 && DistY < Size` in `int` arithmetic: the pixel
`(dx, dy)` belongs to the body at `(x, y)` (`is_tank`, `is_enemy1`, `is_enemy2`). -/
def isBody (x y drawX drawY : Coord) : Bool :=
  let distX := zext drawX - zext x
  let distY := zext drawY - zext y
  (0 : BitVec 32).sle distX && distX.slt (zext size) && (0 : BitVec 32).sle distY &&
    distY.slt (zext size)

/-- The unsigned comparison `ox <= x < ox + size`, `oy <= y < oy + size` by which the wall modules
decide that a bullet at `(x, y)` is inside a body at `(ox, oy)`. -/
def inBox (x y ox oy : Coord) : Bool :=
  decide (ox ≤ x) && decide (x < ox + size) && decide (oy ≤ y) && decide (y < oy + size)

end TankBattle
