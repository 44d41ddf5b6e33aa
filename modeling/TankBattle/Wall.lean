import TankBattle.Bullets

/-!
# Stops between bodies (`wall.sv`, `wall2.sv`, `enemy_wall.sv`)

Each body has a module that compares its position with those of the other bodies.  The bands are
compared in 32 bits, unsigned, wherever an `int` literal takes part.
-/

namespace TankBattle

/-- The tank-to-body stops of `wall` and `wall2`, and the enemy-to-enemy stops of `enemy_wall`: a
body at `(x, y)` is stopped in a band of four pixels around each edge of the body at
`(ox, oy)`. -/
def nearStops (x y ox oy : Coord) : Stops where
  right := decide (zext ox - 4 ≤ zext x + 19) && decide (zext x + 19 ≤ zext ox + 4) &&
    decide (oy ≤ y + size) && decide (y ≤ oy + size)
  up := decide (ox ≤ x + size) && decide (x ≤ ox + size) && decide (zext oy + 19 - 4 ≤ zext y) &&
    decide (zext y ≤ zext oy + 19 + 4)
  left := decide (zext ox + 19 - 4 ≤ zext x) && decide (zext x ≤ zext ox + 19 + 4) &&
    decide (oy ≤ y + size) && decide (y ≤ oy + size)
  down := decide (ox ≤ x + size) && decide (x ≤ ox + size) && decide (zext oy - 4 ≤ zext y + 19) &&
    decide (zext y + 19 ≤ zext oy + 4)

/-- The same in `enemy_wall2`, which stops a move to the right only up to contact. -/
def nearStops2 (x y ox oy : Coord) : Stops :=
  { nearStops x y ox oy with
    right := decide (zext ox - 4 ≤ zext x + 19) && decide (x + size ≤ ox) &&
      decide (oy ≤ y + size) && decide (y ≤ oy + size) }

/-- The stops that the player at `(px, py)` raises against an enemy at `(x, y)`. -/
def playerStops (x y px py : Coord) : Stops where
  right := decide (zext px - 1 ≤ zext x + 19) && decide (x + size ≤ px) && decide (py ≤ y + size) &&
    decide (y ≤ py + size)
  up := decide (px ≤ x + size) && decide (x ≤ px + size) && decide (zext py + 19 - 1 ≤ zext y) &&
    decide (zext y ≤ zext py + 19 + 1)
  left := decide (zext px + 19 - 1 ≤ zext x) && decide (zext x ≤ zext px + 19 + 1) &&
    decide (py ≤ y + size) && decide (y ≤ py + size)
  down := decide (px ≤ x + size) && decide (x ≤ px + size) && decide (zext py - 1 ≤ zext y + 19) &&
    decide (zext y + 19 ≤ zext py + 1)

/-- A block of stops behind an enable. -/
def Stops.gate (enable : Bool) (s : Stops) : Stops := if enable then s else .none

/-- A bullet that has neither a flight nor an explosion to draw. -/
def Bullet.idle (b : Bullet) : Bool := !b.drawBoom && !b.drawBullet

/-- The hit test of every wall module: a bullet inside the body, with `draw_boom` and
`draw_bullet` low. -/
def hits (b : Bullet) (x y : Coord) : Bool := inBox b.xPos b.yPos x y && b.idle

/-! ### `wall`: tank 1 and its bullet -/

/-- `stop_tank_right`, ..., `stop_tank_down` of `wall`. -/
def wallStops (x y enemy1X enemy1Y enemy2X enemy2Y ballx2 bally2 : Coord)
    (enable1 enable2 enable12 : Bool) : Stops :=
  (((nearStops x y enemy1X enemy1Y).gate enable1).or
    ((nearStops x y ballx2 bally2).gate enable2)).or
    (((nearStops x y enemy2X enemy2Y).gate enable12).or (letterStops x y))

/-- `stop_bullet` of `wall`. -/
def wallStopBullet (b : Bullet) (enemy1X enemy1Y enemy2X enemy2Y : Coord)
    (enable1 enable12 : Bool) : Bool :=
  bulletOnLetter b.xPos b.yPos (funcUp b.xPos) (funcDown b.xPos) ||
    enable1 && inBox b.xPos b.yPos enemy1X enemy1Y ||
    enable12 && inBox b.xPos b.yPos enemy2X enemy2Y

/-- `player_hit_en1` (with `enable1`) and `player_hit_en2` (with `enable12`). -/
def wallPlayerHit (enable : Bool) (b : Bullet) (enemyX enemyY : Coord) : Bool :=
  enable && hits b enemyX enemyY

/-- `stop_bullet2` of `wall`: the bullet of tank 2 is inside tank 1. -/
def wallStopBullet2 (enable2 : Bool) (x y bulletx2 bullety2 : Coord) : Bool :=
  enable2 && inBox bulletx2 bullety2 x y

/-- `player2_hit`. -/
def player2Hit (enable2 : Bool) (b : Bullet) (ballx2 bally2 : Coord) : Bool :=
  enable2 && hits b ballx2 bally2

/-! ### `wall2`: tank 2 and its bullet -/

/-- The stops of `wall2` against tank 1, in the order of the source; there is no enable. -/
def wall2BallStops (x y ballx bally : Coord) : Stops where
  right := decide (zext x + 19 ≥ zext ballx - 4) && decide (zext x + 19 ≤ zext ballx + 4) &&
    decide (y + size ≥ bally) && decide (y ≤ bally + size)
  up := decide (x + size ≥ ballx) && decide (x ≤ ballx + size) &&
    decide (zext y ≥ zext bally + 19 - 4) && decide (zext y ≤ zext bally + 19 + 4)
  left := decide (zext x ≥ zext ballx + 19 - 4) && decide (zext x ≤ zext ballx + 19 + 4) &&
    decide (y + size ≥ bally) && decide (y ≤ bally + size)
  down := decide (x + size ≥ ballx) && decide (x ≤ ballx + size) &&
    decide (zext y + 19 ≥ zext bally - 4) && decide (zext y + 19 ≤ zext bally + 4)

/-- One of the bands of a check. -/
def anyBand (band : Coord → Coord → Coord → Coord → Bool)
    (l : List (Coord × Coord × Coord × Coord)) : Bool :=
  l.any fun (a, b, c, d) => band a b c d

/-- The right check of `wall2`, line by line. -/
def wall2RightCheck (x y : Coord) : Bool :=
  let xFuncDown : BitVec 32 := (zext y + 470) >>> 2
  anyBand (rightBand x y) [(79, 81, 80, 100), (95, 97, 100, 200), (79, 81, 200, 220)] ||
    anyBand (rightBand x y) [(169, 171, 80, 220)] ||
    anyBand (rightBand x y) [(259, 261, 80, 220)] ||
    anyBand (rightBand x y) [(79, 81, 250, 270), (95, 97, 270, 370), (79, 81, 370, 390)] ||
    (anyBand (rightBand x y) [(169, 171, 250, 390)] ||
      decide (zext x + 19 ≥ xFuncDown - 1) && decide (zext x + 19 ≤ xFuncDown + 1) &&
        decide (y + size ≥ 250) && decide (y < 390) ||
      anyBand (rightBand x y) [(213, 217, 250, 390)]) ||
    anyBand (rightBand x y) [(259, 261, 250, 270), (275, 305, 270, 370), (259, 261, 370, 390)]

/-- The two up checks. -/
def wall2UpCheck (x y : Coord) : Bool :=
  let yFuncDown : BitVec 32 := (zext x + 19) * 4 - 470
  anyBand (upBand x y) [(80, 140, 217, 223), (80, 95, 97, 103), (125, 140, 97, 103)] ||
    anyBand (upBand x y) [(170, 230, 217, 223)] ||
    anyBand (upBand x y) [(260, 320, 217, 223)] ||
    anyBand (upBand x y) [(80, 140, 387, 393), (80, 95, 267, 273), (125, 140, 267, 273)] ||
    anyBand (upBand x y) [(170, 185, 387, 393), (215, 230, 387, 393)] ||
    anyBand (upBand x y) [(260, 320, 387, 393), (260, 275, 267, 273), (305, 320, 267, 273)] ||
    decide (x ≥ 185) && decide (x ≤ 195) && decide (zext y ≥ yFuncDown - 3) &&
      decide (zext y ≤ yFuncDown + 3)

/-- The two left checks. -/
def wall2LeftCheck (x y : Coord) : Bool :=
  let xFuncUp : BitVec 32 := (zext y + 490) >>> 2
  anyBand (leftBand x y) [(138, 142, 80, 100), (123, 127, 100, 200), (138, 142, 200, 220)] ||
    anyBand (leftBand x y) [(188, 192, 80, 200), (228, 232, 200, 220)] ||
    anyBand (leftBand x y) [(278, 282, 80, 200), (318, 322, 200, 220)] ||
    (anyBand (leftBand x y) [(138, 142, 250, 270)] ||
      decide (x ≥ 123) && decide (x ≤ 127) && decide (y + size ≥ 270) && decide (y ≤ 370) ||
      anyBand (leftBand x y) [(138, 142, 370, 390)]) ||
    (anyBand (leftBand x y) [(228, 232, 250, 390)] ||
      decide (zext x ≥ xFuncUp - 2) && decide (zext x ≤ xFuncUp + 2) &&
        decide (y + size ≥ 250) && decide (y < 390) ||
      anyBand (leftBand x y) [(183, 187, 250, 390)]) ||
    anyBand (leftBand x y) [(318, 322, 250, 270), (303, 307, 270, 370), (318, 322, 371, 390)]

/-- The two down checks. -/
def wall2DownCheck (x y : Coord) : Bool :=
  let yFuncUp : BitVec 32 := zext x * 4 - 490
  anyBand (downBand x y) [(80, 140, 79, 81), (80, 95, 199, 201), (125, 140, 199, 201)] ||
    anyBand (downBand x y) [(170, 190, 79, 81), (190, 230, 199, 201)] ||
    anyBand (downBand x y) [(260, 280, 79, 81), (280, 320, 199, 201)] ||
    anyBand (downBand x y) [(80, 140, 249, 251), (80, 95, 369, 371), (125, 140, 369, 371)] ||
    (anyBand (downBand x y) [(170, 185, 249, 251)] ||
      decide (x + size ≥ 185) && decide (x < 215) && decide (zext y + 19 ≥ yFuncUp - 1) &&
        decide (zext y + 19 ≤ yFuncUp + 1) ||
      decide (x + size ≥ 215) && decide (x + size < 230) && decide (y + size ≥ 249) &&
        decide (y + size ≤ 251)) ||
    anyBand (downBand x y) [(260, 320, 249, 251), (260, 275, 369, 371), (305, 320, 369, 371)]

/-- `stop_tank_right`, ..., `stop_tank_down` of `wall2`. -/
def wall2Stops (x y ballx bally : Coord) : Stops :=
  (wall2BallStops x y ballx bally).or
    ⟨wall2RightCheck x y, wall2UpCheck x y, wall2LeftCheck x y, wall2DownCheck x y⟩

section Copies

variable {x y ballx bally : Coord}

theorem wall2BallStops_eq : wall2BallStops x y ballx bally = nearStops x y ballx bally := rfl

theorem wall2RightCheck_eq : wall2RightCheck x y = rightCheck x y := by
  simp only [wall2RightCheck, anyBand, List.any_cons, List.any_nil, Bool.or_false, rightCheck,
    xFuncDown, Bool.or_assoc]
  rfl

theorem wall2UpCheck_eq : wall2UpCheck x y = upCheck x y := by
  simp only [wall2UpCheck, anyBand, List.any_cons, List.any_nil, Bool.or_false, upCheck, yFuncDown,
    Bool.or_assoc]
  rfl

theorem wall2LeftCheck_eq : wall2LeftCheck x y = leftCheck x y := by
  simp only [wall2LeftCheck, anyBand, List.any_cons, List.any_nil, Bool.or_false, leftCheck,
    xFuncUp, Bool.or_assoc]
  rfl

theorem wall2DownCheck_eq : wall2DownCheck x y = downCheck x y := by
  simp only [wall2DownCheck, anyBand, List.any_cons, List.any_nil, Bool.or_false, downCheck,
    yFuncUp, Bool.or_assoc]
  rfl

/-- **The bands of `wall2`** are those of `wall`. -/
theorem wall2Stops_eq :
    wall2Stops x y ballx bally = (nearStops x y ballx bally).or (letterStops x y) := by
  rw [wall2Stops, wall2BallStops_eq, wall2RightCheck_eq, wall2UpCheck_eq, wall2LeftCheck_eq,
    wall2DownCheck_eq, letterStops]

end Copies

/-- `stop_bullet` of `wall2`, its combinational block settled. -/
def wall2StopBullet (b : Bullet) : Bool :=
  bulletOnLetter b.xPos b.yPos (byFuncUp b.xPos) (byFuncDown b.xPos)

/-- `stop_bullet21`: the bullet of tank 1 is inside tank 2. -/
def stopBullet21 (x y bulletx1 bullety1 : Coord) : Bool := inBox bulletx1 bullety1 x y

/-- `player1_hit`. -/
def player1Hit (b : Bullet) (ballx bally : Coord) : Bool := hits b ballx bally

/-! ### `enemy_wall`, `enemy_wall2`: an enemy and its bullet -/

/-- `stop_enemy_right`, ..., `stop_enemy_down`; `near` is the module's enemy-to-enemy block. -/
def enemyWallStops (near : Coord → Coord → Coord → Coord → Stops) (x y playerX playerY : Coord)
    (enable enableOther : Bool) (otherX otherY : Coord) : Stops :=
  (((letterStops x y).or (playerStops x y playerX playerY)).or
    ((near x y otherX otherY).gate enableOther)).gate enable

/-- `stop_bullet` of `enemy_wall` and `enemy_wall2`. -/
def enemyWallStopBullet (enable : Bool) (b : Bullet) (playerX playerY : Coord) : Bool :=
  enable && (bulletOnLetter b.xPos b.yPos (byFuncUp b.xPos) (byFuncDown b.xPos) ||
    inBox b.xPos b.yPos playerX playerY)

/-- `player_hit` of `enemy_wall` and `enemy_wall2`. -/
def enemyWallPlayerHit (enable : Bool) (b : Bullet) (playerX playerY : Coord) : Bool :=
  enable && hits b playerX playerY

end TankBattle
