import Mathlib.Tactic

/-!
# The play field: letters, border and the stops they raise

`wall.sv` draws the letters `ILL` (orange) and `INI` (blue) and a border.  The same module tells
tank 1 and its bullet where a letter stops them; `enemy_wall` and `enemy_wall2` repeat the tank
conditions word for word for the two enemies, so there is one copy here.  The copy of `wall2.sv`,
for tank 2, is with the rest of that module.

Coordinates are the 10-bit registers of the source.  A comparison of two 10-bit operands is done
in 10 bits, one that involves an `int` in 32 bits, unsigned (`zext`).
-/

namespace TankBattle

/-- A 10-bit coordinate register. -/
abbrev Coord := BitVec 10

/-- A coordinate as an operand of a 32-bit expression. -/
def zext (x : Coord) : BitVec 32 := x.setWidth 32

theorem toNat_zext (x : Coord) : (zext x).toNat = x.toNat := by
  simp only [zext, BitVec.toNat_setWidth]
  omega

/-- The difference of two coordinates as a signed 32-bit number. -/
theorem toInt_zext_sub (x y : Coord) : (zext x - zext y).toInt = (x.toNat : ℤ) - y.toNat := by
  have := x.isLt
  have := y.isLt
  rw [BitVec.toInt_eq_toNat_cond, BitVec.toNat_sub, toNat_zext, toNat_zext]
  split <;> omega

/-- `size`, the width and height of a tank and of an enemy. -/
def size : Coord := 19

/-- On the screen the right and the lower edge of a body do not wrap. -/
theorem toNat_add_size {x : Coord} (h : x.toNat < 1005) : (x + size).toNat = x.toNat + 19 := by
  simp only [size]
  bv_omega

/-- A limit for the right or the lower edge. -/
theorem add_size_lt_iff {x t : Coord} (h : x.toNat < 1005) :
    x + size < t ↔ x.toNat + 19 < t.toNat := by
  rw [BitVec.lt_def, toNat_add_size h]

/-- The four stop signals of a tank or an enemy. -/
structure Stops where
  right : Bool
  up : Bool
  left : Bool
  down : Bool
  deriving DecidableEq

/-- No stop signal. -/
def Stops.none : Stops := ⟨false, false, false, false⟩

/-- Two sources of stop signals. -/
def Stops.or (s t : Stops) : Stops :=
  ⟨s.right || t.right, s.up || t.up, s.left || t.left, s.down || t.down⟩

/-! ### Drawing -/

/-- `x >= a && x < b && y >= c && y < d`. -/
def rect (x y a b c d : Coord) : Bool :=
  decide (a ≤ x) && decide (x < b) && decide (c ≤ y) && decide (y < d)

/-- The grey border. -/
def drawWall (x y : Coord) : Bool :=
  decide (478 ≤ x) && decide (x < 497) || decide (0 ≤ y) && decide (y < 19) ||
    decide (621 ≤ x) && decide (x < 640) ||
    decide (y ≤ 479) && decide (460 ≤ y) && decide (497 ≤ x) && decide (x ≤ 621)

/-- The letter I with its top left corner at `(80, c)`, `(260, c)`: two serifs and a stem. -/
def letterI (x y l s t r c₁ c₂ c₃ c₄ : Coord) : Bool :=
  rect x y l r c₁ c₂ || rect x y s t c₂ c₃ || rect x y l r c₃ c₄

/-- The letter L: the foot and the stem. -/
def letterL (x y l s r : Coord) : Bool :=
  rect x y l r 200 220 || rect x y l s 80 220

/-- `func_up`, `by_func_up` of `wall`: the upper edge of the slanted stroke in column `x`. -/
def funcUp (x : Coord) : BitVec 32 := zext x * 4 - 480 - 10

/-- `func_down`, `by_func_down` of `wall`: its lower edge. -/
def funcDown (x : Coord) : BitVec 32 := zext x * 4 - 480 + 10

/-- The slanted stroke between the edges `up` and `down`. -/
def slant (x y : Coord) (up down : BitVec 32) : Bool :=
  decide (185 ≤ x) && decide (x < 215) && decide (up ≤ zext y) && decide (zext y < down)

/-- The letter N with the given edges of its slanted stroke. -/
def letterN (x y : Coord) (up down : BitVec 32) : Bool :=
  rect x y 170 185 250 390 || rect x y 215 230 250 390 || slant x y up down

/-- `draw_wall_o`: the orange letters I, L, L. -/
def drawWallO (x y : Coord) : Bool :=
  letterI x y 80 95 125 140 80 100 200 220 || letterL x y 170 190 230 || letterL x y 260 280 320

/-- `draw_wall_b`: the blue letters I, N, I. -/
def drawWallB (x y : Coord) : Bool :=
  letterI x y 80 95 125 140 250 270 370 390 || letterN x y (funcUp x) (funcDown x) ||
    letterI x y 260 275 305 320 250 270 370 390

/-- A pixel of a letter. -/
def isLetter (x y : Coord) : Bool := drawWallO x y || drawWallB x y

/-- `stop_bullet` from the letters, with the edges of the slanted stroke that the collision
module at hand uses. -/
def bulletOnLetter (x y : Coord) (up down : BitVec 32) : Bool :=
  letterI x y 80 95 125 140 80 100 200 220 || letterL x y 170 190 230 || letterL x y 260 280 320 ||
    letterI x y 80 95 125 140 250 270 370 390 || letterN x y up down ||
    letterI x y 260 275 305 320 250 270 370 390

/-- The slanted stroke as `wall2`, `enemy_wall` and `enemy_wall2` compute it. -/
def byFuncUp (x : Coord) : BitVec 32 := zext x * 4 - 490

/-- Its lower edge there, with `b_size = 5`. -/
def byFuncDown (x : Coord) : BitVec 32 := (zext x + 5) * 4 - 470

/-! ### The letter stops of a tank at `(x, y)` -/

/-- `x + size` in `[a, b]`, `y + size >= c`, `y < d`. -/
def rightBand (x y a b c d : Coord) : Bool :=
  decide (a ≤ x + size) && decide (x + size ≤ b) && decide (c ≤ y + size) && decide (y < d)

/-- `x + size >= a`, `x < b`, `y` in `[c, d]`. -/
def upBand (x y a b c d : Coord) : Bool :=
  decide (a ≤ x + size) && decide (x < b) && decide (c ≤ y) && decide (y ≤ d)

/-- `x` in `[a, b]`, `y + size >= c`, `y < d`. -/
def leftBand (x y a b c d : Coord) : Bool :=
  decide (a ≤ x) && decide (x ≤ b) && decide (c ≤ y + size) && decide (y < d)

/-- `x + size >= a`, `x < b`, `y + size` in `[c, d]`. -/
def downBand (x y a b c d : Coord) : Bool :=
  decide (a ≤ x + size) && decide (x < b) && decide (c ≤ y + size) && decide (y + size ≤ d)

/-- `x_func_down`. -/
def xFuncDown (y : Coord) : BitVec 32 := (zext y + 470) >>> 2

/-- `x_func_up`. -/
def xFuncUp (y : Coord) : BitVec 32 := (zext y + 490) >>> 2

/-- `y_func_down`. -/
def yFuncDown (x : Coord) : BitVec 32 := (zext x + 19) * 4 - 470

/-- `y_func_up`. -/
def yFuncUp (x : Coord) : BitVec 32 := zext x * 4 - 490

/-- The right check. -/
def rightCheck (x y : Coord) : Bool :=
  (rightBand x y 79 81 80 100 || rightBand x y 95 97 100 200 || rightBand x y 79 81 200 220) ||
  rightBand x y 169 171 80 220 || rightBand x y 259 261 80 220 ||
  (rightBand x y 79 81 250 270 || rightBand x y 95 97 270 370 || rightBand x y 79 81 370 390) ||
  (rightBand x y 169 171 250 390 ||
    decide (xFuncDown y - 1 ≤ zext x + 19) && decide (zext x + 19 ≤ xFuncDown y + 1) &&
      decide (250 ≤ y + size) && decide (y < 390) ||
    rightBand x y 213 217 250 390) ||
  (rightBand x y 259 261 250 270 || rightBand x y 275 305 270 370 || rightBand x y 259 261 370 390)

/-- The up check. -/
def upCheck (x y : Coord) : Bool :=
  (upBand x y 80 140 217 223 || upBand x y 80 95 97 103 || upBand x y 125 140 97 103) ||
  upBand x y 170 230 217 223 || upBand x y 260 320 217 223 ||
  (upBand x y 80 140 387 393 || upBand x y 80 95 267 273 || upBand x y 125 140 267 273) ||
  (upBand x y 170 185 387 393 || upBand x y 215 230 387 393) ||
  (upBand x y 260 320 387 393 || upBand x y 260 275 267 273 || upBand x y 305 320 267 273) ||
  decide (185 ≤ x) && decide (x ≤ 195) && decide (yFuncDown x - 3 ≤ zext y) &&
    decide (zext y ≤ yFuncDown x + 3)

/-- The left check. -/
def leftCheck (x y : Coord) : Bool :=
  (leftBand x y 138 142 80 100 || leftBand x y 123 127 100 200 || leftBand x y 138 142 200 220) ||
  (leftBand x y 188 192 80 200 || leftBand x y 228 232 200 220) ||
  (leftBand x y 278 282 80 200 || leftBand x y 318 322 200 220) ||
  (leftBand x y 138 142 250 270 ||
    -- the source has `<= 370` here, unlike every other row limit
    decide (123 ≤ x) && decide (x ≤ 127) && decide (270 ≤ y + size) && decide (y ≤ 370) ||
    leftBand x y 138 142 370 390) ||
  (leftBand x y 228 232 250 390 ||
    decide (xFuncUp y - 2 ≤ zext x) && decide (zext x ≤ xFuncUp y + 2) &&
      decide (250 ≤ y + size) && decide (y < 390) ||
    leftBand x y 183 187 250 390) ||
  (leftBand x y 318 322 250 270 || leftBand x y 303 307 270 370 || leftBand x y 318 322 371 390)

/-- The down check. -/
def downCheck (x y : Coord) : Bool :=
  (downBand x y 80 140 79 81 || downBand x y 80 95 199 201 || downBand x y 125 140 199 201) ||
  (downBand x y 170 190 79 81 || downBand x y 190 230 199 201) ||
  (downBand x y 260 280 79 81 || downBand x y 280 320 199 201) ||
  (downBand x y 80 140 249 251 || downBand x y 80 95 369 371 || downBand x y 125 140 369 371) ||
  (downBand x y 170 185 249 251 ||
    decide (185 ≤ x + size) && decide (x < 215) && decide (yFuncUp x - 1 ≤ zext y + 19) &&
      decide (zext y + 19 ≤ yFuncUp x + 1) ||
    -- `x + size < 230`, where the stroke below ends at column 230
    decide (215 ≤ x + size) && decide (x + size < 230) && decide (249 ≤ y + size) &&
      decide (y + size ≤ 251)) ||
  (downBand x y 260 320 249 251 || downBand x y 260 275 369 371 || downBand x y 305 320 369 371)

/-- The stops that the letters raise against a body at `(x, y)`. -/
def letterStops (x y : Coord) : Stops :=
  ⟨rightCheck x y, upCheck x y, leftCheck x y, downCheck x y⟩

end TankBattle
