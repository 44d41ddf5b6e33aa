import TankBattle.Sync
import TankBattle.Enemy
import TankBattle.Selector
import TankBattle.SpAddr

/-!
# The whole design (`lab8.sv`)

`Sys` holds the registers of `lab8` and of the modules it instantiates, `step` is one edge of
`Clk`.  An edge of `VGA_CLK` coincides with some of these edges (`Pins.vgaClk`) and then clocks
the menus; `VGA_VS` is the frame clock of the tanks, enemies and bullets and is left free
(`Pins.vgaVS`), as are the key codes that the software writes.

A run starts with a reset that both clocks see (`Started`), from any contents of the registers.
-/

namespace TankBattle

/-- What `Clk` samples from outside in one cycle. -/
structure Pins where
  keycode : BitVec 32
  key0 : Bool
  vgaVS : Bool
  vgaClk : Bool

/-- The states of the main machine. -/
inductive MainState
  | BG
  | BG_WAIT
  | EN
  | EN_WAIT
  | GAME_RST1
  | GAME1
  | GAME_RST2
  | GAME2
  | END
  deriving DecidableEq

/-- The registers of the design. -/
structure Sys where
  resetHi : Bool
  state : MainState
  selector : SelectorState
  enDraw : EnDraw
  enemy1Lives : BitVec 6
  enemy2Lives : BitVec 6
  playerLives : BitVec 6
  player1Lives : BitVec 6
  player2Lives : BitVec 6
  tank1 : Tank
  tank2 : Tank
  enemy1 : Enemy
  enemy2 : Enemy
  bullets1 : Bullet
  bullets2 : Bullet
  deriving DecidableEq

namespace Sys

variable (i : Pins) (s : Sys)

/-- `Reset_h`: the button, one cycle late, or exactly the quit key. -/
def resetH : Bool := s.resetHi || i.keycode == 0x14

/-- `en_num`. -/
def enNum : BitVec 4 := s.enDraw.enNum

/-- `one_player_mode`. -/
def onePlayerMode : Bool := s.selector.onePlayerMode

/-- `two_players_mode`. -/
def twoPlayersMode : Bool := s.selector.twoPlayersMode

/-! ### The main machine -/

/-- `mode`. -/
def mode : BitVec 2 :=
  match s.state with
  | .BG | .BG_WAIT => 0
  | .EN | .EN_WAIT => 1
  | .GAME_RST1 | .GAME1 | .GAME_RST2 | .GAME2 => 2
  | .END => 3

/-- `Reset_tank`. -/
def resetTank : Bool := s.state == .GAME_RST1 || s.state == .GAME_RST2

/-- `lives_activate`. -/
def livesActivate : Bool := s.state == .GAME_RST1 || s.state == .GAME_RST2

/-- `en_state`. -/
def enState : Bool := s.state == .EN || s.state == .EN_WAIT

/-- `enable1`. -/
def enable1 : Bool :=
  match s.state with
  | .GAME_RST1 => s.enNum == 1 || s.enNum == 2
  | .GAME1 =>
      s.enNum == 1 || s.enNum == 2 && decide (0 < s.enemy1Lives) && decide (s.enemy2Lives ≤ 5)
  | _ => false

/-- `enable12`. -/
def enable12 : Bool :=
  match s.state with
  | .GAME_RST1 => s.enNum == 2
  | .GAME1 => s.enNum == 2 && decide (0 < s.enemy2Lives) && decide (s.enemy2Lives ≤ 5)
  | _ => false

/-- `enable2`. -/
def enable2 : Bool := s.state == .GAME_RST2 || s.state == .GAME2

/-- `game_mode`. -/
def gameMode : Bool := s.enable1 || s.enable2 || s.enable12

/-- The next state of the main machine. -/
def nextState : MainState :=
  match s.state with
  | .BG =>
      if (s.onePlayerMode || s.twoPlayersMode) && enterKey i.keycode then .BG_WAIT else .BG
  | .BG_WAIT =>
      if (s.onePlayerMode || s.twoPlayersMode) && enterKey i.keycode then .BG_WAIT
      else if s.onePlayerMode then .EN else .GAME_RST2
  | .EN => if enterKey i.keycode && s.enDraw.chosen then .EN_WAIT else .EN
  | .EN_WAIT => if lowKey i.keycode = 0 then .GAME_RST1 else .EN_WAIT
  | .GAME_RST1 => if lowKey i.keycode = 0 then .GAME1 else .GAME_RST1
  | .GAME1 =>
      if s.enNum = 0 then .END
      else if (s.playerLives = 0 ∨ s.enemy1Lives = 0) ∧ s.enNum = 1 then .END
      else if s.enNum = 2 then
        if s.playerLives = 0 ∨
            s.enemy1Lives.setWidth 32 + s.enemy2Lives.setWidth 32 = 0#32 then .END
        else .GAME1
      else .GAME1
  | .GAME_RST2 => if lowKey i.keycode = 0 then .GAME2 else .GAME_RST2
  | .GAME2 => if s.player1Lives = 0 ∨ s.player2Lives = 0 then .END else .GAME2
  | .END => if lowKey i.keycode = 0x14 then .BG else .END

/-! ### Wiring -/

/-- The pins of `enemy1`. -/
def enemy1Pins : EnemyPins :=
  ⟨s.tank1.xPos, s.tank1.yPos, s.enable1, s.enable12, s.enemy2.xPos, s.enemy2.yPos⟩

/-- The pins of `enemy2`. -/
def enemy2Pins : EnemyPins :=
  ⟨s.tank1.xPos, s.tank1.yPos, s.enable12, s.enable1, s.enemy1.xPos, s.enemy1.yPos⟩

/-- The stop signals of tank 1. -/
def tank1Stops : Stops :=
  wallStops s.tank1.xPos s.tank1.yPos s.enemy1.xPos s.enemy1.yPos s.enemy2.xPos s.enemy2.yPos
    s.tank2.xPos s.tank2.yPos s.enable1 s.enable2 s.enable12

/-- The stop signals of tank 2. -/
def tank2Stops : Stops := wall2Stops s.tank2.xPos s.tank2.yPos s.tank1.xPos s.tank1.yPos

/-- `bulletx1`. -/
def bulletx1 : Coord := if s.enable2 then s.bullets1.xPos else 0

/-- `bullety1`: assigned whatever `enable2` is. -/
def bullety1 : Coord := s.bullets1.yPos

/-- The stop input of `bullets1`. -/
def stopBullet1 : Bool :=
  wallStopBullet s.bullets1 s.enemy1.xPos s.enemy1.yPos s.enemy2.xPos s.enemy2.yPos s.enable1
    s.enable12 ||
    stopBullet21 s.tank2.xPos s.tank2.yPos s.bulletx1 s.bullety1

/-- The stop input of `bullets2`. -/
def stopBullet2 : Bool :=
  wall2StopBullet s.bullets2 ||
    wallStopBullet2 s.enable2 s.tank1.xPos s.tank1.yPos s.bullets2.xPos s.bullets2.yPos

/-- `player_hit_en1`. -/
def playerHitEn1 : Bool := wallPlayerHit s.enable1 s.bullets1 s.enemy1.xPos s.enemy1.yPos

/-- `player_hit_en2`. -/
def playerHitEn2 : Bool := wallPlayerHit s.enable12 s.bullets1 s.enemy2.xPos s.enemy2.yPos

/-- `player2_hit`. -/
def player2Hit : Bool :=
  TankBattle.player2Hit s.enable2 s.bullets1 s.tank2.xPos s.tank2.yPos

/-- `player1_hit`, which `wall2` does not gate. -/
def player1Hit : Bool := TankBattle.player1Hit s.bullets2 s.tank1.xPos s.tank1.yPos

/-- `en1_hit_player`. -/
def en1HitPlayer : Bool := s.enemy1.playerHit s.enemy1Pins

/-- `en2_hit_player`. -/
def en2HitPlayer : Bool := s.enemy2.playerHit s.enemy2Pins

/-! ### The lives registers -/

/-- `enemy1_lives_in`. -/
def enemy1LivesIn : BitVec 6 :=
  if s.onePlayerMode && s.playerHitEn1 then s.enemy1Lives - 1 else s.enemy1Lives

/-- `enemy2_lives_in`. -/
def enemy2LivesIn : BitVec 6 :=
  if s.onePlayerMode && s.playerHitEn2 then s.enemy2Lives - 1 else s.enemy2Lives

/-- `player_lives_in`: the second assignment overwrites the first. -/
def playerLivesIn : BitVec 6 :=
  let v := if s.onePlayerMode && s.en1HitPlayer then s.playerLives - 1 else s.playerLives
  if s.onePlayerMode && s.en2HitPlayer then s.playerLives - 1 else v

/-- `player1_lives_in`. -/
def player1LivesIn : BitVec 6 :=
  if s.enable2 && s.player1Hit then s.player1Lives - 1 else s.player1Lives

/-- `player2_lives_in`. -/
def player2LivesIn : BitVec 6 :=
  if s.enable2 && s.player2Hit then s.player2Lives - 1 else s.player2Lives

/-- `Reset_h || lives_activate`. -/
def livesLoad : Bool := s.resetH i || s.livesActivate

/-- One edge of `Clk`. -/
@[simps -isSimp]
def step : Sys where
  resetHi := !i.key0
  state := if s.resetH i then .BG else s.nextState i
  selector := if i.vgaClk then s.selector.step (s.resetH i) i.keycode else s.selector
  enDraw := if i.vgaClk then s.enDraw.step (s.resetH i) s.enState i.keycode else s.enDraw
  enemy1Lives := if s.livesLoad i then 5 else s.enemy1LivesIn
  enemy2Lives := if s.livesLoad i then 5 else s.enemy2LivesIn
  playerLives := if s.livesLoad i then 5 else s.playerLivesIn
  player1Lives := if s.livesLoad i then 5 else s.player1LivesIn
  player2Lives := if s.livesLoad i then 5 else s.player2LivesIn
  tank1 := TankBattle.tank1 s.resetTank i.vgaVS i.keycode s.tank1Stops s.tank1
  tank2 := TankBattle.tank2 s.twoPlayersMode s.resetTank i.vgaVS i.keycode s.tank2Stops s.tank2
  enemy1 := s.enemy1.step enemy1Config s.resetTank i.vgaVS s.enemy1Pins
  enemy2 := s.enemy2.step enemy2Config s.resetTank i.vgaVS s.enemy2Pins
  bullets1 := TankBattle.bullets1 s.resetTank i.vgaVS s.stopBullet1 i.keycode s.tank1.isTankDir
    (midsOf s.tank1.xPos s.tank1.yPos) s.bullets1
  bullets2 := TankBattle.bullets2 s.twoPlayersMode s.resetTank i.vgaVS s.stopBullet2 i.keycode
    s.tank2.isTankDir (midsOf s.tank2.xPos s.tank2.yPos) s.bullets2

/-- The state after a reset that both clocks have seen, whatever the registers held before. -/
def Started (t : Sys) : Prop :=
  ∃ (i : Pins) (s : Sys), i.vgaClk = true ∧ s.resetH i = true ∧ t = s.step i

end Sys

/-- A run of the game. -/
abbrev Run := Sync.Run Sys.step Sys.Started

end TankBattle
