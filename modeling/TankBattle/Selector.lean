import TankBattle.Tank

/-!
# The menus (`selector.sv`)

`tanks_selector` chooses between one and two players, `en_draw` the number of enemies.  Both are
clocked by `VGA_CLK`.
-/

namespace TankBattle

/-- The low byte of the key code word. -/
def lowKey (keycode : BitVec 32) : BitVec 8 := keyByte keycode 0

/-- One of the four navigation keys in the low byte. -/
def navKey (keycode : BitVec 32) : Bool :=
  lowKey keycode == 0x52 || lowKey keycode == 0x51 || lowKey keycode == 0x1a ||
    lowKey keycode == 0x16

/-- Enter or space in the low byte. -/
def enterKey (keycode : BitVec 32) : Bool := lowKey keycode == 0x28 || lowKey keycode == 0x2c

/-- Down or s in the low byte. -/
def downKey (keycode : BitVec 32) : Bool := lowKey keycode == 0x51 || lowKey keycode == 0x16

/-- Up or w in the low byte. -/
def upKey (keycode : BitVec 32) : Bool := lowKey keycode == 0x52 || lowKey keycode == 0x1A

/-! ### `tanks_selector` -/

/-- The states of `tanks_selector`. -/
inductive SelectorState
  | OPM
  | TPM
  | OPM_WAIT
  | TPM_WAIT
  | OPM_DONE
  | TPM_DONE
  deriving DecidableEq

namespace SelectorState

/-- The next state of `tanks_selector`. -/
def next (keycode : BitVec 32) : SelectorState → SelectorState
  | .OPM => if navKey keycode then .OPM_WAIT else if enterKey keycode then .OPM_DONE else .OPM
  | .OPM_WAIT => if navKey keycode then .OPM_WAIT else .TPM
  | .TPM => if navKey keycode then .TPM_WAIT else if enterKey keycode then .TPM_DONE else .TPM
  | .TPM_WAIT => if navKey keycode then .TPM_WAIT else .OPM
  | .TPM_DONE => .TPM_DONE
  | .OPM_DONE => .OPM_DONE

/-- One `VGA_CLK` edge of `tanks_selector`. -/
def step (reset : Bool) (keycode : BitVec 32) (s : SelectorState) : SelectorState :=
  if reset then .OPM else s.next keycode

/-- `one_player_mode`. -/
def onePlayerMode (s : SelectorState) : Bool := s == .OPM_DONE

/-- `two_players_mode`. -/
def twoPlayersMode (s : SelectorState) : Bool := s == .TPM_DONE

/-- `is_one_tank`. -/
def isOneTank (s : SelectorState) (drawX drawY : Coord) : Bool :=
  (s == .OPM || s == .OPM_WAIT) && decide (195 < drawX) && decide (drawX < 215) &&
    decide (285 < drawY) && decide (drawY < 302)

/-- `are_two_tanks`. -/
def areTwoTanks (s : SelectorState) (drawX drawY : Coord) : Bool :=
  (s == .TPM || s == .TPM_WAIT) && decide (195 < drawX) && decide (drawX < 215) &&
    decide (315 < drawY) && decide (drawY < 332)

end SelectorState

/-! ### `en_draw` -/

/-- The states of `en_draw`. -/
inductive EnState
  | state0
  | state1
  | state2
  | state0_wait
  | state1_wait
  | state2_wait
  | done_state
  deriving DecidableEq

/-- The registers of `en_draw`. -/
structure EnDraw where
  state : EnState
  enNum : BitVec 4
  deriving DecidableEq

namespace EnDraw

/-- `chosen`. -/
def chosen (e : EnDraw) : Bool := e.state == .done_state

/-- A resting state of the menu: `self` is its wait state, `prev` the wait state that an upward
move goes to, and `n` its number. -/
def rest (keycode : BitVec 32) (enState : Bool) (here self prev : EnState) (n : BitVec 4) :
    EnState × BitVec 4 :=
  if enState && downKey keycode then (self, n)
  else if enState && upKey keycode then (prev, n)
  else if enState && enterKey keycode then (.done_state, n)
  else (here, n)

/-- A wait state of the menu: held with number `n` while a navigation key is down, then on to
`succ` with number `m`. -/
def wait (keycode : BitVec 32) (enState : Bool) (here succ : EnState) (n m : BitVec 4) :
    EnState × BitVec 4 :=
  if enState && navKey keycode then (here, n) else (succ, m)

/-- `Next_State` and the value that `en_num` is loaded with (in `done_state` `flag` is low and
`en_num` keeps its value). -/
def next (keycode : BitVec 32) (enState : Bool) (e : EnDraw) : EnState × BitVec 4 :=
  match e.state with
  | .state0 => rest keycode enState .state0 .state0_wait .state1_wait 0
  | .state0_wait => wait keycode enState .state0_wait .state1 0 1
  | .state1 => rest keycode enState .state1 .state1_wait .state2_wait 1
  | .state1_wait => wait keycode enState .state1_wait .state2 1 2
  | .state2 => rest keycode enState .state2 .state2_wait .state0_wait 2
  | .state2_wait => wait keycode enState .state2_wait .state0 2 0
  | .done_state => (.done_state, e.enNum)

/-- One `VGA_CLK` edge of `en_draw`. -/
def step (reset enState : Bool) (keycode : BitVec 32) (e : EnDraw) : EnDraw :=
  if reset then ⟨.state0, 0⟩ else ⟨(e.next keycode enState).1, (e.next keycode enState).2⟩

/-- In `done_state` nothing moves until a reset. -/
theorem step_done {e : EnDraw} (h : e.state = .done_state) (enState : Bool)
    (keycode : BitVec 32) : e.step false enState keycode = e := by
  obtain ⟨s, n⟩ := e
  cases h
  rfl

/-- `is_tank` of `en_draw` (`en_tank` of `lab8`). -/
def enTank (enState : Bool) (drawX drawY : Coord) : Bool :=
  enState && decide (2 < drawX) && decide (drawX < 22) && decide (458 < drawY) &&
    decide (drawY < 478)

/-- `is_count` (`en_count`). -/
def enCount (enState : Bool) (drawX drawY : Coord) : Bool :=
  !enTank enState drawX drawY && (enState && decide (567 < drawX) && decide (drawX < 639) &&
    decide (428 < drawY) && decide (drawY < 479))

/-- `is_number` (`en_number`). -/
def enNumber (enState : Bool) (drawX drawY : Coord) : Bool :=
  !enTank enState drawX drawY && !enCount enState drawX drawY && (enState && decide (408 < drawX) &&
    decide (drawX < 454) && decide (drawY < 479) && decide (441 < drawY))

/-- `is_ennumber`: the pixel is in the marker of the state's number. -/
def isEnnumber (enState : Bool) (e : EnDraw) (drawX drawY : Coord) : Bool :=
  let marker (lo hi : Coord) : Bool := enState && decide (lo < drawX) && decide (drawX < hi) &&
    decide (416 < drawY) && decide (drawY < 435)
  match e.state with
  | .state0 => marker 414 425
  | .state1 => marker 426 436
  | .state2 => marker 438 449
  | _ => false

end EnDraw

/-! ### `en_game` -/

/-- A 19 by 19 icon beside the field, shown while some enable is high. -/
def icon (gameMode : Bool) (drawX drawY a b c d : Coord) : Bool :=
  gameMode && decide (a < drawX) && decide (drawX < b) && decide (c < drawY) && decide (drawY < d)

/-- `is_player1`. -/
def isPlayer1 (gameMode : Bool) (drawX drawY : Coord) : Bool :=
  icon gameMode drawX drawY 510 530 190 210

/-- `is_player2`. -/
def isPlayer2 (gameMode : Bool) (drawX drawY : Coord) : Bool :=
  icon gameMode drawX drawY 510 530 310 330

/-- `is_player_en2`. -/
def isPlayerEn2 (gameMode : Bool) (enNum : BitVec 4) (drawX drawY : Coord) : Bool :=
  icon gameMode drawX drawY 550 570 310 330 && enNum == 2

end TankBattle
