import TankBattle.Wall
import TankBattle.Sync

/-!
# The two players move under the same rules

`tank1` with `wall` and `tank2` with `wall2` are separate copies of the same rules, apart from the
codes of the keys.

* `wallStops_eq_wall2Stops`: in a two-player game the two wall modules raise the same stop signals;
* `Renamed`: the keys of tank 1 in one word are the keys of tank 2 in another;
* `Twins`: the two tanks side by side, each with the stop signals of its own wall module against the
  same opponent;
* `tanks_agree`: twins that start alike stay alike.
-/

namespace TankBattle

/-- In a two-player game `wall` looks at the opponent and the letters, as `wall2` always does. -/
theorem wallStops_eq_wall2Stops (x y enemy1X enemy1Y enemy2X enemy2Y qx qy : Coord) :
    wallStops x y enemy1X enemy1Y enemy2X enemy2Y qx qy false true false =
      wall2Stops x y qx qy := by
  rw [wall2Stops_eq]
  simp [wallStops, Stops.gate, Stops.or, Stops.none]

/-- The keys w, s, a, d are down in the first word exactly when 8, i, u, o are in the second. -/
structure Renamed (keycode keycode' : BitVec 32) : Prop where
  up : keyOn keycode tank1Config.upKey = keyOn keycode' tank2Config.upKey
  down : keyOn keycode tank1Config.downKey = keyOn keycode' tank2Config.downKey
  left : keyOn keycode tank1Config.leftKey = keyOn keycode' tank2Config.leftKey
  right : keyOn keycode tank1Config.rightKey = keyOn keycode' tank2Config.rightKey

/-- Two tanks side by side. -/
structure Twins where
  tank1 : Tank
  tank2 : Tank

/-- What the twins sample: each its own key codes, both the same frame clock and opponent. -/
structure TwinsPins where
  keycode1 : BitVec 32
  keycode2 : BitVec 32
  frameClk : Bool
  opponentX : Coord
  opponentY : Coord
  enemy1X : Coord
  enemy1Y : Coord
  enemy2X : Coord
  enemy2Y : Coord

/-- One edge without reset, with `enable2` and `two_players_mode` high. -/
def Twins.step (i : TwinsPins) (s : Twins) : Twins where
  tank1 := TankBattle.tank1 false i.frameClk i.keycode1
    (wallStops s.tank1.xPos s.tank1.yPos i.enemy1X i.enemy1Y i.enemy2X i.enemy2Y i.opponentX
      i.opponentY false true false) s.tank1
  tank2 := TankBattle.tank2 true false i.frameClk i.keycode2
    (wall2Stops s.tank2.xPos s.tank2.yPos i.opponentX i.opponentY) s.tank2

/-- Both tanks are driven, and equal in position, motion, direction and in the samples of the frame
clock. -/
structure Twins.Alike (s : Twins) : Prop where
  state : s.tank1.state = .OTHER
  eq : s.tank2 = s.tank1

/-- Two tanks at the same place with the same stop signals take the same decision. -/
theorem motionIn_eq_of_renamed {k k' : BitVec 32} (h : Renamed k k') (stop : Stops) (t : Tank) :
    t.motionIn tank2Config k' stop = t.motionIn tank1Config k stop := by
  simp only [Tank.motionIn, h.up, h.down, h.left, h.right]

theorem Twins.Alike.step {s : Twins} (h : s.Alike) {i : TwinsPins}
    (hk : Renamed i.keycode1 i.keycode2) : (s.step i).Alike := by
  have hn : s.tank1.newInstance = false := by simp [Tank.newInstance, h.state]
  have hnext : ∀ go k, s.tank1.nextState go k = .OTHER := fun go k => by
    simp [Tank.nextState, h.state]
  constructor
  · cases hp : s.tank1.edge.rising <;>
      simp [Twins.step, TankBattle.tank1, Tank.step, hn, hnext, hp]
  · rw [Twins.step, h.eq, TankBattle.tank1, tank2_eq, wallStops_eq_wall2Stops]
    simp only [Tank.step, hn, hnext, Bool.or_self, Bool.false_eq_true, if_false,
      motionIn_eq_of_renamed hk]

/-- The runs of the twins, from any registers. -/
abbrev TwinsRun := Sync.Run Twins.step fun _ => True

/-- **The two players move under the same rules**: the wall modules raise the same stop signals for
the same two positions, and tanks that start alike and get the same keys, up to their codes, agree
for ever. -/
theorem tanks_agree :
    (∀ x y enemy1X enemy1Y enemy2X enemy2Y qx qy : Coord,
      wallStops x y enemy1X enemy1Y enemy2X enemy2Y qx qy false true false =
        wall2Stops x y qx qy) ∧
      ∀ (R : TwinsRun), (∀ n, Renamed (R.input n).keycode1 (R.input n).keycode2) →
        (R.state 0).tank1.state = .OTHER → (R.state 0).tank2.state = .OTHER →
        (R.state 0).tank2.xPos = (R.state 0).tank1.xPos →
        (R.state 0).tank2.yPos = (R.state 0).tank1.yPos →
        (R.state 0).tank2.xMotion = (R.state 0).tank1.xMotion →
        (R.state 0).tank2.yMotion = (R.state 0).tank1.yMotion →
        (R.state 0).tank2.isTankDir = (R.state 0).tank1.isTankDir →
        (R.state 0).tank2.edge = (R.state 0).tank1.edge →
        ∀ n, (R.state n).tank2.xPos = (R.state n).tank1.xPos ∧
          (R.state n).tank2.yPos = (R.state n).tank1.yPos ∧
          (R.state n).tank2.xMotion = (R.state n).tank1.xMotion ∧
          (R.state n).tank2.yMotion = (R.state n).tank1.yMotion ∧
          (R.state n).tank2.isTankDir = (R.state n).tank1.isTankDir := by
  refine ⟨wallStops_eq_wall2Stops, fun R hk h1 h2 hx hy hmx hmy hd he n => ?_⟩
  have h0 : (R.state 0).Alike := by
    refine ⟨h1, ?_⟩
    cases ht1 : (R.state 0).tank1
    cases ht2 : (R.state 0).tank2
    simp_all
  have h := R.invariant_until (P := Twins.Alike) (m := 0) h0 (fun m _ _ h => h.step (hk m))
    n.zero_le le_rfl
  rw [h.eq]
  exact ⟨rfl, rfl, rfl, rfl, rfl⟩

theorem renamed_up : Renamed 0x1A 0x25 := by constructor <;> decide

/-- Both tanks in the middle of the field, driven up. -/
def racing : TwinsRun :=
  Sync.Run.feed (s := ⟨⟨.OTHER, ⟨false, false⟩, 240, 240, 0, 0, .right⟩,
      ⟨.OTHER, ⟨false, false⟩, 240, 240, 0, 0, .right⟩⟩) Twins.step trivial
    fun n => ⟨0x1A, 0x25, n % 2 == 0, 100, 30, 0, 0, 0, 0⟩

theorem tanks_agree_racing : (racing.state 30).tank2.yPos = (racing.state 30).tank1.yPos :=
  (tanks_agree.2 racing (fun _ => renamed_up) rfl rfl rfl rfl rfl rfl rfl rfl 30).2.1

end TankBattle
