import TankBattle.Arrest
import TankBattle.FramePace
import TankBattle.HostPins

/-!
# From the keyboard to the tanks (`main.c`, `lab8.sv`, `ball.sv`, `tank2.sv`)

The program sends the key codes that it reads from the keyboard to the game, and the tanks obey them
at frame pulses, one frame late.

* `Sends`: the program is the source of the key codes of a board;
* `Reported`, `keyOn_iff`: the keys in the last report are the keys that the game sees;
* `Tank.motionIn_some`: what a frame pulse decides on;
* `rising_add_iff`: the frame pulses after a frame pulse;
* `tankOf_frame`: a tank from one frame pulse to the next;
* `Asks`, `Grants`: where a report asks a tank to go, and whether it may;
* `obeys_keyboard`: where a tank goes.
-/

namespace TankBattle

open Dialog Serial

/-! ### Key codes and reports -/

/-- The program sends its key codes to the board; `l n` is what it has done up to cycle `n`.  The
port of the key codes is clear until then. -/
structure Sends (R : BoardRun) (l : ℕ → List HostEvent) : Prop where
  trace : ∀ n, ∃ o, Usb.main.Trace (l n) o
  grows : ∀ n, l n <+: l (n + 1)
  keycode : ∀ n, (R.input n).keycode = (Usb.keycodes (l n)).getLast?.getD 0

/-- The report that the last key codes were made of has the key `c` in its first four places.  The
two words were read after the list that asked for the report was done. -/
def Reported (l : List HostEvent) (c : BitVec 8) : Prop :=
  ∃ l₁ d l₂ k0 k1, l = l₁ ++ .tell (.keycode d) :: l₂ ∧ Usb.keycodes l₂ = [] ∧
    (Usb.link.after Usb.powerOn l₁).session.key0 = some k0 ∧
    (Usb.link.after Usb.powerOn l₁).session.key1 = some k1 ∧
    c ∈ [k0.setWidth 8, (k0 >>> 8).setWidth 8, k1.setWidth 8, (k1 >>> 8).setWidth 8]

section Report

variable {l l₁ l₂ : List HostEvent} {d : BitVec 32} {c : BitVec 8}

/-- The last key codes. -/
theorem exists_last_keycode (h : Usb.keycodes l ≠ []) :
    ∃ l₁ d l₂, l = l₁ ++ .tell (.keycode d) :: l₂ ∧ Usb.keycodes l₂ = [] := by
  induction l with
  | nil => exact absurd rfl h
  | cons e l ih =>
    by_cases hl : Usb.keycodes l = []
    · rcases e with (⟨a, w⟩ | d) | ⟨a, r⟩
      · exact absurd hl h
      · exact ⟨[], d, l, rfl, hl⟩
      · exact absurd hl h
    · obtain ⟨l₁, d, l₂, rfl, h2⟩ := ih hl
      exact ⟨e :: l₁, d, l₂, rfl, h2⟩

theorem getLast_keycodes (h : Usb.keycodes l₂ = []) :
    (Usb.keycodes (l₁ ++ .tell (.keycode d) :: l₂)).getLast?.getD 0 = d := by
  have hsplit : Usb.keycodes (l₁ ++ .tell (.keycode d) :: l₂) = Usb.keycodes l₁ ++ [d] := by
    rw [← h]
    exact List.filterMap_append
  rw [hsplit, List.getLast?_append]
  rfl

theorem keyOn_zero (hc : c ≠ 0) : keyOn 0 c = false := by
  have h0 : ∀ j, (keyByte 0 j == c) = false := fun j => by
    rw [keyByte, BitVec.ofNat_eq_ofNat, BitVec.extractLsb'_zero]
    exact beq_eq_false_iff_ne.2 hc.symm
  rw [keyOn, h0, h0, h0, h0]
  rfl

/-- **The keys that the game sees** are those of the last report. -/
theorem keyOn_iff {R : BoardRun} {l : ℕ → List HostEvent} (hs : Sends R l) (hc : c ≠ 0) (n : ℕ) :
    keyOn (R.input n).keycode c = true ↔ Reported (l n) c := by
  obtain ⟨o, ht⟩ := hs.trace n
  -- what the program demands of itself when it sends key codes
  have hkeys : ∀ l₁ d l₂, l n = l₁ ++ .tell (.keycode d) :: l₂ →
      (Usb.link.after Usb.powerOn l₁).session.Keys d := fun l₁ d l₂ h => by
    rw [h] at ht
    exact (Usb.accepts_main rfl ht).ok
  rw [hs.keycode]
  constructor
  · intro hon
    by_cases hnil : Usb.keycodes (l n) = []
    · rw [hnil] at hon
      exact absurd (hon.symm.trans (keyOn_zero hc)) (by decide)
    · obtain ⟨l₁, d, l₂, h, h2⟩ := exists_last_keycode hnil
      obtain ⟨-, -, -, -, k0, k1, h0, h1, hd⟩ := hkeys l₁ d l₂ h
      obtain rfl : d = Usb.keycodeOf k0 k1 := hd
      rw [h, getLast_keycodes h2, Usb.keyOn_keycodeOf] at hon
      exact ⟨l₁, _, l₂, k0, k1, h, h2, h0, h1, hon⟩
  · rintro ⟨l₁, d, l₂, k0, k1, h, h2, h0, h1, hmem⟩
    obtain ⟨-, -, -, -, k0', k1', h0', h1', hd⟩ := hkeys l₁ d l₂ h
    obtain rfl : d = Usb.keycodeOf k0' k1' := hd
    obtain rfl : k0 = k0' := Option.some.inj (h0.symm.trans h0')
    obtain rfl : k1 = k1' := Option.some.inj (h1.symm.trans h1')
    rw [h, getLast_keycodes h2, Usb.keyOn_keycodeOf]
    exact hmem

end Report

/-! ### What a frame pulse decides on -/

/-- The key of a direction. -/
def TankConfig.keyOf (c : TankConfig) : Dir → BitVec 8
  | .up => c.upKey
  | .down => c.downKey
  | .left => c.leftKey
  | .right => c.rightKey

/-- The directions whose keys come first. -/
def Dir.before : Dir → List Dir
  | .up => []
  | .down => [.up]
  | .left => [.up, .down]
  | .right => [.up, .down, .left]

/-- Neither the border nor a stop signal is in the way of a tank. -/
def Tank.MayGo (t : Tank) (stop : Stops) (d : Dir) : Prop :=
  Limit d t.xPos t.yPos ∧ stop.toward (some d) = false

instance (t : Tank) (stop : Stops) (d : Dir) : Decidable (t.MayGo stop d) :=
  inferInstanceAs (Decidable (_ ∧ _))

section Decide

variable {c : TankConfig} {keycode : BitVec 32} {stop : Stops} {t : Tank} {d : Dir}

theorem Tank.ordered_eq_some : Tank.ordered c keycode = some d ↔
    keyOn keycode (c.keyOf d) = true ∧ ∀ e ∈ d.before, ¬ keyOn keycode (c.keyOf e) = true := by
  unfold Tank.ordered
  cases d <;> simp only [TankConfig.keyOf, Dir.before] <;> split_ifs <;> simp_all

/-- **A frame pulse** decides on a step in the direction of the key in effect, if it may go. -/
theorem Tank.motionIn_some (h : Tank.ordered c keycode = some d) :
    ((t.motionIn c keycode stop).1, (t.motionIn c keycode stop).2.1) =
      if t.MayGo stop d then twoPixels d else 0 := by
  unfold Tank.ordered at h
  by_cases hm : t.MayGo stop d
  · rw [if_pos hm]
    obtain ⟨h1, h2⟩ := hm
    split_ifs at h <;> cases h <;> simp only [Limit, Stops.toward] at h1 h2 <;>
      simp_all [Tank.motionIn, twoPixels]
  · rw [if_neg hm]
    split_ifs at h <;> cases h <;> simp only [Tank.MayGo, Limit, Stops.toward] at hm <;>
      simp_all [Tank.motionIn]

/-- Without a key it decides on no step. -/
theorem Tank.motionIn_none (h : Tank.ordered c keycode = none) :
    ((t.motionIn c keycode stop).1, (t.motionIn c keycode stop).2.1) = 0 := by
  refine Tank.motionIn_of_not_moveKey ?_ stop
  unfold Tank.ordered at h
  split_ifs at h
  simp_all [Tank.moveKey]

end Decide

/-! ### From one frame to the next -/

/-- The stop signals of a tank. -/
def Sys.stopsOf (s : Sys) : Player → Stops
  | .one => s.tank1Stops
  | .two => s.tank2Stops

/-- What one edge does to a tank. -/
theorem tankOf_step (i : Pins) (s : Sys) (p : Player) : ∃ j : TankPins, j.reset = s.resetTank ∧
    j.keycode = i.keycode ∧ j.stop = s.stopsOf p ∧
      (s.step i).tankOf p = (s.tankOf p).clock p.config j := by
  cases p with
  | one => exact ⟨⟨true, s.resetTank, i.vgaVS, i.keycode, s.tank1Stops⟩, rfl, rfl, rfl, rfl⟩
  | two =>
    refine ⟨⟨s.twoPlayersMode, s.resetTank, i.vgaVS, i.keycode, s.tank2Stops⟩, rfl, rfl, rfl, ?_⟩
    rw [Sys.tankOf, Sys.step_tank2, tank2_eq]
    rfl

/-- The place of a tank in a run. -/
def placeAt (R : BoardRun) (p : Player) (n : ℕ) : Coord × Coord := ((R.state n).sys.tankOf p).place

section Frame

variable {R : BoardRun} {m n d : ℕ}

/-- **The frame pulses** after a frame pulse come every 840000 cycles. -/
theorem rising_add_iff (x : Detector) (hq : ∀ k < d + 3, Quiet R (n + k))
    (h : ((R.state (n + 4)).sys.detector x).rising = true) :
    ((R.state (n + 4 + d)).sys.detector x).rising = true ↔ 840000 ∣ d := by
  have hfirst := (rises_vs_iff (hq 0 (by omega)) (hq 1 (by omega)) (hq 2 (by omega))).1
    ((rising_iff R x (n + 2)).1 h)
  have hplace := place_add (n := n + 2) (d := d) fun k hk => by
    rw [Nat.add_assoc]
    exact hq _ (by omega)
  have hlt := place_lt R (n + 2 + d)
  rw [show n + 4 + d = n + d + 2 + 2 by omega, rising_iff,
    rises_vs_iff (hq d (by omega)) (hq (d + 1) (by omega)) (hq (d + 2) (by omega)),
    show n + d + 2 = n + 2 + d by omega]
  rw [hfirst] at hplace
  omega

variable {p : Player}

/-- A frame pulse moves the tank and decides on its next step. -/
theorem tankOf_pulse (hr : (R.state n).sys.resetTank = false)
    (hp : ((R.state n).sys.tankOf p).Pulse) :
    placeAt R p (n + 1) = placeAt R p n + ((R.state n).sys.tankOf p).motion ∧
      ((R.state (n + 1)).sys.tankOf p).motion =
        ((((R.state n).sys.tankOf p).motionIn p.config (R.input n).keycode
            ((R.state n).sys.stopsOf p)).1,
          (((R.state n).sys.tankOf p).motionIn p.config (R.input n).keycode
            ((R.state n).sys.stopsOf p)).2.1) ∧
      ((R.state (n + 1)).sys.tankOf p).newInstance = false := by
  obtain ⟨j, h1, h2, h3, h⟩ := tankOf_step ((R.state n).pins (R.input n)) (R.state n).sys p
  have hs : (R.state (n + 1)).sys.tankOf p = ((R.state n).sys.tankOf p).clock p.config j := by
    rw [R.succ]
    exact h
  have hreset : j.reset = false := h1.trans hr
  obtain ⟨hx, hy⟩ := Tank.clock_pulse (c := p.config) hreset hp
  have hk : j.keycode = (R.input n).keycode := h2
  rw [placeAt, hs, ← h3, ← hk]
  refine ⟨Prod.ext hx hy, ?_, Tank.clock_newInstance hreset hp.2⟩
  simp [Tank.clock, Tank.step, Tank.motion, hreset, hp.1, hp.2]

/-- Between frame pulses a tank stands still. -/
theorem tankOf_idle (hr : (R.state n).sys.resetTank = false)
    (hn : ((R.state n).sys.tankOf p).newInstance = false)
    (he : ((R.state n).sys.detector p.detector).rising = false) :
    placeAt R p (n + 1) = placeAt R p n ∧
      ((R.state (n + 1)).sys.tankOf p).motion = ((R.state n).sys.tankOf p).motion ∧
      ((R.state (n + 1)).sys.tankOf p).newInstance = false := by
  obtain ⟨j, h1, -, -, h⟩ := tankOf_step ((R.state n).pins (R.input n)) (R.state n).sys p
  have hs : (R.state (n + 1)).sys.tankOf p = ((R.state n).sys.tankOf p).clock p.config j := by
    rw [R.succ]
    exact h
  have hreset : j.reset = false := h1.trans hr
  have hedge : ((R.state n).sys.tankOf p).edge.rising = false := by
    cases p <;> exact he
  rw [placeAt, hs]
  refine ⟨?_, ?_, Tank.clock_newInstance hreset hn⟩ <;>
    simp [Tank.clock, Tank.step, Tank.motion, placeAt, Tank.place, hreset, hn, hedge]

/-- From a frame pulse to the next a tank goes one step, as the first pulse has decided. -/
theorem tankOf_frame (hn : 4 ≤ n) (hq : ∀ k, n ≤ k + 4 → k < n + 840000 → Quiet R k)
    (hr : ∀ k, n ≤ k → k ≤ n + 840000 → (R.state k).sys.resetTank = false)
    (hp : ((R.state n).sys.tankOf p).Pulse) :
    (∀ k, n < k → k ≤ n + 840000 → placeAt R p k = placeAt R p (n + 1)) ∧
      ((R.state (n + 840000)).sys.tankOf p).Pulse ∧
      placeAt R p (n + 840001) =
        placeAt R p (n + 1) + ((R.state (n + 1)).sys.tankOf p).motion := by
  have hrising : ∀ s : Sys, (s.detector p.detector).rising = (s.tankOf p).edge.rising := by
    cases p <;> exact fun _ => rfl
  have hnext : ∀ d ≤ 840000, (((R.state (n + d)).sys.detector p.detector).rising = true ↔
      840000 ∣ d) := fun d hd => by
    obtain ⟨m, rfl⟩ := Nat.exists_eq_add_of_le' hn
    exact rising_add_iff p.detector (fun j hj => hq _ (by omega) (by omega))
      (by rw [hrising]; exact hp.1)
  -- between the pulses nothing changes
  have hstay : ∀ k, n < k → k ≤ n + 840000 → placeAt R p k = placeAt R p (n + 1) ∧
      ((R.state k).sys.tankOf p).motion = ((R.state (n + 1)).sys.tankOf p).motion ∧
        ((R.state k).sys.tankOf p).newInstance = false := fun k hk => by
    induction k, hk using Nat.le_induction with
    | base => exact fun _ => ⟨rfl, rfl, (tankOf_pulse (hr n le_rfl (by omega)) hp).2.2⟩
    | succ k hk ih =>
      intro hle
      obtain ⟨h1, h2, h3⟩ := ih (by omega)
      have hlow : ((R.state k).sys.detector p.detector).rising = false :=
        Bool.eq_false_iff.2 fun h => by
          obtain ⟨d, rfl⟩ := Nat.exists_eq_add_of_le (Nat.le_of_succ_le hk)
          have hdvd := (hnext d (by omega)).1 h
          omega
      obtain ⟨g1, g2, g3⟩ := tankOf_idle (hr k (by omega) (by omega)) h3 hlow
      exact ⟨g1.trans h1, g2.trans h2, g3⟩
  obtain ⟨h1, h2, h3⟩ := hstay (n + 840000) (by omega) le_rfl
  have hpulse : ((R.state (n + 840000)).sys.tankOf p).Pulse :=
    ⟨by rw [← hrising]; exact (hnext 840000 le_rfl).2 dvd_rfl, h3⟩
  refine ⟨fun k h0 hk => (hstay k h0 hk).1, hpulse, ?_⟩
  rw [show n + 840001 = n + 840000 + 1 from rfl, (tankOf_pulse (hr _ (by omega) le_rfl) hpulse).1,
    h1, h2]

end Frame

/-! ### Where the tanks go -/

/-- The report asks a tank to go in a direction: it has its key, and none that comes first. -/
def Asks (p : Player) (l : List HostEvent) (d : Dir) : Prop :=
  Reported l (p.config.keyOf d) ∧ ∀ e ∈ d.before, ¬ Reported l (p.config.keyOf e)

/-- In cycle `n` a tank is asked to go in a direction, and may. -/
def Grants (R : BoardRun) (l : ℕ → List HostEvent) (p : Player) (n : ℕ) (d : Dir) : Prop :=
  Asks p (l n) d ∧ ((R.state n).sys.tankOf p).MayGo ((R.state n).sys.stopsOf p) d

section Obeys

variable {R : BoardRun} {l : ℕ → List HostEvent} {p : Player} {n K : ℕ} {d : Dir}

theorem Player.keyOf_ne (p : Player) (d : Dir) : p.config.keyOf d ≠ 0 := by
  cases p <;> cases d <;> decide

theorem ordered_iff (hs : Sends R l) :
    Tank.ordered p.config (R.input n).keycode = some d ↔ Asks p (l n) d := by
  simp only [Tank.ordered_eq_some, Asks, keyOn_iff hs (p.keyOf_ne _)]

/-- What a frame pulse decides on, by the report. -/
theorem motion_iff (hs : Sends R l) (hr : (R.state n).sys.resetTank = false)
    (hp : ((R.state n).sys.tankOf p).Pulse) :
    (∀ d, ((R.state (n + 1)).sys.tankOf p).motion = twoPixels d ↔ Grants R l p n d) ∧
      (((R.state (n + 1)).sys.tankOf p).motion = 0 ↔ ∀ d, ¬ Grants R l p n d) := by
  simp only [Grants, ← ordered_iff hs]
  rw [(tankOf_pulse hr hp).2.1]
  cases ho : Tank.ordered p.config (R.input n).keycode with
  | none =>
    rw [Tank.motionIn_none ho]
    exact ⟨fun d => by simp [(twoPixels_ne d).symm], by simp⟩
  | some e =>
    rw [Tank.motionIn_some ho]
    by_cases hm : ((R.state n).sys.tankOf p).MayGo ((R.state n).sys.stopsOf p) e
    · rw [if_pos hm]
      refine ⟨fun d => ?_, ?_⟩
      · rw [twoPixels_inj, Option.some_inj]
        exact ⟨fun h => ⟨h, h ▸ hm⟩, And.left⟩
      · exact ⟨fun h => absurd h (twoPixels_ne e), fun h => absurd ⟨rfl, hm⟩ (h e)⟩
    · rw [if_neg hm]
      refine ⟨fun d => ?_, ?_⟩
      · exact ⟨fun h => absurd h.symm (twoPixels_ne d), fun ⟨h, hd⟩ =>
          absurd (Option.some.inj h ▸ hd) hm⟩
      · exact ⟨fun _ d ⟨h, hd⟩ => hm (Option.some.inj h ▸ hd), fun _ => rfl⟩

/-- There is a frame pulse in every frame after the first. -/
theorem tankOf_frames (hn : 4 ≤ n) (hq : ∀ k, n ≤ k + 4 → k < n + 840000 * K → Quiet R k)
    (hr : ∀ k, n ≤ k → k ≤ n + 840000 * K → (R.state k).sys.resetTank = false)
    (hp : ((R.state n).sys.tankOf p).Pulse) {j : ℕ} (hj : j ≤ K) :
    ((R.state (n + 840000 * j)).sys.tankOf p).Pulse := by
  induction j with
  | zero => exact hp
  | succ j ih =>
    rw [Nat.mul_succ, ← Nat.add_assoc]
    exact (tankOf_frame (by omega) (fun k h0 h1 => hq k (by omega) (by omega))
      (fun k h0 h1 => hr k (by omega) (by omega)) (ih (by omega))).2.1

/-- **The tanks obey the keyboard**: from one frame to the next a tank is moved once, two pixels in
the direction that the report at the last frame pulse asked for, if it could go there then. -/
theorem obeys_keyboard (hs : Sends R l) (hn : 4 ≤ n)
    (hq : ∀ k, n ≤ k + 4 → k < n + 840000 * K → Quiet R k)
    (hr : ∀ k, n ≤ k → k ≤ n + 840000 * K → (R.state k).sys.resetTank = false)
    (hp : ((R.state n).sys.tankOf p).Pulse) {j m : ℕ} (hj : j < K) (hm : m = n + 840000 * j) :
    (∀ k, m < k → k ≤ m + 840000 → placeAt R p k = placeAt R p (m + 1)) ∧
      (∀ d, placeAt R p (m + 840001) = placeAt R p (m + 1) + twoPixels d ↔ Grants R l p m d) ∧
      (placeAt R p (m + 840001) = placeAt R p (m + 1) ↔ ∀ d, ¬ Grants R l p m d) := by
  have hpulse : ((R.state m).sys.tankOf p).Pulse := hm ▸ tankOf_frames hn hq hr hp hj.le
  obtain ⟨hstay, -, hstep⟩ := tankOf_frame (by omega) (fun k h0 h1 => hq k (by omega) (by omega))
    (fun k h0 h1 => hr k (by omega) (by omega)) hpulse
  obtain ⟨hgo, hno⟩ := motion_iff hs (hr m (by omega) (by omega)) hpulse
  refine ⟨hstay, fun d => ?_, ?_⟩
  · rw [hstep, add_right_inj]
    exact hgo d
  · rw [hstep, add_eq_left]
    exact hno

end Obeys

/-! ### A run with a keyboard -/

section Bench

variable {n : ℕ}

/-- What the program has done: nothing until cycle 10, and then it has sent the key codes of `W`. -/
def sentEvents (n : ℕ) : List HostEvent := if n < 10 then [] else Usb.benchEvents.take 495

/-- The board with this program. -/
def keyboardBench : BoardRun :=
  .feed Board.step started_boardUp fun n => ⟨if n < 10 then 0 else 0x1a, true⟩

theorem keyboardBench_sends : Sends keyboardBench sentEvents where
  trace n := by
    rw [sentEvents]
    split_ifs
    · exact Dialog.Prog.trace_nil _
    · exact Dialog.Prog.trace_take
        (Dialog.Prog.exec_trace 3 Usb.chipTake Usb.chipAnswer Usb.main 0) 495
  grows n := by
    rw [sentEvents, sentEvents]
    split_ifs
    · exact List.prefix_rfl
    · exact List.nil_prefix
    · omega
    · exact List.prefix_rfl
  keycode n := by
    have hkeys : (Usb.keycodes (Usb.benchEvents.take 495)).getLast?.getD 0 = 0x1a := by
      decide +kernel
    show (if n < 10 then 0 else 0x1a) = _
    rw [sentEvents]
    split_ifs
    · rfl
    · exact hkeys.symm

theorem keyboardBench_quiet (n : ℕ) : Quiet keyboardBench n :=
  quiet_feed (fun n => ⟨rfl, by dsimp only; split_ifs <;> decide⟩) n

/-- Nobody presses the enter key. -/
theorem keyboardBench_menu (n : ℕ) : (keyboardBench.state n).sys.state = .BG := by
  induction n with
  | zero => rfl
  | succ n ih =>
    have hkey : enterKey (keyboardBench.input n).keycode = false := by
      show enterKey (if n < 10 then 0 else 0x1a) = false
      split_ifs <;> decide
    have hq : (keyboardBench.state n).resetH (keyboardBench.input n) = false :=
      keyboardBench_quiet n
    have hstep : (keyboardBench.state (n + 1)).sys.state =
        (keyboardBench.state n).sys.nextState
          ((keyboardBench.state n).pins (keyboardBench.input n)) := by
      rw [keyboardBench.succ]
      exact if_neg (Bool.eq_false_iff.1 hq)
    rw [hstep, Sys.nextState, ih]
    simp [Board.pins, hkey]

theorem keyboardBench_resetTank (n : ℕ) : (keyboardBench.state n).sys.resetTank = false := by
  rw [Sys.resetTank, keyboardBench_menu]
  rfl

/-- The first frame pulse. -/
theorem keyboardBench_rising (h : n = 787197) :
    ((keyboardBench.state (n + 4)).sys.detector .tank1).rising = true := by
  have hplace := place_add (R := keyboardBench) (n := 0) (d := n + 2) fun k _ =>
    keyboardBench_quiet _
  have hlt := place_lt keyboardBench (n + 2)
  have hzero : (keyboardBench.state 0).place = 0 := by decide
  rw [hzero, Nat.zero_add] at hplace
  refine (rising_iff keyboardBench .tank1 (n + 2)).2 ((rises_vs_iff (keyboardBench_quiet _)
    (keyboardBench_quiet _) (keyboardBench_quiet _)).2 ?_)
  omega

/-- The tank has seen all keys released. -/
theorem keyboardBench_newInstance (hn : 10 ≤ n) :
    ((keyboardBench.state n).sys.tankOf .one).newInstance = false := by
  induction n, hn using Nat.le_induction with
  | base => decide +kernel
  | succ n hn ih =>
    obtain ⟨j, h1, -, -, h⟩ := tankOf_step
      ((keyboardBench.state n).pins (keyboardBench.input n)) (keyboardBench.state n).sys .one
    have hs : (keyboardBench.state (n + 1)).sys.tankOf .one =
        ((keyboardBench.state n).sys.tankOf .one).clock tank1Config j := by
      rw [keyboardBench.succ]
      exact h
    rw [hs]
    exact Tank.clock_newInstance (h1.trans (keyboardBench_resetTank n)) ih

theorem obeys_keyboard_bench :
    placeAt keyboardBench .one 1627202 = placeAt keyboardBench .one 787202 + twoPixels .up ↔
      Grants keyboardBench sentEvents .one 787201 .up := by
  obtain ⟨n, hn⟩ : ∃ n : ℕ, n = 787197 := exists_eq
  have hp : ((keyboardBench.state (n + 4)).sys.tankOf .one).Pulse :=
    ⟨keyboardBench_rising hn, keyboardBench_newInstance (by omega)⟩
  have hobeys := (obeys_keyboard (K := 1) (j := 0) keyboardBench_sends (by omega)
    (fun k _ _ => keyboardBench_quiet k) (fun k _ _ => keyboardBench_resetTank k) hp (by omega)
    (Nat.add_zero _).symm).2.1 .up
  subst hn
  simpa only [Nat.reduceAdd] using hobeys

end Bench

end TankBattle
