import TankBattle.I2c
import TankBattle.Sync

/-!
# Configuring the audio codec (`audio_interface.vhd`)

The interface divides the clock by 1024 for the clock line of an I2C bus and sends nine frames of
three bytes each: the address of the codec, a register and its value.

* `I2cState`, `AudioInit`: the state machine and the registers around it;
* `scl`, `sda`: the lines of the bus, with what the codec does while it acknowledges;
* `regs_hold`, `regs_rise`: the registers in a period of the clock line;
* `events_bit`, `events_byte`, `events_frame`: what a receiver sees of a period, a byte, a frame;
* `initFinish_iff`: when the configuration is done;
* `codec_configured`: a receiver gets the table, word by word, and then nothing more.
-/

namespace TankBattle.Audio

open Sync I2c

/-- The bytes of a frame: `b` the device, `a` the register, `d` the value. -/
inductive I2cByte
  | b
  | a
  | d
  deriving DecidableEq

/-- The states of the transmitter; `bit .b k` is the state `b0`, ..., `b7` of the source, and so
on. -/
inductive I2cState
  | initial
  | start
  | bit (w : I2cByte) (k : Fin 8)
  | ack (w : I2cByte)
  | b_stop0
  | b_stop1
  | b_end
  deriving DecidableEq

/-- `SCI_ADDR`. -/
def sciAddr : BitVec 8 := 0x34

/-- `SCI_REG_ROM`. -/
def sciRegRom : List (BitVec 8) := [0x12, 0x01, 0x05, 0x08, 0x0A, 0x0C, 0x0E, 0x10, 0x12]

/-- `SCI_DAT_ROM`. -/
def sciDatRom : List (BitVec 8) := [0x00, 0x1F, 0xF5, 0xD0, 0x05, 0x60, 0x43, 0x00, 0x01]

/-- `word_limit`. -/
def wordLimit : ℕ := 8

/-- The byte that is sent in word number `n`. -/
def byteOf (n : ℕ) : I2cByte → BitVec 8
  | .b => sciAddr
  | .a => sciRegRom.getD n 0
  | .d => sciDatRom.getD n 0

namespace I2cState

/-- The next state; on a falling edge of the clock line `sck0` is low and `sck1` high. -/
def next (sclk sck0 sck1 : Bool) (wordCount : ℕ) : I2cState → I2cState
  | .initial => if sclk then .start else .initial
  | .start => if !sck0 && sck1 then .bit .b 0 else .start
  | .bit w k => if !sck0 && sck1 then if k = 7 then .ack w else .bit w (k + 1) else .bit w k
  | .ack .b => if !sck0 && sck1 then .bit .a 0 else .ack .b
  | .ack .a => if !sck0 && sck1 then .bit .d 0 else .ack .a
  | .ack .d =>
    if !sck0 && sck1 then if wordCount = wordLimit + 1 then .b_stop0 else .initial
    else .ack .d
  | .b_stop0 => if sclk then .b_stop1 else .b_stop0
  | .b_stop1 => .b_end
  | .b_end => .b_end

/-- `I2C_SDAT`, `none` for high impedance. -/
def sdat (wordCount : ℕ) : I2cState → Option Bool
  | .initial => some true
  | .start => some false
  | .bit w k => some ((byteOf wordCount w).getLsbD (7 - k))
  | .ack _ => none
  | .b_stop0 => some false
  | .b_stop1 => some true
  | .b_end => some true

/-- `SCLK_inhibit`. -/
def inhibit (s : I2cState) : Bool := s == .b_stop1 || s == .b_end

/-- `count_en`. -/
def countEn (s : I2cState) : Bool := s == .ack .d

end I2cState

/-- The registers of the transmitter. -/
structure AudioInit where
  counter : BitVec 10
  sck0 : Bool
  sck1 : Bool
  state : I2cState
  wordCount : ℕ
  deriving DecidableEq

namespace AudioInit

/-- `SCLK_int`, with `counter` and `state`. -/
def sclkOf (counter : BitVec 10) (state : I2cState) : Bool := counter.getLsbD 9 || state.inhibit

/-- `I2C_SCLK`. -/
def sclk (r : AudioInit) : Bool := sclkOf r.counter r.state

/-- `INIT_FINISH`. -/
def initFinish (r : AudioInit) : Bool := r.state == .b_end

/-- One edge of the clock.  The words are counted on the falling edges of the clock line. -/
def step (reset : Bool) (r : AudioInit) : AudioInit :=
  if reset then ⟨0, false, false, .initial, 0⟩
  else
    let state := r.state.next r.sclk r.sck0 r.sck1 r.wordCount
    let fall := r.sclk && !sclkOf (r.counter + 1) state
    { counter := r.counter + 1
      sck0 := r.sclk
      sck1 := r.sck0
      state
      wordCount :=
        if state = .b_end then 0
        else if fall && state.countEn then r.wordCount + 1 else r.wordCount }

end AudioInit

/-- The runs of the transmitter, from any registers on. -/
abbrev AudioRun := Sync.Run AudioInit.step fun _ => True

/-- The clock line. -/
def scl (R : AudioRun) (n : ℕ) : Bool := (R.state n).sclk

/-- The data line; while the interface does not drive it, the codec does. -/
def sda (R : AudioRun) (codec : ℕ → Bool) (n : ℕ) : Bool :=
  ((R.state n).state.sdat (R.state n).wordCount).getD (codec n)

/-! ### The registers in a period of the clock line -/

namespace I2cState

/-- The states that wait for a falling edge. -/
def Clocked : I2cState → Prop
  | .start | .bit _ _ | .ack _ => True
  | _ => False

/-- The state after a falling edge. -/
def fall (wordCount : ℕ) (s : I2cState) : I2cState := s.next false false true wordCount

theorem next_clocked {s : I2cState} (h : s.Clocked) (sclk sck0 sck1 : Bool) (w : ℕ) :
    s.next sclk sck0 sck1 w = if !sck0 && sck1 then s.fall w else s := by
  rcases s with _ | _ | ⟨w', k⟩ | ⟨_ | _ | _⟩ | _ | _ | _ <;> simp [Clocked] at h <;> rfl

theorem inhibit_clocked {s : I2cState} (h : s.Clocked) : s.inhibit = false := by
  cases s <;> simp [Clocked] at h <;> rfl

end I2cState

/-- The registers `j` cycles after the beginning of a period. -/
def AudioInit.at (j : ℕ) (s : I2cState) (w : ℕ) : AudioInit :=
  ⟨BitVec.ofNat 10 (2 + j), decide (511 ≤ j ∧ j ≤ 1022), decide (512 ≤ j), s, w⟩

theorem counter_high (c : ℕ) : (BitVec.ofNat 10 c).getLsbD 9 = decide (512 ≤ c % 1024) := by
  rw [BitVec.getLsbD_ofNat, decide_eq_true (by decide : 9 < 10), Bool.true_and,
    Nat.testBit_eq_decide_div_mod_eq]
  exact decide_eq_decide.2 (by omega)

theorem sclkOf_at {j : ℕ} (hj : j ≤ 1024) {s : I2cState} (hs : s.inhibit = false) :
    AudioInit.sclkOf (BitVec.ofNat 10 (2 + j)) s = decide (510 ≤ j ∧ j ≤ 1021) := by
  rw [AudioInit.sclkOf, counter_high, hs, Bool.or_false]
  exact decide_eq_decide.2 (by omega)

section Period

variable {R : AudioRun} {n w i j : ℕ} {s : I2cState}

theorem regs_succ (h : R.input n = false) {r : AudioInit} (hr : R.state n = r) :
    R.state (n + 1) = AudioInit.step false r := by
  rw [R.succ, h, hr]

/-- One cycle in a period, away from its end: words are counted when the clock line falls. -/
theorem step_at (hj : j ≤ 1022) (hs : s.inhibit = false) {s' : I2cState} (hs' : s'.inhibit = false)
    (hnext : s.next (decide (510 ≤ j ∧ j ≤ 1021)) (decide (511 ≤ j ∧ j ≤ 1022))
      (decide (512 ≤ j)) w = s') :
    AudioInit.step false (.at j s w) =
      .at (j + 1) s' (if j = 1021 ∧ s' = .ack .d then w + 1 else w) := by
  have hsclk : (AudioInit.at j s w).sclk = decide (510 ≤ j ∧ j ≤ 1021) := sclkOf_at (by omega) hs
  have hcounter : BitVec.ofNat 10 (2 + j) + 1 = BitVec.ofNat 10 (2 + (j + 1)) :=
    (BitVec.ofNat_add (2 + j) 1).symm
  have hfall : AudioInit.sclkOf (BitVec.ofNat 10 (2 + (j + 1))) s' =
      decide (510 ≤ j + 1 ∧ j + 1 ≤ 1021) := sclkOf_at (by omega) hs'
  have hend : s' ≠ .b_end := by rintro rfl; exact absurd hs' (by decide)
  rw [AudioInit.step, if_neg Bool.false_ne_true, hsclk]
  simp only [AudioInit.at, hnext, hcounter, hfall, if_neg hend, AudioInit.mk.injEq]
  refine ⟨trivial, decide_eq_decide.2 (by omega), decide_eq_decide.2 (by omega), trivial, ?_⟩
  simp only [I2cState.countEn, Bool.and_eq_true, Bool.not_eq_true', decide_eq_true_eq,
    decide_eq_false_iff_not, beq_iff_eq]
  exact if_congr (and_congr_left fun _ => by omega) rfl rfl

/-- **A state that waits for a falling edge** stays for the rest of the period. -/
theorem regs_hold (hq : ∀ k, n ≤ k → R.input k = false) (hs : s.Clocked)
    (h : R.state (n + i) = .at i s w) (hij : i ≤ j) (hi : i ≤ 1021) (hj : j ≤ 1023) :
    R.state (n + j) = .at j s (if s = .ack .d ∧ 1022 ≤ j then w + 1 else w) := by
  induction j, hij using Nat.le_induction with
  | base => rw [h, if_neg (by omega)]
  | succ j hij ih =>
    have hlow := I2cState.inhibit_clocked hs
    rw [← Nat.add_assoc, regs_succ (hq _ (by omega)) (ih (by omega)),
      step_at (by omega) hlow hlow (by
        rw [I2cState.next_clocked hs, if_neg]
        simp only [Bool.and_eq_true, Bool.not_eq_true', decide_eq_true_eq, decide_eq_false_iff_not]
        omega)]
    congr 1
    by_cases hd : s = .ack .d
    · simp only [hd, true_and, and_true]
      split_ifs <;> omega
    · simp [hd]

/-- At the end of the period the next state follows. -/
theorem regs_fall (hq : ∀ k, n ≤ k → R.input k = false) (hs : s.Clocked)
    (h : R.state (n + i) = .at i s w) (hi : i ≤ 1021) :
    R.state (n + 1024) =
      .at 0 (s.fall (if s = .ack .d then w + 1 else w)) (if s = .ack .d then w + 1 else w) := by
  have hlast := regs_hold hq hs h (j := 1023) (by omega) hi le_rfl
  simp only [show (1022 ≤ 1023) = True by simp, and_true] at hlast
  rw [regs_succ (n := n + 1023) (hq _ (by omega)) hlast]
  generalize (if s = .ack .d then w + 1 else w) = v
  have hsclk : (AudioInit.at 1023 s v).sclk = false :=
    sclkOf_at (by decide) (I2cState.inhibit_clocked hs)
  have hend : s.fall v ≠ .b_end := by
    rcases s with _ | _ | ⟨w', k⟩ | ⟨_ | _ | _⟩ | _ | _ | _ <;> simp [I2cState.Clocked] at hs <;>
      simp only [I2cState.fall, I2cState.next] <;> split_ifs <;> nofun
  rw [AudioInit.step, if_neg Bool.false_ne_true, hsclk]
  have hedge : (!decide (511 ≤ 1023 ∧ 1023 ≤ 1022) && decide (512 ≤ 1023)) = true := by decide
  simp only [AudioInit.at, I2cState.next_clocked hs, Bool.false_and, hedge, if_true, if_neg hend,
    Bool.false_eq_true, if_false]
  rfl

theorem inhibit_fall (hs : s.Clocked) (v : ℕ) : (s.fall v).inhibit = false := by
  rcases s with _ | _ | ⟨w', k⟩ | ⟨_ | _ | _⟩ | _ | _ | _ <;> simp [I2cState.Clocked] at hs <;>
    simp only [I2cState.fall, I2cState.next] <;> split_ifs <;> rfl

/-- A state that waits for a rising edge stays up to the middle of the period. -/
theorem regs_rise (hq : ∀ k, n ≤ k → R.input k = false) (hs : s = .initial ∨ s = .b_stop0)
    (h : R.state n = .at 0 s w) (hj : j ≤ 510) : R.state (n + j) = .at j s w := by
  induction j with
  | zero => exact h
  | succ j ih =>
    have hlow : s.inhibit = false := by rcases hs with rfl | rfl <;> rfl
    have hnext : s.next (decide (510 ≤ j ∧ j ≤ 1021)) (decide (511 ≤ j ∧ j ≤ 1022))
        (decide (512 ≤ j)) w = s := by
      rw [decide_eq_false (by omega : ¬ (510 ≤ j ∧ j ≤ 1021))]
      rcases hs with rfl | rfl <;> rfl
    rw [← Nat.add_assoc, regs_succ (hq _ (by omega)) (ih (by omega)),
      step_at (by omega) hlow hlow hnext, if_neg (by omega)]

end Period

/-! ### What a receiver sees -/

/-- The codec keeps the data line steady while the clock line is high. -/
def Steady (R : AudioRun) (codec : ℕ → Bool) : Prop :=
  ∀ n, scl R n = true → scl R (n + 1) = true → codec (n + 1) = codec n

section Lines

variable {R : AudioRun} {codec : ℕ → Bool} {n w j : ℕ} {s : I2cState} {x : I2cByte}

theorem scl_eq (h : R.state n = .at j s w) (hj : j ≤ 1024) (hs : s.inhibit = false) :
    scl R n = decide (510 ≤ j ∧ j ≤ 1021) := by
  rw [scl, h]
  exact sclkOf_at hj hs

theorem sda_eq (h : R.state n = .at j s w) : sda R codec n = (s.sdat w).getD (codec n) := by
  rw [sda, h]
  rfl

/-- The clock line in a period. -/
theorem scl_period (hq : ∀ k, n ≤ k → R.input k = false) (hs : s.Clocked)
    (h : R.state n = .at 0 s w) {k : ℕ} (h0 : n ≤ k) (h1 : k ≤ n + 1024) :
    scl R k = decide (n + 510 ≤ k ∧ k ≤ n + 1021) := by
  obtain ⟨j, rfl⟩ := Nat.exists_eq_add_of_le h0
  rw [show decide (n + 510 ≤ n + j ∧ n + j ≤ n + 1021) = decide (510 ≤ j ∧ j ≤ 1021) from
    decide_eq_decide.2 (by omega)]
  rcases Nat.eq_or_lt_of_le (by omega : j ≤ 1024) with rfl | hj
  · rw [scl_eq (regs_fall hq hs (i := 0) h (by decide)) (by decide) (inhibit_fall hs _)]
    rfl
  · exact scl_eq (regs_hold hq hs (i := 0) h (by omega) (by decide) (by omega)) (by omega)
      (I2cState.inhibit_clocked hs)

/-- **A period is a bit.** -/
theorem events_bit (hq : ∀ k, n ≤ k → R.input k = false) (hc : Steady R codec) (hs : s.Clocked)
    (h : R.state n = .at 0 s w) :
    events (scl R) (sda R codec) n 1024 = [.bit (sda R codec (n + 510))] := by
  have hscl := fun k h0 h1 => scl_period hq hs h (k := k) h0 h1
  have hregs : ∀ j, 510 ≤ j → j ≤ 1021 → R.state (n + j) = .at j s w := fun j h0 h1 => by
    rw [regs_hold hq hs (i := 0) h (by omega) (by decide) (by omega), if_neg (by omega)]
  have hcodec : ∀ j, 510 ≤ j → j ≤ 1021 → codec (n + j) = codec (n + 510) := fun j h0 => by
    induction j, h0 using Nat.le_induction with
    | base => exact fun _ => rfl
    | succ j h0 ih =>
      intro h1
      rw [← ih (by omega)]
      exact hc (n + j) (by rw [hscl _ (by omega) (by omega)]; exact decide_eq_true (by omega))
        (by rw [hscl _ (by omega) (by omega)]; exact decide_eq_true (by omega))
  have hpulse : events (scl R) (sda R codec) n (n + 1024 - n) = [.bit (sda R codec (n + 510))] :=
    events_pulse (r := n + 510) (f := n + 1021) (by omega) (by omega) (by omega) hscl
      fun k h0 h1 => by
      obtain ⟨j, rfl⟩ := Nat.exists_eq_add_of_le (by omega : n ≤ k)
      rw [sda_eq (hregs j (by omega) (by omega)), sda_eq (hregs 510 le_rfl (by decide)),
        hcodec j (by omega) (by omega)]
  rwa [Nat.add_sub_cancel_left] at hpulse

/-- The bits of a byte, one by one. -/
theorem events_bits (hq : ∀ k, n ≤ k → R.input k = false) (hc : Steady R codec)
    (h : R.state n = .at 0 (.bit x 0) w) {k : ℕ} (hk : k ≤ 8) :
    events (scl R) (sda R codec) n (1024 * k) =
        ((List.range k).map fun i => (byteOf w x).getLsbD (7 - i)).map .bit ∧
      R.state (n + 1024 * k) = .at 0 (if k = 8 then .ack x else .bit x (Fin.ofNat 8 k)) w := by
  induction k with
  | zero => exact ⟨rfl, h⟩
  | succ k ih =>
    obtain ⟨hev, hst⟩ := ih (by omega)
    rw [if_neg (by omega)] at hst
    have hq' : ∀ j, n + 1024 * k ≤ j → R.input j = false := fun j hj => hq j (by omega)
    have hclk : (I2cState.bit x (Fin.ofNat 8 k)).Clocked := trivial
    have hmid := regs_hold hq' hclk (i := 0) hst (j := 510) (by decide) (by decide) (by decide)
    rw [if_neg (by omega)] at hmid
    constructor
    · rw [Nat.mul_succ, events_add, hev, events_bit hq' hc hclk hst, sda_eq hmid,
        List.range_succ, List.map_append, List.map_append]
      simp only [I2cState.sdat, Option.getD_some, List.map_cons, List.map_nil, Fin.val_ofNat]
      rw [Nat.mod_eq_of_lt (by omega)]
    · rw [Nat.mul_succ, ← Nat.add_assoc, regs_fall hq' hclk (i := 0) hst (by decide),
        if_neg (by nofun)]
      congr 1
      simp only [I2cState.fall, I2cState.next, Bool.not_false, Bool.and_self, if_true]
      have h8 : k < 8 := hk
      interval_cases k <;> rfl

/-- **A byte** and its acknowledgement. -/
theorem events_byte (hq : ∀ k, n ≤ k → R.input k = false) (hc : Steady R codec)
    (h : R.state n = .at 0 (.bit x 0) w) :
    ∃ ack, events (scl R) (sda R codec) n (1024 * 9) =
        (bits (byteOf w x) ++ [ack]).map .bit ∧
      R.state (n + 1024 * 9) = .at 0 ((I2cState.ack x).fall (if x = .d then w + 1 else w))
        (if x = .d then w + 1 else w) := by
  obtain ⟨hev, hst⟩ := events_bits hq hc h (k := 8) le_rfl
  rw [if_pos rfl] at hst
  have hq' : ∀ j, n + 1024 * 8 ≤ j → R.input j = false := fun j hj => hq j (by omega)
  refine ⟨sda R codec (n + 1024 * 8 + 510), ?_, ?_⟩
  · rw [show 1024 * 9 = 1024 * 8 + 1024 by rfl, events_add, hev,
      events_bit hq' hc (s := .ack x) trivial hst, List.map_append]
    rfl
  · have hfall := regs_fall hq' (s := .ack x) trivial (i := 0) hst (by decide)
    rw [show n + 1024 * 9 = n + 1024 * 8 + 1024 by omega]
    simpa only [I2cState.ack.injEq] using hfall

variable (codec) in
/-- **A start**: the data line falls while the clock line is high. -/
theorem events_start (hq : ∀ k, n ≤ k → R.input k = false)
    (h : R.state n = .at 0 .initial w) :
    events (scl R) (sda R codec) n 1024 = [.bit true, .start] ∧
      R.state (n + 1024) = .at 0 (.bit .b 0) w := by
  have hlow : ∀ j ≤ 510, R.state (n + j) = .at j .initial w := fun j hj =>
    regs_rise hq (.inl rfl) h hj
  have h511 : R.state (n + 511) = .at 511 .start w := by
    rw [regs_succ (n := n + 510) (hq _ (by omega)) (hlow 510 le_rfl)]
    exact step_at (by decide) rfl rfl rfl
  have hhold : ∀ j, 511 ≤ j → j ≤ 1023 → R.state (n + j) = .at j .start w := fun j h0 h1 => by
    rw [regs_hold hq (s := .start) trivial h511 h0 (by decide) h1, if_neg (by nofun)]
  have hend : R.state (n + 1024) = .at 0 (.bit .b 0) w :=
    regs_fall hq (s := .start) trivial h511 (by decide)
  refine ⟨?_, hend⟩
  have hscl : ∀ j ≤ 1024, scl R (n + j) = decide (510 ≤ j ∧ j ≤ 1021) := fun j hj => by
    rcases (by omega : j ≤ 510 ∨ 511 ≤ j ∧ j ≤ 1023 ∨ j = 1024) with hj | ⟨h0, h1⟩ | rfl
    · exact scl_eq (hlow j hj) (by omega) rfl
    · exact scl_eq (hhold j h0 h1) (by omega) rfl
    · rw [scl_eq hend (by decide) rfl]
      rfl
  have hfirst : events (scl R) (sda R codec) n 509 = [] := events_low fun k _ hk => by
    rw [hscl k (by omega)]
    exact decide_eq_false (by omega)
  have h510 : scl R (n + 510) = true := hscl 510 (by decide)
  have hrise : edge (scl R) (sda R codec) (n + 509) = [.bit true] := by
    rw [edge_rise (hscl 509 (by decide)) h510]
    exact congrArg (fun b => [Event.bit b]) (sda_eq (hlow 510 le_rfl))
  have hstart : edge (scl R) (sda R codec) (n + 510) = [.start] :=
    edge_start h510 (hscl 511 (by decide)) (sda_eq (hlow 510 le_rfl)) (sda_eq h511)
  have hflat : events (scl R) (sda R codec) (n + 511) 510 = [] := events_flat
    (fun k hk => by rw [Nat.add_assoc, hscl _ (by omega)]; exact decide_eq_true (by omega))
    fun k hk => by
      rw [Nat.add_assoc, sda_eq (hhold (511 + k) (by omega) (by omega)), sda_eq h511]
      rfl
  have hlast : events (scl R) (sda R codec) (n + 1021) 3 = [] := events_low fun k h0 hk => by
    rw [Nat.add_assoc, hscl _ (by omega)]
    exact decide_eq_false (by omega)
  rw [show 1024 = 509 + (1 + (1 + (510 + 3))) by rfl, events_add, hfirst, events_add, events_one,
    hrise, events_add, events_one, hstart, events_add, hflat, hlast]
  rfl

/-- The bytes of a word: the device, the register and its value. -/
def word (w : ℕ) : List (BitVec 8) := [byteOf w .b, byteOf w .a, byteOf w .d]

/-- **A frame** carries a word. -/
theorem events_frame (hq : ∀ k, n ≤ k → R.input k = false) (hc : Steady R codec)
    (h : R.state n = .at 0 .initial w) :
    ∃ f, f.map Prod.fst = word w ∧
      events (scl R) (sda R codec) n (1024 * 28) = frameEvents f ∧
      R.state (n + 1024 * 28) =
        .at 0 (if w + 1 = wordLimit + 1 then .b_stop0 else .initial) (w + 1) := by
  obtain ⟨e0, h0⟩ := events_start codec hq h
  obtain ⟨s1, e1, h1⟩ := events_byte (fun k hk => hq k (by omega)) hc h0
  obtain ⟨s2, e2, h2⟩ := events_byte (fun k hk => hq k (by omega)) hc (x := .a) h1
  obtain ⟨s3, e3, h3⟩ := events_byte (fun k hk => hq k (by omega)) hc (x := .d) h2
  refine ⟨[(byteOf w .b, s1), (byteOf w .a, s2), (byteOf w .d, s3)], rfl, ?_, ?_⟩
  · rw [show 1024 * 28 = 1024 + (1024 * 9 + (1024 * 9 + 1024 * 9)) by rfl, events_add, e0,
      events_add, e1, events_add, e2, e3]
    simp [frameEvents, frameBits]
  · rw [show n + 1024 * 28 = n + 1024 + 1024 * 9 + 1024 * 9 + 1024 * 9 by omega, h3]
    rfl

/-- **The frames** carry the words that are left. -/
theorem events_frames {k : ℕ} (hq : ∀ k, n ≤ k → R.input k = false) (hc : Steady R codec)
    (h : R.state n = .at 0 .initial w) (hk : 0 < k) (hw : w + k = wordLimit + 1) :
    ∃ fs : List (List (BitVec 8 × Bool)),
      fs.map (List.map Prod.fst) = (List.range' w k).map word ∧
      events (scl R) (sda R codec) n (1024 * 28 * k) = fs.flatMap frameEvents ∧
      R.state (n + 1024 * 28 * k) = .at 0 .b_stop0 (wordLimit + 1) := by
  induction k generalizing n w with
  | zero => omega
  | succ k ih =>
    obtain ⟨f, hf, hev, hst⟩ := events_frame hq hc h
    rw [Nat.mul_succ, Nat.add_comm (1024 * 28 * k), events_add, ← Nat.add_assoc, hev]
    rcases Nat.eq_zero_or_pos k with rfl | hpos
    · rw [if_pos hw, hw] at hst
      exact ⟨[f], by simp [hf], by simp [events], hst⟩
    · rw [if_neg (by omega)] at hst
      obtain ⟨fs, hfs, hev', hst'⟩ := ih (fun j hj => hq j (by omega)) hst hpos (by omega)
      refine ⟨f :: fs, ?_, ?_, hst'⟩
      · rw [List.map_cons, hf, hfs, List.range'_succ, List.map_cons]
      · rw [hev', List.flatMap_cons]

/-- The last state is never left. -/
theorem state_end (hq : ∀ k, n ≤ k → R.input k = false) (h : (R.state n).state = .b_end)
    (hj : n ≤ j) : (R.state j).state = .b_end := by
  induction j, hj using Nat.le_induction with
  | base => exact h
  | succ j hj ih =>
    rw [regs_succ (hq j hj) rfl]
    show (R.state j).state.next _ _ _ _ = _
    rw [ih]
    rfl

/-- The lines after the stop. -/
theorem lines_end (h : (R.state n).state.inhibit = true) :
    scl R n = true ∧ sda R codec n = true := by
  have hs : (R.state n).state = .b_stop1 ∨ (R.state n).state = .b_end := by
    simpa [I2cState.inhibit] using h
  refine ⟨by rw [scl, AudioInit.sclk, AudioInit.sclkOf, h, Bool.or_true], ?_⟩
  rcases hs with hs | hs <;> rw [sda, hs] <;> rfl

variable (codec) in
/-- **The stop**: the data line rises while the clock line is high, and both stay there. -/
theorem events_stop (hq : ∀ k, n ≤ k → R.input k = false) (h : R.state n = .at 0 .b_stop0 w) :
    (R.state (n + 511)).state = .b_stop1 ∧
      (∀ k, n + 512 ≤ k → (R.state k).state = .b_end) ∧
      ∀ k, 511 ≤ k → events (scl R) (sda R codec) n k = [.bit false, .stop] := by
  have hlow : ∀ j ≤ 510, R.state (n + j) = .at j .b_stop0 w := fun j hj =>
    regs_rise hq (.inr rfl) h hj
  have h511 : (R.state (n + 511)).state = .b_stop1 := by
    have hsclk : (AudioInit.at 510 .b_stop0 w).sclk = true := sclkOf_at (by decide) rfl
    rw [regs_succ (n := n + 510) (hq _ (by omega)) (hlow 510 le_rfl)]
    exact congrArg (fun b => I2cState.next b false false w .b_stop0) hsclk
  have hend : ∀ k, n + 512 ≤ k → (R.state k).state = .b_end := fun k hk =>
    state_end (n := n + 512) (fun j hj => hq j (by omega)) (by
      rw [regs_succ (n := n + 511) (hq _ (by omega)) rfl]
      show (R.state (n + 511)).state.next _ _ _ _ = _
      rw [h511]
      rfl) hk
  refine ⟨h511, hend, fun k hk => ?_⟩
  have hline : ∀ j, 511 ≤ j → scl R (n + j) = true ∧ sda R codec (n + j) = true := fun j hj => by
    refine lines_end ?_
    rcases Nat.eq_or_lt_of_le hj with rfl | hj
    · rw [h511]
      rfl
    · rw [hend (n + j) (by omega)]
      rfl
  have hscl : ∀ j ≤ 510, scl R (n + j) = decide (510 ≤ j ∧ j ≤ 1021) := fun j hj =>
    scl_eq (hlow j hj) (by omega) rfl
  have hfirst : events (scl R) (sda R codec) n 509 = [] := events_low fun j _ hj => by
    rw [hscl j (by omega)]
    exact decide_eq_false (by omega)
  have h510 : scl R (n + 510) = true := hscl 510 le_rfl
  have hrise : edge (scl R) (sda R codec) (n + 509) = [.bit false] := by
    rw [edge_rise (hscl 509 (by decide)) h510]
    exact congrArg (fun b => [Event.bit b]) (sda_eq (hlow 510 le_rfl))
  have hstop : edge (scl R) (sda R codec) (n + 510) = [.stop] :=
    edge_stop h510 (hline 511 le_rfl).1 (sda_eq (hlow 510 le_rfl)) (hline 511 le_rfl).2
  have hflat : events (scl R) (sda R codec) (n + 511) (k - 511) = [] := events_flat
    (fun j hj => by rw [Nat.add_assoc]; exact (hline _ (by omega)).1)
    fun j hj => by rw [Nat.add_assoc, (hline _ (by omega)).2, (hline 511 le_rfl).2]
  rw [show k = 509 + (1 + (1 + (k - 511))) by omega, events_add, hfirst, events_add, events_one,
    hrise, events_add, events_one, hstop, hflat]
  rfl

end Lines

/-! ### From the reset on -/

section Reset

variable {R : AudioRun} {codec : ℕ → Bool} {k m n : ℕ}

variable (codec) in
/-- Two cycles after the reset the first period begins. -/
theorem regs_reset (hr : R.input m = true) (hq : ∀ k, m < k → R.input k = false) :
    R.state (m + 3) = .at 0 .initial 0 ∧ events (scl R) (sda R codec) (m + 1) 2 = [] := by
  have h1 : R.state (m + 1) = ⟨0, false, false, .initial, 0⟩ := by
    rw [R.succ, hr]
    rfl
  have h2 := regs_succ (hq (m + 1) (by omega)) h1
  have h3 := regs_succ (hq (m + 1 + 1) (by omega)) h2
  refine ⟨h3, events_low fun j h0 hj => ?_⟩
  obtain rfl | rfl : j = 1 ∨ j = 2 := by omega
  · rw [scl, h2]
    rfl
  · rw [scl, h3]
    rfl

/-- The bus after a reset that is the last one. -/
theorem transfers_reset (hr : R.input m = true) (hq : ∀ k, m < k → R.input k = false)
    (hc : Steady R codec) (hk : 258561 ≤ k) :
    transfers (events (scl R) (sda R codec) (m + 1) k) = (List.range 9).map word := by
  obtain ⟨h3, hnone⟩ := regs_reset codec hr hq
  obtain ⟨fs, hfs, hev, hst⟩ := events_frames (k := 9) (fun j hj => hq j (by omega)) hc h3
    (by decide) rfl
  obtain ⟨-, -, hstop⟩ := events_stop codec (fun j hj => hq j (by omega)) hst
  have hsession : events (scl R) (sda R codec) (m + 1) k = sessionEvents fs := by
    rw [show k = 2 + (1024 * 28 * 9 + (k - 258050)) by omega, events_add, hnone, events_add,
      show m + 1 + 2 = m + 3 by omega, hev, hstop _ (by omega)]
    rfl
  rw [hsession, transfers_session, hfs]
  rfl

/-- `INIT_FINISH` after a reset that is the last one. -/
theorem initFinish_reset (hr : R.input m = true) (hq : ∀ k, m < k → R.input k = false)
    (hn : m < n) : (R.state n).initFinish = true ↔ m + 258563 ≤ n := by
  obtain ⟨h3, -⟩ := regs_reset (fun _ => false) hr hq
  have hsteady : Steady R fun _ => false := fun _ _ _ => rfl
  obtain ⟨-, -, -, hst⟩ := events_frames (k := 9) (fun j hj => hq j (by omega)) hsteady h3
    (by decide) rfl
  obtain ⟨hstop, hend, -⟩ := events_stop (fun _ => false) (fun j hj => hq j (by omega)) hst
  rw [AudioInit.initFinish, beq_iff_eq]
  constructor
  · -- the last state is not left, and the state before it is another one
    intro hn'
    by_contra hlt
    have hlast := state_end (fun j hj => hq j (by omega)) hn'
      (by omega : n ≤ m + 3 + 1024 * 28 * 9 + 511)
    rw [hstop] at hlast
    cases hlast
  · exact fun h => hend n (le_trans (le_of_eq (by omega)) h)

/-- **`INIT_FINISH`** rises when the last word was sent, and stays high up to the next reset. -/
theorem initFinish_iff (hr : R.input m = true) (hq : ∀ k, m < k → k < n → R.input k = false)
    (hn : m < n) : (R.state n).initFinish = true ↔ m + 258563 ≤ n := by
  have hr' : (R.override n fun _ => false).input m = true := (if_pos hn).trans hr
  rw [← R.override_state (fun _ => false) le_rfl]
  refine initFinish_reset hr' (fun k hk => ?_) hn
  show (if k < n then R.input k else false) = false
  split_ifs with hkn
  · exact hq k hk hkn
  · rfl

/-- **The codec is configured** after every reset: up to the next one, and whatever the codec does
while it acknowledges, a receiver gets the words of the table, one frame each, in their order, and
then nothing more. -/
theorem codec_configured (hr : R.input m = true)
    (hq : ∀ j, m < j → j ≤ m + k → R.input j = false) (hc : Steady R codec) (hk : 258561 ≤ k) :
    transfers (events (scl R) (sda R codec) (m + 1) k) = (List.range 9).map word := by
  -- the run that is not reset any more, and a codec that stays as it is then
  have hstate : ∀ j ≤ m + 1 + k, (R.override (m + 1 + k) fun _ => false).state j = R.state j :=
    fun j hj => R.override_state _ hj
  have hr' : (R.override (m + 1 + k) fun _ => false).input m = true :=
    (if_pos (by omega)).trans hr
  have hq' : ∀ j, m < j → (R.override (m + 1 + k) fun _ => false).input j = false := fun j hj => by
    show (if j < m + 1 + k then R.input j else false) = false
    split_ifs with hjk
    · exact hq j hj (by omega)
    · rfl
  have hc' : Steady (R.override (m + 1 + k) fun _ => false)
      fun n => codec (min n (m + 1 + k)) := fun n h0 h1 => by
    rcases Nat.lt_or_ge n (m + 1 + k) with hn | hn
    · rw [scl, hstate _ (by omega)] at h0 h1
      simp only [Nat.min_eq_left hn.le, Nat.min_eq_left (Nat.succ_le_of_lt hn)]
      exact hc n h0 h1
    · simp only [Nat.min_eq_right hn, Nat.min_eq_right (Nat.le_succ_of_le hn)]
  rw [← transfers_reset hr' hq' hc' hk]
  refine congrArg transfers (events_congr (fun j hj => ?_) fun j hj => ?_)
  · rw [scl, scl, hstate _ (by omega)]
  · rw [sda, sda, hstate _ (by omega), Nat.min_eq_left (by omega)]

/-- A run that is reset in cycle 0 only. -/
def audioBench : AudioRun :=
  .feed AudioInit.step (s := ⟨0, false, false, .initial, 0⟩) trivial fun n => n = 0

theorem codec_configured_bench :
    transfers (events (scl audioBench) (sda audioBench fun _ => false) 1 258561) =
      (List.range 9).map word :=
  codec_configured rfl (fun _ hj _ => decide_eq_false (by omega)) (fun _ _ _ => rfl) le_rfl

end Reset

end TankBattle.Audio
