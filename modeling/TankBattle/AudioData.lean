import Mathlib.Data.Int.CardIntervalMod
import TankBattle.AudioInit
import TankBattle.Serial

/-!
# Playing the sound (`audio_controller.sv`, `audioRAM.sv`, `audio_interface.vhd`)

The codec asks for samples with its frame sync.  The interface shifts out the sample that the
controller holds, and the controller fetches the next one from the memory.

* `AudioState`, `DacRegs`, `AudioSys`: the controller, the shift register, and all of it;
* `dac_succ`: the shift register three cycles after its lines;
* `AudioClocks`: how the codec drives the clocks;
* `frame_sampled`: a frame brings the bits of what the controller held;
* `ldata_next`, `addr_next`: what it holds in the next frame;
* `plays`: after every reset the codec gets sample after sample;
* `inFile_iff`: which frames get samples from the sound file.
-/

namespace TankBattle.Audio

open Serial

/-- `State` of the controller. -/
inductive AudioState
  | IDL
  | INI
  | GETDAT
  | END
  deriving DecidableEq

/-- `Next_state`. -/
def AudioState.next (initFinish dataOver : Bool) : AudioState → AudioState
  | .IDL => .INI
  | .INI => if initFinish then .GETDAT else .INI
  | .GETDAT => if dataOver then .END else .GETDAT
  | .END => if !dataOver then .GETDAT else .END

/-- The registers of `DACData_reg`, and the samples of its lines. -/
structure DacRegs where
  lrdata : BitVec 32
  bcount : BitVec 5
  flag1 : Bool
  dack0 : Bool
  dack1 : Bool
  bck0 : Bool
  bck1 : Bool

/-- One edge of the clock.  The reset is asynchronous: `reset` is its level up to the edge,
`reset'` from the edge on.  It leaves `flag1` alone. -/
def DacRegs.step (reset reset' : Bool) (ldata rdata : BitVec 16) (daclrck bclk : Bool)
    (r : DacRegs) : DacRegs :=
  let load := r.dack0 && !r.dack1
  let clear := r.bck0 && !r.bck1 && r.flag1
  let fall := !r.bck0 && r.bck1
  { lrdata := if reset || reset' then 0 else if load then ldata ++ rdata else r.lrdata
    bcount :=
      if reset || reset' then 31
      else if load then 31
      else if clear then r.bcount
      else if fall then r.bcount - 1
      else r.bcount
    flag1 :=
      if reset then r.flag1 else if load then true else if clear then false else r.flag1
    dack0 := if reset || reset' then false else daclrck
    dack1 := if reset || reset' then false else r.dack0
    bck0 := if reset || reset' then false else bclk
    bck1 := if reset || reset' then false else r.bck0 }

/-- What `audioRAM` reads at an address: four nibbles of its memory. -/
def audioRAM (mem : BitVec 19 → BitVec 4) (a : BitVec 19) : BitVec 16 :=
  mem a ++ mem (a + 1) ++ mem (a + 2) ++ mem (a + 3)

/-- What is on the pins: the clocks of the codec, and the reset from the next edge on. -/
structure AudioPins where
  reset : Bool
  daclrck : Bool
  bclk : Bool

/-- The registers of `audio_controller` with its interface and its memory. -/
structure AudioSys where
  reset : Bool
  init : AudioInit
  dac : DacRegs
  state : AudioState
  ldata : BitVec 16
  rdata : BitVec 16
  dataOut : BitVec 16
  addrCounter : BitVec 20

namespace AudioSys

/-- One edge of the clock.  The address counts the rises of `data_over`, which follow the edge. -/
def step (mem : BitVec 19 → BitVec 4) (i : AudioPins) (s : AudioSys) : AudioSys :=
  let dac := s.dac.step s.reset i.reset s.ldata s.rdata i.daclrck i.bclk
  { reset := i.reset
    init := s.init.step (s.reset || i.reset)
    dac
    state := if s.reset then .IDL else s.state.next s.init.initFinish s.dac.flag1
    ldata := if !s.reset && s.state = .END then s.dataOut else s.ldata
    rdata := if !s.reset && s.state = .END then s.dataOut else s.rdata
    dataOut := audioRAM mem (s.addrCounter.setWidth 19)
    addrCounter :=
      if dac.flag1 && !s.dac.flag1 then if i.reset then 0 else s.addrCounter + 4
      else s.addrCounter }

/-- `AUD_DACDAT`. -/
def dacdat (s : AudioSys) : Bool := s.dac.lrdata.getLsbD s.dac.bcount.toNat

end AudioSys

/-- The runs, from any registers on. -/
abbrev AudioSysRun (mem : BitVec 19 → BitVec 4) := Sync.Run (AudioSys.step mem) fun _ => True

section Lines

variable {mem : BitVec 19 → BitVec 4} {R : AudioSysRun mem} {n m a d : ℕ}

/-- `AUD_DACLRCK`. -/
def lrck (R : AudioSysRun mem) (n : ℕ) : Bool := (R.input n).daclrck

/-- `AUD_BCLK`. -/
def bclk (R : AudioSysRun mem) (n : ℕ) : Bool := (R.input n).bclk

/-- The data line. -/
def dat (R : AudioSysRun mem) (n : ℕ) : Bool := (R.state n).dacdat

theorem reset_eq (R : AudioSysRun mem) (n : ℕ) : (R.input n).reset = (R.state (n + 1)).reset := by
  rw [R.succ]
  rfl

/-- The samples of the lines. -/
theorem dac_lines (h0 : (R.state n).reset = false) (h1 : (R.state (n + 1)).reset = false) :
    (R.state (n + 1)).dac.dack0 = lrck R n ∧ (R.state (n + 1)).dac.bck0 = bclk R n ∧
      (R.state (n + 1)).dac.dack1 = (R.state n).dac.dack0 ∧
      (R.state (n + 1)).dac.bck1 = (R.state n).dac.bck0 := by
  have hi := (reset_eq R n).trans h1
  rw [R.succ]
  simp [AudioSys.step, DacRegs.step, h0, hi, lrck, bclk]

/-- **The shift register** three cycles after its lines. -/
theorem dac_succ (hq : ∀ k ≤ 3, (R.state (n + k)).reset = false) :
    (R.state (n + 3)).dac.lrdata =
        (if Rises (lrck R) n then (R.state (n + 2)).ldata ++ (R.state (n + 2)).rdata
          else (R.state (n + 2)).dac.lrdata) ∧
      (R.state (n + 3)).dac.bcount =
        (if Rises (lrck R) n then 31
          else if Rises (fun k => !bclk R k) n then (R.state (n + 2)).dac.bcount - 1
          else (R.state (n + 2)).dac.bcount) ∧
      (R.state (n + 3)).dac.flag1 =
        (if Rises (lrck R) n then true
          else if Rises (bclk R) n then false else (R.state (n + 2)).dac.flag1) := by
  obtain ⟨hl0, hb0, -, -⟩ := dac_lines (hq 0 (by decide)) (hq 1 (by decide))
  obtain ⟨hl1, hb1, hl2, hb2⟩ := dac_lines (hq 1 (by decide)) (hq 2 (by decide))
  have h2 : (R.state (n + 2)).reset = false := hq 2 (by decide)
  have h3 : (R.input (n + 2)).reset = false := (reset_eq R _).trans (hq 3 (by decide))
  rw [hl0] at hl2
  rw [hb0] at hb2
  have hl1 : (R.state (n + 2)).dac.dack0 = lrck R (n + 1) := hl1
  have hl2 : (R.state (n + 2)).dac.dack1 = lrck R n := hl2
  have hb1 : (R.state (n + 2)).dac.bck0 = bclk R (n + 1) := hb1
  have hb2 : (R.state (n + 2)).dac.bck1 = bclk R n := hb2
  rw [show n + 3 = n + 2 + 1 from rfl, R.succ]
  simp only [AudioSys.step, DacRegs.step, h2, h3, hl1, hl2, hb1, hb2, Rises, Bool.or_self,
    Bool.false_eq_true, if_false]
  rcases Bool.eq_false_or_eq_true (lrck R n) with l0 | l0 <;>
    rcases Bool.eq_false_or_eq_true (lrck R (n + 1)) with l1 | l1 <;>
    rcases Bool.eq_false_or_eq_true (bclk R n) with b0 | b0 <;>
    rcases Bool.eq_false_or_eq_true (bclk R (n + 1)) with b1 | b1 <;>
    simp [l0, l1, b0, b1]

end Lines

/-- How the codec drives the clocks, as their master, in `d` cycles from cycle `a` on: the frame
sync comes while the bit clock is low, and the bit clock stays low for a cycle more; whenever it
falls it stays low for two cycles; and a frame has the bits of two samples, or more. -/
structure AudioClocks (lrck bclk : ℕ → Bool) (a d : ℕ) : Prop where
  sync_low : ∀ n, a ≤ n → n < a + d → Rises lrck n → bclk (n + 1) = false ∧ bclk (n + 2) = false
  wide : ∀ n, a ≤ n → n < a + d → bclk n = true → bclk (n + 1) = false → bclk (n + 2) = false
  full : ∀ n e, a ≤ n → n + 1 + e < a + d → Rises lrck n → Rises lrck (n + 1 + e) →
    32 ≤ rises bclk (n + 1) e

/-- The bits of a word, the highest one first. -/
def msbFirst {w : ℕ} (x : BitVec w) : List Bool := (List.range w).map x.getMsbD

/-! ### One frame -/

section Frame

variable {mem : BitVec 19 → BitVec 4} {R : AudioSysRun mem} {a d n e : ℕ}

/-- **The shift register in a frame**: it counts the falls of the bit clock. -/
theorem frame_regs (hs : Rises (lrck R) n) (hquiet : ∀ k < e, ¬ Rises (lrck R) (n + 1 + k))
    {j : ℕ} (hq : ∀ k, n ≤ k → k ≤ n + 3 + j → (R.state k).reset = false) (hj : j ≤ e) :
    (R.state (n + 3 + j)).dac.lrdata = (R.state (n + 2)).ldata ++ (R.state (n + 2)).rdata ∧
      (R.state (n + 3 + j)).dac.bcount =
        31 - BitVec.ofNat 5 (rises (fun k => !bclk R k) (n + 1) j) := by
  induction j with
  | zero =>
    obtain ⟨hl, hb, -⟩ := dac_succ (n := n) fun k hk => hq _ (by omega) (by omega)
    rw [if_pos hs] at hl hb
    exact ⟨hl, hb.trans (BitVec.sub_zero 31).symm⟩
  | succ j ih =>
    obtain ⟨hl, hb⟩ := ih (fun k h0 hk => hq k h0 (by omega)) (by omega)
    obtain ⟨hl', hb', -⟩ := dac_succ (n := n + 1 + j) fun k hk => hq _ (by omega) (by omega)
    rw [if_neg (hquiet j (by omega)), show n + 1 + j + 2 = n + 3 + j by omega] at hl' hb'
    rw [show n + 3 + (j + 1) = n + 1 + j + 3 by omega, hl', hl, hb', hb, rises_succ]
    refine ⟨rfl, ?_⟩
    split_ifs
    · rw [BitVec.ofNat_add, ← BitVec.sub_sub]
      rfl
    · rfl

variable (hc : AudioClocks (lrck R) (bclk R) a d) (ha : a ≤ n) (hd : n + 1 + e < a + d)
  (hq : ∀ k, a ≤ k → k < a + d → (R.state k).reset = false) (hs : Rises (lrck R) n)
  (hquiet : ∀ k < e, ¬ Rises (lrck R) (n + 1 + k))

include hc ha hd hq hs hquiet

/-- The bits of a frame. -/
theorem frame_sampled : sampled (bclk R) (dat R) (n + 1) e =
    (List.range (rises (bclk R) (n + 1) e)).map fun i =>
      ((R.state (n + 2)).ldata ++ (R.state (n + 2)).rdata).getLsbD
        (31 - BitVec.ofNat 5 i).toNat := by
  refine sampled_eq fun k hk hrise => ?_
  obtain ⟨h1, h2⟩ := hc.sync_low n ha (by omega) hs
  cases k with
  | zero => exact absurd (h2.symm.trans hrise.2) (by decide)
  | succ k =>
    have hlow : bclk R (n + 1 + k) = false := by
      by_contra hhigh
      have hlow := hc.wide (n + 1 + k) (by omega) (by omega) (by simpa using hhigh) hrise.1
      exact absurd (hlow.symm.trans hrise.2) (by decide)
    have hflat : ¬ Rises (bclk R) (n + 1 + k) := fun h =>
      absurd (hrise.1.symm.trans h.2) (by decide)
    have hfalls := rises_not (f := bclk R) h1 k
    rw [hlow, Bool.toNat_false, Nat.add_zero] at hfalls
    obtain ⟨hl, hb⟩ := frame_regs hs hquiet (j := k)
      (fun j h0 hj => hq j (by omega) (by omega)) (by omega)
    rw [rises_succ, if_neg hflat, ← hfalls, show n + 1 + (k + 1) + 1 = n + 3 + k by omega, dat,
      AudioSys.dacdat, hl, hb]
    rfl

/-- **A frame brings what the controller held** when it began, the highest bit first. -/
theorem frame_bits (he : 32 ≤ rises (bclk R) (n + 1) e) :
    (sampled (bclk R) (dat R) (n + 1) e).take 32 =
      msbFirst ((R.state (n + 2)).ldata ++ (R.state (n + 2)).rdata) := by
  rw [frame_sampled hc ha hd hq hs hquiet, ← List.map_take, List.take_range, Nat.min_eq_left he,
    msbFirst]
  refine List.map_congr_left fun i hi => ?_
  have hi : i < 32 := List.mem_range.1 hi
  have hsub : (31 - BitVec.ofNat 5 i).toNat = 32 - 1 - i := by
    have h31 : (31 : BitVec 5).toNat = 31 := rfl
    rw [BitVec.toNat_sub, BitVec.toNat_ofNat, h31]
    omega
  rw [hsub, BitVec.getMsbD_eq_getLsbD]
  simp [hi]

end Frame

/-! ### From frame to frame -/

section Next

variable {mem : BitVec 19 → BitVec 4} {R : AudioSysRun mem} {a d n e : ℕ}

/-- The controller has left its first states. -/
def AudioSys.Plays (s : AudioSys) : Prop := s.state = .GETDAT ∨ s.state = .END

theorem plays_succ (hr : (R.state n).reset = false) (h : (R.state n).Plays) :
    (R.state (n + 1)).Plays := by
  have hstate : (R.state (n + 1)).state =
      (R.state n).state.next (R.state n).init.initFinish (R.state n).dac.flag1 := by
    rw [R.succ]
    simp [AudioSys.step, hr]
  rw [AudioSys.Plays, hstate]
  rcases h with h | h <;> rw [h] <;> cases (R.state n).dac.flag1 <;> simp [AudioState.next]

theorem plays_add (hq : ∀ k < e, (R.state (n + k)).reset = false) (h : (R.state n).Plays) :
    (R.state (n + e)).Plays := by
  induction e with
  | zero => exact h
  | succ e ih => exact plays_succ (hq e (by omega)) (ih fun k hk => hq k (by omega))

/-- The address counts the rises of `data_over`. -/
theorem addrCounter_succ (R : AudioSysRun mem) (n : ℕ) : (R.state (n + 1)).addrCounter =
    if (R.state (n + 1)).dac.flag1 && !(R.state n).dac.flag1 then
      if (R.state (n + 1)).reset then 0 else (R.state n).addrCounter + 4
    else (R.state n).addrCounter := by
  rw [R.succ]
  rfl

theorem dataOut_succ (R : AudioSysRun mem) (n : ℕ) :
    (R.state (n + 1)).dataOut = audioRAM mem ((R.state n).addrCounter.setWidth 19) := by
  rw [R.succ]
  rfl

theorem ldata_succ (hr : (R.state n).reset = false) :
    (R.state (n + 1)).ldata =
        (if (R.state n).state = .END then (R.state n).dataOut else (R.state n).ldata) ∧
      (R.state (n + 1)).rdata =
        (if (R.state n).state = .END then (R.state n).dataOut else (R.state n).rdata) := by
  rw [R.succ]
  simp [AudioSys.step, hr]

variable (hc : AudioClocks (lrck R) (bclk R) a d) (ha : a ≤ n) (hd : n + 1 + e < a + d)
  (hq : ∀ k, a ≤ k → k < a + d → (R.state k).reset = false) (hs : Rises (lrck R) n)
  (hquiet : ∀ k < e, ¬ Rises (lrck R) (n + 1 + k)) (hnext : Rises (lrck R) (n + 1 + e))

include hq ha hquiet in
/-- In a frame the address stays. -/
theorem addrCounter_hold {j : ℕ} (hj : j ≤ e) (hd : n + 3 + j < a + d) :
    (R.state (n + 3 + j)).addrCounter = (R.state (n + 3)).addrCounter := by
  induction j with
  | zero => rfl
  | succ j ih =>
    obtain ⟨-, -, hf⟩ := dac_succ (n := n + 1 + j) fun k hk => hq _ (by omega) (by omega)
    rw [if_neg (hquiet j (by omega)), show n + 1 + j + 3 = n + 3 + j + 1 by omega,
      show n + 1 + j + 2 = n + 3 + j by omega] at hf
    rw [← Nat.add_assoc, addrCounter_succ, hf, ih (by omega) (by omega)]
    split_ifs with h1 h2 h2 <;> simp_all

include hc ha hd hs hnext

/-- A frame is longer than the way of a sample. -/
theorem frame_long : ∃ k, 0 < k ∧ k < e ∧ Rises (bclk R) (n + 1 + k) := by
  obtain ⟨k, hk, hrise⟩ := exists_rises (Nat.lt_of_lt_of_le (by decide)
    (hc.full n e ha hd hs hnext))
  refine ⟨k, Nat.pos_of_ne_zero ?_, hk, hrise⟩
  rintro rfl
  exact absurd ((hc.sync_low n ha (by omega) hs).2.symm.trans hrise.2) (by decide)

variable (hd' : n + 1 + e + 3 < a + d)

include hq hquiet hd'

/-- `data_over` is low again before the next frame. -/
theorem flag1_low : (R.state (n + 3 + e)).dac.flag1 = false := by
  obtain ⟨k, -, hk, hrise⟩ := frame_long hc ha hd hs hnext
  have hlow : ∀ j, k + 1 ≤ j → j ≤ e → (R.state (n + 3 + j)).dac.flag1 = false := fun j hkj => by
    induction j, hkj using Nat.le_induction with
    | base =>
      intro _
      obtain ⟨-, -, hf⟩ := dac_succ (n := n + 1 + k) fun i hi => hq _ (by omega) (by omega)
      rwa [if_neg (hquiet k hk), if_pos hrise, show n + 1 + k + 3 = n + 3 + (k + 1) by omega] at hf
    | succ j hkj ih =>
      intro hj
      obtain ⟨-, -, hf⟩ := dac_succ (n := n + 1 + j) fun i hi => hq _ (by omega) (by omega)
      rw [if_neg (hquiet j (by omega)), show n + 1 + j + 2 = n + 3 + j by omega, ih (by omega),
        ite_self, show n + 1 + j + 3 = n + 3 + (j + 1) by omega] at hf
      exact hf
  exact hlow e hk le_rfl

/-- **The address** is four nibbles further in the next frame. -/
theorem addr_next :
    (R.state (n + 1 + e + 3)).addrCounter = (R.state (n + 3)).addrCounter + 4 := by
  obtain ⟨-, -, hf⟩ := dac_succ (n := n + 1 + e) fun i hi => hq _ (by omega) (by omega)
  rw [if_pos hnext] at hf
  have hlow := flag1_low hc ha hd hq hs hquiet hnext hd'
  rw [show n + 3 + e = n + 1 + e + 2 by omega] at hlow
  rw [addrCounter_succ (n := n + 1 + e + 2), hf, hlow, hq _ (by omega) (by omega),
    show n + 1 + e + 2 = n + 3 + e by omega, addrCounter_hold ha hq hquiet le_rfl (by omega)]
  rfl

/-- **What the controller holds in the next frame** was read at the address of this one. -/
theorem ldata_next (hp : (R.state (n + 3)).Plays) :
    (R.state (n + 1 + e + 2)).ldata =
        audioRAM mem ((R.state (n + 3)).addrCounter.setWidth 19) ∧
      (R.state (n + 1 + e + 2)).rdata =
        audioRAM mem ((R.state (n + 3)).addrCounter.setWidth 19) := by
  have hdata : ∀ j ≤ e, (R.state (n + 3 + j + 1)).dataOut =
      audioRAM mem ((R.state (n + 3)).addrCounter.setWidth 19) := fun j hj => by
    rw [dataOut_succ, addrCounter_hold ha hq hquiet hj (by omega)]
  have hfetch : (R.state (n + 3 + 1)).state = .END := by
    obtain ⟨-, -, hf⟩ := dac_succ (n := n) fun i hi => hq _ (by omega) (by omega)
    rw [if_pos hs] at hf
    rw [R.succ]
    simp only [AudioSys.step, hq (n + 3) (by omega) (by omega), hf, Bool.false_eq_true, if_false]
    rcases hp with hp | hp <;> rw [hp] <;> rfl
  -- from two cycles after `data_over` on
  have hhold : ∀ j, 2 ≤ j → j ≤ e → (R.state (n + 3 + j)).ldata =
      audioRAM mem ((R.state (n + 3)).addrCounter.setWidth 19) ∧ (R.state (n + 3 + j)).rdata =
      audioRAM mem ((R.state (n + 3)).addrCounter.setWidth 19) := fun j h2 => by
    induction j, h2 using Nat.le_induction with
    | base =>
      intro _
      obtain ⟨hl, hr⟩ := ldata_succ (hq (n + 3 + 1) (by omega) (by omega))
      rw [if_pos hfetch, hdata 0 (by omega)] at hl hr
      exact ⟨hl, hr⟩
    | succ j h2 ih =>
      intro hj
      obtain ⟨hl, hr⟩ := ldata_succ (hq (n + 3 + j) (by omega) (by omega))
      obtain ⟨il, ir⟩ := ih (by omega)
      have hout := hdata (j - 1) (by omega)
      rw [show n + 3 + (j - 1) + 1 = n + 3 + j by omega] at hout
      rw [hout, il, ite_self] at hl
      rw [hout, ir, ite_self] at hr
      exact ⟨hl, hr⟩
  obtain ⟨k, h0, hk, -⟩ := frame_long hc ha hd hs hnext
  rw [show n + 1 + e + 2 = n + 3 + e by omega]
  exact hhold e (by omega) le_rfl

end Next

/-! ### All frames -/

section Frames

variable {mem : BitVec 19 → BitVec 4} {R : AudioSysRun mem} {a d m : ℕ}

/-- The address in the frames after the one that begins in cycle `a`. -/
theorem addr_frame (hc : AudioClocks (lrck R) (bclk R) a d)
    (hq : ∀ k, a ≤ k → k < a + d → (R.state k).reset = false) {i : ℕ}
    (h0 : Rises (lrck R) a) (hi : Rises (lrck R) (a + i)) (hd : i + 3 < d) :
    (R.state (a + i + 3)).addrCounter =
      (R.state (a + 3)).addrCounter + BitVec.ofNat 20 (4 * rises (lrck R) a i) := by
  induction i using Nat.strong_induction_on with
  | _ i ih =>
    rcases Nat.eq_zero_or_pos (rises (lrck R) a i) with hz | hpos
    · obtain rfl : i = 0 := by
        by_contra hne
        have := rises_pos h0 (Nat.pos_of_ne_zero hne)
        omega
      exact (BitVec.add_zero _).symm
    · obtain ⟨j, e, rfl, hj, hquiet, hcount⟩ := exists_last hpos
      rw [show a + (j + 1 + e) = a + j + 1 + e by omega] at hi ⊢
      rw [addr_next hc (by omega) (by omega) hq hj hquiet hi (by omega),
        ih j (by omega) hj (by omega), hcount, BitVec.add_assoc, Nat.mul_succ, BitVec.ofNat_add]
      rfl

/-- What the frames bring, from cycle `a` on: first what the controller held, and then what the
memory holds, four nibbles a frame, for both ears. -/
def frameWord (R : AudioSysRun mem) (a : ℕ) : ℕ → BitVec 32
  | 0 => (R.state (a + 2)).ldata ++ (R.state (a + 2)).rdata
  | i + 1 =>
    let x := audioRAM mem (((R.state (a + 3)).addrCounter + BitVec.ofNat 20 (4 * i)).setWidth 19)
    x ++ x

/-- The controller holds what its frame brings. -/
theorem frame_word (hc : AudioClocks (lrck R) (bclk R) a d)
    (hq : ∀ k, a ≤ k → k < a + d → (R.state k).reset = false) (hp : (R.state a).Plays) {i : ℕ}
    (h0 : Rises (lrck R) a) (hi : Rises (lrck R) (a + i)) (hd : i + 3 < d) :
    (R.state (a + i + 2)).ldata ++ (R.state (a + i + 2)).rdata =
      frameWord R a (rises (lrck R) a i) := by
  rcases Nat.eq_zero_or_pos i with rfl | hpos
  · rfl
  · obtain ⟨j, e, rfl, hj, hquiet, hcount⟩ := exists_last (rises_pos h0 hpos)
    rw [show a + (j + 1 + e) = a + j + 1 + e by omega] at hi
    have hplays : (R.state (a + j + 3)).Plays := by
      rw [Nat.add_assoc]
      exact plays_add (fun k hk => hq _ (by omega) (by omega)) hp
    obtain ⟨hl, hr⟩ := ldata_next hc (by omega) (by omega) hq hj hquiet hi (by omega) hplays
    rw [show a + (j + 1 + e) + 2 = a + j + 1 + e + 2 by omega, hl, hr, hcount,
      addr_frame hc hq h0 hj (by omega)]
    rfl

/-- **Sample after sample**, from a frame on in which the controller plays. -/
theorem received_plays (hc : AudioClocks (lrck R) (bclk R) a d)
    (hq : ∀ k, a ≤ k → k < a + d → (R.state k).reset = false) (hp : (R.state a).Plays)
    (h0 : Rises (lrck R) a) :
    received (lrck R) (bclk R) (dat R) 32 a d =
      (List.range (rises (lrck R) a d - 1)).map fun i => msbFirst (frameWord R a i) := by
  refine received_eq fun i e hd hi hnext hquiet => ?_
  have hd' : a + i + 1 + e < a + d := by omega
  obtain ⟨k, hk0, hk, -⟩ := frame_long hc (by omega) hd' hi hnext
  rw [frame_bits hc (by omega) hd' hq hi hquiet (hc.full _ e (by omega) hd' hi hnext),
    frame_word hc hq hp h0 hi (by omega)]

/-! ### From the reset on -/

/-- The transmitter of the configuration in a run. -/
def initRun (R : AudioSysRun mem) : AudioRun where
  state n := (R.state n).init
  input n := (R.state n).reset || (R.state (n + 1)).reset
  start := trivial
  succ n := by
    rw [← reset_eq, R.succ]
    rfl

/-- After a reset the controller plays when the codec is configured. -/
theorem plays_reset {n : ℕ} (hr : (R.state m).reset = true)
    (hq : ∀ k, m < k → k < n → (R.state k).reset = false) (hn : m + 258564 ≤ n) :
    (R.state n).Plays := by
  have hinit : ∀ j, m < j → j < n → ((R.state j).init.initFinish = true ↔ m + 258563 ≤ j) :=
    fun j h0 h1 => initFinish_iff (R := initRun R) (by simp [initRun, hr])
      (fun k hk hkj => by simp [initRun, hq k hk (by omega), hq (k + 1) (by omega) (by omega)]) h0
  have hsucc : ∀ j, m < j → j < n → (R.state (j + 1)).state =
      (R.state j).state.next (R.state j).init.initFinish (R.state j).dac.flag1 := fun j h0 h1 => by
    rw [R.succ]
    simp [AudioSys.step, hq j h0 h1]
  have hidl : (R.state (m + 1)).state = .IDL := by
    rw [R.succ]
    simp [AudioSys.step, hr]
  have hini : ∀ j, m + 2 ≤ j → j ≤ m + 258563 → (R.state j).state = .INI := fun j h0 => by
    induction j, h0 using Nat.le_induction with
    | base =>
      intro _
      rw [hsucc (m + 1) (by omega) (by omega), hidl]
      rfl
    | succ j h0 ih =>
      intro h1
      have hlow : (R.state j).init.initFinish = false := by
        rw [← Bool.not_eq_true, hinit j (by omega) (by omega)]
        omega
      rw [hsucc j (by omega) (by omega), ih (by omega), hlow]
      rfl
  have hget : (R.state (m + 258564)).state = .GETDAT := by
    rw [hsucc (m + 258563) (by omega) (by omega), hini _ (by omega) le_rfl,
      (hinit _ (by omega) (by omega)).2 le_rfl]
    rfl
  obtain ⟨j, rfl⟩ := Nat.exists_eq_add_of_le hn
  exact plays_add (fun k hk => hq _ (by omega) (by omega)) (.inl hget)

/-- **The sound plays**: after every reset and up to the next one, once the codec is configured,
its frames bring the memory sample after sample, none twice and none left out. -/
theorem plays (hr : (R.state m).reset = true)
    (hq : ∀ k, m < k → k < a + d → (R.state k).reset = false) (ha : m + 258564 ≤ a)
    (hc : AudioClocks (lrck R) (bclk R) a d) (h0 : Rises (lrck R) a) :
    received (lrck R) (bclk R) (dat R) 32 a d =
      (List.range (rises (lrck R) a d - 1)).map fun i => msbFirst (frameWord R a i) :=
  received_plays hc (fun k h1 h2 => hq k (by omega) h2)
    (plays_reset hr (fun k h1 h2 => hq k h1 (by omega)) ha) h0

/-- A run on a memory of 0, 1, 2, ..., with 64 bits a frame; it is reset in cycle 0 only. -/
def soundBench : AudioSysRun fun a => a.setWidth 4 :=
  .feed (AudioSys.step _) (s := ⟨true, ⟨0, false, false, .initial, 0⟩,
    ⟨0, 31, false, false, false, false, false⟩, .IDL, 0, 0, 0, 0⟩) trivial
    fun n => ⟨false, decide (n % 256 < 4), decide (2 ≤ n % 4)⟩

theorem soundBench_clocks (a d : ℕ) : AudioClocks (lrck soundBench) (bclk soundBench) a d := by
  have hl : ∀ n, lrck soundBench n = decide (n % 256 < 4) := fun _ => rfl
  have hb : ∀ n, bclk soundBench n = decide (2 ≤ n % 4) := fun _ => rfl
  refine ⟨fun n _ _ hs => ?_, fun n _ _ h0 h1 => ?_, fun n e _ _ hs hnext => ?_⟩
  · simp only [Rises, hl, hb, decide_eq_true_eq, decide_eq_false_iff_not] at hs ⊢
    omega
  · simp only [hb, decide_eq_true_eq, decide_eq_false_iff_not] at h0 h1 ⊢
    omega
  · simp only [Rises, hl, decide_eq_true_eq, decide_eq_false_iff_not] at hs hnext
    have hcount : rises (bclk soundBench) (n + 1) 255 = rises (bclk soundBench) 0 255 :=
      rises_congr fun k _ => by
        rw [hb, hb]
        exact decide_eq_decide.2 (by omega)
    calc 32 ≤ rises (bclk soundBench) 0 255 := by decide +kernel
      _ = rises (bclk soundBench) (n + 1) 255 := hcount.symm
      _ ≤ rises (bclk soundBench) (n + 1) e := rises_mono (by omega)

theorem plays_bench : received (lrck soundBench) (bclk soundBench) (dat soundBench) 32 258815 1025 =
    (List.range (rises (lrck soundBench) 258815 1025 - 1)).map fun i =>
      msbFirst (frameWord soundBench 258815 i) :=
  plays (m := 0) rfl (fun k hk _ => by obtain ⟨k, rfl⟩ := Nat.exists_eq_add_of_lt hk; rfl)
    (by decide) (soundBench_clocks _ _) ⟨by decide, by decide⟩

/-! ### The sound file -/

/-- `data_over`. -/
def dataOver (R : AudioSysRun mem) (n : ℕ) : Bool := (R.state n).dac.flag1

/-- The four nibbles at an address are in the memory, which has 2100. -/
def InFile (a : BitVec 19) : Prop := ∀ i < 4, (a + BitVec.ofNat 19 i).toNat < 2100

theorem addrCounter_rises {k : ℕ} (h0 : (R.state m).addrCounter = 0)
    (hq : ∀ j < k, Rises (dataOver R) (m + j) → (R.state (m + j + 1)).reset = false) :
    (R.state (m + k)).addrCounter = BitVec.ofNat 20 (4 * rises (dataOver R) m k) := by
  induction k with
  | zero => exact h0
  | succ k ih =>
    have hcond : ((R.state (m + k + 1)).dac.flag1 && !(R.state (m + k)).dac.flag1) = true ↔
        Rises (dataOver R) (m + k) := by
      rw [Bool.and_eq_true, Bool.not_eq_true', and_comm]
      rfl
    rw [← Nat.add_assoc, addrCounter_succ, rises_succ, ih fun j hj => hq j (by omega)]
    by_cases hr : Rises (dataOver R) (m + k)
    · rw [if_pos (hcond.2 hr), hq k (by omega) hr, if_pos hr, Nat.mul_succ, BitVec.ofNat_add]
      rfl
    · rw [if_neg (mt hcond.1 hr), if_neg hr, Nat.add_zero]

/-- **How far the sound file goes.**  It has 525 samples.  No reset rewinds it, unless the reset
begins in the cycle in which `data_over` rises; from its end on everything is read outside the
memory, until the address is back at 0 after 2 ^ 17 frames. -/
theorem inFile_iff {k : ℕ} (h0 : (R.state m).addrCounter = 0)
    (hq : ∀ j < k, Rises (dataOver R) (m + j) → (R.state (m + j + 1)).reset = false) :
    InFile ((R.state (m + k)).addrCounter.setWidth 19) ↔
      rises (dataOver R) m k % 2 ^ 17 < 525 := by
  have haddr : ((R.state (m + k)).addrCounter.setWidth 19).toNat =
      4 * (rises (dataOver R) m k % 2 ^ 17) := by
    rw [addrCounter_rises h0 hq, BitVec.toNat_setWidth, BitVec.toNat_ofNat]
    omega
  have hnext : ∀ i < 4, ((R.state (m + k)).addrCounter.setWidth 19 + BitVec.ofNat 19 i).toNat =
      4 * (rises (dataOver R) m k % 2 ^ 17) + i := fun i hi => by
    rw [BitVec.toNat_add, haddr, BitVec.toNat_ofNat]
    omega
  constructor
  · intro h
    have h3 := h 3 (by decide)
    rw [hnext 3 (by decide)] at h3
    omega
  · intro h i hi
    rw [hnext i hi]
    omega

/-- The clocks of `soundBench`, with a reset in frame 0, away from its `data_over`. -/
def resetBench : AudioSysRun fun a => a.setWidth 4 :=
  .feed (AudioSys.step _) (s := ⟨false, ⟨0, false, false, .initial, 0⟩,
    ⟨0, 31, false, false, false, false, false⟩, .IDL, 0, 0, 0, 0⟩) trivial
    fun n => ⟨decide (n = 200), decide (n % 256 < 4), decide (2 ≤ n % 4)⟩

theorem resetBench_reset (n : ℕ) : (resetBench.state (n + 1)).reset = decide (n = 200) := rfl

/-- `data_over` is high in two cycles of each frame. -/
theorem resetBench_dataOver (n : ℕ) :
    dataOver resetBench n = decide (n % 256 = 2 ∨ n % 256 = 3) := by
  have hfirst : ∀ k < 210, dataOver resetBench k = decide (k % 256 = 2 ∨ k % 256 = 3) := by
    decide +kernel
  rcases Nat.lt_or_ge n 210 with h | h
  · exact hfirst n h
  induction n, h using Nat.le_induction with
  | base => decide +kernel
  | succ n hn ih =>
    obtain ⟨k, rfl⟩ : ∃ k, n = k + 2 := ⟨n - 2, by omega⟩
    obtain ⟨-, -, hf⟩ := dac_succ (R := resetBench) (n := k) fun j hj => by
      obtain ⟨i, hi⟩ : ∃ i, k + j = i + 1 := ⟨k + j - 1, by omega⟩
      rw [hi, resetBench_reset, decide_eq_false_iff_not]
      omega
    have hl : Rises (lrck resetBench) k ↔ k % 256 = 255 := by
      have hl : ∀ n, lrck resetBench n = decide (n % 256 < 4) := fun _ => rfl
      rw [Rises, hl, hl, decide_eq_false_iff_not, decide_eq_true_eq]
      omega
    have hb : Rises (bclk resetBench) k ↔ k % 4 = 1 := by
      have hb : ∀ n, bclk resetBench n = decide (2 ≤ n % 4) := fun _ => rfl
      rw [Rises, hb, hb, decide_eq_false_iff_not, decide_eq_true_eq]
      omega
    rw [dataOver] at ih
    rw [dataOver, show k + 2 + 1 = k + 3 from rfl, hf, ih]
    simp only [hl, hb]
    split_ifs with h1 h2 <;> symm
    · rw [decide_eq_true_eq]
      omega
    · rw [decide_eq_false_iff_not]
      omega
    · exact decide_eq_decide.2 (by omega)

/-- 547 frames, 22 of them after the end of the file. -/
theorem inFile_iff_bench : rises (dataOver resetBench) 0 140000 = 547 ∧
    (InFile ((resetBench.state (0 + 140000)).addrCounter.setWidth 19) ↔
      rises (dataOver resetBench) 0 140000 % 2 ^ 17 < 525) := by
  have hrises : ∀ k, Rises (dataOver resetBench) k ↔ k % 256 = 1 := fun k => by
    rw [Rises, resetBench_dataOver, resetBench_dataOver, decide_eq_false_iff_not,
      decide_eq_true_eq]
    omega
  refine ⟨?_, inFile_iff rfl fun j _ hj => ?_⟩
  · rw [rises_eq_count (p := (· ≡ 1 [MOD 256])) fun k _ => by
      rw [Nat.zero_add, hrises]
      rfl, Nat.count_modEq_card _ (by decide)]
    decide
  · rw [Nat.zero_add, hrises] at hj
    rw [Nat.zero_add, resetBench_reset, decide_eq_false_iff_not]
    omega

end Frames

end TankBattle.Audio
