import TankBattle.Sync

/-!
# Writing to the USB chip (`hpi_io_intf.sv`, `io_handler.c`)

The software stores to the ports one after the other, with any number of cycles in between.  The
interface passes strobes, address and data through one register stage; the enable of the data bus
is taken from the ports.

* `HpiPorts`, `HpiStore`, `ioWrite`: the ports and the stores of the software;
* `HpiInterface`, `otgData`: the registers of the interface, and what it drives on the bus;
* `Executes`, `ports_between`: a sequence of stores with its cycles, and the ports in between;
* `strobe_iff`: the cycles in which a write strobes the chip, and what it sees there;
* `write_cut_short`: the bus is released before the strobe ends, in every write.
-/

namespace TankBattle

/-- The ports `otg_hpi_address`, ..., `otg_hpi_reset` as the interface sees them. -/
structure HpiPorts where
  address : BitVec 2
  data : BitVec 16
  r : Bool
  w : Bool
  cs : Bool
  reset : Bool
  deriving DecidableEq

/-- A store of the software to one of the ports. -/
inductive HpiStore
  | address (a : BitVec 8)
  | data (d : BitVec 16)
  | r (b : Bool)
  | w (b : Bool)
  | cs (b : Bool)
  | reset (b : Bool)
  deriving DecidableEq

/-- The ports after a store; the address port has two bits. -/
def HpiPorts.store (p : HpiPorts) : HpiStore → HpiPorts
  | .address a => { p with address := a.setWidth 2 }
  | .data d => { p with data := d }
  | .r b => { p with r := b }
  | .w b => { p with w := b }
  | .cs b => { p with cs := b }
  | .reset b => { p with reset := b }

/-- All control ports are high. -/
structure HpiPorts.Idle (p : HpiPorts) : Prop where
  r : p.r = true
  w : p.w = true
  cs : p.cs = true
  reset : p.reset = true

/-- The stores of `IO_init`. -/
def ioInit : List HpiStore :=
  [.reset true, .cs true, .r true, .w true, .address 0, .data 0, .cs false, .reset false,
    .reset true, .cs true]

/-- The stores of `IO_write`. -/
def ioWrite (a : BitVec 8) (d : BitVec 16) : List HpiStore :=
  [.address a, .data d, .cs false, .w false, .w true, .cs true]

/-- The stores of `IO_read`; the data are loaded between the third and the fourth. -/
def ioRead (a : BitVec 8) : List HpiStore :=
  [.address a, .cs false, .r false, .r true, .cs true]

/-- The registers of `hpi_io_intf`: the buffer of the data, `OTG_ADDR`, `OTG_RD_N`, `OTG_WR_N`,
`OTG_CS_N`, `OTG_RST_N` and `from_sw_data_in`. -/
structure HpiInterface where
  dataOutBuffer : BitVec 16
  addr : BitVec 2
  rdN : Bool
  wrN : Bool
  csN : Bool
  rstN : Bool
  dataIn : BitVec 16
  deriving DecidableEq

/-- What the interface drives on `OTG_DATA`, `none` for high impedance. -/
def otgData (p : HpiPorts) (h : HpiInterface) : Option (BitVec 16) :=
  if !p.w && p.r then some h.dataOutBuffer else none

/-- One edge of `Clk`; `chip` is the level of the bus while the interface does not drive it. -/
def HpiInterface.step (chip : BitVec 16) (p : HpiPorts) (h : HpiInterface) : HpiInterface :=
  ⟨p.data, p.address, p.r, p.w, p.cs, p.reset, (otgData p h).getD chip⟩

/-- The ports and the interface. -/
structure HpiSys where
  ports : HpiPorts
  intf : HpiInterface
  deriving DecidableEq

/-- What happens in a cycle: the software may store to a port, the chip may drive the bus. -/
structure HpiPins where
  store : Option HpiStore
  chip : BitVec 16

namespace HpiSys

/-- One edge of `Clk`; a store shows in the ports from the next cycle on. -/
def step (i : HpiPins) (s : HpiSys) : HpiSys :=
  ⟨(i.store.map s.ports.store).getD s.ports, s.intf.step i.chip s.ports⟩

/-- The bus in this cycle. -/
def bus (s : HpiSys) : Option (BitVec 16) := otgData s.ports s.intf

/-- The chip is selected and its write strobe is low. -/
def Strobe (s : HpiSys) : Prop := s.intf.csN = false ∧ s.intf.wrN = false

/-- The control ports and the write strobe are high. -/
structure Idle (s : HpiSys) : Prop where
  ports : s.ports.Idle
  wrN : s.intf.wrN = true

end HpiSys

/-- The runs of the ports and the interface, from any registers on. -/
abbrev HpiRun := Sync.Run HpiSys.step fun _ => True

/-- The software makes the stores `l` in the cycles `t 0`, `t 1`, ..., and none in between. -/
structure Executes (R : HpiRun) (l : List HpiStore) (t : ℕ → ℕ) : Prop where
  spaced : ∀ k, k + 1 < l.length → t k < t (k + 1)
  stores : ∀ k, k < l.length → (R.input (t k)).store = l[k]?
  quiet : ∀ k, k + 1 < l.length → ∀ n, t k < n → n < t (k + 1) → (R.input n).store = none

/-- Whenever the write strobe is low, the bus carries the data and the address pins the address. -/
def Intact (R : HpiRun) (a : BitVec 8) (d : BitVec 16) (first last : ℕ) : Prop :=
  ∀ n, first ≤ n → n ≤ last → (R.state n).Strobe →
    (R.state n).bus = some d ∧ (R.state n).intf.addr = a.setWidth 2

/-! ### The ports during a sequence of stores -/

section Stores

variable {R : HpiRun} {l : List HpiStore} {t : ℕ → ℕ}

theorem ports_succ (R : HpiRun) (n : ℕ) : (R.state (n + 1)).ports =
    ((R.input n).store.map (R.state n).ports.store).getD (R.state n).ports := by
  rw [R.succ]
  rfl

theorem ports_stored (h : Executes R l t) {k : ℕ} (hk : k < l.length) :
    (R.state (t k + 1)).ports = (R.state (t k)).ports.store l[k] := by
  rw [ports_succ, h.stores k hk, List.getElem?_eq_getElem hk]
  rfl

/-- After a store the ports keep their values until the next one. -/
theorem ports_keep (h : Executes R l t) {k : ℕ} (hk : k + 1 < l.length) {n : ℕ} (h1 : t k < n)
    (h2 : n ≤ t (k + 1)) : (R.state n).ports = (R.state (t k + 1)).ports := by
  induction n, h1 using Nat.le_induction with
  | base => rfl
  | succ n hn ih => rw [ports_succ, h.quiet k hk n hn h2, ← ih (by omega)]; rfl

/-- After each store the ports show the stores so far. -/
theorem ports_after (h : Executes R l t) {k : ℕ} (hk : k < l.length) :
    (R.state (t k + 1)).ports =
      (l.take (k + 1)).foldl HpiPorts.store (R.state (t 0)).ports := by
  induction k with
  | zero =>
    rw [ports_stored h hk, List.take_add_one, List.getElem?_eq_getElem hk]
    rfl
  | succ k ih =>
    rw [ports_stored h hk, ports_keep h hk (h.spaced k hk) le_rfl, ih (by omega),
      List.take_add_one (i := k + 1), List.getElem?_eq_getElem hk, List.foldl_append]
    rfl

/-- Between two stores the ports show the stores so far. -/
theorem ports_between (h : Executes R l t) {k : ℕ} (hk : k + 1 < l.length) {n : ℕ} (h1 : t k < n)
    (h2 : n ≤ t (k + 1)) :
    (R.state n).ports = (l.take (k + 1)).foldl HpiPorts.store (R.state (t 0)).ports :=
  (ports_keep h hk h1 h2).trans (ports_after h (by omega))

end Stores

/-! ### A write -/

section Write

variable {R : HpiRun} {a : BitVec 8} {d : BitVec 16} {t : ℕ → ℕ}

/-- The interface shows the ports one cycle later. -/
theorem intf_succ (R : HpiRun) (n : ℕ) :
    (R.state (n + 1)).intf = (R.state n).intf.step (R.input n).chip (R.state n).ports := by
  rw [R.succ]
  rfl

theorem strobe_succ_iff (R : HpiRun) (n : ℕ) :
    (R.state (n + 1)).Strobe ↔ (R.state n).ports.cs = false ∧ (R.state n).ports.w = false := by
  rw [HpiSys.Strobe, intf_succ]
  rfl

/-- With the ports high and `w` high one cycle before, the write strobe is high as well. -/
theorem idle_succ {n : ℕ} (hw : (R.state n).ports.w = true) (h : (R.state (n + 1)).ports.Idle) :
    (R.state (n + 1)).Idle :=
  ⟨h, by rw [intf_succ]; exact hw⟩

/-- `ioInit` leaves the ports idle, whatever they were before. -/
theorem idle_of_init (h : Executes R ioInit t) : (R.state (t 9 + 1)).Idle := by
  refine idle_succ ?_ ?_
  · rw [ports_between h (k := 8) (by decide) (h.spaced 8 (by decide)) le_rfl]
    rfl
  · rw [ports_after h (k := 9) (by decide)]
    exact ⟨rfl, rfl, rfl, rfl⟩

/-- `ioRead` leaves idle ports idle. -/
theorem idle_of_read (h : Executes R (ioRead a) t) (hi : (R.state (t 0)).Idle) :
    (R.state (t 4 + 1)).Idle := by
  have hs : t 3 < t 4 := h.spaced 3 (by simp [ioRead])
  refine idle_succ ?_ ?_
  · rw [ports_between h (k := 3) (by simp [ioRead]) hs le_rfl]
    exact hi.ports.w
  · rw [ports_after h (k := 4) (by simp [ioRead])]
    exact ⟨rfl, hi.ports.w, rfl, hi.ports.reset⟩

theorem Executes.order (h : Executes R (ioWrite a d) t) :
    t 0 < t 1 ∧ t 1 < t 2 ∧ t 2 < t 3 ∧ t 3 < t 4 ∧ t 4 < t 5 := by
  have hs : ∀ k, k + 1 < 6 → t k < t (k + 1) := h.spaced
  exact ⟨hs 0 (by decide), hs 1 (by decide), hs 2 (by decide), hs 3 (by decide), hs 4 (by decide)⟩

/-- The ports while the chip is selected and written to. -/
theorem ports_write (h : Executes R (ioWrite a d) t) {n : ℕ} (h3 : t 3 < n) (h4 : n ≤ t 4) :
    (R.state n).ports =
      ⟨a.setWidth 2, d, (R.state (t 0)).ports.r, false, false, (R.state (t 0)).ports.reset⟩ :=
  ports_between h (k := 3) (by simp [ioWrite]) h3 h4

/-- The ports after the write strobe. -/
theorem ports_released (h : Executes R (ioWrite a d) t) {n : ℕ} (h4 : t 4 < n) (h5 : n ≤ t 5) :
    (R.state n).ports =
      ⟨a.setWidth 2, d, (R.state (t 0)).ports.r, true, false, (R.state (t 0)).ports.reset⟩ :=
  ports_between h (k := 4) (by simp [ioWrite]) h4 h5

/-- `ioWrite` leaves idle ports idle. -/
theorem idle_of_write (h : Executes R (ioWrite a d) t) (hi : (R.state (t 0)).Idle) :
    (R.state (t 5 + 1)).Idle := by
  refine idle_succ ?_ ?_
  · rw [ports_released h h.order.2.2.2.2 le_rfl]
  · rw [ports_after h (k := 5) (by simp [ioWrite])]
    exact ⟨hi.ports.r, rfl, rfl, hi.ports.reset⟩

/-- The ports select the chip and write between the fourth and the fifth store. -/
theorem ports_strobe_iff (h : Executes R (ioWrite a d) t) (hi : (R.state (t 0)).Idle) {n : ℕ}
    (h0 : t 0 ≤ n) (h5 : n ≤ t 5) :
    (R.state n).ports.cs = false ∧ (R.state n).ports.w = false ↔ t 3 < n ∧ n ≤ t 4 := by
  obtain ⟨s0, s1, s2, s3, s4⟩ := h.order
  -- the chip is selected from the third store on
  have hcs : n ≤ t 2 → (R.state n).ports.cs = true := by
    intro hn
    rcases (by omega : n = t 0 ∨ t 0 < n ∧ n ≤ t 1 ∨ t 1 < n) with rfl | ⟨h0, h1⟩ | h1
    · exact hi.ports.cs
    · rw [ports_between h (k := 0) (by simp [ioWrite]) h0 h1]
      exact hi.ports.cs
    · rw [ports_between h (k := 1) (by simp [ioWrite]) h1 hn]
      exact hi.ports.cs
  rcases (by omega : n ≤ t 2 ∨ t 2 < n ∧ n ≤ t 3 ∨ t 3 < n ∧ n ≤ t 4 ∨ t 4 < n) with
    hn | ⟨h2, h3⟩ | ⟨h3, h4⟩ | h4
  · exact iff_of_false (fun hs => Bool.false_ne_true (hs.1.symm.trans (hcs hn))) (by omega)
  · rw [ports_between h (k := 2) (by simp [ioWrite]) h2 h3]
    exact iff_of_false (fun hs => Bool.false_ne_true (hs.2.symm.trans hi.ports.w)) (by omega)
  · rw [ports_write h h3 h4]
    exact iff_of_true ⟨rfl, rfl⟩ ⟨h3, h4⟩
  · rw [ports_released h h4 h5]
    exact iff_of_false (fun hs => Bool.false_ne_true hs.2.symm) (by omega)

/-- **A write strobes the chip** from two cycles after the fourth store up to the cycle after the
fifth. -/
theorem strobe_iff (h : Executes R (ioWrite a d) t) (hi : (R.state (t 0)).Idle) {n : ℕ}
    (h0 : t 0 ≤ n) (h5 : n ≤ t 5 + 1) :
    (R.state n).Strobe ↔ t 3 + 2 ≤ n ∧ n ≤ t 4 + 1 := by
  obtain ⟨s0, s1, s2, s3, s4⟩ := h.order
  rcases Nat.eq_or_lt_of_le h0 with rfl | h0
  · exact iff_of_false (fun hs => Bool.false_ne_true (hs.2.symm.trans hi.wrN)) (by omega)
  obtain ⟨m, rfl⟩ := Nat.exists_eq_add_of_lt h0
  rw [strobe_succ_iff, ports_strobe_iff h hi (by omega) (by omega)]
  omega

/-- In the strobe the address is right, and the data are on the bus in all cycles but the last one,
in which nothing is. -/
theorem strobe_bus (h : Executes R (ioWrite a d) t) (hi : (R.state (t 0)).Idle) {n : ℕ}
    (h3 : t 3 + 2 ≤ n) (h4 : n ≤ t 4 + 1) :
    (R.state n).intf.addr = a.setWidth 2 ∧
      (R.state n).bus = if n ≤ t 4 then some d else none := by
  obtain ⟨s0, s1, s2, s3, s4⟩ := h.order
  obtain ⟨m, rfl⟩ : ∃ m, n = m + 1 := ⟨n - 1, by omega⟩
  have hports := ports_write h (n := m) (by omega) (by omega)
  rw [HpiSys.bus, intf_succ, hports]
  refine ⟨rfl, ?_⟩
  split_ifs with hn
  · rw [ports_write h (by omega) hn, hi.ports.r]
    rfl
  · rw [ports_released h (by omega) (by omega)]
    rfl

/-- If the fifth store follows the fourth in the next cycle, the data are never on the bus. -/
theorem bus_of_consecutive (h : Executes R (ioWrite a d) t) (hi : (R.state (t 0)).Idle)
    (h34 : t 4 = t 3 + 1) {n : ℕ} (h0 : t 0 ≤ n) (h5 : n ≤ t 5 + 1) (hs : (R.state n).Strobe) :
    (R.state n).bus = none := by
  obtain ⟨h1, h2⟩ := (strobe_iff h hi h0 h5).1 hs
  rw [(strobe_bus h hi h1 h2).2, if_neg (by omega)]

/-- **Every write is cut short**: in the last cycle of the strobe the bus is released. -/
theorem write_cut_short (h : Executes R (ioWrite a d) t) : ¬ Intact R a d (t 0) (t 5 + 1) := by
  obtain ⟨s0, s1, s2, s3, s4⟩ := h.order
  intro hintact
  have hstrobe : (R.state (t 4 + 1)).Strobe := by
    rw [strobe_succ_iff, ports_write h s3 le_rfl]
    exact ⟨rfl, rfl⟩
  have hbus := (hintact (t 4 + 1) (by omega) (by omega) hstrobe).1
  rw [HpiSys.bus, ports_released h (Nat.lt_succ_self _) s4] at hbus
  cases hbus

end Write

/-- A write of `0x8105` to address 0, with a store every other cycle. -/
def hostWrite : HpiRun :=
  Sync.Run.feed HpiSys.step
    (s := ⟨⟨0, 0, true, true, true, true⟩, ⟨0, 0, true, true, true, true, 0⟩⟩) trivial
    fun n => ⟨if n % 2 = 0 then (ioWrite 0 0x8105)[n / 2]? else none, 0⟩

theorem hostWrite_executes : Executes hostWrite (ioWrite 0 0x8105) fun k => 2 * k where
  spaced k _ := by omega
  stores k _ := by
    show (if 2 * k % 2 = 0 then (ioWrite 0 0x8105)[2 * k / 2]? else none) = _
    rw [if_pos (by omega), Nat.mul_div_cancel_left k (by decide)]
  quiet k _ n h1 h2 := if_neg (by omega)

theorem write_cut_short_hostWrite : ¬ Intact hostWrite 0 0x8105 0 11 :=
  write_cut_short hostWrite_executes

/-- In the last cycle of its strobe the bus is at high impedance. -/
theorem hostWrite_released :
    ¬ ∀ (R : HpiRun) (a : BitVec 8) (d : BitVec 16) (t : ℕ → ℕ), (R.state (t 0)).Idle →
      Executes R (ioWrite a d) t → Intact R a d (t 0) (t 5 + 1) := by
  intro h
  have hidle : (hostWrite.state 0).Idle := ⟨⟨rfl, rfl, rfl, rfl⟩, rfl⟩
  have hbus := (h hostWrite 0 0x8105 _ hidle hostWrite_executes 9 (by decide) (by decide)
    ⟨by decide, by decide⟩).1
  exact absurd hbus (by decide)

end TankBattle
