import TankBattle.Hpi

/-!
# What the USB chip sees of the software (`hpi_io_intf.sv`, `io_handler.c`)

The software calls `IO_write` and `IO_read` one after the other, with any number of cycles between
their stores.  The chip sees the pins of the interface, one cycle behind the ports.

* `IoCall`, `Performs`: the calls, and a sequence of calls with the cycles of their stores;
* `HpiAccess`, `HpiSys.access`: the access that the pins show;
* `IoCall.shown`: the access that a call makes, with the levels of the bus in its cycles;
* `access_write`, `access_read`: what the pins show of one call;
* `spans_calls`: the accesses are the calls, in order and none twice, each with these levels;
* `not_contends`: the interface never drives the bus while the chip is told to;
* `load_iff`: whose level a read returns.
-/

namespace TankBattle

open Sync

/-- A call of the software to its input and output functions. -/
inductive IoCall
  | write (a : BitVec 8) (d : BitVec 16)
  | read (a : BitVec 8)
  deriving DecidableEq

/-- An access to the chip: `OTG_RD_N`, `OTG_WR_N` and `OTG_ADDR`. -/
structure HpiAccess where
  rdN : Bool
  wrN : Bool
  addr : BitVec 2
  deriving DecidableEq

/-- A write to a register of the chip. -/
def HpiAccess.write (a : BitVec 2) : HpiAccess := ⟨true, false, a⟩

/-- A read of a register of the chip. -/
def HpiAccess.read (a : BitVec 2) : HpiAccess := ⟨false, true, a⟩

namespace IoCall

/-- The stores of a call. -/
def stores : IoCall → List HpiStore
  | .write a d => ioWrite a d
  | .read a => ioRead a

/-- The number of the last store of a call. -/
def last : IoCall → ℕ
  | .write _ _ => 5
  | .read _ => 4

/-- The access that a call makes when its stores are made in the cycles `t`, with what the
interface drives on the bus in each cycle of the strobe: the data of a write, but nothing in its
last cycle, and nothing in a read. -/
def shown (t : ℕ → ℕ) : IoCall → HpiAccess × List (Option (BitVec 16))
  | .write a d => (.write (a.setWidth 2), List.replicate (t 4 - t 3 - 1) (some d) ++ [none])
  | .read a => (.read (a.setWidth 2), List.replicate (t 3 - t 2) none)

end IoCall

namespace HpiSys

/-- The access that the pins show, if the chip is selected and one of its strobes is low. -/
def access (s : HpiSys) : Option HpiAccess :=
  if s.intf.csN || s.intf.rdN && s.intf.wrN then none
  else some ⟨s.intf.rdN, s.intf.wrN, s.intf.addr⟩

/-- Ready for a call: the control ports and both strobes are high. -/
structure Ready (s : HpiSys) : Prop extends s.Idle where
  rdN : s.intf.rdN = true

/-- The interface drives the bus while the chip is told to. -/
def Contends (s : HpiSys) : Prop := s.bus ≠ none ∧ s.intf.rdN = false

end HpiSys

/-- The software makes the calls `l`, each with the cycles of its stores, from cycle `m` up to
cycle `n`, with any number of cycles in between. -/
inductive Performs (R : HpiRun) : List (IoCall × (ℕ → ℕ)) → ℕ → ℕ → Prop
  | done {m n : ℕ} (hmn : m ≤ n) (hq : ∀ k, m ≤ k → k < n → (R.input k).store = none) :
      Performs R [] m n
  | call {c : IoCall} {t : ℕ → ℕ} {l : List (IoCall × (ℕ → ℕ))} {m n : ℕ} (hm : m ≤ t 0)
      (hq : ∀ k, m ≤ k → k < t 0 → (R.input k).store = none) (hc : Executes R c.stores t)
      (hl : Performs R l (t c.last + 1) n) : Performs R ((c, t) :: l) m n

section Ready

variable {R : HpiRun} {t : ℕ → ℕ} {m n : ℕ}

theorem access_of_ready (h : (R.state n).Ready) : (R.state n).access = none := by
  simp [HpiSys.access, h.wrN, h.rdN]

/-- With the write port high nothing is driven on the bus. -/
theorem bus_of_w (h : (R.state n).ports.w = true) : (R.state n).bus = none := by
  simp [HpiSys.bus, otgData, h]

theorem not_contends_of_w (h : (R.state n).ports.w = true) : ¬ (R.state n).Contends :=
  fun hc => hc.1 (bus_of_w h)

/-- While nothing is stored the pins stay ready. -/
theorem ready_succ (h : (R.state n).Ready) (hq : (R.input n).store = none) :
    (R.state (n + 1)).Ready := by
  have hp : (R.state (n + 1)).ports = (R.state n).ports := by
    rw [ports_succ, hq]
    rfl
  refine ⟨idle_succ h.ports.w (hp ▸ h.ports), ?_⟩
  rw [intf_succ]
  exact h.ports.r

theorem ready_until (h : (R.state m).Ready) (hmn : m ≤ n)
    (hq : ∀ k, m ≤ k → k < n → (R.input k).store = none) : (R.state n).Ready := by
  induction n, hmn using Nat.le_induction with
  | base => exact h
  | succ n hmn ih => exact ready_succ (ih fun k h1 h2 => hq k h1 (by omega)) (hq n hmn (by omega))

/-- After `ioInit` the pins are ready, whatever they were before. -/
theorem ready_of_init (h : Executes R ioInit t) : (R.state (t 9 + 1)).Ready := by
  refine ⟨idle_of_init h, ?_⟩
  rw [intf_succ, ports_between h (k := 8) (by decide) (h.spaced 8 (by decide)) le_rfl]
  rfl

end Ready

/-! ### One call -/

section Call

variable {R : HpiRun} {a : BitVec 8} {d : BitVec 16} {t : ℕ → ℕ} {n : ℕ}

/-- Every cycle is between two stores. -/
theorem exists_between_stores (t : ℕ → ℕ) {m : ℕ} (h0 : t 0 < n) (h1 : n ≤ t m) :
    ∃ k < m, t k < n ∧ n ≤ t (k + 1) := by
  induction m with
  | zero => omega
  | succ m ih =>
    rcases Nat.lt_or_ge (t m) n with hn | hn
    · exact ⟨m, Nat.lt_succ_self m, hn, h1⟩
    · obtain ⟨k, hk, h2, h3⟩ := ih hn
      exact ⟨k, by omega, h2, h3⟩

/-- The read port stays high in a write. -/
theorem ports_write_r (h : Executes R (ioWrite a d) t) (hi : (R.state (t 0)).ports.Idle)
    (h0 : t 0 ≤ n) (h5 : n ≤ t 5) : (R.state n).ports.r = true := by
  rcases Nat.eq_or_lt_of_le h0 with rfl | h0
  · exact hi.r
  · obtain ⟨k, hk, h1, h2⟩ := exists_between_stores t h0 h5
    rw [ports_between h (Nat.succ_lt_succ hk) h1 h2]
    interval_cases k <;> exact hi.r

/-- The read strobe stays high in a write. -/
theorem rdN_write (h : Executes R (ioWrite a d) t) (hr : (R.state (t 0)).Ready) (h0 : t 0 ≤ n)
    (h5 : n ≤ t 5 + 1) : (R.state n).intf.rdN = true := by
  rcases Nat.eq_or_lt_of_le h0 with rfl | h0
  · exact hr.rdN
  · obtain ⟨m, rfl⟩ := Nat.exists_eq_add_of_lt h0
    rw [intf_succ]
    exact ports_write_r h hr.ports (by omega) (by omega)

/-- **What the pins show of a write.** -/
theorem access_write (h : Executes R (ioWrite a d) t) (hr : (R.state (t 0)).Ready) (h0 : t 0 ≤ n)
    (h5 : n ≤ t 5 + 1) : (R.state n).access =
      if t 3 + 2 ≤ n ∧ n ≤ t 4 + 1 then some (.write (a.setWidth 2)) else none := by
  have hstrobe := strobe_iff h hr.toIdle h0 h5
  have hrd := rdN_write h hr h0 h5
  by_cases hs : (R.state n).Strobe
  · obtain ⟨h3, h4⟩ := hstrobe.1 hs
    have haddr := (strobe_bus h hr.toIdle h3 h4).1
    rw [if_pos ⟨h3, h4⟩, HpiSys.access, hs.1, hs.2, hrd, haddr]
    rfl
  · rw [if_neg fun h34 => hs (hstrobe.2 h34), HpiSys.access, hrd]
    rw [HpiSys.Strobe] at hs
    cases hcs : (R.state n).intf.csN <;> simp_all

/-- The bus in the strobe of a write. -/
theorem bus_write (h : Executes R (ioWrite a d) t) (hr : (R.state (t 0)).Ready) :
    (List.range' (t 3 + 2) (t 4 + 1 + 1 - (t 3 + 2))).map (fun k => (R.state k).bus) =
      List.replicate (t 4 - t 3 - 1) (some d) ++ [none] := by
  obtain ⟨s0, s1, s2, s3, s4⟩ := h.order
  have hbus : ∀ k, t 3 + 2 ≤ k → k ≤ t 4 + 1 →
      (R.state k).bus = if k ≤ t 4 then some d else none := fun k h3 h4 =>
    (strobe_bus h hr.toIdle h3 h4).2
  have hlast : (R.state (t 4 + 1)).bus = none := by
    rw [hbus _ (by omega) le_rfl, if_neg (by omega)]
  rw [show t 4 + 1 + 1 - (t 3 + 2) = t 4 - t 3 - 1 + 1 by omega, List.range'_1_concat,
    List.map_append, show t 3 + 2 + (t 4 - t 3 - 1) = t 4 + 1 by omega, List.map_singleton, hlast]
  congr 1
  refine List.eq_replicate_iff.2 ⟨by simp, fun w hw => ?_⟩
  obtain ⟨k, hk, rfl⟩ := List.mem_map.1 hw
  rw [List.mem_range'_1] at hk
  rw [hbus k hk.1 (by omega), if_pos (by omega)]

theorem Executes.read_order (h : Executes R (ioRead a) t) :
    t 0 < t 1 ∧ t 1 < t 2 ∧ t 2 < t 3 ∧ t 3 < t 4 := by
  have hs : ∀ k, k + 1 < 5 → t k < t (k + 1) := h.spaced
  exact ⟨hs 0 (by decide), hs 1 (by decide), hs 2 (by decide), hs 3 (by decide)⟩

/-- The write port stays high in a read. -/
theorem ports_read_w (h : Executes R (ioRead a) t) (hi : (R.state (t 0)).ports.Idle)
    (h0 : t 0 ≤ n) (h4 : n ≤ t 4) : (R.state n).ports.w = true := by
  rcases Nat.eq_or_lt_of_le h0 with rfl | h0
  · exact hi.w
  · obtain ⟨k, hk, h1, h2⟩ := exists_between_stores t h0 h4
    rw [ports_between h (Nat.succ_lt_succ hk) h1 h2]
    interval_cases k <;> exact hi.w

/-- With the write port high the pins show the read of one cycle before. -/
theorem access_succ_of_w (h : (R.state n).ports.w = true) : (R.state (n + 1)).access =
    if (R.state n).ports.cs = false ∧ (R.state n).ports.r = false then
      some (.read (R.state n).ports.address) else none := by
  rw [HpiSys.access, intf_succ]
  cases hcs : (R.state n).ports.cs <;> cases hr : (R.state n).ports.r <;>
    simp [HpiInterface.step, HpiAccess.read, h, hcs, hr]

/-- The ports select the chip and read between the third and the fourth store. -/
theorem ports_read_iff (h : Executes R (ioRead a) t) (hi : (R.state (t 0)).ports.Idle)
    (h0 : t 0 ≤ n) (h4 : n ≤ t 4) :
    (R.state n).ports.cs = false ∧ (R.state n).ports.r = false ↔ t 2 < n ∧ n ≤ t 3 := by
  obtain ⟨s0, s1, s2, s3⟩ := h.read_order
  rcases (by omega : n = t 0 ∨ t 0 < n ∧ n ≤ t 1 ∨ t 1 < n ∧ n ≤ t 2 ∨ t 2 < n ∧ n ≤ t 3 ∨
    t 3 < n) with rfl | ⟨h1, h2⟩ | ⟨h1, h2⟩ | ⟨h1, h2⟩ | h1
  · exact iff_of_false (fun hc => Bool.false_ne_true (hc.1.symm.trans hi.cs)) (by omega)
  · rw [ports_between h (k := 0) (by simp [ioRead]) h1 h2]
    exact iff_of_false (fun hc => Bool.false_ne_true (hc.1.symm.trans hi.cs)) (by omega)
  · rw [ports_between h (k := 1) (by simp [ioRead]) h1 h2]
    exact iff_of_false (fun hc => Bool.false_ne_true (hc.2.symm.trans hi.r)) (by omega)
  · rw [ports_between h (k := 2) (by simp [ioRead]) h1 h2]
    exact iff_of_true ⟨rfl, rfl⟩ ⟨h1, h2⟩
  · rw [ports_between h (k := 3) (by simp [ioRead]) h1 h4]
    exact iff_of_false (fun hc => Bool.false_ne_true hc.2.symm) (by omega)

/-- The address of a read. -/
theorem ports_read_address (h : Executes R (ioRead a) t) (h0 : t 0 < n) (h4 : n ≤ t 4) :
    (R.state n).ports.address = a.setWidth 2 := by
  obtain ⟨k, hk, h1, h2⟩ := exists_between_stores t h0 h4
  rw [ports_between h (Nat.succ_lt_succ hk) h1 h2]
  interval_cases k <;> rfl

/-- **What the pins show of a read.** -/
theorem access_read (h : Executes R (ioRead a) t) (hr : (R.state (t 0)).Ready) (h0 : t 0 ≤ n)
    (h4 : n ≤ t 4 + 1) : (R.state n).access =
      if t 2 + 2 ≤ n ∧ n ≤ t 3 + 1 then some (.read (a.setWidth 2)) else none := by
  obtain ⟨s0, s1, s2, s3⟩ := h.read_order
  rcases Nat.eq_or_lt_of_le h0 with rfl | h0
  · rw [access_of_ready hr, if_neg (by omega)]
  · obtain ⟨m, rfl⟩ : ∃ m, n = m + 1 := ⟨n - 1, by omega⟩
    have hiff := ports_read_iff h hr.ports (n := m) (by omega) (by omega)
    rw [access_succ_of_w (ports_read_w h hr.ports (by omega) (by omega))]
    by_cases hc : t 2 < m ∧ m ≤ t 3
    · rw [if_pos (hiff.2 hc), if_pos (by omega),
        ports_read_address h (by omega) (by omega)]
    · rw [if_neg (fun h' => hc (hiff.1 h')), if_neg (by omega)]

/-- The bus in the strobe of a read. -/
theorem bus_read (h : Executes R (ioRead a) t) (hr : (R.state (t 0)).Ready) :
    (List.range' (t 2 + 2) (t 3 + 1 + 1 - (t 2 + 2))).map (fun k => (R.state k).bus) =
      List.replicate (t 3 - t 2) none := by
  obtain ⟨s0, s1, s2, s3⟩ := h.read_order
  refine List.eq_replicate_iff.2 ⟨by simp, fun w hw => ?_⟩
  obtain ⟨k, hk, rfl⟩ := List.mem_map.1 hw
  rw [List.mem_range'_1] at hk
  exact bus_of_w (ports_read_w h hr.ports (by omega) (by omega))

/-- A call leaves the pins ready. -/
theorem ready_of_call {c : IoCall} (h : Executes R c.stores t) (hr : (R.state (t 0)).Ready) :
    (R.state (t c.last + 1)).Ready := by
  cases c with
  | write a d =>
    obtain ⟨s0, s1, s2, s3, s4⟩ := Executes.order h
    exact ⟨idle_of_write h hr.toIdle, rdN_write h hr (by rw [IoCall.last]; omega) le_rfl⟩
  | read a =>
    refine ⟨idle_of_read h hr.toIdle, ?_⟩
    have s3 := h.read_order.2.2.2
    rw [intf_succ, IoCall.last, ports_between h (k := 3) (Nat.lt_succ_self 4) s3 le_rfl]
    rfl

theorem lt_of_call {c : IoCall} (h : Executes R c.stores t) : t 0 < t c.last := by
  cases c with
  | write a d =>
    obtain ⟨s0, s1, s2, s3, s4⟩ := Executes.order h
    simp only [IoCall.last]
    omega
  | read a =>
    obtain ⟨s0, s1, s2, s3⟩ := Executes.read_order h
    simp only [IoCall.last]
    omega

/-- **A call makes one access**, with its levels on the bus. -/
theorem spans_call {c : IoCall} (h : Executes R c.stores t) (hr : (R.state (t 0)).Ready) :
    spans (fun k => (R.state k).access) (fun k => (R.state k).bus) (t 0) (t c.last + 1 - t 0) =
      [c.shown t] := by
  cases c with
  | write a d =>
    obtain ⟨s0, s1, s2, s3, s4⟩ := Executes.order h
    rw [IoCall.last, IoCall.shown, ← bus_write h hr]
    exact spans_single (by omega) (by omega) (by omega) fun k h0 h5 => access_write h hr h0 h5
  | read a =>
    obtain ⟨s0, s1, s2, s3⟩ := Executes.read_order h
    rw [IoCall.last, IoCall.shown, ← bus_read h hr]
    exact spans_single (by omega) (by omega) (by omega) fun k h0 h4 => access_read h hr h0 h4

/-- What is there to be loaded in a read is the level of one cycle before. -/
theorem dataIn_read (h : Executes R (ioRead a) t) (hr : (R.state (t 0)).Ready) (h2 : t 2 < n)
    (h3 : n < t 3) : (R.state n).intf.dataIn = (R.input (n - 1)).chip := by
  obtain ⟨s0, s1, s2, s3⟩ := h.read_order
  have hw := ports_read_w h hr.ports (n := n - 1) (by omega) (by omega)
  obtain ⟨n, rfl⟩ : ∃ j, n = j + 1 := ⟨n - 1, by omega⟩
  rw [Nat.add_sub_cancel] at hw ⊢
  rw [intf_succ]
  simp [HpiInterface.step, otgData, hw]

/-- A call does not contend for the bus. -/
theorem not_contends_call {c : IoCall} (h : Executes R c.stores t) (hr : (R.state (t 0)).Ready)
    (h0 : t 0 ≤ n) (h1 : n ≤ t c.last) : ¬ (R.state n).Contends := by
  cases c with
  | write a d =>
    have hrd := rdN_write h hr h0 (h1.trans (Nat.le_succ _))
    exact fun hc => Bool.false_ne_true (hc.2.symm.trans hrd)
  | read a => exact not_contends_of_w (ports_read_w h hr.ports h0 h1)

end Call

/-! ### Sequences of calls -/

section Calls

variable {R : HpiRun} {l : List (IoCall × (ℕ → ℕ))} {m n : ℕ}

/-- The accesses in a sequence of calls are those of the calls. -/
theorem Performs.spans_eq {γ : Type} {g : ℕ → γ} (h : Performs R l m n) (hr : (R.state m).Ready) :
    m ≤ n ∧ spans (fun k => (R.state k).access) g m (n - m) = l.flatMap fun c =>
      spans (fun k => (R.state k).access) g (c.2 0) (c.2 c.1.last + 1 - c.2 0) := by
  induction h with
  | @done m n hmn hq =>
    refine ⟨hmn, spans_const fun k hk => ?_⟩
    have hk := ready_until hr (Nat.le_add_right m k) fun j h1 h2 => hq j h1 (by omega)
    exact (access_of_ready hk).trans (access_of_ready hr).symm
  | @call c t l m n hm hq hc hl ih =>
    have hgap : spans (fun k => (R.state k).access) g m (t 0 - m) = [] := spans_const fun k hk => by
      have hk := ready_until hr (Nat.le_add_right m k) fun j h1 h2 => hq j h1 (by omega)
      exact (access_of_ready hk).trans (access_of_ready hr).symm
    have h0 := ready_until hr hm hq
    have hlt := lt_of_call hc
    obtain ⟨hn, hrest⟩ := ih (ready_of_call hc h0)
    refine ⟨by omega, ?_⟩
    rw [show n - m = t 0 - m + (t c.last + 1 - t 0 + (n - (t c.last + 1))) by omega, spans_add,
      hgap, show m + (t 0 - m) = t 0 by omega, spans_add,
      show t 0 + (t c.last + 1 - t 0) = t c.last + 1 by omega, hrest, List.flatMap_cons,
      List.nil_append]

/-- **Every call** starts with ready pins, and no call contends for the bus. -/
theorem Performs.spec (h : Performs R l m n) (hr : (R.state m).Ready) :
    (∀ k, m ≤ k → k ≤ n → ¬ (R.state k).Contends) ∧
      ∀ c t, (c, t) ∈ l → Executes R c.stores t ∧ (R.state (t 0)).Ready := by
  induction h with
  | @done m n hmn hq =>
    refine ⟨fun k h1 h2 => ?_, by simp⟩
    exact not_contends_of_w (ready_until hr h1 fun j h3 h4 => hq j h3 (by omega)).ports.w
  | @call c t l m n hm hq hc hl ih =>
    have h0 := ready_until hr hm hq
    obtain ⟨hcont, hmem⟩ := ih (ready_of_call hc h0)
    refine ⟨fun k h1 h2 => ?_, fun c' t' h' => ?_⟩
    · rcases (by omega : k ≤ t 0 ∨ t 0 < k ∧ k ≤ t c.last ∨ t c.last < k) with hk | ⟨hk, hk'⟩ | hk
      · exact not_contends_of_w (ready_until hr h1 fun j h3 h4 => hq j h3 (by omega)).ports.w
      · exact not_contends_call hc h0 hk.le hk'
      · exact hcont k hk h2
    · rcases List.mem_cons.1 h' with h' | h'
      · cases h'
        exact ⟨hc, h0⟩
      · exact hmem c' t' h'

end Calls

/-! ### From `IO_init` on -/

/-- A run that makes some stores, one in every `s` cycles, from low ports on; the chip puts out one
level. -/
def session (l : List HpiStore) (s : ℕ) (chip : BitVec 16) : HpiRun :=
  Sync.Run.feed HpiSys.step
    (s := ⟨⟨3, 7, false, false, false, false⟩, ⟨0, 0, false, false, false, false, 0⟩⟩) trivial
    fun n => ⟨if n % s = 0 then l[n / s]? else none, chip⟩

theorem session_quiet {l : List HpiStore} {s : ℕ} {chip : BitVec 16} {k n : ℕ} (h1 : s * k < n)
    (h2 : n < s * (k + 1)) : ((session l s chip).input n).store = none := by
  refine if_neg fun h => ?_
  obtain ⟨j, rfl⟩ := Nat.dvd_of_mod_eq_zero h
  have := Nat.lt_of_mul_lt_mul_left h1
  have := Nat.lt_of_mul_lt_mul_left h2
  omega

/-- A part of a session. -/
theorem session_executes {a l p q : List HpiStore} {s : ℕ} {chip : BitVec 16} (hs : 0 < s)
    (h : a = p ++ (l ++ q)) : Executes (session a s chip) l fun k => s * (p.length + k) where
  spaced k _ := Nat.mul_lt_mul_of_pos_left (by omega) hs
  stores k hk := by
    show (if s * (p.length + k) % s = 0 then a[s * (p.length + k) / s]? else none) = _
    rw [if_pos (Nat.mul_mod_right _ _), Nat.mul_div_cancel_left _ hs, h,
      List.getElem?_append_right (Nat.le_add_right _ _), Nat.add_sub_cancel_left,
      List.getElem?_append_left hk]
  quiet k _ n h1 h2 := session_quiet h1 h2

/-- After its stores a session is quiet. -/
theorem session_done {l : List HpiStore} {s : ℕ} {chip : BitVec 16} {n : ℕ}
    (h : s * l.length < n + s) : ((session l s chip).input n).store = none := by
  show (if n % s = 0 then l[n / s]? else none) = none
  split_ifs with hn
  · obtain ⟨j, rfl⟩ := Nat.dvd_of_mod_eq_zero hn
    have hlen : l.length < j + 1 := Nat.lt_of_mul_lt_mul_left h
    have hs : 0 < s := by
      rcases Nat.eq_zero_or_pos s with rfl | hs
      · simp at h
      · exact hs
    rw [Nat.mul_div_cancel_left _ hs]
    exact List.getElem?_eq_none (Nat.le_of_lt_succ hlen)
  · rfl

/-- `IO_init`, a write, a read and a write. -/
def hostSession : HpiRun :=
  session (ioInit ++ (ioWrite 2 0x0500 ++ (ioRead 0 ++ ioWrite 0 0x0021))) 4 0x1000

/-- The calls of `hostSession` with their cycles. -/
def hostCalls : List (IoCall × (ℕ → ℕ)) :=
  [(.write 2 0x0500, fun k => 4 * (10 + k)), (.read 0, fun k => 4 * (16 + k)),
    (.write 0 0x0021, fun k => 4 * (21 + k))]

theorem hostSession_init : Executes hostSession ioInit fun k => 4 * (0 + k) :=
  session_executes (p := []) (by decide) rfl

theorem hostSession_performs : Performs hostSession hostCalls 37 110 := by
  refine .call (by decide) (fun k h1 h2 => session_quiet (k := 9) (by omega) (by omega))
    (session_executes (p := ioInit) (q := ioRead 0 ++ ioWrite 0 0x0021) (by decide) rfl) ?_
  refine .call (by decide) (fun k h1 h2 => session_quiet (k := 15)
    (by simp only [IoCall.last] at h1; omega) (by omega))
    (session_executes (p := ioInit ++ ioWrite 2 0x0500) (q := ioWrite 0 0x0021) (by decide) rfl) ?_
  refine .call (by decide) (fun k h1 h2 => session_quiet (k := 20)
    (by simp only [IoCall.last] at h1; omega) (by omega))
    (session_executes (p := ioInit ++ ioWrite 2 0x0500 ++ ioRead 0) (q := []) (by decide) rfl) ?_
  exact .done (by decide) fun k h1 h2 => session_done (by
    simp only [IoCall.last] at h1
    show 4 * 27 < k + 4
    omega)

section Init

variable {R : HpiRun} {l : List (IoCall × (ℕ → ℕ))} {a : BitVec 8} {t u : ℕ → ℕ} {k n : ℕ}

/-- **The pins show the calls**: after `IO_init` the accesses are the calls, in their order and none
twice, each with its levels on the bus. -/
theorem spans_calls (hi : Executes R ioInit t) (h : Performs R l (t 9 + 1) n) :
    spans (fun k => (R.state k).access) (fun k => (R.state k).bus) (t 9 + 1) (n - (t 9 + 1)) =
      l.map fun c => c.1.shown c.2 := by
  have hr := ready_of_init hi
  have hcalls := (h.spec hr).2
  rw [(h.spans_eq hr).2, List.map_eq_flatMap]
  refine List.flatMap_congr fun c hc => ?_
  obtain ⟨hexec, hready⟩ := hcalls c.1 c.2 hc
  exact spans_call hexec hready

theorem spans_calls_hostSession :
    spans (fun k => (hostSession.state k).access) (fun k => (hostSession.state k).bus) 37 73 =
      [(.write 2, [some 0x0500, some 0x0500, some 0x0500, none]),
        (.read 0, [none, none, none, none]),
        (.write 0, [some 0x0021, some 0x0021, some 0x0021, none])] :=
  spans_calls hostSession_init hostSession_performs

/-- **No contention**: between calls and in them the interface does not drive the bus while the
read strobe is low. -/
theorem not_contends (hi : Executes R ioInit t) (h : Performs R l (t 9 + 1) n) (h1 : t 9 + 1 ≤ k)
    (h2 : k ≤ n) : ¬ (R.state k).Contends :=
  (h.spec (ready_of_init hi)).1 k h1 h2

/-- In the write and in the read of `hostSession`. -/
theorem not_contends_hostSession :
    (hostSession.state 55).bus = some 0x0500 ∧ ¬ (hostSession.state 55).Contends ∧
      (hostSession.state 75).intf.rdN = false ∧ ¬ (hostSession.state 75).Contends :=
  ⟨by decide +kernel,
    not_contends hostSession_init hostSession_performs (by decide) (by decide),
    by decide +kernel,
    not_contends hostSession_init hostSession_performs (by decide) (by decide)⟩

/-- **Whose level a read returns**: the level of the bus one cycle before the load, which is the
answer to the read if the load comes at least three cycles after the read strobe is stored. -/
theorem load_iff (hi : Executes R ioInit t) (h : Performs R l (t 9 + 1) n)
    (hmem : (IoCall.read a, u) ∈ l) (h2 : u 2 < k) (h3 : k < u 3) :
    (R.state k).intf.dataIn = (R.input (k - 1)).chip ∧
      ((R.state (k - 1)).access = some (.read (a.setWidth 2)) ↔ u 2 + 3 ≤ k) := by
  obtain ⟨hc, hr⟩ := (h.spec (ready_of_init hi)).2 _ _ hmem
  obtain ⟨s0, s1, s2, s3⟩ := Executes.read_order hc
  refine ⟨dataIn_read hc hr h2 h3, ?_⟩
  rw [access_read hc hr (by omega) (by omega)]
  split_ifs with hk
  · exact iff_of_true rfl (by omega)
  · exact iff_of_false nofun (by omega)

/-- A load three cycles after the strobe, and one that is too early. -/
theorem load_iff_hostSession :
    ((hostSession.state 75).intf.dataIn = (hostSession.input 74).chip ∧
      ((hostSession.state 74).access = some (.read 0) ↔ 75 ≤ 75)) ∧
    (hostSession.state 74).intf.dataIn = (hostSession.input 73).chip ∧
      ((hostSession.state 73).access = some (.read 0) ↔ 75 ≤ 74) :=
  ⟨load_iff hostSession_init hostSession_performs (List.mem_cons_of_mem _ List.mem_cons_self)
      (by decide) (by decide),
    load_iff hostSession_init hostSession_performs (List.mem_cons_of_mem _ List.mem_cons_self)
      (by decide) (by decide)⟩

end Init

end TankBattle
