import Mathlib.Tactic

/-!
# Transfer descriptors of the USB chip (`usb.c`)

The chip finds what it is to do in its memory, as a chain of descriptors of six words each: buffer,
length, packet, control, retries and the address of the next descriptor.  A control transfer is
a descriptor for the setup packet, one for each packet of data and one for the status.

* `Image`: what is known of a memory of words;
* `Td`, `chain`, `layout`: descriptors, following a chain, laying one out;
* `chain_layout`: a chain that was laid out is read back;
* `UsbRequest`, `UsbRequest.words`, `decode`: requests, their words in memory, and reading them;
* `decode_words`: a request is read back from any memory that holds its words.
-/

namespace TankBattle

/-- What is known of a memory of words, which are at even addresses. -/
abbrev Image := BitVec 16 → Option (BitVec 16)

namespace Image

/-- The memory after some words were stored from an address on. -/
def store (m : Image) (a : BitVec 16) : List (BitVec 16) → Image
  | [] => m
  | w :: ws => store (Function.update m a (some w)) (a + 2) ws

/-- From an address on the memory holds some words. -/
def Holds (m : Image) (a : BitVec 16) : List (BitVec 16) → Prop
  | [] => True
  | w :: ws => m a = some w ∧ Holds m (a + 2) ws

variable {m : Image} {a b : BitVec 16} {ws vs : List (BitVec 16)}

/-- The words before an address do not touch it. -/
theorem store_of_lt (h : b.toNat < a.toNat) (ha : a.toNat + 2 * ws.length ≤ 2 ^ 16) :
    m.store a ws b = m b := by
  induction ws generalizing m a with
  | nil => rfl
  | cons w ws ih =>
    rw [List.length_cons] at ha
    rcases ws with _ | ⟨v, ws⟩
    · exact Function.update_of_ne (by rintro rfl; omega) _ _
    · rw [List.length_cons] at ha
      have h2 : (a + 2).toNat = a.toNat + 2 := by
        rw [BitVec.toNat_add]
        exact Nat.mod_eq_of_lt (by simp; omega)
      rw [store, ih (by omega) (by rw [List.length_cons]; omega),
        Function.update_of_ne (by rintro rfl; omega)]

/-- **What was stored is held.** -/
theorem store_holds (ha : a.toNat + 2 * ws.length ≤ 2 ^ 16) : (m.store a ws).Holds a ws := by
  induction ws generalizing m a with
  | nil => trivial
  | cons w ws ih =>
    rw [List.length_cons] at ha
    rcases ws with _ | ⟨v, ws⟩
    · exact ⟨Function.update_self _ _ _, trivial⟩
    · rw [List.length_cons] at ha
      have h2 : (a + 2).toNat = a.toNat + 2 := by
        rw [BitVec.toNat_add]
        exact Nat.mod_eq_of_lt (by simp; omega)
      have hws : (a + 2).toNat + 2 * (v :: ws).length ≤ 2 ^ 16 := by rw [List.length_cons]; omega
      exact ⟨by rw [store, store_of_lt (by omega) hws, Function.update_self], ih hws⟩

theorem holds_append : m.Holds a (ws ++ vs) ↔
    m.Holds a ws ∧ m.Holds (a + BitVec.ofNat 16 (2 * ws.length)) vs := by
  induction ws generalizing a with
  | nil => simp [Holds]
  | cons w ws ih =>
    have hlen : a + 2 + BitVec.ofNat 16 (2 * ws.length) =
        a + BitVec.ofNat 16 (2 * (w :: ws).length) := by
      rw [BitVec.add_assoc]
      congr 1
      rw [List.length_cons, show 2 * (ws.length + 1) = 2 + 2 * ws.length by omega, BitVec.ofNat_add]
      rfl
    rw [List.cons_append, Holds, Holds, ih, hlen, and_assoc]

end Image

/-- A descriptor, without the address of the next one. -/
structure Td where
  base : BitVec 16
  len : BitVec 16
  pid : BitVec 16
  ctl : BitVec 16
  retry : BitVec 16
  deriving DecidableEq

/-- The words of a descriptor. -/
def Td.words (t : Td) (next : BitVec 16) : List (BitVec 16) :=
  [t.base, t.len, t.pid, t.ctl, t.retry, next]

/-- The descriptor at an address, and the address of the next one. -/
def readTd (m : Image) (a : BitVec 16) : Option (Td × BitVec 16) := do
  let base ← m a
  let len ← m (a + 2)
  let pid ← m (a + 4)
  let ctl ← m (a + 6)
  let retry ← m (a + 8)
  let next ← m (a + 10)
  return (⟨base, len, pid, ctl, retry⟩, next)

/-- The chain of fewer than `n` descriptors from an address on; address 0 ends it. -/
def chain (m : Image) : ℕ → BitVec 16 → Option (List Td)
  | 0, _ => none
  | n + 1, a =>
    if a = 0 then some []
    else do
      let (t, next) ← readTd m a
      let ts ← chain m n next
      return t :: ts

/-- The words of descriptors that follow each other in memory. -/
def layout (a : BitVec 16) : List Td → List (BitVec 16)
  | [] => []
  | [t] => t.words 0
  | t :: t' :: ts => t.words (a + 12) ++ layout (a + 12) (t' :: ts)

section Chain

variable {m : Image} {a : BitVec 16} {t : Td} {ts : List Td} {next : BitVec 16}

theorem readTd_of_holds (h : m.Holds a (t.words next)) : readTd m a = some (t, next) := by
  obtain ⟨h0, h1, h2, h3, h4, h5, -⟩ := h
  simp only [BitVec.add_assoc, BitVec.reduceAdd, BitVec.ofNat_eq_ofNat] at h1 h2 h3 h4 h5
  simp [readTd, h0, h1, h2, h3, h4, h5]

theorem chain_cons {n : ℕ} (ha : a ≠ 0) (h : m.Holds a (t.words next)) :
    chain m (n + 1) a = (chain m n next).map (t :: ·) := by
  rw [chain, if_neg ha, readTd_of_holds h]
  cases hc : chain m n next <;> simp [hc]

/-- **A chain that was laid out is read back.** -/
theorem chain_layout {n : ℕ} (h : m.Holds a (layout a ts)) (hts : ts ≠ []) (ha : a ≠ 0)
    (hlen : a.toNat + 12 * ts.length ≤ 2 ^ 16) (hn : ts.length < n) : chain m n a = some ts := by
  induction ts generalizing a n with
  | nil => exact absurd rfl hts
  | cons t ts ih =>
    obtain ⟨n, rfl⟩ : ∃ k, n = k + 1 := ⟨n - 1, by omega⟩
    rw [List.length_cons] at hlen hn
    cases ts with
    | nil =>
      obtain ⟨n, rfl⟩ : ∃ k, n = k + 1 := ⟨n - 1, by simp at hn; omega⟩
      rw [chain_cons ha h, chain, if_pos rfl]
      rfl
    | cons t' ts =>
      obtain ⟨h1, h2⟩ := Image.holds_append.1 h
      have h12 : (a + 12).toNat = a.toNat + 12 := by
        rw [BitVec.toNat_add]
        exact Nat.mod_eq_of_lt (by simp at hlen ⊢; omega)
      have ha12 : a + 12 ≠ 0 := by
        intro h0
        rw [h0] at h12
        simp at h12
      rw [chain_cons ha h1, ih (a := a + 12) h2 (List.cons_ne_nil _ _) ha12 (by omega) (by omega)]
      rfl

end Chain

/-! ### Requests -/

/-- The setup packet of a control transfer. -/
structure SetupPacket where
  request : BitVec 16
  value : BitVec 16
  index : BitVec 16
  length : BitVec 16
  deriving DecidableEq

/-- The words of a setup packet. -/
def SetupPacket.words (p : SetupPacket) : List (BitVec 16) :=
  [p.request, p.value, p.index, p.length]

/-- The setup packet at an address. -/
def readSetup (m : Image) (a : BitVec 16) : Option SetupPacket := do
  let request ← m a
  let value ← m (a + 2)
  let index ← m (a + 4)
  let length ← m (a + 6)
  return ⟨request, value, index, length⟩

/-- A request to a device: a control transfer that reads `n` bytes into a buffer, or one packet from
an endpoint. -/
inductive UsbRequest
  | control (dev : BitVec 8) (p : SetupPacket) (n : ℕ) (buf : BitVec 16)
  | poll (dev : BitVec 8) (endpoint : BitVec 4) (buf len : BitVec 16) (data1 : Bool)
  deriving DecidableEq

/-- The control word of a descriptor, for a packet `DATA0` or `DATA1`. -/
def tdControl (data1 : Bool) : BitVec 16 := if data1 then 0x0041 else 0x0001

/-- The packets of `n` bytes: of eight bytes each, and one for the rest. -/
def packets (n : ℕ) : List ℕ := List.replicate (n / 8) 8 ++ if n % 8 = 0 then [] else [n % 8]

/-- The descriptors of the packets of data; `DATA0` and `DATA1` take turns. -/
def dataTds (dev : BitVec 8) (buf : BitVec 16) (data1 : Bool) : List ℕ → List Td
  | [] => []
  | k :: ks => ⟨buf, BitVec.ofNat 16 k, dev ++ 0x90#8, tdControl data1, 0x0013⟩ ::
      dataTds dev (buf + BitVec.ofNat 16 k) (!data1) ks

namespace UsbRequest

/-- The first descriptor of a request. -/
def first : UsbRequest → Td
  | .control dev _ _ _ => ⟨0x050C, 0x0008, dev ++ 0xD0#8, tdControl false, 0x0013⟩
  | .poll dev endpoint buf len data1 =>
    ⟨buf, len, dev ++ (0x9#4 ++ endpoint), tdControl data1, 0x0013⟩

/-- The other descriptors of a request: the data, and the status in the other direction. -/
def rest : UsbRequest → List Td
  | .control dev _ n buf => dataTds dev buf true (packets n) ++
      [⟨0, 0, dev ++ if n = 0 then 0x90#8 else 0x10#8, tdControl true, 0x0013⟩]
  | .poll .. => []

/-- The words of a request, from address `0x0500` on. -/
def words : UsbRequest → List (BitVec 16)
  | r@(.control _ p _ _) => r.first.words 0x0514 ++ (p.words ++ layout 0x0514 r.rest)
  | r@(.poll ..) => r.first.words 0

/-- The buffer is behind the descriptors, and no more is read than the setup packet asks for. -/
def Fits : UsbRequest → Prop
  | .control _ p n buf => (n = 0 → buf = 0) ∧
      (0 < n → 0x0514 + 12 * ((packets n).length + 1) ≤ buf.toNat) ∧ buf.toNat + n ≤ 2 ^ 16 ∧
      n ≤ p.length.toNat
  | .poll _ _ buf len _ => 0x050C ≤ buf.toNat ∧ buf.toNat + len.toNat ≤ 2 ^ 16

instance : DecidablePred Fits
  | .control .. => inferInstanceAs (Decidable (_ ∧ _))
  | .poll .. => inferInstanceAs (Decidable (_ ∧ _))

/-- The request that a chain with first descriptor `t` is for, if it is for one. -/
def ofTds (m : Image) (t : Td) (ts : List Td) : Option UsbRequest := do
  let dev := (t.pid >>> 8).setWidth 8
  let r ←
    if t.pid.setWidth 8 = 0xD0#8 then do
      let p ← readSetup m t.base
      some (control dev p (ts.map fun t => t.len.toNat).sum (ts.head?.elim 0 Td.base))
    else some (poll dev ((t.pid.setWidth 8).setWidth 4) t.base t.len (t.ctl = tdControl true))
  if r.first = t ∧ r.rest = ts then some r else none

end UsbRequest

/-- The request that the memory holds from an address on. -/
def decode (m : Image) (a : BitVec 16) : Option UsbRequest :=
  match chain m 5462 a with
  | some (t :: ts) => UsbRequest.ofTds m t ts
  | _ => none

section Decode

variable {m : Image} {a : BitVec 16}

theorem sum_packets (n : ℕ) : (packets n).sum = n := by
  rw [packets, List.sum_append, List.sum_replicate]
  split_ifs <;> simp <;> omega

theorem packets_le {n k : ℕ} (h : k ∈ packets n) : 0 < k ∧ k ≤ 8 := by
  rw [packets, List.mem_append] at h
  rcases h with h | h
  · rw [List.eq_of_mem_replicate h]
    decide
  · split_ifs at h
    · cases h
    · rw [List.mem_singleton.1 h]
      omega

theorem length_dataTds (dev : BitVec 8) (buf : BitVec 16) (data1 : Bool) (ks : List ℕ) :
    (dataTds dev buf data1 ks).length = ks.length := by
  induction ks generalizing buf data1 with
  | nil => rfl
  | cons k ks ih => rw [dataTds, List.length_cons, ih, List.length_cons]

theorem sum_dataTds {dev : BitVec 8} {buf : BitVec 16} {data1 : Bool} {ks : List ℕ}
    (h : ∀ k ∈ ks, k < 2 ^ 16) :
    ((dataTds dev buf data1 ks).map fun t => t.len.toNat).sum = ks.sum := by
  induction ks generalizing buf data1 with
  | nil => rfl
  | cons k ks ih =>
    rw [dataTds, List.map_cons, List.sum_cons, ih fun k hk => h k (List.mem_cons_of_mem _ hk),
      List.sum_cons, BitVec.toNat_ofNat, Nat.mod_eq_of_lt (h k List.mem_cons_self)]

theorem readSetup_of_holds {p : SetupPacket} (h : m.Holds a p.words) : readSetup m a = some p := by
  obtain ⟨h0, h1, h2, h3, -⟩ := h
  simp only [BitVec.add_assoc, BitVec.reduceAdd, BitVec.ofNat_eq_ofNat] at h1 h2 h3
  simp [readSetup, h0, h1, h2, h3]

theorem setWidth_append_right {v w : ℕ} (x : BitVec v) (y : BitVec w) :
    (x ++ y).setWidth w = y := by
  ext i hi
  rw [BitVec.getElem_setWidth, BitVec.getLsbD_append, if_pos hi, BitVec.getLsbD_eq_getElem]

theorem setWidth_append_left {v w : ℕ} (x : BitVec v) (y : BitVec w) :
    ((x ++ y) >>> w).setWidth v = x := by
  ext i hi
  rw [BitVec.getElem_setWidth, BitVec.getLsbD_ushiftRight, BitVec.getLsbD_append,
    if_neg (by omega), Nat.add_sub_cancel_left, BitVec.getLsbD_eq_getElem]

/-- A control transfer is recognised by its descriptors. -/
theorem ofTds_control {dev : BitVec 8} {p : SetupPacket} {n : ℕ} {buf : BitVec 16}
    (hn : n = 0 → buf = 0) (hp : readSetup m 0x050C = some p) :
    UsbRequest.ofTds m (UsbRequest.control dev p n buf).first
      (UsbRequest.control dev p n buf).rest = some (.control dev p n buf) := by
  have hsum : ((UsbRequest.control dev p n buf).rest.map fun t => t.len.toNat).sum = n := by
    rw [UsbRequest.rest, List.map_append, List.sum_append,
      sum_dataTds fun k hk => by have := packets_le hk; omega, sum_packets]
    simp
  have hbuf : (UsbRequest.control dev p n buf).rest.head?.elim 0 Td.base = buf := by
    rcases Nat.eq_zero_or_pos n with rfl | hpos
    · exact (hn rfl).symm
    · obtain ⟨k, ks, hks⟩ := List.exists_cons_of_ne_nil (l := packets n) fun h => by
        have hsum := sum_packets n
        rw [h, List.sum_nil] at hsum
        omega
      rw [UsbRequest.rest, hks]
      rfl
  have hpid : (UsbRequest.control dev p n buf).first.pid = dev ++ 0xD0#8 := rfl
  rw [UsbRequest.ofTds, hpid, hsum, hbuf, setWidth_append_right, setWidth_append_left, if_pos rfl,
    show (UsbRequest.control dev p n buf).first.base = 0x050C from rfl, hp]
  simp

/-- A packet from an endpoint is recognised by its descriptor. -/
theorem ofTds_poll (dev : BitVec 8) (endpoint : BitVec 4) (buf len : BitVec 16) (data1 : Bool) :
    UsbRequest.ofTds m (UsbRequest.poll dev endpoint buf len data1).first [] =
      some (.poll dev endpoint buf len data1) := by
  have hpid : (UsbRequest.poll dev endpoint buf len data1).first.pid =
      dev ++ (0x9#4 ++ endpoint) := rfl
  have hne : 0x9#4 ++ endpoint ≠ 0xD0#8 := fun h => by
    have hbit := congrArg (fun b => b.getLsbD 6) h
    rw [BitVec.getLsbD_append, if_neg (by decide)] at hbit
    exact absurd hbit (by decide)
  rw [UsbRequest.ofTds, hpid, setWidth_append_right, setWidth_append_left, if_neg hne,
    setWidth_append_right]
  cases data1 <;> simp [UsbRequest.first, UsbRequest.rest, tdControl]

theorem length_layout (a : BitVec 16) (ts : List Td) : (layout a ts).length = 6 * ts.length := by
  induction ts generalizing a with
  | nil => rfl
  | cons t ts ih =>
    cases ts with
    | nil => rfl
    | cons t' ts =>
      rw [layout, List.length_append, ih, List.length_cons (a := t)]
      simp only [Td.words, List.length_cons, List.length_nil]
      omega

/-- The descriptors of a request end before the end of the memory. -/
theorem Fits.length_rest {dev : BitVec 8} {p : SetupPacket} {n : ℕ} {buf : BitVec 16}
    (h : (UsbRequest.control dev p n buf).Fits) :
    0x0514 + 12 * (UsbRequest.control dev p n buf).rest.length ≤ 2 ^ 16 := by
  obtain ⟨-, hn, -⟩ := h
  rw [UsbRequest.rest, List.length_append, length_dataTds, List.length_singleton]
  rcases Nat.eq_zero_or_pos n with rfl | hpos
  · decide
  · have := hn hpos
    omega

theorem length_words {r : UsbRequest} (hr : r.Fits) :
    0x0500 + 2 * r.words.length ≤ 2 ^ 16 := by
  cases r with
  | control dev p n buf =>
    have hlen := Fits.length_rest hr
    rw [UsbRequest.words, List.length_append, List.length_append, length_layout]
    simp only [Td.words, SetupPacket.words, List.length_cons, List.length_nil]
    omega
  | poll dev endpoint buf len data1 =>
    show 0x0500 + 2 * 6 ≤ 2 ^ 16
    decide

/-- **A request is read back** from any memory that holds its words. -/
theorem decode_words {r : UsbRequest} (hr : r.Fits) (h : m.Holds 0x0500 r.words) :
    decode m 0x0500 = some r := by
  cases r with
  | control dev p n buf =>
    obtain ⟨h1, h2⟩ := Image.holds_append.1 h
    obtain ⟨h2, h3⟩ := Image.holds_append.1 h2
    have hrest : chain m 5461 0x0514 = some (UsbRequest.control dev p n buf).rest := by
      have hlen := Fits.length_rest hr
      refine chain_layout h3 (by simp [UsbRequest.rest]) (by decide) hlen (by omega)
    rw [decode, chain_cons (by decide) h1, hrest]
    exact ofTds_control hr.1 (readSetup_of_holds h2)
  | poll dev endpoint buf len data1 =>
    rw [decode, chain_cons (by decide) h]
    exact ofTds_poll dev endpoint buf len data1

/-- **A request is read back** from the memory it was stored to, whatever was there before. -/
theorem decode_store {r : UsbRequest} (hr : r.Fits) (m : Image) :
    decode (m.store 0x0500 r.words) 0x0500 = some r :=
  decode_words hr (Image.store_holds (length_words hr))

end Decode

end TankBattle
