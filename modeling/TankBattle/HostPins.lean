import TankBattle.BusCycles
import TankBattle.UsbText

/-!
# The software on the pins of the chip (`main.c`, `io_handler.c`, `hpi_io_intf.sv`)

The program writes to the registers of the chip and reads them; its calls store to the ports of the
interface, and the interface moves the pins.  This module puts the three together.

* `HostEvent`, `isBusEvent`: what the program does on its ports, and what of it the chip is to see;
* `Carries`, `CarriesOut`: calls that carry out the events of the program;
* `Shows`: the event that an access shows by the levels of the bus in its cycles;
* `spans_carries`: the pins show the event that a call carries out;
* `pins_carry`: the pins show exactly what the program does.
-/

namespace TankBattle

open Dialog Sync

/-- What passes between the program and its ports. -/
abbrev HostEvent := Event Usb.HpiCommand (BitVec 8) (BitVec 16)

/-- The event is one on the bus of the chip; key codes go to a port of their own. -/
def isBusEvent : HostEvent → Bool
  | .tell (.keycode _) => false
  | _ => true

/-- A call carries out an event, and is slow enough: the strobe of a write is two cycles long or
more, and the word of a read is loaded three cycles after its strobe or later. -/
inductive Carries (R : HpiRun) : IoCall × (ℕ → ℕ) → HostEvent → Prop
  | write {a : BitVec 8} {d : BitVec 16} {t : ℕ → ℕ} (h : t 3 + 2 ≤ t 4) :
      Carries R (.write a d, t) (.tell (.write a d))
  | read {a : BitVec 8} {t : ℕ → ℕ} {k : ℕ} (h2 : t 2 + 3 ≤ k) (h3 : k < t 3) :
      Carries R (.read a, t) (.ask a (R.state k).intf.dataIn)

/-- The events `l` are carried out from cycle `m` up to cycle `n`. -/
def CarriesOut (R : HpiRun) (l : List HostEvent) (m n : ℕ) : Prop :=
  ∃ cs, Performs R cs m n ∧ List.Forall₂ (Carries R) cs (l.filter isBusEvent)

/-- The bus in a cycle: what the interface drives, and the level of the chip. -/
def hostBus (R : HpiRun) (n : ℕ) : Option (BitVec 16) × BitVec 16 :=
  ((R.state n).bus, (R.input n).chip)

/-- An access shows an event: a write by its data, on the bus in all cycles of the strobe but the
last one, in which the interface lets the bus go; a read by the level of the chip, the same in all
cycles of the strobe. -/
inductive Shows : HpiAccess × List (Option (BitVec 16) × BitVec 16) → HostEvent → Prop
  | write {a : BitVec 2} {d : BitVec 16} {ls : List (Option (BitVec 16) × BitVec 16)} {k : ℕ}
      (h : ls.map Prod.fst = List.replicate (k + 1) (some d) ++ [none]) :
      Shows (.write a, ls) (.tell (.write (a.setWidth 8) d))
  | read {a : BitVec 2} {w : BitVec 16} {k : ℕ} :
      Shows (.read a, List.replicate (k + 1) (none, w)) (.ask (a.setWidth 8) w)

/-- An access shows one event only. -/
theorem Shows.unique : Relator.RightUnique Shows := by
  intro x e e' h h'
  cases h with
  | @write a d ls k h =>
    generalize hx : (HpiAccess.write a, ls) = x at h'
    cases h' with
    | @write a' d' ls' k' h' =>
      obtain ⟨ha, rfl⟩ := Prod.mk.inj hx
      obtain rfl : a = a' := congrArg HpiAccess.addr ha
      rw [h, List.replicate_succ, List.replicate_succ] at h'
      obtain rfl : d = d' := Option.some.inj (List.cons.inj h').1
      rfl
    | read => exact nomatch congrArg (fun y => y.1.rdN) hx
  | @read a w k =>
    generalize hx : (HpiAccess.read a, List.replicate (k + 1) (none, w)) = x at h'
    cases h' with
    | write => exact nomatch congrArg (fun y => y.1.rdN) hx
    | @read a' w' k' =>
      obtain ⟨ha, hl⟩ := Prod.mk.inj hx
      obtain rfl : a = a' := congrArg HpiAccess.addr ha
      rw [List.replicate_succ, List.replicate_succ] at hl
      obtain rfl : w = w' := (Prod.mk.inj (List.cons.inj hl).1).2
      rfl

/-- The chip keeps its answer while it is read. -/
def SteadyReads (R : HpiRun) : Prop :=
  ∀ n a, (R.state n).access = some (.read a) → (R.state (n + 1)).access = some (.read a) →
    (R.input (n + 1)).chip = (R.input n).chip

/-! ### One call -/

section Call

variable {R : HpiRun} {t : ℕ → ℕ} {a : BitVec 8} {n : ℕ}

theorem setWidth_register (h : a.toNat < 4) : (a.setWidth 2).setWidth 8 = a := by
  apply BitVec.eq_of_toNat_eq
  rw [BitVec.toNat_setWidth, BitVec.toNat_setWidth]
  omega

/-- The level of the chip in a read. -/
theorem chip_read (hs : SteadyReads R) (h : Executes R (ioRead a) t) (hr : (R.state (t 0)).Ready)
    (h2 : t 2 + 2 ≤ n) (h3 : n ≤ t 3 + 1) : (R.input n).chip = (R.input (t 2 + 2)).chip := by
  obtain ⟨s0, s1, s2, s3⟩ := h.read_order
  have hread : ∀ k, t 2 + 2 ≤ k → k ≤ t 3 + 1 →
      (R.state k).access = some (.read (a.setWidth 2)) := fun k h1 h4 => by
    rw [access_read h hr (by omega) (by omega), if_pos ⟨h1, h4⟩]
  induction n, h2 using Nat.le_induction with
  | base => rfl
  | succ n h2 ih =>
    rw [hs n _ (hread n h2 (by omega)) (hread (n + 1) (by omega) h3), ih (by omega)]

/-- **The pins show the event** that a call carries out. -/
theorem spans_carries (hs : SteadyReads R) {c : IoCall} {e : HostEvent}
    (h : Executes R c.stores t) (hr : (R.state (t 0)).Ready) (hc : Carries R (c, t) e)
    (he : Prog.Obeys Usb.HpiCommand.OnBus (fun a => a.toNat < 4) e) :
    ∃ x, spans (fun k => (R.state k).access) (hostBus R) (t 0) (t c.last + 1 - t 0) = [x] ∧
      Shows x e := by
  cases hc with
  | @write a d _ h34 =>
    obtain ⟨s0, s1, s2, s3, s4⟩ := Executes.order h
    refine ⟨_, spans_single (c := t 3 + 2) (d := t 4 + 1) (by omega) (by omega)
      (Nat.succ_lt_succ s4) fun n h0 h5 => access_write h hr h0 h5, ?_⟩
    have hlevels :
        ((List.range' (t 3 + 2) (t 4 + 1 + 1 - (t 3 + 2))).map (hostBus R)).map Prod.fst =
          List.replicate (t 4 - t 3 - 2 + 1) (some d) ++ [none] := by
      rw [List.map_map, show t 4 - t 3 - 2 + 1 = t 4 - t 3 - 1 by omega]
      exact bus_write h hr
    have hshows := Shows.write (a := a.setWidth 2) hlevels
    rwa [setWidth_register he] at hshows
  | @read a _ k h2 h3 =>
    obtain ⟨s0, s1, s2, s3⟩ := Executes.read_order h
    have hlevels : (List.range' (t 2 + 2) (t 3 + 1 + 1 - (t 2 + 2))).map (hostBus R) =
        List.replicate (t 3 - t 2 - 1 + 1) (none, (R.state k).intf.dataIn) := by
      refine List.eq_replicate_iff.2 ⟨by simp; omega, fun x hx => ?_⟩
      obtain ⟨n, hn, rfl⟩ := List.mem_map.1 hx
      rw [List.mem_range'_1] at hn
      rw [hostBus, bus_of_w (ports_read_w h hr.ports (by omega) (by omega)),
        dataIn_read h hr (by omega) h3, chip_read hs h hr hn.1 (by omega),
        chip_read hs h hr (n := k - 1) (by omega) (by omega)]
    refine ⟨_, spans_single (c := t 2 + 2) (d := t 3 + 1) (by omega) (by omega)
      (Nat.succ_lt_succ s3) fun n h0 h4 => access_read h hr h0 h4, ?_⟩
    have hshows := Shows.read (a := a.setWidth 2) (w := (R.state k).intf.dataIn)
      (k := t 3 - t 2 - 1)
    rwa [setWidth_register he, ← hlevels] at hshows

end Call

/-! ### A run of the program -/

section Program

variable {R : HpiRun} {t : ℕ → ℕ} {n : ℕ} {l : List HostEvent}

/-- Lists whose members correspond one to one, the first taken member by member. -/
theorem forall₂_flatMap {β γ δ : Type} {r : β → δ → Prop} {q : γ → δ → Prop} {g : β → List γ}
    {cs : List β} {es : List δ} (h : List.Forall₂ r cs es)
    (hg : ∀ c ∈ cs, ∀ e ∈ es, r c e → ∃ x, g c = [x] ∧ q x e) :
    List.Forall₂ q (cs.flatMap g) es := by
  induction h with
  | nil => exact .nil
  | @cons c e cs es hce _ ih =>
    obtain ⟨x, hx, hq⟩ := hg c List.mem_cons_self e List.mem_cons_self hce
    rw [List.flatMap_cons, hx]
    exact .cons hq (ih fun c' hc' e' he' =>
      hg c' (List.mem_cons_of_mem _ hc') e' (List.mem_cons_of_mem _ he'))

/-- **The pins show exactly what the program does**: after `IO_init` the accesses on them show the
writes and the reads of the program, in their order and none twice, with its data and with the
answers that the program gets, and they show nothing else. -/
theorem pins_carry (hi : Executes R ioInit t) (hs : SteadyReads R) {o : Option Empty}
    (hl : Usb.main.Trace l o) (hc : CarriesOut R l (t 9 + 1) n) (es : List HostEvent) :
    List.Forall₂ Shows
        (spans (fun k => (R.state k).access) (hostBus R) (t 9 + 1) (n - (t 9 + 1))) es ↔
      es = l.filter isBusEvent := by
  obtain ⟨cs, hcs, hforall⟩ := hc
  have hr := ready_of_init hi
  have hshows : List.Forall₂ Shows
      (spans (fun k => (R.state k).access) (hostBus R) (t 9 + 1) (n - (t 9 + 1)))
      (l.filter isBusEvent) := by
    rw [(hcs.spans_eq hr).2]
    refine forall₂_flatMap hforall fun c hmem e he hce => ?_
    obtain ⟨hexec, hready⟩ := (hcs.spec hr).2 c.1 c.2 hmem
    exact spans_carries hs hexec hready hce
      (Usb.onBus_main.trace hl e (List.mem_of_mem_filter he))
  constructor
  · exact fun h => Shows.unique.forall₂ h hshows
  · rintro rfl
    exact hshows

/-- The first three events, with a chip that always answers the same. -/
def bootEvents : List HostEvent :=
  ((Usb.main.exec 1 (fun d _ => d) (fun d _ => (Usb.commAck, d)) ()).1).take 3

/-- The software begins: the chip is reset, and its mailbox and its status are read. -/
def bootSession : HpiRun :=
  session (ioInit ++ (ioWrite 1 Usb.commReset ++ (ioRead 1 ++ ioRead 3))) 4 Usb.commAck

theorem bootEvents_eq : bootEvents.filter isBusEvent =
    [.tell (.write 1 Usb.commReset), .ask 1 Usb.commAck, .ask 3 Usb.commAck] := by
  decide +kernel

theorem bootEvents_trace : ∃ o, Usb.main.Trace bootEvents o :=
  Prog.trace_take (Prog.exec_trace 1 (fun d _ => d) (fun d _ => (Usb.commAck, d)) Usb.main ()) 3

theorem bootSession_carriesOut : CarriesOut bootSession bootEvents 37 110 := by
  refine ⟨[(.write 1 Usb.commReset, fun k => 4 * (10 + k)), (.read 1, fun k => 4 * (16 + k)),
    (.read 3, fun k => 4 * (21 + k))], ?_, ?_⟩
  · refine .call (by decide) (fun k h1 h2 => session_quiet (k := 9) (by omega) (by omega))
      (session_executes (p := ioInit) (q := ioRead 1 ++ ioRead 3) (by decide) rfl) ?_
    refine .call (by decide) (fun k h1 h2 => session_quiet (k := 15)
      (by simp only [IoCall.last] at h1; omega) (by omega))
      (session_executes (p := ioInit ++ ioWrite 1 Usb.commReset) (q := ioRead 3) (by decide) rfl) ?_
    refine .call (by decide) (fun k h1 h2 => session_quiet (k := 20)
      (by simp only [IoCall.last] at h1; omega) (by omega))
      (session_executes (p := ioInit ++ ioWrite 1 Usb.commReset ++ ioRead 1) (q := [])
        (by decide) rfl) ?_
    exact .done (by decide) fun k h1 h2 => session_done (by
      simp only [IoCall.last] at h1
      show 4 * 26 < k + 4
      omega)
  · have hload : (bootSession.state 75).intf.dataIn = Usb.commAck ∧
        (bootSession.state 95).intf.dataIn = Usb.commAck := by decide +kernel
    rw [bootEvents_eq]
    refine .cons (.write (by decide)) (.cons ?_ (.cons ?_ .nil))
    · rw [← hload.1]
      exact .read (k := 75) (by decide) (by decide)
    · rw [← hload.2]
      exact .read (k := 95) (by decide) (by decide)

theorem pins_carry_boot : List.Forall₂ Shows
    (spans (fun k => (bootSession.state k).access) (hostBus bootSession) 37 73)
    [.tell (.write 1 Usb.commReset), .ask 1 Usb.commAck, .ask 3 Usb.commAck] := by
  obtain ⟨o, hl⟩ := bootEvents_trace
  exact (pins_carry (session_executes (p := []) (by decide) rfl) (fun _ _ _ _ => rfl) hl
    bootSession_carriesOut _).2 bootEvents_eq.symm

end Program

end TankBattle
