import TankBattle.Usb
import TankBattle.Selector

/-!
# The software of the keyboard (`main.c`)

After a reset of the chip the software waits for a device, makes the requests of the enumeration one
by one, and then asks for the keys again and again.  Whenever something goes wrong it starts anew
(`goto USB_HOT_PLUG`); only the counter `toggle` survives that.

* `main` and its parts: the program, with every loop of the source;
* `triple_request`: a request of the enumeration is accepted, or the software starts anew;
* `triple_keyRound`, `triple_hotPlug`: what the loops keep;
* `accepts_main`: whatever the chip answers, the software does what is demanded of it;
* `hands_over`, `sends_keys`, `data_toggle`: lists and key codes in a run of the software;
* `key_slots`: which keys the game sees.
-/

namespace TankBattle.Usb

open Dialog

/-! ### The program -/

/-- A device is on the lines. -/
def present (c : BitVec 16) : Bool := c &&& (aDpStat ||| aDmStat) != 0

/-- The chip is told to execute an interrupt; `false` if it does not acknowledge. -/
def acknowledged : Driver Bool := do
  let v ← ioRead hpiMailbox
  if v = commAck then return true
  else do
    let _ ← ioRead hpiMailbox
    return false

/-- From `USB_HOT_PLUG` to the end of step 1, `false` for `goto USB_HOT_PLUG`. -/
def step1 : Driver Bool := do
  usbSoftReset
  usbWrite hpiSie1MsgAdr 0
  usbWrite host1StatReg 0xFFFF
  usbWrite husbPEOT 600
  usbWrite hpiIrqRoutingReg (sofEop1ToCpuEn ||| resume1ToHpiEn)
  usbWrite host1IrqEnReg (aChgIrqEn ||| sofEopIrqEn)
  (List.range 14).forM fun k => usbWrite (commR k) 0
  usbWrite commIntNum husbSie1InitInt
  ioWrite hpiMailbox commExecInt
  Prog.loop (fun _ => do
    let s ← ioRead hpiStatus
    if s &&& 0xFFFF = 0 then return .inl () else return .inr ()) ()
  acknowledged

/-- Step 2, `false` for `goto USB_HOT_PLUG`. -/
def step2 : Driver Bool := do
  usbWrite commIntNum husbResetInt
  usbWrite (commR 0) 0x003c
  (List.range' 1 13).forM fun k => usbWrite (commR k) 0
  ioWrite hpiMailbox commExecInt
  acknowledged

/-- At most `n` more looks at the control register, until a device is there. -/
def retryDevice : ℕ → BitVec 16 → Driver (BitVec 16)
  | 0, c => return c
  | n + 1, _ => do
    let c ← usbRead usb1CtlReg
    if present c then return c else retryDevice n c

/-- The device is looked for; if there is none, the software waits for one and then starts anew. -/
def findDevice : Driver Bool := do
  let c ← usbRead usb1CtlReg
  if present c then return true
  else do
    let c ← retryDevice 5 c
    if present c then return true
    else
      Prog.loop (fun _ => do
        let c ← usbRead usb1CtlReg
        if present c then return .inr false else return .inl ()) ()

/-- A request of the enumeration with its retries, `false` for `goto USB_HOT_PLUG`. -/
def request (f : Driver Unit) : Driver Bool := do
  f
  waitSie1msg f
  let _ ← usbWaitTDListDone
  let _ ← usbRead 0x0506
  let c ← usbRead 0x0508
  if c = 0x0003 then return true
  else do
    let _ ← usbGetRetryCnt
    return false

/-- The requests one after the other, as long as they succeed. -/
def requests : List (Driver Unit) → Driver Bool
  | [] => return true
  | f :: fs => do
    if ← request f then requests fs else return false

/-- The device info; the result is the size of a packet of data. -/
def deviceInfo : Driver (BitVec 8) := do
  let _ ← usbRead 0x056c
  ioWrite hpiAddr 0x0576
  writeData [0x073F, 0x8105, 0x0003, 0x0008, 0xAC0A]
  usbWrite husbSie1PCurrentTDPtr 0x0576
  let d ← usbRead 0x057c
  return (d &&& 0x0ff).setWidth 8

/-- Steps 3 to 9, `none` for `goto USB_HOT_PLUG`. -/
def enumerate : Driver (Option (BitVec 8)) := do
  if ← requests [usbSetAddress, usbGetDeviceDesc1, usbGetDeviceDesc2, usbGetConfigDesc1,
      usbGetConfigDesc2] then do
    let size ← deviceInfo
    if ← requests [usbSetConfig, usbClassRequest, usbGetHidDesc, usbGetReportDesc] then
      return some size
    else return none
  else return none

/-- The list for the next packet of key codes. -/
def askKeys (toggle size : BitVec 8) : Driver Unit :=
  sendList [0x051c, 0x000f &&& size.setWidth 16, 0x0291,
    if toggle % 2 ≠ 0 then 0x0001 else 0x0041, 0x0013, 0x0000]

/-- The two words of key codes in one. -/
def keycodeOf (k0 k1 : BitVec 16) : BitVec 32 := k0.setWidth 32 + k1.setWidth 32 <<< 16

/-- One round of the loop for the keys; it ends for `goto USB_HOT_PLUG`. -/
def keyRound (size toggle : BitVec 8) : Driver (BitVec 8 ⊕ BitVec 8) := do
  let toggle := toggle + 1
  askKeys toggle size
  waitSie1msg (askKeys toggle size)
  let _ ← usbWaitTDListDone
  let k0 ← usbRead 0x051e
  let k1 ← usbRead 0x0520
  .tell (.keycode (keycodeOf k0 k1))
  let c ← usbRead usb1CtlReg
  if present c then return .inl toggle
  else do
    let c ← retryDevice 7 c
    if present c then return .inl toggle
    else
      Prog.loop (fun _ => do
        let _ ← usbRead usb1CtlReg
        let _ ← usbRead usb1CtlReg
        let c ← usbRead usb1CtlReg
        if present c then return .inr (.inr toggle) else return .inl ()) ()

/-- From one `USB_HOT_PLUG` to the next. -/
def hotPlug (toggle : BitVec 8) : Driver (BitVec 8 ⊕ Empty) := do
  if ← step1 then
    if ← step2 then
      if ← findDevice then
        match ← enumerate with
        | some size => do
          let toggle ← Prog.loop (keyRound size) toggle
          return .inl toggle
        | none => return .inl toggle
      else return .inl toggle
    else return .inl toggle
  else return .inl toggle

/-- The program, after the ports were initialised. -/
def main : Driver Empty := Prog.loop hotPlug 0

/-! ### What the parts do to the session -/

section Parts

variable {P : Session → Prop} {α : Type}

/-- The mailbox, for anything but a reset. -/
theorem triple_mailbox {d : BitVec 16} (hd : d ≠ commReset) :
    Spec P (ioWrite hpiMailbox d) fun _ => P := by
  refine fun m hm => ⟨fun h => absurd h (by decide), ?_⟩
  show P (Link.step m (.tell (.write hpiMailbox d))).session
  rw [Link.step, if_neg (by decide), if_neg (by decide), if_neg fun h => hd h.2]
  exact hm

theorem triple_reset : Spec (fun s => P s.reset) (ioWrite hpiMailbox commReset) fun _ => P :=
  fun _ hm => ⟨fun h => absurd h (by decide), hm⟩

theorem triple_forM {ks : List ℕ} {f : ℕ → Driver Unit}
    (h : ∀ k ∈ ks, Spec P (f k) fun _ => P) : Spec P (ks.forM f) fun _ => P := by
  induction ks with
  | nil => exact .pure (Q := fun _ => P) ()
  | cons k ks ih =>
    exact .bind (h k List.mem_cons_self) fun _ => ih fun j hj => h j (List.mem_cons_of_mem _ hj)

/-- The registers `COMM_R0`, ... are not the list pointer. -/
theorem commR_ne {k : ℕ} (h : k < 14) : commR k ≠ husbSie1PCurrentTDPtr := by
  interval_cases k <;> decide

theorem triple_acknowledged : Spec P acknowledged fun _ => P := by
  refine .bind (triple_ioRead (by decide)) fun v => .ite (fun _ => ?_) fun _ => ?_
  · exact .pure (Q := fun _ => P) true
  · exact .bind (triple_ioRead (by decide)) fun _ => .pure (Q := fun _ => P) false

/-- The reset forgets all requests, and the reads after it bring none back. -/
theorem triple_usbSoftReset (n : ℕ) : Spec (fun s => s.sent = n) usbSoftReset
    fun _ s => s.accepted = [] ∧ s.sent = n := by
  let F : Session → Prop := fun s => s.accepted = [] ∧ s.sent = n
  have hsie1 : Spec F (usbRead hpiSie1MsgAdr) fun _ => F := triple_usbRead.pre fun s hs _ => hs
  have hsie2 : Spec F (usbRead hpiSie2MsgAdr) fun _ => F := triple_usbRead.pre fun s hs _ => hs
  refine .bind (triple_reset.pre fun s hs => show F s.reset from ⟨rfl, hs⟩) fun _ => ?_
  refine .bind (triple_ioRead (by decide)) fun _ => .bind (triple_ioRead (by decide)) fun _ => ?_
  refine .bind hsie1 fun _ => .bind (triple_usbWrite (by decide)) fun _ => ?_
  refine .bind hsie2 fun _ => .bind (triple_usbWrite (by decide)) fun _ => ?_
  exact .bind (triple_usbWrite (by decide)) fun _ => triple_usbWrite (by decide)

/-- Step 1 forgets all requests. -/
theorem triple_step1 (n : ℕ) : Spec (fun s => s.sent = n) step1
    fun _ s => s.accepted = [] ∧ s.sent = n := by
  refine .bind (triple_usbSoftReset n) fun _ => ?_
  refine .bind (triple_usbWrite (by decide)) fun _ => ?_
  refine .bind (triple_usbWrite (by decide)) fun _ => ?_
  refine .bind (triple_usbWrite (by decide)) fun _ => ?_
  refine .bind (triple_usbWrite (by decide)) fun _ => ?_
  refine .bind (triple_usbWrite (by decide)) fun _ => ?_
  refine .bind (triple_forM fun k hk => triple_usbWrite (commR_ne (List.mem_range.1 hk)))
    fun _ => ?_
  refine .bind (triple_usbWrite (by decide)) fun _ => .bind (triple_mailbox (by decide)) fun _ => ?_
  let F : Unit → Session → Prop := fun _ s => s.accepted = [] ∧ s.sent = n
  refine .bind (.loop (I := F) (fun _ => ?_) ()) fun _ => triple_acknowledged
  refine .bind (triple_ioRead (by decide)) fun v => .ite (fun _ => ?_) fun _ => ?_
  · exact .goOn (I := F) ()
  · exact .stop (Q := F) ()

theorem triple_step2 : Spec P step2 fun _ => P := by
  refine .bind (triple_usbWrite (by decide)) fun _ => ?_
  refine .bind (triple_usbWrite (by decide)) fun _ => ?_
  refine .bind (triple_forM fun k hk => triple_usbWrite (commR_ne ?_)) fun _ => ?_
  · rw [List.mem_range'] at hk
    omega
  · exact .bind (triple_mailbox (by decide)) fun _ => triple_acknowledged

/-- What is known of the device is what was seen last. -/
theorem triple_retryDevice (hP : ∀ s b, P s → P { s with device := b }) (n : ℕ) (c : BitVec 16) :
    Spec (fun s => P s ∧ s.device = present c) (retryDevice n c)
      fun c s => P s ∧ s.device = present c := by
  induction n generalizing c with
  | zero => exact .pure (Q := fun c s => P s ∧ s.device = present c) c
  | succ n ih =>
    refine .bind (R := fun c s => P s ∧ s.device = present c)
      (triple_usbRead.pre fun s hs r => ⟨hP s _ hs.1, rfl⟩) fun c =>
        .ite (fun _ => ?_) fun _ => ih c
    exact .pure (Q := fun c s => P s ∧ s.device = present c) c

theorem triple_findDevice (hP : ∀ s b, P s → P { s with device := b }) :
    Spec P findDevice fun b s => P s ∧ (b = true → s.device = true) := by
  have hread : Spec P (usbRead usb1CtlReg) fun c s => P s ∧ s.device = present c :=
    triple_usbRead.pre fun s hs r => ⟨hP s _ hs, rfl⟩
  have hfound : ∀ c, present c = true → Spec (fun s => P s ∧ s.device = present c)
      (pure true : Driver Bool) fun b s => P s ∧ (b = true → s.device = true) := fun c hc =>
    (Monitor.Triple.pure true).pre fun s hs => ⟨hs.1, fun _ => hs.2.trans hc⟩
  refine .bind hread fun c => .ite (hfound c) fun _ => ?_
  refine .bind (triple_retryDevice hP 5 c) fun c => .ite (hfound c) fun _ => ?_
  refine (Monitor.Triple.loop (I := fun _ => P) (fun _ => ?_) ()).pre fun s hs => hs.1
  refine .bind hread fun c => .ite (fun _ => ?_) fun _ => ?_
  · exact (Monitor.Triple.stop (Q := fun b s => P s ∧ (b = true → s.device = true)) false).pre
      fun s hs => ⟨hs.1, nofun⟩
  · exact (Monitor.Triple.goOn (I := fun _ => P) ()).pre fun s hs => hs.1

/-- **A request is accepted**, or the software starts anew. -/
theorem triple_request {acc : List UsbRequest} {r : UsbRequest} (hr : r.Fits)
    (hacc : acc ++ [r] <+: enumeration) (n : ℕ) :
    Spec (fun s => s.accepted = acc ∧ s.sent = n ∧ s.device = true) (request (sendList r.words))
      fun b s => s.sent = n ∧ (b = true → s.accepted = acc ++ [r] ∧ s.device = true) := by
  let A : Session → Prop := fun s =>
    s.accepted = acc ∧ s.sent = n ∧ s.device = true ∧ s.req = some r
  have hsend : ∀ {P}, (∀ s, P s → s.accepted = acc ∧ s.sent = n ∧ s.device = true) →
      Spec P (sendList r.words) fun _ => A := fun h =>
    (triple_sendList (P := A) hr).pre fun s hs => by
      obtain ⟨h1, h2, h3⟩ := h s hs
      exact ⟨h3, .inl (h1 ▸ hacc), h1, h2, h3, rfl⟩
  refine .bind (hsend fun s hs => hs) fun _ => ?_
  refine .bind (triple_waitSie1msg (hsend fun s hs => ⟨hs.1, hs.2.1, hs.2.2.1⟩)) fun _ => ?_
  refine .bind (triple_usbWaitTDListDone fun s b hs => hs) fun _ => ?_
  refine .bind (R := fun _ s => A s ∧ s.listDone = true)
    (triple_usbRead.pre fun s hs _ => hs) fun _ => ?_
  let B : BitVec 16 → Session → Prop := fun c s =>
    s.sent = n ∧ s.device = true ∧ (c = 0x0003 → s.accepted = acc ++ [r])
  have hctl : ∀ s, A s ∧ s.listDone = true → ∀ c, B c (s.answer 0x0508 c) := by
    rintro s ⟨⟨h1, h2, h3, h4⟩, h5⟩ c
    exact ⟨h2, h3, fun hc => by simp [Session.answer, hpiSie1MsgAdr, h5, hc, h1, h4]⟩
  refine .bind (R := B) (triple_usbRead.pre hctl) fun c => .ite (fun hc => ?_) fun _ => ?_
  · exact (Monitor.Triple.pure true).pre fun s hs => ⟨hs.1, fun _ => ⟨hs.2.2 hc, hs.2.1⟩⟩
  · refine .bind ((triple_usbGetRetryCnt (P := fun s => s.sent = n) fun s a r hs => ?_).pre
      fun s hs => hs.1) fun _ => (Monitor.Triple.pure false).pre fun s hs => ⟨hs, nofun⟩
    rw [Session.answer]
    split_ifs <;> exact hs

/-- The requests are accepted one after the other. -/
theorem triple_requests {l k : List UsbRequest} (hfits : ∀ r ∈ k, r.Fits)
    (hl : l ++ k <+: enumeration) (n : ℕ) :
    Spec (fun s => s.accepted = l ∧ s.sent = n ∧ s.device = true)
      (requests (k.map fun r => sendList r.words))
      fun b s => s.sent = n ∧ (b = true → s.accepted = l ++ k ∧ s.device = true) := by
  induction k generalizing l with
  | nil =>
    refine (Monitor.Triple.pure true).pre fun s hs => ⟨hs.2.1, fun _ => ⟨?_, hs.2.2⟩⟩
    rw [hs.1, List.append_nil]
  | cons r k ih =>
    have hsplit : l ++ r :: k = l ++ [r] ++ k := by simp
    rw [hsplit] at hl ⊢
    refine .bind (triple_request (hfits r List.mem_cons_self)
      ((List.prefix_append _ _).trans hl) n) fun b => .ite (fun hb => ?_) fun hb => ?_
    · exact (ih (fun r' hr' => hfits r' (List.mem_cons_of_mem _ hr')) hl).pre fun s hs =>
        ⟨(hs.2 hb).1, hs.1, (hs.2 hb).2⟩
    · exact (Monitor.Triple.pure false).pre fun s hs => ⟨hs.1, nofun⟩

/-- Words behind the list pointer. -/
theorem triple_writeData {a : BitVec 16} {ds : List (BitVec 16)}
    (ha : husbSie1PCurrentTDPtr.toNat < a.toNat) (hlen : a.toNat + 2 * ds.length ≤ 2 ^ 16) :
    Spec P (do ioWrite hpiAddr a; writeData ds) fun _ => P :=
  fun m hm => ⟨fun h => absurd h (by decide),
    wp_writeData (m := ⟨a, m.mem, m.session⟩) ha hlen fun _ => hm⟩

/-- The words that are handed over at `0x0576`. -/
theorem triple_handOver (hP : ∀ s r, P s → s.accepted = enumeration.take 5 ∧ P (s.handOver r)) :
    Spec P (usbWrite husbSie1PCurrentTDPtr 0x0576) fun _ => P :=
  fun m hm => ⟨fun h => absurd h (by decide),
    fun _ _ => .inr ⟨rfl, (hP _ none hm).1⟩, (hP _ (decode m.mem 0x0576) hm).2⟩

/-- The device info leaves the requests as they are. -/
theorem triple_deviceInfo (n : ℕ) :
    Spec (fun s => s.accepted = enumeration.take 5 ∧ s.sent = n ∧ s.device = true) deviceInfo
      fun _ s => s.accepted = enumeration.take 5 ∧ s.sent = n ∧ s.device = true := by
  let A : Session → Prop := fun s =>
    s.accepted = enumeration.take 5 ∧ s.sent = n ∧ s.device = true
  have hlast : Spec A (do
      usbWrite husbSie1PCurrentTDPtr 0x0576
      let d ← usbRead 0x057c
      return (d &&& 0x0ff).setWidth 8) fun _ => A :=
    .bind (triple_handOver fun s r hs => ⟨hs.1, hs⟩) fun _ =>
      .bind (R := fun _ => A) (triple_usbRead.pre fun s hs _ => hs) fun d =>
        .pure (Q := fun _ => A) ((d &&& 0x0ff).setWidth 8)
  have hwrite : Spec A (do
      ioWrite hpiAddr 0x0576
      writeData [0x073F, 0x8105, 0x0003, 0x0008, 0xAC0A]) fun _ => A :=
    triple_writeData (by decide) (by decide)
  exact .bind (R := fun _ => A) (triple_usbRead.pre fun s hs _ => hs) fun _ =>
    hwrite.bind fun _ => hlast

/-- **Steps 3 to 9**: all requests are accepted, or the software starts anew. -/
theorem triple_enumerate (n : ℕ) :
    Spec (fun s => s.accepted = [] ∧ s.sent = n ∧ s.device = true) enumerate
      fun o s => s.sent = n ∧ (o ≠ none → s.accepted = enumeration ∧ s.device = true) := by
  have hfirst := triple_requests (l := []) (k := enumeration.take 5)
    (fun r hr => enumeration_fits r (List.mem_of_mem_take hr)) (by decide) n
  have hsecond := triple_requests (l := enumeration.take 5) (k := enumeration.drop 5)
    (fun r hr => enumeration_fits r (List.mem_of_mem_drop hr)) (by decide) n
  rw [List.map_take, ← usb_lists] at hfirst
  rw [List.map_drop, ← usb_lists] at hsecond
  refine .bind hfirst fun b => .ite (fun hb => ?_) fun _ => ?_
  · refine .bind ((triple_deviceInfo n).pre fun s hs => ⟨(hs.2 hb).1, hs.1, (hs.2 hb).2⟩)
      fun size => ?_
    refine .bind hsecond fun b => .ite (fun hb => ?_) fun _ => ?_
    · exact (Monitor.Triple.pure (some size)).pre fun s hs => ⟨hs.1, fun _ => hs.2 hb⟩
    · exact (Monitor.Triple.pure none).pre fun s hs => ⟨hs.1, fun h => absurd rfl h⟩
  · exact (Monitor.Triple.pure none).pre fun s hs => ⟨hs.1, fun h => absurd rfl h⟩

/-! ### The loop for the keys -/

/-- All requests are accepted, a device is there, and the counter goes with the key codes sent. -/
structure Polls (toggle : BitVec 8) (s : Session) : Prop where
  accepted : s.accepted = enumeration
  device : s.device = true
  parity : toggle.toNat % 2 = s.sent % 2

/-- The list for the keys holds the request for them. -/
theorem askKeys_eq {toggle size : BitVec 8} {n : ℕ} (h : toggle.toNat % 2 = n % 2) :
    askKeys (toggle + 1) size = sendList (keyRequest (0x000f &&& size.setWidth 16) n).words := by
  have hodd : (toggle + 1) % 2 ≠ 0 ↔ n % 2 ≠ 1 := by
    rw [ne_eq, ← BitVec.toNat_inj, BitVec.toNat_umod, BitVec.toNat_add]
    show ¬ (toggle.toNat + 1) % 2 ^ 8 % 2 = 0 ↔ _
    omega
  rw [askKeys, keyRequest, UsbRequest.words, UsbRequest.first, Td.words, tdControl]
  by_cases hn : n % 2 = 1
  · rw [if_neg fun ht => hodd.1 ht hn]
    simp [hn]
  · rw [if_pos (hodd.2 hn)]
    simp [hn]

theorem parity_succ {toggle : BitVec 8} {n : ℕ} (h : toggle.toNat % 2 = n % 2) :
    (toggle + 1).toNat % 2 = (n + 1) % 2 := by
  rw [BitVec.toNat_add]
  show (toggle.toNat + 1) % 2 ^ 8 % 2 = _
  omega

theorem keyRequest_fits {len : BitVec 16} (h : len ≤ 15) (n : ℕ) : (keyRequest len n).Fits := by
  have hlen : len.toNat ≤ 15 := h
  refine ⟨by decide, ?_⟩
  show 0x051C + len.toNat ≤ 2 ^ 16
  omega

/-- The key codes are sent. -/
theorem triple_keycode {d : BitVec 32} :
    Spec (fun s => s.Keys d ∧ P { s with sent := s.sent + 1 }) (.tell (.keycode d)) fun _ => P :=
  fun _ hm => hm

/-- **One packet of key codes** is asked for, read and sent. -/
theorem triple_keyRound (size toggle : BitVec 8) : Spec (Polls toggle) (keyRound size toggle)
    fun x s => x.elim (fun t => Polls t s) (fun t => t.toNat % 2 = s.sent % 2) := by
  refine .named Session.sent fun n => ?_
  -- the request for the keys has been handed over
  let len : BitVec 16 := 0x000f &&& size.setWidth 16
  have hlen : len ≤ 15 := by
    show (0x000f &&& size.setWidth 16 : BitVec 16).toNat ≤ 15
    rw [BitVec.toNat_and]
    exact Nat.and_le_left
  let A : Session → Prop := fun s => s.accepted = enumeration ∧ s.device = true ∧ s.sent = n ∧
    s.req = some (keyRequest len n)
  by_cases hpar : toggle.toNat % 2 = n % 2
  swap
  · exact fun m hm => absurd (hm.2 ▸ hm.1.parity) hpar
  have hask : ∀ {P}, (∀ s, P s → s.accepted = enumeration ∧ s.device = true ∧ s.sent = n) →
      Spec P (askKeys (toggle + 1) size) fun _ => A := fun h => by
    rw [askKeys_eq hpar]
    refine (triple_sendList (P := A) (keyRequest_fits hlen n)).pre fun s hs => ?_
    obtain ⟨h1, h2, h3⟩ := h s hs
    exact ⟨h2, .inr ⟨h1, len, hlen, by rw [h3]⟩, h1, h2, h3, rfl⟩
  refine .bind (hask fun s hs => ⟨hs.1.accepted, hs.1.device, hs.2⟩) fun _ => ?_
  refine .bind (triple_waitSie1msg (hask fun s hs => ⟨hs.1, hs.2.1, hs.2.2.1⟩)) fun _ => ?_
  refine .bind (triple_usbWaitTDListDone fun s b hs => hs) fun _ => ?_
  -- the two words of key codes are read
  refine .bind (R := fun k0 s => (A s ∧ s.listDone = true) ∧ s.key0 = some k0)
    (triple_usbRead.pre fun s hs r =>
      ⟨hs, by simp [Session.answer, hpiSie1MsgAdr, usb1CtlReg, hs.2]⟩) fun k0 => ?_
  refine .bind (R := fun k1 s => ((A s ∧ s.listDone = true) ∧ s.key0 = some k0) ∧ s.key1 = some k1)
    (triple_usbRead.pre fun s hs r =>
      ⟨hs, by simp [Session.answer, hpiSie1MsgAdr, usb1CtlReg, hs.1.2]⟩) fun k1 => ?_
  let D : Session → Prop := fun s => s.accepted = enumeration ∧ s.sent = n + 1
  refine .bind ((triple_keycode (P := D)).pre fun s hs => ?_) fun _ => ?_
  · obtain ⟨⟨⟨⟨h1, h2, h3, h4⟩, h5⟩, h6⟩, h7⟩ := hs
    exact ⟨⟨h1, h2, ⟨len, h3 ▸ h4⟩, h5, k0, k1, h6, h7, rfl⟩, h1, by rw [h3]⟩
  -- is the device still there?
  have hread : Spec D (usbRead usb1CtlReg) fun c s => D s ∧ s.device = present c :=
    triple_usbRead.pre fun s hs r => ⟨hs, rfl⟩
  have hpolls : ∀ c s, present c = true → D s ∧ s.device = present c → Polls (toggle + 1) s :=
    fun c s hc hs => ⟨hs.1.1, hs.2.trans hc, by rw [hs.1.2]; exact parity_succ hpar⟩
  refine .bind hread fun c => .ite (fun hc => ?_) fun _ => ?_
  · exact (Monitor.Triple.goOn (I := Polls) (toggle + 1)).pre fun s hs => hpolls c s hc hs
  refine .bind (triple_retryDevice (P := D) (fun s b hs => hs) 7 c) fun c =>
    .ite (fun hc => ?_) fun _ => ?_
  · exact (Monitor.Triple.goOn (I := Polls) (toggle + 1)).pre fun s hs => hpolls c s hc hs
  refine (Monitor.Triple.loop (I := fun _ => D) (fun _ => ?_) ()).pre fun s hs => hs.1
  refine .bind hread fun _ => .bind (hread.pre fun s hs => hs.1) fun _ => ?_
  refine .bind (hread.pre fun s hs => hs.1) fun c => .ite (fun _ => ?_) fun _ => ?_
  · refine (Monitor.Triple.pure _).pre fun s hs => ?_
    show (toggle + 1).toNat % 2 = s.sent % 2
    rw [hs.1.2]
    exact parity_succ hpar
  · exact (Monitor.Triple.goOn (I := fun _ => D) ()).pre fun s hs => hs.1

/-- **From one hot plug to the next** the counter keeps going with the key codes sent. -/
theorem triple_hotPlug (toggle : BitVec 8) :
    Spec (fun s => toggle.toNat % 2 = s.sent % 2) (hotPlug toggle)
      fun x s => x.elim (fun t => t.toNat % 2 = s.sent % 2) (fun _ => False) := by
  refine .named Session.sent fun n => ?_
  by_cases hpar : toggle.toNat % 2 = n % 2
  swap
  · exact fun m hm => absurd (hm.2 ▸ hm.1) hpar
  have hagain : ∀ {P : Session → Prop}, (∀ s, P s → s.sent = n) →
      Spec P (pure (.inl toggle) : Driver (BitVec 8 ⊕ Empty))
        fun x s => x.elim (fun t => t.toNat % 2 = s.sent % 2) (fun _ => False) := fun h =>
    (Monitor.Triple.pure _).pre fun s hs => by rw [← h s hs] at hpar; exact hpar
  let F : Session → Prop := fun s => s.accepted = [] ∧ s.sent = n
  refine .bind ((triple_step1 n).pre fun s hs => hs.2) fun b => .ite (fun _ => ?_)
    fun _ => hagain fun s hs => hs.2
  refine .bind triple_step2 fun b => .ite (fun _ => ?_) fun _ => hagain fun s hs => hs.2
  refine .bind (triple_findDevice (P := F) fun s b hs => hs) fun b => .ite (fun hb => ?_)
    fun _ => hagain fun s hs => hs.1.2
  refine .bind ((triple_enumerate n).pre fun s hs => ⟨hs.1.1, hs.1.2, hs.2 hb⟩) fun o => ?_
  cases o with
  | none => exact hagain fun s hs => hs.1
  | some size =>
    refine .bind ((Monitor.Triple.loop (I := Polls) (triple_keyRound size) toggle).pre
      fun s hs => ?_) fun t =>
        .goOn (I := fun t (s : Session) => t.toNat % 2 = s.sent % 2) t
    obtain ⟨hacc, hdev⟩ := hs.2 (Option.some_ne_none size)
    exact ⟨hacc, hdev, by rw [hs.1]; exact hpar⟩

theorem triple_main : Spec (fun s => s.sent % 2 = 0) main fun _ _ => True := by
  refine ((Monitor.Triple.loop triple_hotPlug 0).pre fun s hs => ?_).mono (fun _ => id)
    fun _ _ _ => trivial
  rw [hs]
  rfl

end Parts

/-! ### Runs of the software -/

section Runs

variable {l : List (Event HpiCommand (BitVec 8) (BitVec 16))} {o : Option Empty} {m : Link}

/-- **Whatever the chip answers**, the software does what is demanded of it. -/
theorem accepts_main (hm : m.session.sent = 0) (h : main.Trace l o) : link.Accepts m l := by
  have hwp : link.wp main (fun _ _ => True) m :=
    triple_main m (show m.session.sent % 2 = 0 by rw [hm])
  exact (Monitor.wp_sound hwp h (Monitor.allowed_of_forall (fun _ _ _ => trivial) m l)).1

/-- The key codes that were sent. -/
def keycodes (l : List (Event HpiCommand (BitVec 8) (BitVec 16))) : List (BitVec 32) :=
  l.filterMap fun
    | .tell (.keycode d) => some d
    | _ => none

/-- `sent` counts the key codes. -/
theorem sent_after (m : Link) (l : List (Event HpiCommand (BitVec 8) (BitVec 16))) :
    (link.after m l).session.sent = m.session.sent + (keycodes l).length := by
  induction l generalizing m with
  | nil => rfl
  | cons e l ih =>
    have hstep : (link.step m e).session.sent = m.session.sent + (keycodes [e]).length := by
      rcases e with (⟨a, d⟩ | d) | ⟨a, r⟩
      · show (Link.step m _).session.sent = m.session.sent
        rw [Link.step]
        split_ifs
        · rfl
        · rw [Link.put]
          split_ifs <;> rfl
        · rfl
        · rfl
      · rfl
      · show (Link.step m _).session.sent = m.session.sent
        rw [Link.step]
        split_ifs
        · show (m.session.answer m.ptr r).sent = _
          rw [Session.answer]
          split_ifs <;> rfl
        · rfl
    rw [Monitor.after_cons, ih, hstep, Nat.add_assoc, ← List.length_append, keycodes, keycodes,
      ← List.filterMap_append]
    rfl

end Runs

/-! ### The key codes as the game sees them -/

theorem keycodeOf_eq (k0 k1 : BitVec 16) : keycodeOf k0 k1 = k1 ++ k0 := by
  apply BitVec.eq_of_toNat_eq
  have h0 := k0.isLt
  have h1 := k1.isLt
  rw [keycodeOf, BitVec.toNat_add, BitVec.toNat_shiftLeft, BitVec.toNat_append,
    BitVec.toNat_setWidth, BitVec.toNat_setWidth, Nat.shiftLeft_eq,
    ← Nat.shiftLeft_add_eq_or_of_lt h0, Nat.shiftLeft_eq]
  omega

/-- The bytes of the key codes are the bytes of the words that were read. -/
theorem keyByte_keycodeOf (k0 k1 : BitVec 16) :
    keyByte (keycodeOf k0 k1) 0 = k0.setWidth 8 ∧
      keyByte (keycodeOf k0 k1) 1 = (k0 >>> 8).setWidth 8 ∧
      keyByte (keycodeOf k0 k1) 2 = k1.setWidth 8 ∧
      keyByte (keycodeOf k0 k1) 3 = (k1 >>> 8).setWidth 8 := by
  rw [keycodeOf_eq]
  refine ⟨?_, ?_, ?_, ?_⟩ <;> ext i hi <;>
    simp only [keyByte, BitVec.getElem_extractLsb', BitVec.getLsbD_append, BitVec.getElem_setWidth,
      BitVec.getLsbD_ushiftRight]
  · rw [if_pos (by omega), Nat.mul_zero, Nat.zero_add]
  · rw [if_pos (by omega)]
  · rw [if_neg (by omega)]
    congr 1
    omega
  · rw [if_neg (by omega)]
    congr 1
    omega

/-- The keys that are down are the bytes of the words that were read. -/
theorem keyOn_keycodeOf (k0 k1 : BitVec 16) (c : BitVec 8) : keyOn (keycodeOf k0 k1) c = true ↔
    c ∈ [k0.setWidth 8, (k0 >>> 8).setWidth 8, k1.setWidth 8, (k1 >>> 8).setWidth 8] := by
  obtain ⟨b0, b1, b2, b3⟩ := keyByte_keycodeOf k0 k1
  simp only [keyOn, b0, b1, b2, b3, Bool.or_eq_true, beq_iff_eq, List.mem_cons, List.not_mem_nil,
    or_false]
  constructor
  · rintro (((h | h) | h) | h) <;> simp [h]
  · rintro (h | h | h | h) <;> simp [h]

/-! ### A run with a keyboard -/

/-- A chip, given by its address register, that does at once what it is told. -/
def chipTake (p : BitVec 16) : HpiCommand → BitVec 16
  | .write a d => if a = hpiAddr then d else if a = hpiData then p + 2 else p
  | .keycode _ => p

/-- Its answers, with a keyboard on which `W` is pressed. -/
def chipAnswer (p : BitVec 16) (a : BitVec 8) : BitVec 16 × BitVec 16 :=
  if a = hpiData then
    (if p = hpiSie1MsgAdr then husbTDListDone else if p = 0x0508 then 0x0003
      else if p = usb1CtlReg then aDpStat else if p = 0x051e then 0x001a else 0, p + 2)
  else (if a = hpiStatus then hpiStatusSie1msgFlag else commAck, p)

/-- The events with this chip, up to three rounds of each loop. -/
def benchEvents : List (Event HpiCommand (BitVec 8) (BitVec 16)) :=
  (main.exec 3 chipTake chipAnswer 0).1

/-- Power is switched on. -/
def powerOn : Link := ⟨0, fun _ => none, ⟨none, false, [], false, none, none, 0⟩⟩

theorem benchEvents_trace {k : ℕ} {e : Event HpiCommand (BitVec 8) (BitVec 16)}
    (h : benchEvents[k]? = some e) :
    main.Trace (benchEvents.take k ++ e :: benchEvents.drop (k + 1))
      (main.exec 3 chipTake chipAnswer 0).2.2 := by
  obtain ⟨hk, rfl⟩ := List.getElem?_eq_some_iff.1 h
  rw [← List.drop_eq_getElem_cons hk, List.take_append_drop]
  exact Prog.exec_trace 3 chipTake chipAnswer main 0

section Demands

variable {l l' : List (Event HpiCommand (BitVec 8) (BitVec 16))} {o : Option Empty} {m : Link}

/-- **What is handed over**: in every run, with any answers, a list that the chip is told of is at
`0x0500`, for a device that was there when last looked for, and the memory holds there the next
request of the enumeration or the one for the keys.  What is told at `0x0576` comes after the fifth
request. -/
theorem hands_over (hm : m.session.sent = 0) {d : BitVec 16}
    (h : main.Trace (l ++ .tell (.write hpiData d) :: l') o)
    (hptr : (link.after m l).ptr = husbSie1PCurrentTDPtr) : (link.after m l).HandOver d :=
  (accepts_main hm h).ok rfl hptr

theorem hands_over_bench : (link.after powerOn (benchEvents.take 110)).HandOver 0x0500 :=
  hands_over rfl (benchEvents_trace (by decide +kernel)) (by decide +kernel)

/-- **What is sent as key codes**: in every run, with any answers, they are what the chip has read
from the keyboard after it was asked for them, all requests of the enumeration have been carried out
since the last reset, and a device was there when last looked for. -/
theorem sends_keys (hm : m.session.sent = 0) {d : BitVec 32}
    (h : main.Trace (l ++ .tell (.keycode d) :: l') o) : (link.after m l).session.Keys d :=
  (accepts_main hm h).ok

theorem sends_keys_bench : (link.after powerOn (benchEvents.take 494)).session.Keys 0x0000001a :=
  sends_keys rfl (benchEvents_trace (by decide +kernel))

/-- **Which keys the game sees**: those in the first four places of the report that the keyboard
gave; the menus see the first one only. -/
theorem key_slots (hm : m.session.sent = 0) {d : BitVec 32}
    (h : main.Trace (l ++ .tell (.keycode d) :: l') o) :
    ∃ k0 k1, (link.after m l).session.key0 = some k0 ∧ (link.after m l).session.key1 = some k1 ∧
      lowKey d = k0.setWidth 8 ∧ ∀ c, keyOn d c = true ↔
        c ∈ [k0.setWidth 8, (k0 >>> 8).setWidth 8, k1.setWidth 8, (k1 >>> 8).setWidth 8] := by
  obtain ⟨-, -, -, -, k0, k1, h0, h1, hd⟩ : (link.after m l).session.Keys d :=
    (accepts_main hm h).ok
  obtain rfl : d = keycodeOf k0 k1 := hd
  exact ⟨k0, k1, h0, h1, (keyByte_keycodeOf k0 k1).1, keyOn_keycodeOf k0 k1⟩

theorem key_slots_bench : ∃ k0 k1,
    (link.after powerOn (benchEvents.take 494)).session.key0 = some k0 ∧
      (link.after powerOn (benchEvents.take 494)).session.key1 = some k1 ∧
      lowKey 0x0000001a = k0.setWidth 8 ∧ ∀ c, keyOn 0x0000001a c = true ↔
        c ∈ [k0.setWidth 8, (k0 >>> 8).setWidth 8, k1.setWidth 8, (k1 >>> 8).setWidth 8] :=
  key_slots rfl (benchEvents_trace (by decide +kernel))

/-- **The data toggle** of a request for the keys is the parity of the key codes sent since power
was switched on: hot plugs and retries leave it alone. -/
theorem data_toggle (hm : m.session.sent = 0) {dev : BitVec 8} {endpoint : BitVec 4}
    {buf len : BitVec 16} {data1 : Bool}
    (h : main.Trace (l ++ .tell (.write hpiData 0x0500) :: l') o)
    (hptr : (link.after m l).ptr = husbSie1PCurrentTDPtr)
    (hdec : decode (link.after m l).mem 0x0500 = some (.poll dev endpoint buf len data1)) :
    data1 = decide ((keycodes l).length % 2 = 1) := by
  obtain ⟨-, -, r, hr, -, hnext⟩ | ⟨h', -⟩ : (link.after m l).HandOver 0x0500 :=
    (accepts_main hm h).ok rfl hptr
  · obtain rfl := Option.some.inj (hr.symm.trans hdec)
    rcases hnext with hpre | ⟨-, len', -, hkey⟩
    · have hmem := hpre.subset (List.mem_append_right _ List.mem_cons_self)
      simp [enumeration, setAddress, deviceDesc1, deviceDesc2, configDesc1, configDesc2, setConfig,
        classRequest, hidDesc, reportDesc] at hmem
    · rw [sent_after, hm, Nat.zero_add] at hkey
      injection hkey
  · exact absurd h' (by decide)

theorem data_toggle_bench : true = decide ((keycodes (benchEvents.take 505)).length % 2 = 1) :=
  data_toggle rfl (benchEvents_trace (by decide +kernel)) (by decide +kernel)
    (show decode (link.after powerOn (benchEvents.take 505)).mem 0x0500 =
      some (.poll 2 1 0x051C 0 true) by decide +kernel)

end Demands

end TankBattle.Usb
