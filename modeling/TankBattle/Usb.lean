import TankBattle.Dialog
import TankBattle.TdList

/-!
# The driver of the USB chip (`usb.c`)

The software writes to the four registers of the chip and reads them.  A value written to the
address register is the address of the next access to the data register, which moves it on by one
word.

* `HpiCommand`, `Driver`: what the software sends, and programs that do;
* `usbWrite`, ..., `usbGetRetryCnt`: the functions of `usb.c`;
* `Session`, `Link`, `link`: what has happened since the last reset, the memory as the software has
  written it, and what is demanded of the software;
* `setAddress`, ..., `reportDesc`: the requests of the enumeration;
* `triple_sendList`: a list of descriptors that holds a request hands this request over.
-/

namespace TankBattle.Usb

open Dialog

/-- What the software sends: a value for a register of the chip, or one for the key codes. -/
inductive HpiCommand
  | write (a : BitVec 8) (d : BitVec 16)
  | keycode (d : BitVec 32)
  deriving DecidableEq

/-- Programs that write to the registers of the chip and read them. -/
abbrev Driver := Prog HpiCommand (BitVec 8) (BitVec 16)

/-! ### Registers and values (`usb.h`, `cy7c67200.h`, `lcp_cmd.h`, `lcp_data.h`) -/

def hpiData : BitVec 8 := 0
def hpiMailbox : BitVec 8 := 1
def hpiAddr : BitVec 8 := 2
def hpiStatus : BitVec 8 := 3
def hpiIrqRoutingReg : BitVec 16 := 0x0142
def hpiSie1MsgAdr : BitVec 16 := 0x0144
def hpiSie2MsgAdr : BitVec 16 := 0x0148
def host1StatReg : BitVec 16 := 0xC090
def host2StatReg : BitVec 16 := 0xC0B0
def host1IrqEnReg : BitVec 16 := 0xC08C
def usb1CtlReg : BitVec 16 := 0xC08A
def husbSie1PCurrentTDPtr : BitVec 16 := 0x01B0
def husbPEOT : BitVec 16 := 0x01B4
def commIntNum : BitVec 16 := 0x01C2
def commReset : BitVec 16 := 0xFA50
def commExecInt : BitVec 16 := 0xCE01
def commAck : BitVec 16 := 0x0FED
def husbTDListDone : BitVec 16 := 0x1000
def husbSie1InitInt : BitVec 16 := 0x0072
def husbResetInt : BitVec 16 := 0x0074
def hpiStatusSie1msgFlag : BitVec 16 := 0x0010
def sofEop1ToCpuEn : BitVec 16 := 0x0400
def resume1ToHpiEn : BitVec 16 := 0x0040
def aChgIrqEn : BitVec 16 := 0x0010
def sofEopIrqEn : BitVec 16 := 0x0200
def aDpStat : BitVec 16 := 0x2000
def aDmStat : BitVec 16 := 0x1000

/-- `COMM_R0`, ..., `COMM_R13`. -/
def commR (k : ℕ) : BitVec 16 := 0x01C4 + BitVec.ofNat 16 (2 * k)

/-! ### The functions of `usb.c` -/

def ioWrite (a : BitVec 8) (d : BitVec 16) : Driver Unit := .tell (.write a d)

def ioRead (a : BitVec 8) : Driver (BitVec 16) := .ask a

def usbWrite (a d : BitVec 16) : Driver Unit := do
  ioWrite hpiAddr a
  ioWrite hpiData d

def usbRead (a : BitVec 16) : Driver (BitVec 16) := do
  ioWrite hpiAddr a
  ioRead hpiData

def usbSoftReset : Driver Unit := do
  ioWrite hpiMailbox commReset
  let _ ← ioRead hpiMailbox
  let _ ← ioRead hpiStatus
  let _ ← usbRead hpiSie1MsgAdr
  usbWrite hpiSie1MsgAdr 0
  let _ ← usbRead hpiSie2MsgAdr
  usbWrite hpiSie2MsgAdr 0
  usbWrite host1StatReg 0xFFFF
  usbWrite host2StatReg 0xFFFF

/-- Writes of consecutive words through the data register. -/
def writeData : List (BitVec 16) → Driver Unit
  | [] => pure ()
  | d :: ds => do
    ioWrite hpiData d
    writeData ds

/-- Descriptors are written from `0x0500` on, and the chip is told so. -/
def sendList (ds : List (BitVec 16)) : Driver Unit := do
  ioWrite hpiAddr 0x0500
  writeData ds
  usbWrite husbSie1PCurrentTDPtr 0x0500

def usbSetAddress : Driver Unit :=
  sendList [
    -- TD #1
    0x050C, 0x0008, 0x00D0, 0x0001, 0x0013, 0x0514,
    -- TD #2
    0x0500, 0x0002, 0x0000, 0x0000,
    -- TD #3
    0x0000, 0x0000, 0x0090, 0x0041, 0x0013, 0x0000]

def usbGetDeviceDesc1 : Driver Unit :=
  sendList [
    0x050C, 0x0008, 0x02D0, 0x0001, 0x0013, 0x0514,
    0x0680, 0x0100, 0x0000, 0x0008,
    -- data phase IN
    0x052C, 0x0008, 0x0290, 0x0041, 0x0013, 0x0520,
    -- status phase
    0x0000, 0x0000, 0x0210, 0x0041, 0x0013, 0x0000]

def usbGetDeviceDesc2 : Driver Unit :=
  sendList [
    0x050C, 0x0008, 0x02D0, 0x0001, 0x0013, 0x0514,
    0x0680, 0x0100, 0x0000, 0x0012,
    -- data phase IN-1, IN-2, IN-3
    0x0544, 0x0008, 0x0290, 0x0041, 0x0013, 0x0520,
    0x054c, 0x0008, 0x0290, 0x0001, 0x0013, 0x052c,
    0x0554, 0x0002, 0x0290, 0x0041, 0x0013, 0x0538,
    -- status phase
    0x0000, 0x0000, 0x0210, 0x0041, 0x0013, 0x0000]

def usbGetConfigDesc1 : Driver Unit :=
  sendList [
    0x050C, 0x0008, 0x02D0, 0x0001, 0x0013, 0x0514,
    0x0680, 0x0200, 0x0000, 0x0009,
    -- data phase IN-1, IN-2
    0x0544, 0x0008, 0x0290, 0x0041, 0x0013, 0x0520,
    0x054c, 0x0001, 0x0290, 0x0001, 0x0013, 0x052c,
    -- status phase
    0x0000, 0x0000, 0x0210, 0x0041, 0x0013, 0x0000]

def usbGetConfigDesc2 : Driver Unit :=
  sendList [
    0x050C, 0x0008, 0x02D0, 0x0001, 0x0013, 0x0514,
    0x0680, 0x0200, 0x0000, 0x00FF,
    -- data phase IN-1, ..., IN-5
    0x055c, 0x0008, 0x0290, 0x0041, 0x0013, 0x0520,
    0x0564, 0x0008, 0x0290, 0x0001, 0x0013, 0x052c,
    0x056c, 0x0008, 0x0290, 0x0041, 0x0013, 0x0538,
    0x0574, 0x0008, 0x0290, 0x0001, 0x0013, 0x0544,
    0x057c, 0x0002, 0x0290, 0x0041, 0x0013, 0x0550,
    -- status phase
    0x0000, 0x0000, 0x0210, 0x0041, 0x0013, 0x0000]

def usbSetConfig : Driver Unit :=
  sendList [
    0x050C, 0x0008, 0x02D0, 0x0001, 0x0013, 0x0514,
    0x0900, 0x0001, 0x0000, 0x0000,
    -- in packet
    0x0000, 0x0000, 0x0290, 0x0041, 0x0013, 0x0000]

def usbClassRequest : Driver Unit :=
  sendList [
    0x050C, 0x0008, 0x02D0, 0x0001, 0x0013, 0x0514,
    0x0A21, 0x0000, 0x0000, 0x0000,
    -- in packet
    0x0000, 0x0000, 0x0290, 0x0041, 0x0013, 0x0000]

def usbGetHidDesc : Driver Unit :=
  sendList [
    0x050C, 0x0008, 0x02D0, 0x0001, 0x0013, 0x0514,
    0x0681, 0x2100, 0x0000, 0x007B,
    -- data phase IN-1
    0x0544, 0x0008, 0x0290, 0x0041, 0x0013, 0x0520,
    -- status phase
    0x0000, 0x0000, 0x0210, 0x0041, 0x0013, 0x0000]

def usbGetReportDesc : Driver Unit :=
  sendList [
    0x050C, 0x0008, 0x02D0, 0x0001, 0x0013, 0x0514,
    0x0681, 0x2200, 0x0000, 0x007B,
    -- data phase IN-1, ..., IN-8
    0x0580, 0x0008, 0x0290, 0x0041, 0x0013, 0x0520,
    0x0588, 0x0008, 0x0290, 0x0001, 0x0013, 0x052c,
    0x0590, 0x0008, 0x0290, 0x0041, 0x0013, 0x0538,
    0x0598, 0x0008, 0x0290, 0x0001, 0x0013, 0x0544,
    0x05a0, 0x0008, 0x0290, 0x0041, 0x0013, 0x0550,
    0x05a8, 0x0008, 0x0290, 0x0001, 0x0013, 0x055c,
    0x05b0, 0x0008, 0x0290, 0x0041, 0x0013, 0x0568,
    0x05b8, 0x0003, 0x0290, 0x0001, 0x0013, 0x0574,
    -- status phase
    0x0000, 0x0000, 0x0210, 0x0041, 0x0013, 0x0000]

/-- The message register is read and cleared until it shows that a list is done. -/
def usbWaitTDListDone : Driver (BitVec 16) := do
  let v ← usbRead hpiSie1MsgAdr
  usbWrite hpiSie1MsgAdr 0
  Prog.loop (fun v =>
    if v = husbTDListDone then return .inr v
    else do
      let v ← usbRead hpiSie1MsgAdr
      usbWrite hpiSie1MsgAdr 0
      return .inl v) v

/-- The status register is read until it shows a message; `idle` is done after each other read. -/
def waitSie1msg (idle : Driver Unit) : Driver Unit :=
  Prog.loop (fun _ => do
    let s ← ioRead hpiStatus
    if s &&& hpiStatusSie1msgFlag = 0 then do
      idle
      return .inl ()
    else return .inr ()) ()

def usbGetRetryCnt : Driver (BitVec 16) := do
  let _ ← ioRead hpiStatus
  let v ← usbRead hpiSie1MsgAdr
  if v = husbTDListDone then do
    usbWrite hpiSie1MsgAdr 0
    waitSie1msg (pure ())
  ioWrite hpiAddr 0x0508
  ioRead hpiData

/-! ### What the software and the chip have done -/

/-- What has happened since the last reset: the request that was handed over last, whether the chip
has done it, the requests that were carried out without an error, whether a device was there when
the control register was last read, and the key codes that were read since the last request was
done.  `sent` counts the key codes sent to the hardware since power was switched on. -/
structure Session where
  req : Option UsbRequest
  listDone : Bool
  accepted : List UsbRequest
  device : Bool
  key0 : Option (BitVec 16)
  key1 : Option (BitVec 16)
  sent : ℕ

namespace Session

/-- The reset of the chip. -/
def reset (s : Session) : Session := ⟨none, false, [], false, none, none, s.sent⟩

/-- A list of descriptors is handed over. -/
def handOver (s : Session) (r : Option UsbRequest) : Session :=
  { s with req := r, listDone := false, key0 := none, key1 := none }

/-- An answer of the chip to a read of address `a`. -/
def answer (s : Session) (a r : BitVec 16) : Session :=
  if a = hpiSie1MsgAdr then { s with listDone := s.listDone || r == husbTDListDone }
  else if a = 0x0508 then
    { s with accepted := if s.listDone && r == 0x0003 then s.accepted ++ s.req.toList
      else s.accepted }
  else if a = usb1CtlReg then { s with device := r &&& (aDpStat ||| aDmStat) != 0 }
  else if a = 0x051e then { s with key0 := if s.listDone then some r else none }
  else if a = 0x0520 then { s with key1 := if s.listDone then some r else none }
  else s

end Session

/-- The address register, the memory as the software has written it since it last read anything, and
the session. -/
structure Link where
  ptr : BitVec 16
  mem : Image
  session : Session

namespace Link

/-- A word is written at the address of the address register. -/
def put (m : Link) (d : BitVec 16) : Link where
  ptr := m.ptr + 2
  mem := Function.update m.mem m.ptr (some d)
  session :=
    if m.ptr = husbSie1PCurrentTDPtr then m.session.handOver (decode m.mem d) else m.session

/-- What follows from an event.  After a read the memory may be what the chip has made of it. -/
def step (m : Link) : Event HpiCommand (BitVec 8) (BitVec 16) → Link
  | .tell (.write a d) =>
    if a = hpiAddr then { m with ptr := d }
    else if a = hpiData then m.put d
    else if a = hpiMailbox ∧ d = commReset then { m with session := m.session.reset }
    else m
  | .tell (.keycode _) => { m with session := { m.session with sent := m.session.sent + 1 } }
  | .ask a r =>
    if a = hpiData then ⟨m.ptr + 2, fun _ => none, m.session.answer m.ptr r⟩
    else { m with mem := fun _ => none }

end Link

/-! ### Requests of the enumeration -/

def setAddress : UsbRequest := .control 0 ⟨0x0500, 0x0002, 0, 0⟩ 0 0
def deviceDesc1 : UsbRequest := .control 2 ⟨0x0680, 0x0100, 0, 0x0008⟩ 8 0x052C
def deviceDesc2 : UsbRequest := .control 2 ⟨0x0680, 0x0100, 0, 0x0012⟩ 18 0x0544
def configDesc1 : UsbRequest := .control 2 ⟨0x0680, 0x0200, 0, 0x0009⟩ 9 0x0544
def configDesc2 : UsbRequest := .control 2 ⟨0x0680, 0x0200, 0, 0x00FF⟩ 34 0x055C
def setConfig : UsbRequest := .control 2 ⟨0x0900, 0x0001, 0, 0⟩ 0 0
def classRequest : UsbRequest := .control 2 ⟨0x0A21, 0, 0, 0⟩ 0 0
def hidDesc : UsbRequest := .control 2 ⟨0x0681, 0x2100, 0, 0x007B⟩ 8 0x0544
def reportDesc : UsbRequest := .control 2 ⟨0x0681, 0x2200, 0, 0x007B⟩ 59 0x0580

/-- The requests before the keys are read. -/
def enumeration : List UsbRequest :=
  [setAddress, deviceDesc1, deviceDesc2, configDesc1, configDesc2, setConfig, classRequest, hidDesc,
    reportDesc]

/-- The request for the keys: a packet of endpoint 1, with `DATA0` and `DATA1` in turn. -/
def keyRequest (len : BitVec 16) (sent : ℕ) : UsbRequest :=
  .poll 2 1 0x051C len (sent % 2 = 1)

/-- The lists of the source hold these requests. -/
theorem usb_lists : [usbSetAddress, usbGetDeviceDesc1, usbGetDeviceDesc2, usbGetConfigDesc1,
    usbGetConfigDesc2, usbSetConfig, usbClassRequest, usbGetHidDesc, usbGetReportDesc] =
      enumeration.map fun r => sendList r.words := rfl

theorem enumeration_fits : ∀ r ∈ enumeration, r.Fits := by decide

/-! ### What is demanded of the software -/

/-- The request is the next one of the enumeration or, after it, one for the keys. -/
def Session.Next (s : Session) (r : UsbRequest) : Prop :=
  s.accepted ++ [r] <+: enumeration ∨
    s.accepted = enumeration ∧ ∃ len, len ≤ 15 ∧ r = keyRequest len s.sent

/-- The key codes that are sent are those that the chip has answered to the request for them, after
all requests of the enumeration were carried out, and a device was there when last looked for. -/
def Session.Keys (s : Session) (d : BitVec 32) : Prop :=
  s.accepted = enumeration ∧ s.device = true ∧ (∃ len, s.req = some (keyRequest len s.sent)) ∧
    s.listDone = true ∧ ∃ k0 k1, s.key0 = some k0 ∧ s.key1 = some k1 ∧
      d = k0.setWidth 32 + k1.setWidth 32 <<< 16

namespace Link

/-- A list is handed over at `0x0500` only, for a device that is there, and holds the next request;
one word sequence that is no list is handed over at `0x0576`, before the configuration is set. -/
def HandOver (m : Link) (d : BitVec 16) : Prop :=
  d = 0x0500 ∧ m.session.device = true ∧
      (∃ r : UsbRequest, decode m.mem d = some r ∧ r.Fits ∧ m.session.Next r) ∨
    d = 0x0576 ∧ m.session.accepted = enumeration.take 5

/-- What is demanded of an event. -/
def Ok (m : Link) : Event HpiCommand (BitVec 8) (BitVec 16) → Prop
  | .tell (.write a d) => a = hpiData → m.ptr = husbSie1PCurrentTDPtr → m.HandOver d
  | .tell (.keycode d) => m.session.Keys d
  | .ask _ _ => True

end Link

/-- The monitor of the link; the chip may answer anything. -/
def link : Monitor HpiCommand (BitVec 8) (BitVec 16) Link := ⟨Link.step, Link.Ok, fun _ _ _ => True⟩

/-- What a program does to the session. -/
abbrev Spec {α : Type} (P : Session → Prop) (p : Driver α) (Q : α → Session → Prop) : Prop :=
  link.Triple Link.session P p Q

section Triples

variable {P : Session → Prop} {Q : BitVec 16 → Session → Prop} {a d : BitVec 16}

/-- A register that is no list pointer. -/
theorem triple_usbWrite (ha : a ≠ husbSie1PCurrentTDPtr) : Spec P (usbWrite a d) fun _ => P := by
  intro m hm
  refine ⟨fun h => absurd h (by decide), fun _ h => absurd h ha, ?_⟩
  show P (Link.put ⟨a, m.mem, m.session⟩ d).session
  rw [Link.put, if_neg ha]
  exact hm

theorem triple_usbRead : Spec (fun s => ∀ r, Q r (s.answer a r)) (usbRead a) Q :=
  fun _ hm => ⟨fun h => absurd h (by decide), fun r _ => ⟨trivial, hm r⟩⟩

theorem triple_ioRead {b : BitVec 8} (hb : b ≠ hpiData) : Spec P (ioRead b) fun _ => P := by
  refine fun m hm r _ => ⟨trivial, ?_⟩
  show P (Link.step m (.ask b r)).session
  rw [Link.step, if_neg hb]
  exact hm

/-- The words of a list behind the list pointer. -/
theorem wp_writeData {ds : List (BitVec 16)} {m : Link} {T : Unit → Link → Prop}
    (hptr : husbSie1PCurrentTDPtr.toNat < m.ptr.toNat) (hlen : m.ptr.toNat + 2 * ds.length ≤ 2 ^ 16)
    (hT : ∀ a, T () ⟨a, m.mem.store m.ptr ds, m.session⟩) : link.wp (writeData ds) T m := by
  induction ds generalizing m with
  | nil => exact hT m.ptr
  | cons d ds ih =>
    rw [List.length_cons] at hlen
    have hne : m.ptr ≠ husbSie1PCurrentTDPtr := fun h => by rw [h] at hptr; omega
    refine ⟨fun _ h => absurd h hne, ?_⟩
    show link.wp (writeData ds) T (m.put d)
    have hput : m.put d = ⟨m.ptr + 2, Function.update m.mem m.ptr (some d), m.session⟩ := by
      rw [Link.put, if_neg hne]
    rw [hput]
    rcases ds with _ | ⟨e, ds⟩
    · exact hT _
    · rw [List.length_cons] at hlen
      have h2 : (m.ptr + 2).toNat = m.ptr.toNat + 2 := by
        rw [BitVec.toNat_add]
        exact Nat.mod_eq_of_lt (by simp; omega)
      exact ih (by simp only [h2]; omega) (by simp only [h2, List.length_cons]; omega) hT

/-- **A list hands over the request that it holds**, whatever was in the memory. -/
theorem triple_sendList {r : UsbRequest} (hr : r.Fits) :
    Spec (fun s => s.device = true ∧ s.Next r ∧ P (s.handOver (some r))) (sendList r.words)
      fun _ => P := by
  rintro m ⟨hdev, hnext, hP⟩
  refine ⟨fun h => absurd h (by decide), ?_⟩
  refine wp_writeData (m := ⟨0x0500, m.mem, m.session⟩) 
    (show 0x01B0 < 0x0500 by decide) (length_words hr) fun a => ?_
  have hdec := decode_store hr m.mem
  refine ⟨fun h => absurd h (by decide), ?_, ?_⟩
  · exact fun _ _ => .inl ⟨rfl, hdev, r, hdec, hr, hnext⟩
  · show P (m.session.handOver (decode (m.mem.store 0x0500 r.words) 0x0500))
    rw [hdec]
    exact hP

/-- Reading the message register. -/
theorem answer_msg (s : Session) (r : BitVec 16) : s.answer hpiSie1MsgAdr r =
    { s with listDone := s.listDone || r == husbTDListDone } := if_pos rfl

/-- **The wait ends when a list is done.** -/
theorem triple_usbWaitTDListDone (hP : ∀ s b, P s → P { s with listDone := b }) :
    Spec P usbWaitTDListDone fun _ s => P s ∧ s.listDone = true := by
  have hmsg : hpiSie1MsgAdr ≠ husbSie1PCurrentTDPtr := by decide
  -- a message that says so has been read
  let I : BitVec 16 → Session → Prop := fun v s => P s ∧ (v = husbTDListDone → s.listDone = true)
  have hread : ∀ s, P s → ∀ r, I r (s.answer hpiSie1MsgAdr r) := fun s hs r => by
    rw [answer_msg]
    exact ⟨hP s _ hs, fun h => by simp [h]⟩
  refine .bind (R := I) (triple_usbRead.pre hread) fun v => ?_
  refine .bind (triple_usbWrite hmsg) fun _ => ?_
  refine .loop (I := I) (fun v => .ite (fun hv => ?_) fun hv => ?_) v
  · exact (Monitor.Triple.stop v).pre fun s hs => ⟨hs.1, hs.2 hv⟩
  · refine .bind (R := I) (triple_usbRead.pre fun s hs => hread s hs.1) fun v => ?_
    exact .bind (triple_usbWrite hmsg) fun _ => .goOn v

/-- Waiting for a message keeps what is kept in between. -/
theorem triple_waitSie1msg {idle : Driver Unit} (h : Spec P idle fun _ => P) :
    Spec P (waitSie1msg idle) fun _ => P := by
  refine .loop (I := fun _ => P) (fun _ => ?_) ()
  refine .bind (triple_ioRead (by decide)) fun s => .ite (fun _ => ?_) fun _ => ?_
  · exact .bind h fun _ => .goOn (I := fun _ => P) ()
  · exact .stop (Q := fun _ => P) ()

/-- What is left after an error does not matter. -/
theorem triple_usbGetRetryCnt (hP : ∀ s a r, P s → P (s.answer a r)) :
    Spec P usbGetRetryCnt fun _ => P := by
  refine .bind (triple_ioRead (by decide)) fun _ => ?_
  refine .bind (triple_usbRead.pre fun s hs r => hP s _ r hs) fun v => ?_
  have hlast : Spec P (usbRead 0x0508) fun _ => P := triple_usbRead.pre fun s hs r => hP s _ r hs
  refine .ite (fun _ => .bind (triple_usbWrite (by decide)) fun _ => ?_) fun _ => hlast
  exact .bind (triple_waitSie1msg (.pure (Q := fun _ => P) ())) fun _ => hlast

end Triples

end TankBattle.Usb
