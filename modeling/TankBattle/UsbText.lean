import TankBattle.UsbMain

/-!
# The text of the program (`main.c`)

What can be read off the text of the program, part by part: which registers of the chip it uses, and
that none of its loops goes round without asking the chip or telling it something.

* `OnBus`: the program uses the four registers of the chip only, and no loop is silent;
* `onBus_main`: all of the program is so;
* `main_goesOn`: the program never comes to a standstill.
-/

namespace TankBattle.Usb

open Dialog

/-- A command for one of the four registers of the chip, or for the key codes. -/
def HpiCommand.OnBus : HpiCommand → Prop
  | .write a _ => a.toNat < 4
  | .keycode _ => True

/-- The program uses the four registers of the chip only, and no loop goes round in silence. -/
def OnBus {α : Type} (p : Driver α) : Prop := p.Proper HpiCommand.OnBus fun a => a.toNat < 4

theorem onBus_loop {σ α : Type} {body : σ → Driver (σ ⊕ α)} {s : σ} (h : ∀ s, OnBus (body s))
    (hb : ∀ s, (body s).Busy) : OnBus (Prog.loop body s) :=
  fun s => ⟨h s, fun s' => hb s (.inl s')⟩

theorem busy_ioWrite (a : BitVec 8) (d : BitVec 16) : Prog.Busy (ioWrite a d) := Prog.busy_tell _

theorem busy_ioRead (a : BitVec 8) : Prog.Busy (ioRead a) := Prog.busy_ask a

theorem busy_usbRead (a : BitVec 16) : Prog.Busy (usbRead a) := (busy_ioWrite _ _).bind _

theorem onBus_usbWrite (a d : BitVec 16) : OnBus (usbWrite a d) :=
  ⟨(by decide : hpiAddr.toNat < 4), fun _ => (by decide : hpiData.toNat < 4)⟩

theorem onBus_usbRead (a : BitVec 16) : OnBus (usbRead a) :=
  ⟨(by decide : hpiAddr.toNat < 4), fun _ => (by decide : hpiData.toNat < 4)⟩

theorem onBus_mailbox (d : BitVec 16) : OnBus (ioWrite hpiMailbox d) :=
  (by decide : hpiMailbox.toNat < 4)

theorem onBus_status : OnBus (ioRead hpiStatus) := (by decide : hpiStatus.toNat < 4)

theorem onBus_writeData (ds : List (BitVec 16)) : OnBus (writeData ds) := by
  induction ds with
  | nil => trivial
  | cons d ds ih => exact ⟨(by decide : hpiData.toNat < 4), fun _ => ih⟩

theorem onBus_sendList (ds : List (BitVec 16)) : OnBus (sendList ds) :=
  ⟨(by decide : hpiAddr.toNat < 4), fun _ => ⟨onBus_writeData ds, fun _ => onBus_usbWrite _ _⟩⟩

theorem onBus_usbSoftReset : OnBus usbSoftReset :=
  ⟨onBus_mailbox _, fun _ => ⟨(by decide : hpiMailbox.toNat < 4), fun _ => ⟨onBus_status, fun _ =>
    ⟨onBus_usbRead _, fun _ => ⟨onBus_usbWrite _ _, fun _ => ⟨onBus_usbRead _, fun _ =>
      ⟨onBus_usbWrite _ _, fun _ => ⟨onBus_usbWrite _ _, fun _ => onBus_usbWrite _ _⟩⟩⟩⟩⟩⟩⟩⟩

theorem onBus_usbWaitTDListDone : OnBus usbWaitTDListDone := by
  refine ⟨onBus_usbRead _, fun _ => ⟨onBus_usbWrite _ _, fun _ v => ⟨Prog.proper_ite trivial
    ⟨onBus_usbRead _, fun _ => ⟨onBus_usbWrite _ _, fun _ => trivial⟩⟩, fun s' => ?_⟩⟩⟩
  -- a round without an event finds the list done, and is the last one
  dsimp only
  split_ifs
  · exact fun h => nomatch h.2
  · exact (busy_usbRead _).bind _ (Sum.inl s')

theorem onBus_waitSie1msg {idle : Driver Unit} (h : OnBus idle) : OnBus (waitSie1msg idle) :=
  onBus_loop (fun _ => ⟨onBus_status, fun _ => Prog.proper_ite ⟨h, fun _ => trivial⟩ trivial⟩)
    fun _ => (busy_ioRead _).bind _

theorem onBus_usbGetRetryCnt : OnBus usbGetRetryCnt := by
  have hrest : OnBus (do ioWrite hpiAddr 0x0508; ioRead hpiData) :=
    ⟨(by decide : hpiAddr.toNat < 4), fun _ => (by decide : hpiData.toNat < 4)⟩
  refine ⟨onBus_status, fun _ => ⟨onBus_usbRead _, fun _ => Prog.proper_ite ?_ hrest⟩⟩
  exact ⟨onBus_usbWrite _ _, fun _ => ⟨onBus_waitSie1msg trivial, fun _ => hrest⟩⟩

theorem onBus_acknowledged : OnBus acknowledged :=
  ⟨(by decide : hpiMailbox.toNat < 4), fun _ => Prog.proper_ite trivial
    ⟨(by decide : hpiMailbox.toNat < 4), fun _ => trivial⟩⟩

theorem onBus_step1 : OnBus step1 := by
  refine ⟨onBus_usbSoftReset, fun _ => ⟨onBus_usbWrite _ _, fun _ => ⟨onBus_usbWrite _ _, fun _ =>
    ⟨onBus_usbWrite _ _, fun _ => ⟨onBus_usbWrite _ _, fun _ => ⟨onBus_usbWrite _ _, fun _ =>
      ⟨Prog.proper_forM _ fun _ => onBus_usbWrite _ _, fun _ => ⟨onBus_usbWrite _ _,
        fun _ => ?_⟩⟩⟩⟩⟩⟩⟩⟩
  refine ⟨onBus_mailbox _, fun _ => ⟨onBus_loop (fun _ => ⟨onBus_status, fun _ =>
    Prog.proper_ite trivial trivial⟩) fun _ => ?_, fun _ => onBus_acknowledged⟩⟩
  exact (busy_ioRead _).bind _

theorem onBus_step2 : OnBus step2 :=
  ⟨onBus_usbWrite _ _, fun _ => ⟨onBus_usbWrite _ _, fun _ =>
    ⟨Prog.proper_forM _ fun _ => onBus_usbWrite _ _, fun _ => ⟨onBus_mailbox _, fun _ =>
      onBus_acknowledged⟩⟩⟩⟩

theorem onBus_retryDevice (n : ℕ) (c : BitVec 16) : OnBus (retryDevice n c) := by
  induction n generalizing c with
  | zero => trivial
  | succ n ih => exact ⟨onBus_usbRead _, fun _ => Prog.proper_ite trivial (ih _)⟩

theorem onBus_findDevice : OnBus findDevice :=
  ⟨onBus_usbRead _, fun _ => Prog.proper_ite trivial ⟨onBus_retryDevice _ _, fun _ =>
    Prog.proper_ite trivial (onBus_loop (fun _ => ⟨onBus_usbRead _, fun _ =>
      Prog.proper_ite trivial trivial⟩) fun _ => (busy_usbRead _).bind _)⟩⟩

theorem onBus_request {f : Driver Unit} (h : OnBus f) : OnBus (request f) :=
  ⟨h, fun _ => ⟨onBus_waitSie1msg h, fun _ => ⟨onBus_usbWaitTDListDone, fun _ =>
    ⟨onBus_usbRead _, fun _ => ⟨onBus_usbRead _, fun _ => Prog.proper_ite trivial
      ⟨onBus_usbGetRetryCnt, fun _ => trivial⟩⟩⟩⟩⟩⟩

theorem onBus_requests (dss : List (List (BitVec 16))) : OnBus (requests (dss.map sendList)) := by
  induction dss with
  | nil => trivial
  | cons ds dss ih => exact ⟨onBus_request (onBus_sendList ds), fun _ => Prog.proper_ite ih trivial⟩

theorem onBus_deviceInfo : OnBus deviceInfo :=
  ⟨onBus_usbRead _, fun _ => ⟨(by decide : hpiAddr.toNat < 4), fun _ => ⟨onBus_writeData _, fun _ =>
    ⟨onBus_usbWrite _ _, fun _ => ⟨onBus_usbRead _, fun _ => trivial⟩⟩⟩⟩⟩

theorem onBus_enumerate : OnBus enumerate := by
  have hfirst := onBus_requests ((enumeration.take 5).map UsbRequest.words)
  have hsecond := onBus_requests ((enumeration.drop 5).map UsbRequest.words)
  exact ⟨hfirst, fun _ => Prog.proper_ite ⟨onBus_deviceInfo, fun _ => ⟨hsecond, fun _ =>
    Prog.proper_ite trivial trivial⟩⟩ trivial⟩

theorem onBus_keyRound (size toggle : BitVec 8) : OnBus (keyRound size toggle) := by
  refine ⟨onBus_sendList _, fun _ => ⟨onBus_waitSie1msg (onBus_sendList _), fun _ =>
    ⟨onBus_usbWaitTDListDone, fun _ => ⟨onBus_usbRead _, fun _ => ⟨onBus_usbRead _, fun _ =>
      ⟨trivial, fun _ => ⟨onBus_usbRead _, fun _ => Prog.proper_ite trivial ?_⟩⟩⟩⟩⟩⟩⟩
  refine ⟨onBus_retryDevice _ _, fun _ => Prog.proper_ite trivial (onBus_loop (fun _ => ?_)
    fun _ => (busy_usbRead _).bind _)⟩
  exact ⟨onBus_usbRead _, fun _ => ⟨onBus_usbRead _, fun _ => ⟨onBus_usbRead _, fun _ =>
    Prog.proper_ite trivial trivial⟩⟩⟩

theorem busy_sendList (ds : List (BitVec 16)) : Prog.Busy (sendList ds) :=
  (busy_ioWrite _ _).bind _

theorem busy_keyRound (size toggle : BitVec 8) : (keyRound size toggle).Busy :=
  (busy_sendList _).bind _

theorem onBus_hotPlug (toggle : BitVec 8) : OnBus (hotPlug toggle) := by
  refine ⟨onBus_step1, fun _ => Prog.proper_ite ⟨onBus_step2, fun _ => Prog.proper_ite
    ⟨onBus_findDevice, fun _ => Prog.proper_ite ⟨onBus_enumerate, fun o => ?_⟩ trivial⟩ trivial⟩
      trivial⟩
  cases o with
  | none => trivial
  | some size =>
    exact ⟨onBus_loop (onBus_keyRound size) (busy_keyRound size), fun _ => trivial⟩

/-- A hot plug begins with the reset of the chip. -/
theorem busy_hotPlug (toggle : BitVec 8) : (hotPlug toggle).Busy :=
  Prog.Busy.bind (.bind (.bind (busy_ioWrite _ _) _) _) _

/-- **The program** uses the four registers of the chip only, and no loop of it is silent. -/
theorem onBus_main : OnBus main := onBus_loop onBus_hotPlug busy_hotPlug

/-- **The program never comes to a standstill**, whatever the chip answers. -/
theorem main_goesOn {l : List (Event HpiCommand (BitVec 8) (BitVec 16))} {o : Option Empty}
    (h : main.Trace l o) : Prog.GoesOn main.Trace l := by
  cases o with
  | none => exact (onBus_main.goesOn h).resolve_left fun ⟨a, _⟩ => a.elim
  | some a => exact a.elim

end TankBattle.Usb
