import TankBattle.UsbText

/-!
# The software keeps going (`main.c`)

With a chip that answers as it should, no wait takes longer than its first look: the enumeration
comes to its end, and key codes are sent again and again.

* `Pace`, `pace`: the events since the last key codes, and the answers of a chip that works;
* `Takes`: a program that comes to its end within a number of events, without sending key codes;
* `takes_request`, `takes_enumerate`: how long the requests take;
* `exists_works`, `works_extend`: there is always an answer of such a chip, and a run goes on;
* `keeps_sending`: a run never ends, and of any 495 events in a row one sends key codes.
-/

namespace TankBattle.Usb

open Dialog

/-- The address register, and how many events there were since key codes were sent. -/
structure Pace where
  ptr : BitVec 16
  since : ℕ

namespace Pace

def step (m : Pace) : Event HpiCommand (BitVec 8) (BitVec 16) → Pace
  | .tell (.write a d) =>
    ⟨if a = hpiAddr then d else if a = hpiData then m.ptr + 2 else m.ptr, m.since + 1⟩
  | .tell (.keycode _) => { m with since := 0 }
  | .ask a _ => ⟨if a = hpiData then m.ptr + 2 else m.ptr, m.since + 1⟩

/-- Not too many events without key codes. -/
def Ok (m : Pace) : Event HpiCommand (BitVec 8) (BitVec 16) → Prop
  | .tell (.keycode _) => True
  | _ => m.since < 494

/-- What a chip answers that works, to which a keyboard is connected: a message is there and says
that the list is done, without errors, and commands are acknowledged. -/
def Works (m : Pace) (a : BitVec 8) (r : BitVec 16) : Prop :=
  (a = hpiStatus → r &&& hpiStatusSie1msgFlag ≠ 0) ∧ (a = hpiMailbox → r = commAck) ∧
    (a = hpiData → (m.ptr = hpiSie1MsgAdr → r = husbTDListDone) ∧ (m.ptr = 0x0508 → r = 0x0003) ∧
      (m.ptr = usb1CtlReg → present r = true))

instance (m : Pace) (a : BitVec 8) (r : BitVec 16) : Decidable (m.Works a r) :=
  inferInstanceAs (Decidable (_ ∧ _))

end Pace

/-- The pace of the software with a chip that works. -/
def pace : Monitor HpiCommand (BitVec 8) (BitVec 16) Pace := ⟨Pace.step, Pace.Ok, Pace.Works⟩

/-- The program comes to its end within `k` events, and the result is as `R` says. -/
def Takes {α : Type} (k : ℕ) (p : Driver α) (R : α → Prop) : Prop :=
  ∀ a, a + k ≤ 494 → pace.Triple Pace.since (· ≤ a) p fun r n => R r ∧ n ≤ a + k

namespace Takes

variable {α β σ : Type} {k k' : ℕ} {R R' : α → Prop} {S : β → Prop}

theorem bind {p : Driver α} {f : α → Driver β} (hp : Takes k p R)
    (hf : ∀ r, R r → Takes k' (f r) S) : Takes (k + k') (p >>= f) S := by
  intro a ha
  refine (hp a (by omega)).bind fun r => ?_
  intro m hm
  have h := hf r hm.1 (a + k) (by omega) m hm.2
  rwa [Nat.add_assoc] at h

theorem pure {r : α} (h : R r) : Takes 0 (Pure.pure r : Driver α) R := fun _ _ _ hm => ⟨h, hm⟩

theorem ite {c : Prop} [Decidable c] {p q : Driver α} (hp : c → Takes k p R)
    (hq : ¬ c → Takes k q R) : Takes k (if c then p else q) R := by
  split_ifs with hc
  · exact hp hc
  · exact hq hc

theorem mono {p : Driver α} (h : Takes k p R) (hk : k ≤ k') (hR : ∀ r, R r → R' r) :
    Takes k' p R' :=
  fun a ha => (h a (by omega)).mono (fun _ => id) fun r n hn => ⟨hR r hn.1, by omega⟩

/-- A loop that ends in its first round. -/
theorem loop {body : σ → Driver (σ ⊕ α)} {s : σ}
    (h : Takes k (body s) fun x => ∃ r, x = .inr r ∧ R r) : Takes k (Prog.loop body s) R := by
  intro a ha
  -- there is no second round, so the invariant need only hold at the beginning
  refine .named id fun n m hm => ⟨fun t m => t = s ∧ m.since = n, ⟨rfl, hm.2⟩, ?_⟩
  rintro t m' ⟨rfl, hm'⟩
  refine Monitor.wp_mono (fun x m'' hx => ?_) (h a ha m' (hm' ▸ hm.2 ▸ hm.1))
  obtain ⟨⟨r, rfl, hr⟩, hn⟩ := hx
  exact ⟨hr, hn⟩

end Takes

section Parts

variable {a d : BitVec 16} {b : BitVec 8}

theorem takes_ioWrite : Takes 1 (ioWrite b d) fun _ => True :=
  fun _ ha m hm => ⟨show m.since < 494 by omega, trivial, Nat.succ_le_succ hm⟩

theorem takes_ioRead : Takes 1 (ioRead b) fun r => ∃ m : Pace, m.Works b r :=
  fun _ ha m hm r hr => ⟨show m.since < 494 by omega, ⟨m, hr⟩, Nat.succ_le_succ hm⟩

theorem takes_usbWrite : Takes 2 (usbWrite a d) fun _ => True :=
  takes_ioWrite.bind fun _ _ => takes_ioWrite

theorem takes_usbRead : Takes 2 (usbRead a) fun r => Pace.Works ⟨a, 0⟩ hpiData r := by
  intro c hc m hm
  refine ⟨show m.since < 494 by omega, fun r hr => ⟨show m.since + 1 < 494 by omega, ?_, ?_⟩⟩
  · exact hr
  · exact Nat.add_le_add_right hm 2

theorem takes_writeData {ds : List (BitVec 16)} {n : ℕ} (hn : ds.length = n) :
    Takes n (writeData ds) fun _ => True := by
  subst hn
  induction ds with
  | nil => exact .pure trivial
  | cons d ds ih =>
    rw [List.length_cons, Nat.add_comm]
    exact takes_ioWrite.bind fun _ _ => ih

theorem takes_sendList (ds : List (BitVec 16)) :
    Takes (ds.length + 3) (sendList ds) fun _ => True :=
  (takes_ioWrite.bind fun _ _ => (takes_writeData rfl).bind fun _ _ => takes_usbWrite).mono
    (by omega) fun _ => id

theorem takes_waitSie1msg (idle : Driver Unit) : Takes 1 (waitSie1msg idle) fun _ => True := by
  refine .loop (k := 1 + 0) (takes_ioRead.bind fun r hr => ?_)
  obtain ⟨m, hr, -⟩ := hr
  refine .ite (fun h0 => absurd h0 (hr rfl)) fun _ => .pure ⟨(), rfl, trivial⟩

theorem takes_usbWaitTDListDone : Takes 4 usbWaitTDListDone fun _ => True := by
  show Takes (2 + (2 + 0)) usbWaitTDListDone _
  refine takes_usbRead.bind fun v hv => takes_usbWrite.bind fun _ _ => .loop ?_
  exact .ite (fun _ => .pure ⟨v, rfl, trivial⟩) fun h => absurd ((hv.2.2 rfl).1 rfl) h

/-- **A request succeeds** at the first try. -/
theorem takes_request (ds : List (BitVec 16)) :
    Takes (ds.length + 12) (request (sendList ds)) fun b => b = true := by
  refine Takes.mono (k := ds.length + 3 + (1 + (4 + (2 + (2 + 0))))) ?_ (by omega) fun _ => id
  refine (takes_sendList ds).bind fun _ _ => (takes_waitSie1msg _).bind fun _ _ => ?_
  refine takes_usbWaitTDListDone.bind fun _ _ => takes_usbRead.bind fun _ _ => ?_
  refine takes_usbRead.bind fun c hc => .ite (fun _ => .pure rfl) fun h => ?_
  exact absurd ((hc.2.2 rfl).2.1 rfl) h

theorem takes_requests (dss : List (List (BitVec 16))) :
    Takes (dss.map fun ds => ds.length + 12).sum (requests (dss.map sendList))
      fun b => b = true := by
  induction dss with
  | nil => exact .pure rfl
  | cons ds dss ih =>
    rw [List.map_cons, List.sum_cons, List.map_cons]
    exact (takes_request ds).bind fun b hb => .ite (fun _ => ih) fun h => absurd hb h

theorem takes_forM {ks : List ℕ} {f : ℕ → Driver Unit} {n : ℕ} (hn : ks.length = n)
    (h : ∀ k, Takes 2 (f k) fun _ => True) : Takes (2 * n) (ks.forM f) fun _ => True := by
  subst hn
  induction ks with
  | nil => exact .pure trivial
  | cons k ks ih =>
    rw [List.length_cons, Nat.mul_succ, Nat.add_comm]
    exact (h k).bind fun _ _ => ih

theorem takes_acknowledged : Takes 1 acknowledged fun b => b = true := by
  show Takes (1 + 0) acknowledged _
  refine takes_ioRead.bind fun v hv => .ite (fun _ => .pure rfl) fun h => ?_
  obtain ⟨m, -, hv, -⟩ := hv
  exact absurd (hv rfl) h

theorem takes_usbSoftReset : Takes 15 usbSoftReset fun _ => True := by
  show Takes (1 + (1 + (1 + (2 + (2 + (2 + (2 + (2 + 2)))))))) usbSoftReset _
  refine takes_ioWrite.bind fun _ _ => takes_ioRead.bind fun _ _ => takes_ioRead.bind fun _ _ => ?_
  refine takes_usbRead.bind fun _ _ => takes_usbWrite.bind fun _ _ => ?_
  refine takes_usbRead.bind fun _ _ => takes_usbWrite.bind fun _ _ => ?_
  exact takes_usbWrite.bind fun _ _ => takes_usbWrite

theorem takes_step1 : Takes 58 step1 fun b => b = true := by
  show Takes (15 + (2 + (2 + (2 + (2 + (2 + (2 * 14 + (2 + (1 + (1 + 0 + 1)))))))))) step1 _
  refine takes_usbSoftReset.bind fun _ _ => takes_usbWrite.bind fun _ _ => ?_
  refine takes_usbWrite.bind fun _ _ => takes_usbWrite.bind fun _ _ => ?_
  refine takes_usbWrite.bind fun _ _ => takes_usbWrite.bind fun _ _ => ?_
  refine (takes_forM (by rfl) fun k => takes_usbWrite).bind fun _ _ => ?_
  refine takes_usbWrite.bind fun _ _ => ?_
  refine takes_ioWrite.bind fun _ _ => ?_
  refine Takes.bind (R := fun _ => True) (.loop ?_) fun _ _ => takes_acknowledged
  refine takes_ioRead.bind fun r hr => .ite (fun h0 => ?_) fun _ => .pure ⟨(), rfl, trivial⟩
  obtain ⟨m, hr, -⟩ := hr
  refine absurd ?_ (hr rfl)
  have hr0 : r = 0 := by rw [← h0]; exact (BitVec.and_allOnes (x := r)).symm
  rw [hr0]
  rfl

theorem takes_step2 : Takes 32 step2 fun b => b = true := by
  show Takes (2 + (2 + (2 * 13 + (1 + 1)))) step2 _
  refine takes_usbWrite.bind fun _ _ => takes_usbWrite.bind fun _ _ => ?_
  refine (takes_forM (by rfl) fun k => takes_usbWrite).bind fun _ _ => ?_
  exact takes_ioWrite.bind fun _ _ => takes_acknowledged

theorem takes_findDevice : Takes 2 findDevice fun b => b = true := by
  show Takes (2 + 0) findDevice _
  refine takes_usbRead.bind fun c hc => .ite (fun _ => .pure rfl) fun h => ?_
  exact absurd ((hc.2.2 rfl).2.2 rfl) h

theorem takes_deviceInfo : Takes 12 deviceInfo fun _ => True := by
  show Takes (2 + (1 + (5 + (2 + (2 + 0))))) deviceInfo _
  refine takes_usbRead.bind fun _ _ => takes_ioWrite.bind fun _ _ => ?_
  refine (takes_writeData (by rfl)).bind fun _ _ => takes_usbWrite.bind fun _ _ => ?_
  exact takes_usbRead.bind fun _ _ => .pure trivial

/-- **The enumeration succeeds**, within 384 events. -/
theorem takes_enumerate : Takes 384 enumerate fun o => o ≠ none := by
  have hfirst := takes_requests ((enumeration.take 5).map UsbRequest.words)
  have hsecond := takes_requests ((enumeration.drop 5).map UsbRequest.words)
  show Takes (206 + (12 + (166 + 0))) enumerate _
  refine Takes.bind hfirst fun b hb => .ite (fun _ => ?_) fun h => absurd hb h
  refine takes_deviceInfo.bind fun size _ => Takes.bind hsecond fun b hb => ?_
  exact .ite (fun _ => .pure (Option.some_ne_none size)) fun h => absurd hb h

end Parts

/-! ### The loops that do not end -/

section Loops

/-- What comes after a part of known length. -/
theorem Takes.andThen {α β : Type} {k a : ℕ} {p : Driver α} {f : α → Driver β} {R : α → Prop}
    {Q : β → ℕ → Prop} (hp : Takes k p R) (ha : a + k ≤ 494)
    (hf : ∀ r, R r → pace.Triple Pace.since (· ≤ a + k) (f r) Q) :
    pace.Triple Pace.since (· ≤ a) (p >>= f) Q :=
  (hp a ha).bind fun r m hm => hf r hm.1 m hm.2

/-- A round sends key codes, and finds the device in its place. -/
theorem triple_pace_keyRound (size toggle : BitVec 8) :
    pace.Triple Pace.since (· ≤ 476) (keyRound size toggle)
      fun x n => x.elim (fun _ => n ≤ 476) (fun _ => False) := by
  refine (takes_sendList _).andThen (by simp) fun _ _ => ?_
  refine (takes_waitSie1msg _).andThen (by simp) fun _ _ => ?_
  refine takes_usbWaitTDListDone.andThen (by simp) fun _ _ => ?_
  refine takes_usbRead.andThen (by simp) fun k0 _ => takes_usbRead.andThen (by simp) fun k1 _ => ?_
  have hsend : ∀ d, pace.Triple Pace.since (fun _ => True) (.tell (.keycode d))
      fun _ n => n ≤ 0 := fun _ _ _ => ⟨trivial, le_rfl⟩
  refine Monitor.Triple.bind ((hsend _).pre fun _ _ => trivial) fun _ => ?_
  refine takes_usbRead.andThen (by simp) fun c hc => .ite (fun _ => ?_) fun h => ?_
  · exact (Monitor.Triple.goOn (I := fun _ n => n ≤ 476) _).pre fun n hn => hn.trans (by decide)
  · exact absurd ((hc.2.2 rfl).2.2 rfl) h

/-- There is no other hot plug. -/
theorem triple_pace_hotPlug (toggle : BitVec 8) :
    pace.Triple Pace.since (· ≤ 0) (hotPlug toggle) fun _ _ => False := by
  refine takes_step1.andThen (by decide) fun b hb => .ite (fun _ => ?_) fun h => absurd hb h
  refine takes_step2.andThen (by decide) fun b hb => .ite (fun _ => ?_) fun h => absurd hb h
  refine takes_findDevice.andThen (by decide) fun b hb => .ite (fun _ => ?_) fun h => absurd hb h
  refine takes_enumerate.andThen (by decide) fun o ho => ?_
  cases o with
  | none => exact absurd rfl ho
  | some size =>
    refine Monitor.Triple.bind (R := fun _ _ => False)
      (.loop (I := fun _ n => n ≤ 476) (triple_pace_keyRound size) toggle) fun t m hm => hm.elim

theorem triple_pace_main : pace.Triple Pace.since (· ≤ 0) main fun _ _ => True :=
  .loop (I := fun _ n => n ≤ 0)
    (fun t => (triple_pace_hotPlug t).mono (fun _ => id) fun _ _ h => h.elim) 0

variable {l l' : List (Event HpiCommand (BitVec 8) (BitVec 16))} {o : Option Empty} {m : Pace}

/-- Without key codes every event counts. -/
theorem since_after (h : keycodes l = []) : (pace.after m l).since = m.since + l.length := by
  induction l generalizing m with
  | nil => rfl
  | cons e l ih =>
    have hstep : keycodes l = [] ∧ (pace.step m e).since = m.since + 1 := by
      rcases e with (⟨a, d⟩ | d) | ⟨a, r⟩
      · exact ⟨h, rfl⟩
      · exact absurd h (List.cons_ne_nil _ _)
      · exact ⟨h, rfl⟩
    rw [Monitor.after_cons, ih hstep.1, hstep.2, List.length_cons]
    omega

/-- Of any 495 events in a row one sends key codes. -/
theorem keycodes_of_length (hm : m.since = 0) (h : main.Trace (l ++ l') o)
    (hworks : pace.Allowed m (l ++ l')) (hlen : 495 ≤ l'.length) : keycodes l' ≠ [] := by
  intro hnone
  have hacc := (Monitor.wp_sound (triple_pace_main m hm.le) h hworks).1
  -- the 495th event comes after 494 others without key codes
  obtain ⟨e, hsplit⟩ : ∃ e, l' = l'.take 494 ++ e :: l'.drop 495 := by
    refine ⟨l'[494], ?_⟩
    rw [← List.drop_eq_getElem_cons, List.take_append_drop]
  rw [hsplit, ← List.append_assoc] at hacc
  have hok := hacc.ok
  rw [hsplit, keycodes, List.filterMap_append, List.append_eq_nil_iff] at hnone
  have hsince := since_after (m := pace.after m l) hnone.1
  rw [← Monitor.after_append, List.length_take, min_eq_left (by omega)] at hsince
  rcases e with (⟨a, d⟩ | d) | ⟨a, r⟩
  · have hlt : (pace.after m (l ++ l'.take 494)).since < 494 := hok
    omega
  · exact absurd hnone.2 (List.cons_ne_nil _ _)
  · have hlt : (pace.after m (l ++ l'.take 494)).since < 494 := hok
    omega

/-- A chip that works always has an answer. -/
theorem exists_works (m : Pace) (a : BitVec 8) : ∃ r, m.Works a r := by
  by_cases ha : a = hpiData
  · subst ha
    -- the registers that are asked for are different ones
    by_cases h1 : m.ptr = hpiSie1MsgAdr
    · refine ⟨husbTDListDone, nofun, nofun, fun _ => ?_⟩
      rw [h1]
      decide
    · by_cases h2 : m.ptr = 0x0508
      · refine ⟨0x0003, nofun, nofun, fun _ => ?_⟩
        rw [h2]
        decide
      · exact ⟨aDpStat, nofun, nofun, fun _ => ⟨fun h => absurd h h1, fun h => absurd h h2,
          fun _ => by decide⟩⟩
  · by_cases h1 : a = hpiMailbox
    · subst h1
      exact ⟨commAck, nofun, fun _ => rfl, nofun⟩
    · exact ⟨hpiStatusSie1msgFlag, fun _ => by decide, fun h => absurd h h1, fun h => absurd h ha⟩

/-- A run with a chip that works goes on for any number of events. -/
theorem works_extend (h : main.Trace l o) (hworks : pace.Allowed m l) (n : ℕ) :
    ∃ l', l'.length = n ∧ pace.Allowed m (l ++ l') ∧ ∃ o', main.Trace (l ++ l') o' := by
  induction n with
  | zero => exact ⟨[], rfl, by rwa [List.append_nil], o, by rwa [List.append_nil]⟩
  | succ n ih =>
    obtain ⟨l', hlen, hallowed, o', h'⟩ := ih
    have hnext : ∃ e, pace.Allowed (pace.after m (l ++ l')) [e] ∧
        ∃ o'', main.Trace (l ++ l' ++ [e]) o'' := by
      rcases main_goesOn h' with ⟨w, hw⟩ | ⟨q, hq⟩
      · exact ⟨.tell w, trivial, hw⟩
      · obtain ⟨r, hr⟩ := exists_works (pace.after m (l ++ l')) q
        exact ⟨.ask q r, ⟨hr, trivial⟩, hq r⟩
    obtain ⟨e, he, o'', ho⟩ := hnext
    rw [List.append_assoc] at ho
    refine ⟨l' ++ [e], by rw [List.length_append, hlen]; rfl, ?_, o'', ho⟩
    rw [← List.append_assoc]
    exact Monitor.allowed_append.2 ⟨hallowed, he⟩

/-- **Key codes are sent again and again**: with a chip that works a run never comes to a
standstill, of any 495 events in a row one sends key codes, and so a run can always be continued
until key codes are sent. -/
theorem keeps_sending (hm : m.since = 0) (h : main.Trace l o) (hworks : pace.Allowed m l) :
    Prog.GoesOn main.Trace l ∧
      (∀ l₁ l₂, l = l₁ ++ l₂ → 495 ≤ l₂.length → keycodes l₂ ≠ []) ∧
      ∃ l', pace.Allowed m (l ++ l') ∧ (∃ o', main.Trace (l ++ l') o') ∧ keycodes l' ≠ [] := by
  refine ⟨main_goesOn h, ?_, ?_⟩
  · rintro l₁ l₂ rfl hlen
    exact keycodes_of_length hm h hworks hlen
  · obtain ⟨l', hlen, hallowed, o', h'⟩ := works_extend h hworks 495
    exact ⟨l', hallowed, ⟨o', h'⟩, keycodes_of_length hm h' hallowed hlen.ge⟩

end Loops

instance (m : Pace) (a : BitVec 8) (r : BitVec 16) : Decidable (pace.may m a r) :=
  inferInstanceAs (Decidable (m.Works a r))

theorem keeps_sending_bench : Prog.GoesOn main.Trace benchEvents ∧
    keycodes benchEvents ≠ [] ∧ ∃ l', pace.Allowed ⟨0, 0⟩ (benchEvents ++ l') ∧
      (∃ o', main.Trace (benchEvents ++ l') o') ∧ keycodes l' ≠ [] := by
  obtain ⟨hgo, hsends, hmore⟩ := keeps_sending (m := ⟨0, 0⟩) rfl
    (Prog.exec_trace 3 chipTake chipAnswer main 0 : main.Trace benchEvents _) (by decide +kernel)
  exact ⟨hgo, hsends [] _ rfl (by decide +kernel), hmore⟩

end TankBattle.Usb
