import Mathlib.Tactic

/-!
# The lines of an I2C bus

A bus of a clock line and a data line.  While the clock is high the data line only changes for
a start or a stop; a bit is what the data line shows when the clock rises.

* `Event`, `edge`, `events`: what a receiver sees on the lines;
* `events_add`, `events_low`, `events_flat`, `events_pulse`: the events of pieces of a run;
* `bits`, `bytes`, `transfers`: bytes on the line, and what a receiver makes of the events;
* `frameEvents`, `sessionEvents`: the events of frames that follow each other, up to a stop;
* `transfers_session`: frames are received as they were sent.
-/

namespace I2c

/-- What a receiver sees. -/
inductive Event
  | start
  | stop
  | bit (b : Bool)
  deriving DecidableEq

section Lines

variable {scl sda : ℕ → Bool} {a d : ℕ}

/-- What a receiver sees from cycle `n` to the next. -/
def edge (scl sda : ℕ → Bool) (n : ℕ) : List Event :=
  if scl (n + 1) then
    if scl n then if sda (n + 1) = sda n then [] else [if sda n then .start else .stop]
    else [.bit (sda (n + 1))]
  else []

/-- What a receiver sees in `d` cycles from cycle `a` on. -/
def events (scl sda : ℕ → Bool) (a : ℕ) : ℕ → List Event
  | 0 => []
  | d + 1 => events scl sda a d ++ edge scl sda (a + d)

theorem events_add (scl sda : ℕ → Bool) (a d e : ℕ) :
    events scl sda a (d + e) = events scl sda a d ++ events scl sda (a + d) e := by
  induction e with
  | zero => simp [events]
  | succ e ih => rw [← Nat.add_assoc, events, ih, events, List.append_assoc, Nat.add_assoc a d e]

/-- The events depend on what the lines show in these cycles only. -/
theorem events_congr {scl' sda' : ℕ → Bool} (h : ∀ k ≤ d, scl (a + k) = scl' (a + k))
    (hd : ∀ k ≤ d, sda (a + k) = sda' (a + k)) : events scl sda a d = events scl' sda' a d := by
  induction d with
  | zero => rfl
  | succ d ih =>
    have h1 : scl (a + d + 1) = scl' (a + d + 1) := h (d + 1) le_rfl
    have hd1 : sda (a + d + 1) = sda' (a + d + 1) := hd (d + 1) le_rfl
    rw [events, events, ih (fun k hk => h k (by omega)) fun k hk => hd k (by omega), edge, edge,
      h d (by omega), hd d (by omega), h1, hd1]

theorem events_one (scl sda : ℕ → Bool) (a : ℕ) : events scl sda a 1 = edge scl sda a := rfl

theorem edge_low (h : scl (a + 1) = false) : edge scl sda a = [] := by simp [edge, h]

theorem edge_rise (h0 : scl a = false) (h1 : scl (a + 1) = true) :
    edge scl sda a = [.bit (sda (a + 1))] := by
  simp [edge, h0, h1]

theorem edge_start (h0 : scl a = true) (h1 : scl (a + 1) = true) (hs : sda a = true)
    (hs' : sda (a + 1) = false) : edge scl sda a = [.start] := by
  simp [edge, h0, h1, hs, hs']

theorem edge_stop (h0 : scl a = true) (h1 : scl (a + 1) = true) (hs : sda a = false)
    (hs' : sda (a + 1) = true) : edge scl sda a = [.stop] := by
  simp [edge, h0, h1, hs, hs']

/-- Nothing is seen while the clock is low. -/
theorem events_low (h : ∀ k, 0 < k → k ≤ d → scl (a + k) = false) : events scl sda a d = [] := by
  induction d with
  | zero => rfl
  | succ d ih =>
    have h1 : scl (a + d + 1) = false := h (d + 1) (by omega) le_rfl
    rw [events, ih fun k h0 hk => h k h0 (by omega), edge_low h1]
    rfl

/-- Nothing is seen while the clock is high and the data line stays as it is. -/
theorem events_flat (h : ∀ k ≤ d, scl (a + k) = true) (hd : ∀ k ≤ d, sda (a + k) = sda a) :
    events scl sda a d = [] := by
  induction d with
  | zero => rfl
  | succ d ih =>
    have h1 : scl (a + d + 1) = true := h (d + 1) le_rfl
    have h2 : sda (a + d + 1) = sda (a + d) := by
      rw [hd d (by omega)]
      exact hd (d + 1) le_rfl
    rw [events, ih (fun k hk => h k (by omega)) fun k hk => hd k (by omega), edge, if_pos h1,
      if_pos (h d (by omega)), if_pos h2]
    rfl

/-- **A pulse of the clock** over a steady data line is a bit: the clock is high from cycle `r` up
to cycle `f`. -/
theorem events_pulse {r f b : ℕ} (har : a < r) (hrf : r ≤ f) (hfb : f ≤ b)
    (hscl : ∀ n, a ≤ n → n ≤ b → scl n = decide (r ≤ n ∧ n ≤ f))
    (hsda : ∀ n, r ≤ n → n ≤ f → sda n = sda r) : events scl sda a (b - a) = [.bit (sda r)] := by
  have hlow : events scl sda a (r - 1 - a) = [] := events_low fun k h0 hk => by
    rw [hscl _ (by omega) (by omega)]
    exact decide_eq_false (by omega)
  have hrise : edge scl sda (r - 1) = [.bit (sda r)] := by
    have h0 : scl (r - 1) = false := by
      rw [hscl _ (by omega) (by omega)]
      exact decide_eq_false (by omega)
    have h1 : scl (r - 1 + 1) = true := by
      rw [show r - 1 + 1 = r by omega, hscl r (by omega) (by omega)]
      exact decide_eq_true (by omega)
    rw [edge_rise h0 h1, show r - 1 + 1 = r by omega]
  have hhigh : events scl sda r (f - r) = [] := events_flat
    (fun k hk => by rw [hscl _ (by omega) (by omega)]; exact decide_eq_true (by omega))
    fun k hk => hsda _ (by omega) (by omega)
  have hafter : events scl sda f (b - f) = [] := events_low fun k h0 hk => by
    rw [hscl _ (by omega) (by omega)]
    exact decide_eq_false (by omega)
  rw [show b - a = r - 1 - a + (1 + (f - r + (b - f))) by omega, events_add, hlow,
    show a + (r - 1 - a) = r - 1 by omega, events_add, events_one, hrise,
    show r - 1 + 1 = r by omega, events_add, hhigh, show r + (f - r) = f by omega, hafter]
  rfl

end Lines

/-! ### What a receiver makes of the events -/

/-- The bits of a byte, the highest one first. -/
def bits (b : BitVec 8) : List Bool := (List.range 8).map fun k => b.getLsbD (7 - k)

/-- The bytes of a frame: eight bits each, followed by the acknowledgement. -/
def bytes : List Bool → List (BitVec 8)
  | b7 :: b6 :: b5 :: b4 :: b3 :: b2 :: b1 :: b0 :: _ :: l =>
    BitVec.ofBoolListLE [b0, b1, b2, b3, b4, b5, b6, b7] :: bytes l
  | _ => []

/-- The frames, each from a start to the next start or stop; `cur` holds the bits since the last
start. -/
def collect (cur : Option (List Bool)) : List Event → List (List Bool)
  | [] => []
  | .start :: l => cur.toList ++ collect (some []) l
  | .stop :: l => cur.toList ++ collect none l
  | .bit b :: l => collect (cur.map (· ++ [b])) l

/-- The bytes of the frames that a receiver has seen to their end. -/
def transfers (l : List Event) : List (List (BitVec 8)) := (collect none l).map bytes

/-- A frame on the bus: every byte with the acknowledgement that it was given. -/
def frameBits (f : List (BitVec 8 × Bool)) : List Bool := f.flatMap fun b => bits b.1 ++ [b.2]

/-- The bits of a byte make up the byte again. -/
theorem ofBoolListLE_bits (b : BitVec 8) : (BitVec.ofBoolListLE [b.getLsbD 0, b.getLsbD 1,
    b.getLsbD 2, b.getLsbD 3, b.getLsbD 4, b.getLsbD 5, b.getLsbD 6, b.getLsbD 7] : BitVec 8) =
      b := by
  apply BitVec.eq_of_getLsbD_eq
  intro i hi
  have h8 : i < 8 := hi
  rw [BitVec.getLsbD_ofBoolListLE]
  interval_cases i <;> rfl

theorem bytes_bits (b : BitVec 8) (ack : Bool) (l : List Bool) :
    bytes (bits b ++ ack :: l) = b :: bytes l :=
  congrArg (· :: bytes l) (ofBoolListLE_bits b)

/-- Fewer than nine bits make no byte. -/
theorem bytes_short {l : List Bool} (hl : l.length < 9) : bytes l = [] := by
  rw [bytes.eq_def]
  split
  · simp only [List.length_cons] at hl
    omega
  · rfl

theorem bytes_frameBits (f : List (BitVec 8 × Bool)) {l : List Bool} (hl : l.length < 9) :
    bytes (frameBits f ++ l) = f.map Prod.fst := by
  induction f with
  | nil => exact bytes_short hl
  | cons b f ih =>
    rw [frameBits, List.flatMap_cons, List.append_assoc, List.append_assoc, List.singleton_append,
      bytes_bits]
    exact congrArg (b.1 :: ·) ih

/-- Bits belong to the frame that is under way. -/
theorem collect_bits (cur l : List Bool) (es : List Event) :
    collect (some cur) (l.map .bit ++ es) = collect (some (cur ++ l)) es := by
  induction l generalizing cur with
  | nil => simp
  | cons b l ih =>
    rw [List.map_cons, List.cons_append, collect, Option.map_some, ih, List.append_assoc]
    rfl

/-- The events of a frame: the clock rises once before the start. -/
def frameEvents (f : List (BitVec 8 × Bool)) : List Event :=
  .bit true :: .start :: (frameBits f).map .bit

/-- The events of frames with a stop at the end, before which the clock rises once more. -/
def sessionEvents (fs : List (List (BitVec 8 × Bool))) : List Event :=
  fs.flatMap frameEvents ++ [.bit false, .stop]

/-- Behind a frame that is under way, the other frames follow. -/
theorem collect_session (f : List (BitVec 8 × Bool)) (fs : List (List (BitVec 8 × Bool))) :
    (collect (some (frameBits f)) (sessionEvents fs)).map bytes =
      f.map Prod.fst :: fs.map fun f => f.map Prod.fst := by
  induction fs generalizing f with
  | nil =>
    simp only [sessionEvents, List.flatMap_nil, List.nil_append, collect, Option.map_some,
      Option.toList_some, List.singleton_append, List.map_cons, List.map_nil]
    rw [bytes_frameBits f (by simp)]
  | cons g fs ih =>
    rw [sessionEvents, List.flatMap_cons, frameEvents, List.append_assoc, List.cons_append,
      List.cons_append, collect, collect, Option.map_some, Option.toList_some, List.map_append,
      collect_bits, List.nil_append, List.map_singleton, bytes_frameBits f (by simp)]
    exact congrArg (f.map Prod.fst :: ·) (ih g)

/-- **Frames are received as they were sent**, whatever the acknowledgements. -/
theorem transfers_session (fs : List (List (BitVec 8 × Bool))) :
    transfers (sessionEvents fs) = fs.map fun f => f.map Prod.fst := by
  cases fs with
  | nil => rfl
  | cons g fs =>
    rw [transfers, sessionEvents, List.flatMap_cons, frameEvents, List.append_assoc,
      List.cons_append, List.cons_append, collect, collect, Option.map_none, Option.toList_none,
      List.nil_append, collect_bits, List.nil_append]
    exact collect_session g fs

end I2c
