import Mathlib.Data.ZMod.Basic
import TankBattle.Selector

/-!
# The menu for the number of enemies

A press of a navigation key takes the menu through a wait state, which it leaves in the first
cycle without such a key.  The wait states are shared: up from a number waits where down from the
number before the one that is gone to waits.

* `presses`, `downs`, `ups`: the presses in a stream of keys;
* `Cursor`: a counter modulo 3 with a flag for the held key;
* `Shows.step`: the menu simulates it;
* `menu_counts`: at rest the menu is at the number of presses down less those up, and a confirmed
  number is kept.
-/

namespace TankBattle

/-! ### Presses -/

/-- The first samples of the presses in a stream of keys; `held` tells whether a key is down. -/
def presses (held : Bool) : List (BitVec 32) → List (BitVec 32)
  | [] => []
  | k :: ks => if navKey k && !held then k :: presses true ks else presses (navKey k) ks

/-- The number of presses down. -/
def downs (ks : List (BitVec 32)) : ℕ := (presses false ks).countP downKey

/-- The number of presses up. -/
def ups (ks : List (BitVec 32)) : ℕ := (presses false ks).countP upKey

theorem navKey_eq (k : BitVec 32) : navKey k = (downKey k || upKey k) := by
  simp only [navKey, downKey, upKey]
  generalize lowKey k = b
  cases b == 0x52 <;> cases b == 0x51 <;> cases b == 0x1a <;> cases b == 0x16 <;> rfl

/-- Down and up are different keys. -/
theorem upKey_of_downKey {k : BitVec 32} (h : downKey k = true) : upKey k = false := by
  simp only [downKey, upKey, Bool.or_eq_true, beq_iff_eq] at h ⊢
  rcases h with h | h <;> rw [h] <;> decide

theorem navKey_of_enterKey {k : BitVec 32} (h : enterKey k = true) : navKey k = false := by
  simp only [enterKey, navKey, Bool.or_eq_true, beq_iff_eq] at h ⊢
  rcases h with h | h <;> rw [h] <;> decide

/-! ### The counter -/

/-- What the menu is for: a number modulo 3, and whether the key that moved it is still held. -/
structure Cursor where
  number : ZMod 3
  held : Bool

namespace Cursor

/-- A sample of the keys. -/
def sample (m : Cursor) (k : BitVec 32) : Cursor :=
  if navKey k && !m.held then ⟨if downKey k then m.number + 1 else m.number - 1, true⟩
  else ⟨m.number, navKey k⟩

/-- The counter counts the presses. -/
theorem number_foldl (m : Cursor) (ks : List (BitVec 32)) :
    (ks.foldl sample m).number = m.number + (((presses m.held ks).countP downKey : ℕ) : ZMod 3) -
      (((presses m.held ks).countP upKey : ℕ) : ZMod 3) := by
  induction ks generalizing m with
  | nil => simp [presses]
  | cons k ks ih =>
    rw [List.foldl_cons, ih, presses, sample]
    split_ifs with h hd
    · rw [List.countP_cons_of_pos hd, List.countP_cons_of_neg (by rw [upKey_of_downKey hd]; decide)]
      push_cast
      ring
    · have hu : upKey k = true := by
        have hn := (Bool.and_eq_true_iff.1 h).1
        rwa [navKey_eq, Bool.eq_false_iff.2 hd, Bool.false_or] at hn
      rw [List.countP_cons_of_neg hd, List.countP_cons_of_pos hu]
      push_cast
      ring
    · rfl

/-- After a stream of keys one is held if the last sample shows one. -/
theorem held_foldl (m : Cursor) (ks : List (BitVec 32)) :
    (ks.foldl sample m).held = (ks.getLast?.map navKey).getD m.held := by
  induction ks generalizing m with
  | nil => rfl
  | cons k ks ih =>
    have hk : (m.sample k).held = navKey k := by
      unfold sample
      split
      · next h => exact (Bool.and_eq_true_iff.1 h).1.symm
      · rfl
    rw [List.foldl_cons, ih, hk, List.getLast?_cons]
    cases ks.getLast? <;> rfl

end Cursor

/-! ### The menu -/

namespace EnDraw

/-- The state in which the menu rests at a number. -/
def restState (c : ZMod 3) : EnState :=
  if c = 0 then .state0 else if c = 1 then .state1 else .state2

/-- The state in which it waits to rest at the number after `c`. -/
def waitState (c : ZMod 3) : EnState :=
  if c = 0 then .state0_wait else if c = 1 then .state1_wait else .state2_wait

/-- The menu at rest, with the number in `en_num`. -/
def atRest (c : ZMod 3) : EnDraw := ⟨restState c, BitVec.ofNat 4 c.val⟩

theorem number_cases (c : ZMod 3) : c = 0 ∨ c = 1 ∨ c = 2 := by
  revert c
  decide

@[simp] theorem atRest_zero : atRest 0 = ⟨.state0, 0⟩ := rfl

@[simp] theorem atRest_one : atRest 1 = ⟨.state1, 1⟩ := rfl

@[simp] theorem atRest_two : atRest 2 = ⟨.state2, 2⟩ := rfl

@[simp] theorem waitState_zero : waitState 0 = .state0_wait := rfl

@[simp] theorem waitState_one : waitState 1 = .state1_wait := rfl

@[simp] theorem waitState_two : waitState 2 = .state2_wait := rfl

variable {k : BitVec 32} {e : EnDraw} (c : ZMod 3)

/-- Without a key the menu rests. -/
theorem step_rest (hn : navKey k = false) (he : enterKey k = false) :
    (atRest c).step false true k = atRest c := by
  rw [navKey_eq, Bool.or_eq_false_iff] at hn
  rcases number_cases c with rfl | rfl | rfl <;> simp [step, next, rest, hn.1, hn.2, he]

/-- Down it waits in the state of its own number. -/
theorem step_down (hd : downKey k = true) :
    ((atRest c).step false true k).state = waitState c := by
  rcases number_cases c with rfl | rfl | rfl <;> simp [step, next, rest, hd]

/-- Up it waits in the state of the next number. -/
theorem step_up (hu : upKey k = true) :
    ((atRest c).step false true k).state = waitState (c + 1) := by
  have hd : downKey k = false := by
    by_contra h
    rw [upKey_of_downKey (Bool.not_eq_false _ ▸ h)] at hu
    cases hu
  rcases number_cases c with rfl | rfl | rfl
  · simp [step, next, rest, hd, hu]
  · simp [step, next, rest, hd, hu, show (1 + 1 : ZMod 3) = 2 from rfl]
  · simp [step, next, rest, hd, hu, show (2 + 1 : ZMod 3) = 0 from rfl]

/-- A confirm key ends the menu. -/
theorem step_confirm (he : enterKey k = true) :
    (atRest c).step false true k = ⟨.done_state, (atRest c).enNum⟩ := by
  have hn := navKey_of_enterKey he
  rw [navKey_eq, Bool.or_eq_false_iff] at hn
  rcases number_cases c with rfl | rfl | rfl <;> simp [step, next, rest, hn.1, hn.2, he]

/-- A wait state is held by the navigation keys. -/
theorem step_hold (h : e.state = waitState c) (hn : navKey k = true) :
    (e.step false true k).state = waitState c := by
  rcases number_cases c with rfl | rfl | rfl <;>
    simp only [waitState_zero, waitState_one, waitState_two] at h <;>
    simp [step, next, wait, h, hn]

/-- It is left for the number after it. -/
theorem step_release (h : e.state = waitState c) (hn : navKey k = false) :
    e.step false true k = atRest (c + 1) := by
  rcases number_cases c with rfl | rfl | rfl <;>
    simp only [waitState_zero, waitState_one, waitState_two] at h
  · simp [step, next, wait, h, hn]
  · simp [step, next, wait, h, hn, show (1 + 1 : ZMod 3) = 2 from rfl]
  · simp [step, next, wait, h, hn, show (2 + 1 : ZMod 3) = 0 from rfl]

/-- The menu shows the counter: at rest at the number, or waiting to rest there. -/
def Shows (m : Cursor) (e : EnDraw) : Prop :=
  m.held = false ∧ e = atRest m.number ∨ m.held = true ∧ e.state = waitState (m.number - 1)

/-- **The menu simulates the counter** on samples that are no confirm keys. -/
theorem Shows.step {m : Cursor} (h : Shows m e) (he : enterKey k = false) :
    Shows (m.sample k) (e.step false true k) := by
  obtain ⟨c, held⟩ := m
  rcases h with ⟨rfl, rfl⟩ | ⟨rfl, h⟩
  · cases hn : navKey k with
    | false =>
      refine Or.inl ⟨by simp [Cursor.sample, hn], ?_⟩
      rw [step_rest c hn he]
      simp [Cursor.sample, hn]
    | true =>
      right
      cases hd : downKey k with
      | true =>
        refine ⟨by simp [Cursor.sample, hn], ?_⟩
        rw [step_down c hd]
        simp [Cursor.sample, hn, hd]
      | false =>
        have hu : upKey k = true := by
          rwa [navKey_eq, hd, Bool.false_or] at hn
        refine ⟨by simp [Cursor.sample, hn], ?_⟩
        rw [step_up c hu]
        have hc : c + 1 = c - 1 - 1 := by
          revert c
          decide
        simp [Cursor.sample, hn, hd, hc]
  · cases hn : navKey k with
    | false =>
      refine Or.inl ⟨by simp [Cursor.sample, hn], ?_⟩
      rw [step_release _ h hn]
      simp [Cursor.sample]
    | true =>
      refine Or.inr ⟨by simp [Cursor.sample, hn], ?_⟩
      rw [step_hold _ h hn]
      simp [Cursor.sample]

/-- The menu after a stream of keys sampled with `en_state` high. -/
def sampled (e : EnDraw) (ks : List (BitVec 32)) : EnDraw :=
  ks.foldl (fun e k => e.step false true k) e

theorem Shows.sampled {m : Cursor} (h : Shows m e) {ks : List (BitVec 32)}
    (he : ∀ k ∈ ks, enterKey k = false) : Shows (ks.foldl Cursor.sample m) (e.sampled ks) := by
  induction ks generalizing m e with
  | nil => exact h
  | cons k ks ih =>
    exact ih (h.step (he k List.mem_cons_self)) fun j hj => he j (List.mem_cons_of_mem k hj)

/-- The menu after a stream of samples of `en_state` and the keys, without a reset. -/
def after (e : EnDraw) (is : List (Bool × BitVec 32)) : EnDraw :=
  is.foldl (fun e i => e.step false i.1 i.2) e

theorem after_done (h : e.state = .done_state) (is : List (Bool × BitVec 32)) : e.after is = e := by
  induction is with
  | nil => rfl
  | cons i is ih => rw [after, List.foldl_cons, step_done h]; exact ih

/-- The menu is over, and the number is `c`. -/
structure Done (c : ZMod 3) (e : EnDraw) : Prop where
  state : e.state = .done_state
  chosen : e.chosen = true
  enNum : e.enNum = BitVec.ofNat 4 c.val

/-- **The menu counts modulo 3.**  After a reset and a stream of keys without a confirm key, whose
last sample shows no navigation key, it rests at the number of presses down less those up; a confirm
key then ends it, and the number is kept whatever is sampled later. -/
theorem menu_counts (e₀ : EnDraw) (en₀ : Bool) (k₀ : BitVec 32) (ks : List (BitVec 32))
    (hc : ∀ k ∈ ks, enterKey k = false) (hlast : ∀ k ∈ ks.getLast?, navKey k = false) :
    (e₀.step true en₀ k₀).sampled ks = atRest (downs ks - ups ks) ∧
      ∀ k, enterKey k = true → ∀ is, Done (downs ks - ups ks)
        ((((e₀.step true en₀ k₀).sampled ks).step false true k).after is) := by
  have hrest : (e₀.step true en₀ k₀).sampled ks = atRest (downs ks - ups ks) := by
    have hstart : Shows ⟨0, false⟩ (e₀.step true en₀ k₀) := Or.inl ⟨rfl, rfl⟩
    have hheld : (ks.foldl Cursor.sample ⟨0, false⟩).held = false := by
      rw [Cursor.held_foldl]
      cases hk : ks.getLast? with
      | none => rfl
      | some k => exact hlast k hk
    rcases hstart.sampled hc with ⟨-, h⟩ | ⟨h, -⟩
    · rw [h, Cursor.number_foldl, zero_add]
      rfl
    · rw [hheld] at h
      cases h
  refine ⟨hrest, fun k hk is => ?_⟩
  rw [hrest, step_confirm _ hk, after_done rfl]
  exact ⟨rfl, rfl, rfl⟩

/-- Down, held for two samples, and up again. -/
theorem menu_counts_down_up :
    ((⟨.state2, 2⟩ : EnDraw).step true false 0).sampled [0x51, 0x51, 0, 0x1A, 0] =
        atRest (downs [0x51, 0x51, 0, 0x1A, 0] - ups [0x51, 0x51, 0, 0x1A, 0]) ∧
      ∀ k, enterKey k = true → ∀ is,
        Done (downs [0x51, 0x51, 0, 0x1A, 0] - ups [0x51, 0x51, 0, 0x1A, 0])
          (((((⟨.state2, 2⟩ : EnDraw).step true false 0).sampled
            [0x51, 0x51, 0, 0x1A, 0]).step false true k).after is) := by
  refine menu_counts _ _ _ _ (fun k hk => ?_) (fun k hk => ?_)
  · simp only [List.mem_cons, List.not_mem_nil, or_false] at hk
    rcases hk with rfl | rfl | rfl | rfl | rfl <;> rfl
  · obtain rfl : 0 = k := Option.some.inj hk
    rfl

end EnDraw

end TankBattle
