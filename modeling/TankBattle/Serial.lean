import Mathlib.Data.Nat.Count
import Mathlib.Tactic

/-!
# Serial lines with a frame sync

A line of data with a bit clock and a frame sync: every rise of the sync begins a frame, and every
rise of the clock brings a bit.

* `Rises`, `rises`: where a line rises, and how often it does so in a stretch of cycles;
* `sampled`: the bits that the clock brings in a stretch of cycles;
* `exists_last`, `rises_not`: the last rise, and rises and falls taking turns;
* `frames`, `received`: what a receiver has got;
* `received_eq`: frames that are right one by one are received in their order.
-/

namespace Serial

/-- A line rises at the end of cycle `n`. -/
def Rises (f : ℕ → Bool) (n : ℕ) : Prop := f n = false ∧ f (n + 1) = true

instance (f : ℕ → Bool) : DecidablePred (Rises f) := fun _ => inferInstanceAs (Decidable (_ ∧ _))

/-- How often a line rises in the `d` cycles from cycle `a` on. -/
def rises (f : ℕ → Bool) (a d : ℕ) : ℕ := Nat.count (fun k => Rises f (a + k)) d

/-- The bits that a clock brings in the `d` cycles from cycle `a` on. -/
def sampled (clk dat : ℕ → Bool) (a : ℕ) : ℕ → List Bool
  | 0 => []
  | d + 1 => sampled clk dat a d ++ if Rises clk (a + d) then [dat (a + d + 1)] else []

section Rises

variable {f clk dat : ℕ → Bool} {a d e n : ℕ}

@[simp] theorem rises_zero (f : ℕ → Bool) (a : ℕ) : rises f a 0 = 0 := rfl

theorem rises_succ (f : ℕ → Bool) (a d : ℕ) :
    rises f a (d + 1) = rises f a d + if Rises f (a + d) then 1 else 0 :=
  Nat.count_succ _ _

theorem rises_mono (h : d ≤ e) : rises f a d ≤ rises f a e := Nat.count_monotone _ h

theorem rises_congr {g : ℕ → Bool} {b : ℕ} (h : ∀ k ≤ d, f (a + k) = g (b + k)) :
    rises f a d = rises g b d := by
  induction d with
  | zero => rfl
  | succ d ih =>
    rw [rises_succ, rises_succ, ih fun k hk => h k (by omega)]
    simp only [Rises, h d (by omega), Nat.add_assoc, h (d + 1) le_rfl]

theorem rises_eq_count {p : ℕ → Prop} [DecidablePred p] (h : ∀ k < d, Rises f (a + k) ↔ p k) :
    rises f a d = Nat.count p d := by
  induction d with
  | zero => rfl
  | succ d ih =>
    rw [rises_succ, Nat.count_succ, ih fun k hk => h k (by omega)]
    exact congrArg _ (if_congr (h d (by omega)) rfl rfl)

/-- A line that does not rise. -/
theorem rises_eq_zero (h : ∀ k < d, ¬ Rises f (a + k)) : rises f a d = 0 := by
  induction d with
  | zero => rfl
  | succ d ih => rw [rises_succ, ih fun k hk => h k (by omega), if_neg (h d (by omega))]

theorem rises_pos (h : Rises f a) (hd : 0 < d) : 0 < rises f a d := by
  have hone : rises f a 1 = 1 := by rw [rises_succ, rises_zero, Nat.add_zero, if_pos h]
  have hle : rises f a 1 ≤ rises f a d := rises_mono hd
  omega

/-- Where a line has risen, there is a rise. -/
theorem exists_rises (h : 0 < rises f a d) : ∃ k < d, Rises f (a + k) := by
  by_contra hno
  push Not at hno
  rw [rises_eq_zero hno] at h
  exact absurd h (by decide)

/-- A line that has risen has a last rise. -/
theorem exists_last (h : 0 < rises f a d) : ∃ i e, d = i + 1 + e ∧ Rises f (a + i) ∧
    (∀ k < e, ¬ Rises f (a + i + 1 + k)) ∧ rises f a d = rises f a i + 1 := by
  induction d with
  | zero => exact absurd h (by simp)
  | succ d ih =>
    by_cases hd : Rises f (a + d)
    · exact ⟨d, 0, rfl, hd, by simp, by rw [rises_succ, if_pos hd]⟩
    · rw [rises_succ, if_neg hd, Nat.add_zero] at h ⊢
      obtain ⟨i, e, rfl, hi, hquiet, hcount⟩ := ih h
      refine ⟨i, e + 1, rfl, hi, fun k hk => ?_, hcount⟩
      rcases Nat.lt_succ_iff_lt_or_eq.1 hk with hk | rfl
      · exact hquiet k hk
      · rwa [show a + (i + 1 + k) = a + i + 1 + k by omega] at hd

/-- **Rises and falls** take turns: a line that was low at first has fallen as often as it has
risen, but for the last time if it is high. -/
theorem rises_not (h : f a = false) (d : ℕ) :
    rises (fun n => !f n) a d + (f (a + d)).toNat = rises f a d := by
  induction d with
  | zero => simp [h]
  | succ d ih =>
    rw [rises_succ, rises_succ, ← ih]
    cases h0 : f (a + d) <;> cases h1 : f (a + d + 1) <;> simp [Rises, h0, h1]

/-- **Bit by bit**: a clock brings the bits of `w` where at its rise number `i` the line shows
`w i`. -/
theorem sampled_eq {w : ℕ → Bool}
    (h : ∀ k < d, Rises clk (a + k) → dat (a + k + 1) = w (rises clk a k)) :
    sampled clk dat a d = (List.range (rises clk a d)).map w := by
  induction d with
  | zero => rfl
  | succ d ih =>
    rw [sampled, ih fun k hk => h k (by omega), rises_succ]
    by_cases hd : Rises clk (a + d)
    · rw [if_pos hd, if_pos hd, h d (by omega) hd, List.range_succ, List.map_append]
      rfl
    · rw [if_neg hd, if_neg hd, List.append_nil, Nat.add_zero]

end Rises

/-! ### Receiving -/

/-- The frames that are complete after `d` cycles from cycle `a` on, and the one that is under
way. -/
def frames (sync clk dat : ℕ → Bool) (a : ℕ) : ℕ → List (List Bool) × Option (List Bool)
  | 0 => ([], none)
  | d + 1 =>
    let (done, cur) := frames sync clk dat a d
    if Rises sync (a + d) then (done ++ cur.toList, some [])
    else if Rises clk (a + d) then (done, cur.map (· ++ [dat (a + d + 1)]))
    else (done, cur)

/-- The complete frames, of `w` bits each. -/
def received (sync clk dat : ℕ → Bool) (w a d : ℕ) : List (List Bool) :=
  (frames sync clk dat a d).1.map (List.take w)

section Received

variable {sync clk dat : ℕ → Bool} {a d w : ℕ} {word : ℕ → List Bool}

theorem frames_succ (sync clk dat : ℕ → Bool) (a d : ℕ) : frames sync clk dat a (d + 1) =
    if Rises sync (a + d) then
      ((frames sync clk dat a d).1 ++ (frames sync clk dat a d).2.toList, some [])
    else if Rises clk (a + d) then ((frames sync clk dat a d).1,
      (frames sync clk dat a d).2.map (· ++ [dat (a + d + 1)]))
    else frames sync clk dat a d := rfl

/-- Before the first sync nothing is received. -/
theorem frames_none (h : rises sync a d = 0) : frames sync clk dat a d = ([], none) := by
  induction d with
  | zero => rfl
  | succ d ih =>
    rw [rises_succ] at h
    have hd : ¬ Rises sync (a + d) := fun hd => by rw [if_pos hd] at h; omega
    rw [frames_succ, ih (by omega), if_neg hd]
    split_ifs <;> rfl

/-- The bits of the frame that is under way. -/
theorem frames_cur {i e : ℕ} (hi : Rises sync (a + i))
    (hquiet : ∀ k < e, ¬ Rises sync (a + i + 1 + k)) :
    frames sync clk dat a (i + 1 + e) = ((frames sync clk dat a i).1 ++
      (frames sync clk dat a i).2.toList, some (sampled clk dat (a + i + 1) e)) := by
  induction e with
  | zero => rw [Nat.add_zero, frames_succ, if_pos hi]; rfl
  | succ e ih =>
    have hat : a + (i + 1 + e) = a + i + 1 + e := by omega
    rw [← Nat.add_assoc, frames_succ, hat, if_neg (hquiet e (by omega)),
      ih fun k hk => hquiet k (by omega), sampled]
    split_ifs
    · rfl
    · rw [List.append_nil]

/-- **Frames that are right one by one** are received in their order; the last one is not complete
yet. -/
theorem received_eq (h : ∀ i e, i + 1 + e < d → Rises sync (a + i) →
      Rises sync (a + i + 1 + e) → (∀ k < e, ¬ Rises sync (a + i + 1 + k)) →
      (sampled clk dat (a + i + 1) e).take w = word (rises sync a i)) :
    received sync clk dat w a d = (List.range (rises sync a d - 1)).map word := by
  induction d using Nat.strong_induction_on with
  | _ d ih =>
    rcases Nat.eq_zero_or_pos (rises sync a d) with h0 | hpos
    · rw [received, frames_none h0, h0]
      rfl
    obtain ⟨i, e, rfl, hi, hquiet, hcount⟩ := exists_last hpos
    rw [received, frames_cur hi hquiet, hcount, Nat.add_sub_cancel, List.map_append, ← received,
      ih i (by omega) fun j k hk => h j k (by omega)]
    rcases Nat.eq_zero_or_pos (rises sync a i) with h0 | hpos
    · rw [frames_none h0, h0]
      rfl
    · -- the sync completes the frame before it
      obtain ⟨j, k, rfl, hj, hquiet, hcount⟩ := exists_last hpos
      rw [show a + (j + 1 + k) = a + j + 1 + k by omega] at hi
      rw [frames_cur hj hquiet, Option.toList_some, List.map_singleton,
        h j k (by omega) hj hi hquiet, hcount, Nat.add_sub_cancel, List.range_succ, List.map_append]
      rfl

end Received

end Serial
