import Mathlib.Data.Nat.Count
import Mathlib.Tactic

/-!
# Synchronous machines

A clocked design is a step function `step : ι → σ → σ`: what one clock edge does to the registers
`σ` when the pins show `ι`.  This file is about such machines in general.

* `Run step Start`: an infinite run, with the equation of every edge as a field;
* `Run.invariant`, `Run.invariant_until`: what one edge preserves holds in every cycle;
* `Run.feed`, `Run.feedback`: the runs on given inputs, and on inputs that depend on the registers;
* `Run.eq_of_eq`, `Run.state_add`: a run is determined by one of its states and the inputs after it;
* `Run.override`: the run with other inputs from some cycle on;
* `rearmed_before`, `rearmed_between`: an event that disarms itself cannot happen twice without a
  rearming;
* `since_succ_iff`: an event since a condition last failed;
* `spans`: what is shown in a stretch of cycles, and how long;
* `count_or_add_count_and`, `count_le_count`: counting the cycles of two events;
* `count_mul_le`, `le_count_mul`: counting events by a countdown to the next one.
-/

namespace Sync

variable {σ ι : Type*}

/-- An infinite run: the registers and the pins in every cycle, tied by the step function. -/
structure Run (step : ι → σ → σ) (Start : σ → Prop) where
  state : ℕ → σ
  input : ℕ → ι
  start : Start (state 0)
  succ : ∀ n, state (n + 1) = step (input n) (state n)

namespace Run

variable {step : ι → σ → σ} {Start : σ → Prop}

/-- What holds at the start and is preserved by every edge holds in every cycle. -/
theorem invariant (R : Run step Start) {P : σ → Prop} (h0 : ∀ s, Start s → P s)
    (hs : ∀ i s, P s → P (step i s)) (n : ℕ) : P (R.state n) := by
  induction n with
  | zero => exact h0 _ R.start
  | succ n ih => rw [R.succ]; exact hs _ _ ih

/-- An invariant that the edges of this run preserve on a stretch of cycles `m, …, k`. -/
theorem invariant_until (R : Run step Start) {P : σ → Prop} {m k : ℕ} (hm : P (R.state m))
    (hs : ∀ n, m ≤ n → n < k → P (R.state n) → P (step (R.input n) (R.state n))) {n : ℕ}
    (hmn : m ≤ n) (hnk : n ≤ k) : P (R.state n) := by
  induction n, hmn using Nat.le_induction with
  | base => exact hm
  | succ n hmn ih => rw [R.succ]; exact hs n hmn (by omega) (ih (by omega))

/-- The states of the run that starts in `s` and is fed `f`. -/
def states (step : ι → σ → σ) (f : ℕ → ι) (s : σ) : ℕ → σ
  | 0 => s
  | n + 1 => step (f n) (states step f s n)

/-- What every edge preserves holds in all states that follow. -/
theorem states_invariant {P : σ → Prop} (f : ℕ → ι) {s : σ} (h : P s)
    (hs : ∀ i s, P s → P (step i s)) (n : ℕ) : P (states step f s n) := by
  induction n with
  | zero => exact h
  | succ n ih => exact hs _ _ ih

/-- The states of a machine that is fed back what `g` makes of its registers. -/
def loop (step : ι → σ → σ) (g : ℕ → σ → ι) (s : σ) : ℕ → σ
  | 0 => s
  | n + 1 => step (g n (loop step g s n)) (loop step g s n)

theorem states_loop (step : ι → σ → σ) (g : ℕ → σ → ι) (s : σ) (n : ℕ) :
    states step (fun k => g k (loop step g s k)) s n = loop step g s n := by
  induction n with
  | zero => rfl
  | succ n ih => rw [states, ih, loop]

/-- The run that starts in `s` and is fed back what `g` makes of the registers. -/
def feedback (step : ι → σ → σ) {s : σ} (hs : Start s) (g : ℕ → σ → ι) : Run step Start where
  state := loop step g s
  input n := g n (loop step g s n)
  start := hs
  succ _ := rfl

/-- The run that starts in `s` and is fed `f`. -/
def feed (step : ι → σ → σ) {s : σ} (hs : Start s) (f : ℕ → ι) : Run step Start where
  state := states step f s
  input := f
  start := hs
  succ _ := rfl

/-- From cycle `m` on a run is fed the rest of its inputs. -/
theorem state_add (R : Run step Start) (m n : ℕ) :
    R.state (m + n) = states step (fun k => R.input (m + k)) (R.state m) n := by
  induction n with
  | zero => rfl
  | succ n ih => rw [← Nat.add_assoc, R.succ, ih, states]

/-- Two runs that agree in cycles `a` and `b` and get the same inputs from there agree for ever. -/
theorem eq_of_eq (R S : Run step Start) {a b : ℕ} (h : R.state a = S.state b)
    (hi : ∀ k, R.input (a + k) = S.input (b + k)) (k : ℕ) :
    R.state (a + k) = S.state (b + k) := by
  rw [state_add, state_add, h, funext hi]

/-- The run that gets other inputs from cycle `n` on. -/
def override (R : Run step Start) (n : ℕ) (f : ℕ → ι) : Run step Start :=
  feed step R.start fun k => if k < n then R.input k else f k

theorem override_state (R : Run step Start) {n : ℕ} (f : ℕ → ι) {k : ℕ} (h : k ≤ n) :
    (R.override n f).state k = R.state k := by
  induction k with
  | zero => rfl
  | succ k ih =>
    have hk : (R.override n f).input k = R.input k := if_pos h
    rw [Run.succ, R.succ, ih (by omega), hk]

end Run

/-! ### Events in the cycles of a run -/

/-- A disarmed machine does not fire before it is rearmed. -/
theorem rearmed_before {armed fires rearm : ℕ → Prop} (harm : ∀ n, fires n → armed n)
    (hstay : ∀ n, ¬ armed n → ¬ rearm (n + 1) → ¬ armed (n + 1)) {m n : ℕ} (hmn : m ≤ n)
    (hm : ¬ armed m) (hn : fires n) : ∃ k, m < k ∧ k ≤ n ∧ rearm k := by
  by_contra hno
  push Not at hno
  have key : ∀ k, m ≤ k → k ≤ n → ¬ armed k := by
    intro k hk
    induction k, hk using Nat.le_induction with
    | base => exact fun _ => hm
    | succ k hk ih => exact fun hkn => hstay k (ih (by omega)) (hno (k + 1) (by omega) hkn)
  exact key n hmn le_rfl (harm n hn)

/-- An event that only an armed machine can cause and that disarms it does not happen twice
without a rearming in between. -/
theorem rearmed_between {armed fires rearm : ℕ → Prop} (harm : ∀ n, fires n → armed n)
    (hdis : ∀ n, fires n → ¬ armed (n + 1))
    (hstay : ∀ n, ¬ armed n → ¬ rearm (n + 1) → ¬ armed (n + 1)) {m n : ℕ} (hmn : m < n)
    (hm : fires m) (hn : fires n) : ∃ k, m < k ∧ k ≤ n ∧ rearm k := by
  obtain ⟨k, h1, h2, hk⟩ := rearmed_before harm hstay hmn (hdis m hm) hn
  exact ⟨k, by omega, h2, hk⟩

/-- Whether an event has occurred since a condition last failed, one cycle later. -/
theorem since_succ_iff (event keep : ℕ → Prop) (n : ℕ) :
    (∃ k < n + 1, event k ∧ ∀ j, k ≤ j → j < n + 1 → keep j) ↔
      keep n ∧ (event n ∨ ∃ k < n, event k ∧ ∀ j, k ≤ j → j < n → keep j) := by
  constructor
  · rintro ⟨k, hk, he, h⟩
    refine ⟨h n (by omega) (by omega), ?_⟩
    rcases Nat.lt_succ_iff_lt_or_eq.1 hk with hk | rfl
    · exact Or.inr ⟨k, hk, he, fun j h1 h2 => h j h1 (by omega)⟩
    · exact Or.inl he
  · rintro ⟨hn, he | ⟨k, hk, he, h⟩⟩
    · refine ⟨n, by omega, he, fun j h1 h2 => ?_⟩
      obtain rfl : j = n := by omega
      exact hn
    · refine ⟨k, by omega, he, fun j h1 h2 => ?_⟩
      rcases Nat.lt_succ_iff_lt_or_eq.1 h2 with h2 | rfl
      · exact h j h1 h2
      · exact hn

section Spans

variable {β γ : Type*} [DecidableEq β] {f : ℕ → Option β} {g : ℕ → γ} {a b : ℕ}

/-- The values of `g` since `f` has had its present value. -/
def stretch (f : ℕ → Option β) (g : ℕ → γ) : ℕ → List γ
  | 0 => [g 0]
  | n + 1 => if f (n + 1) = f n then stretch f g n ++ [g (n + 1)] else [g (n + 1)]

/-- What `f` shows in the spans that end in the `d` cycles after cycle `a`, each with the values
of `g` in its cycles. -/
def spans (f : ℕ → Option β) (g : ℕ → γ) (a : ℕ) : ℕ → List (β × List γ)
  | 0 => []
  | d + 1 => spans f g a d ++ if f (a + d + 1) = f (a + d) then [] else
      (f (a + d)).toList.map fun x => (x, stretch f g (a + d))

theorem spans_add (f : ℕ → Option β) (g : ℕ → γ) (a d e : ℕ) :
    spans f g a (d + e) = spans f g a d ++ spans f g (a + d) e := by
  induction e with
  | zero => simp [spans]
  | succ e ih => rw [← Nat.add_assoc, spans, ih, spans, List.append_assoc, Nat.add_assoc a d e]

/-- While the same is shown no span ends. -/
theorem spans_const {d : ℕ} (h : ∀ k, k ≤ d → f (a + k) = f a) : spans f g a d = [] := by
  induction d with
  | zero => rfl
  | succ d ih =>
    rw [spans, ih fun k hk => h k (by omega), Nat.add_assoc, h (d + 1) le_rfl, h d (by omega),
      if_pos rfl]
    rfl

/-- A stretch that begins in the cycle after `a`. -/
theorem stretch_eq {d : ℕ} (hne : f (a + 1) ≠ f a) (h : ∀ k, k ≤ d → f (a + 1 + k) = f (a + 1)) :
    stretch f g (a + 1 + d) = (List.range' (a + 1) (d + 1)).map g := by
  induction d with
  | zero => exact if_neg hne
  | succ d ih =>
    have hsame : f (a + 1 + d + 1) = f (a + 1 + d) :=
      (h (d + 1) le_rfl).trans (h d (Nat.le_succ d)).symm
    have hmap := ih fun k hk => h k (by omega)
    rw [← Nat.add_assoc, stretch, if_pos hsame, hmap, List.range'_1_concat (n := d + 1),
      List.map_append]
    rfl

/-- One span, from cycle `c` to cycle `d`. -/
theorem spans_single {x : β} {c d : ℕ} (hac : a < c) (hcd : c ≤ d) (hdb : d < b)
    (h : ∀ n, a ≤ n → n ≤ b → f n = if c ≤ n ∧ n ≤ d then some x else none) :
    spans f g a (b - a) = [(x, (List.range' c (d + 1 - c)).map g)] := by
  have hquiet : spans f g a (c - 1 - a) = [] := spans_const fun k hk => by
    rw [h (a + k) (by omega) (by omega), h a le_rfl (by omega), if_neg (by omega),
      if_neg (by omega)]
  have hlow : f (c - 1) = none := by rw [h _ (by omega) (by omega), if_neg (by omega)]
  have hin : ∀ k, k ≤ d - c → f (c + k) = some x := fun k hk => by
    rw [h (c + k) (by omega) (by omega), if_pos (by omega)]
  have hfirst : f c = some x := hin 0 (Nat.zero_le _)
  have hhigh : spans f g c (d - c) = [] := spans_const fun k hk => (hin k hk).trans hfirst.symm
  have hlast : f d = some x := by rw [h d (by omega) (by omega), if_pos (by omega)]
  have hend : f (d + 1) = none := by rw [h _ (by omega) (by omega), if_neg (by omega)]
  have hafter : spans f g (d + 1) (b - (d + 1)) = [] := spans_const fun k hk => by
    rw [h (d + 1 + k) (by omega) (by omega), hend, if_neg (by omega)]
  have hstretch : stretch f g d = (List.range' c (d + 1 - c)).map g := by
    obtain ⟨m, rfl⟩ : ∃ m, c = m + 1 := ⟨c - 1, by omega⟩
    obtain ⟨j, rfl⟩ := Nat.exists_eq_add_of_le hcd
    rw [show m + 1 + j + 1 - (m + 1) = j + 1 by omega]
    refine stretch_eq ?_ fun k hk => (hin k (by omega)).trans hfirst.symm
    rw [hfirst, show f m = none from hlow]
    exact nofun
  rw [show b - a = c - 1 - a + (1 + (d - c + (1 + (b - (d + 1))))) by omega, spans_add, hquiet,
    show a + (c - 1 - a) = c - 1 by omega, spans_add, show c - 1 + 1 = c by omega, spans_add,
    hhigh, show c + (d - c) = d by omega, spans_add, hafter]
  simp [spans, hlow, hlast, hend, hstretch]

end Spans

/-- Counting two events: the cycles with either and the cycles with both. -/
theorem count_or_add_count_and (p q : ℕ → Prop) [DecidablePred p] [DecidablePred q] (n : ℕ) :
    Nat.count (fun k => p k ∨ q k) n + Nat.count (fun k => p k ∧ q k) n =
      Nat.count p n + Nat.count q n := by
  induction n with
  | zero => simp
  | succ n ih =>
    simp only [Nat.count_succ]
    by_cases hp : p n <;> by_cases hq : q n <;> simp only [hp, hq] <;> simp <;> omega

/-- Steps that are made for a reason, and before some time, are no more than there are reasons. -/
theorem count_le_count {p q : ℕ → Prop} [DecidablePred p] [DecidablePred q] {d L : ℕ}
    (h : ∀ k < d, p k → k < L ∧ q k) : Nat.count p d ≤ Nat.count q (min d L) := by
  induction d with
  | zero => simp
  | succ d ih =>
    have ih := ih fun k hk => h k (by omega)
    rw [Nat.count_succ]
    by_cases hp : p d
    · obtain ⟨hL, hq⟩ := h d (by omega) hp
      rw [Nat.min_eq_left hL.le] at ih
      rw [if_pos hp, Nat.min_eq_left hL, Nat.count_succ, if_pos hq]
      omega
    · rw [if_neg hp]
      exact ih.trans (Nat.count_monotone q (by omega))

section Countdown

variable {p : ℕ → Prop} [DecidablePred p] {v : ℕ → ℕ} {g d : ℕ}

/-- Events that wait for a countdown, which falls by one at most and is set by every event, are
rare. -/
theorem count_mul_le (hno : ∀ n < d, ¬ p n → v n ≤ v (n + 1) + 1)
    (hyes : ∀ n < d, p n → v n = 0 ∧ g ≤ v (n + 1) + 1) : g * Nat.count p d ≤ d + v d := by
  induction d with
  | zero => simp
  | succ d ih =>
    have ih := ih (fun n hn => hno n (by omega)) fun n hn => hyes n (by omega)
    rw [Nat.count_succ]
    by_cases hp : p d
    · obtain ⟨hzero, hset⟩ := hyes d (by omega) hp
      rw [if_pos hp, Nat.mul_succ]
      omega
    · have hfall := hno d (by omega) hp
      rw [if_neg hp, Nat.add_zero (Nat.count p d)]
      omega

/-- Events that come when a countdown, which falls by one at least and is set by events only, is
over, are frequent. -/
theorem le_count_mul (hno : ∀ n < d, ¬ p n → v (n + 1) + 1 ≤ v n)
    (hyes : ∀ n < d, p n → v (n + 1) + 1 ≤ g) : d + v d ≤ g * Nat.count p d + v 0 := by
  induction d with
  | zero => simp
  | succ d ih =>
    have ih := ih (fun n hn => hno n (by omega)) fun n hn => hyes n (by omega)
    rw [Nat.count_succ]
    by_cases hp : p d
    · have hset := hyes d (by omega) hp
      rw [if_pos hp, Nat.mul_succ]
      omega
    · have hfall := hno d (by omega) hp
      rw [if_neg hp, Nat.add_zero (Nat.count p d)]
      omega

end Countdown

end Sync
