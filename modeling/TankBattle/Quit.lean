import TankBattle.Menu

/-!
# Quitting

The quit key `14` ends the game in two places: `END` goes back to `BG` when it is the low byte of
the key code word, `Reset_h` is raised when it is the whole word.  Only the second one, or the
button, takes the menus back to their first states, and only at an edge of `VGA_CLK`.

* `MenusOpen`: a new mode and a new number of enemies can be chosen;
* `Stuck`: the menu states that a word held since the end screen leads to otherwise;
* `menus_open_iff`: which words, held from the end screen on, reopen the menus;
* `quitting`: the quit key together with another key.
-/

namespace TankBattle

open Sys

/-- A new mode and a new number of enemies can be chosen. -/
def Sys.MenusOpen (s : Sys) : Prop := s.selector = .OPM ∧ s.enDraw = ⟨.state0, 0⟩

instance (s : Sys) : Decidable s.MenusOpen := inferInstanceAs (Decidable (_ ∧ _))

/-- A mode is chosen, or the mode menu waits for the held navigation key. -/
def Stuck (k : BitVec 32) (s : SelectorState) : Prop :=
  s = .OPM_DONE ∨ s = .TPM_DONE ∨ s = .OPM_WAIT ∧ navKey k = true

section Step

variable {i : Pins} {s : Sys}

theorem menusOpen_iff (h : MenuOk s) : s.MenusOpen ↔ s.selector = .OPM :=
  ⟨fun ho => ho.1, fun ho => ⟨ho, h.idle (by rw [ho]; decide)⟩⟩

/-- Without an edge of `VGA_CLK` the mode menu stays. -/
theorem selector_step_of_not_vgaClk (hv : i.vgaClk = false) : (s.step i).selector = s.selector := by
  rw [step_selector, hv, if_neg Bool.false_ne_true]

theorem selector_step_of_resetH (hv : i.vgaClk = true) (hr : s.resetH i = true) :
    (s.step i).selector = .OPM := by
  rw [step_selector, if_pos hv, hr]
  rfl

theorem selector_step_of_vgaClk (hv : i.vgaClk = true) (hr : s.resetH i = false) :
    (s.step i).selector = s.selector.next i.keycode := by
  rw [step_selector, if_pos hv, hr]
  rfl

/-- The mode menu stays open under a word with neither a navigation nor a confirm key. -/
theorem next_OPM_iff (k : BitVec 32) :
    SelectorState.next k .OPM = .OPM ↔ navKey k = false ∧ enterKey k = false := by
  simp only [SelectorState.next]
  cases navKey k <;> cases enterKey k <;> simp

theorem stuck_next_OPM {k : BitVec 32} (h : ¬ (navKey k = false ∧ enterKey k = false)) :
    Stuck k (SelectorState.next k .OPM) := by
  unfold Stuck SelectorState.next
  cases hn : navKey k
  · cases he : enterKey k
    · exact absurd ⟨hn, he⟩ h
    · exact Or.inl rfl
  · exact Or.inr (Or.inr ⟨rfl, rfl⟩)

theorem Stuck.next {k : BitVec 32} {t : SelectorState} (h : Stuck k t) : Stuck k (t.next k) := by
  rcases h with rfl | rfl | ⟨rfl, hn⟩
  · exact Or.inl rfl
  · exact Or.inr (Or.inl rfl)
  · exact Or.inr (Or.inr ⟨by simp [SelectorState.next, hn], hn⟩)

theorem Stuck.ne_OPM {k : BitVec 32} {t : SelectorState} (h : Stuck k t) : t ≠ .OPM := by
  rcases h with rfl | rfl | ⟨rfl, -⟩ <;> decide

end Step

/-! ### Holding a word -/

/-- An edge of `VGA_CLK` with `Reset_h` high. -/
def MenuReset (R : Run) (n : ℕ) : Prop :=
  (R.input n).vgaClk = true ∧ (R.state n).resetH (R.input n) = true

/-- In cycle `j` the menus are reset, and no later edge of `VGA_CLK` before cycle `n` takes the word
`k` for a choice. -/
def Reopens (R : Run) (k : BitVec 32) (j n : ℕ) : Prop :=
  MenuReset R j ∧ ∀ l, j < l → l < n → (R.input l).vgaClk = true →
    (R.state l).resetH (R.input l) = true ∨ navKey k = false ∧ enterKey k = false

theorem next_END {i : Pins} {s : Sys} (h : s.nextState i = .END) :
    s.state = .GAME1 ∨ s.state = .GAME2 ∨ s.state = .END := by
  cases hs : s.state <;> simp only [nextState, hs] at h <;> (try split_ifs at h) <;> simp_all

/-- The end screen is entered from a game and keeps its mode. -/
theorem selector_of_END (R : Run) (n : ℕ) (h : (R.state n).state = .END) :
    (R.state n).selector = .OPM_DONE ∨ (R.state n).selector = .TPM_DONE := by
  induction n with
  | zero =>
    rw [state_zero] at h
    cases h
  | succ n ih =>
    rw [R.succ] at h ⊢
    have hr : (R.state n).resetH (R.input n) = false := not_resetH_of_state (by rw [h]; decide)
    have hsel : (R.state n).selector = .OPM_DONE ∨ (R.state n).selector = .TPM_DONE := by
      rcases next_END ((state_of_not_resetH hr).symm.trans h) with hs | hs | hs
      · exact Or.inl ((menuOk_run R n).one (by simp [hs]))
      · exact Or.inr ((menuOk_run R n).two (by simp [hs]))
      · exact ih hs
    rwa [selector_step_done hr hsel]

section Hold

variable (R : Run) {m n : ℕ} {k : BitVec 32}

/-- One more cycle: the menus are reset in it, or it must not choose. -/
theorem exists_reopens_succ (hmn : m ≤ n) :
    (∃ j, m ≤ j ∧ j < n + 1 ∧ Reopens R k j (n + 1)) ↔
      MenuReset R n ∨ (∃ j, m ≤ j ∧ j < n ∧ Reopens R k j n) ∧
        ((R.input n).vgaClk = true → (R.state n).resetH (R.input n) = true ∨
          navKey k = false ∧ enterKey k = false) := by
  constructor
  · rintro ⟨j, hmj, hjn, hr, hl⟩
    rcases Nat.lt_succ_iff_lt_or_eq.1 hjn with hj | rfl
    · exact Or.inr ⟨⟨j, hmj, hj, hr, fun l h1 h2 => hl l h1 (by omega)⟩, hl n hj (by omega)⟩
    · exact Or.inl hr
  · rintro (hr | ⟨⟨j, hmj, hj, hr, hl⟩, hn⟩)
    · exact ⟨n, hmn, by omega, hr, fun l h1 h2 => by omega⟩
    · refine ⟨j, hmj, by omega, hr, fun l h1 h2 => ?_⟩
      rcases Nat.lt_succ_iff_lt_or_eq.1 h2 with h | rfl
      · exact hl l h1 h
      · exact hn

/-- While a word is held, the menus are open or stuck, and they are open if and only if some cycle
has reopened them. -/
theorem selector_hold (hend : (R.state m).state = .END) (hmn : m ≤ n)
    (hk : ∀ j, m ≤ j → j < n → (R.input j).keycode = k) :
    ((R.state n).selector = .OPM ↔ ∃ j, m ≤ j ∧ j < n ∧ Reopens R k j n) ∧
      ((R.state n).selector = .OPM ∨ Stuck k (R.state n).selector) := by
  induction n, hmn using Nat.le_induction with
  | base =>
    have hs : Stuck k (R.state m).selector :=
      (selector_of_END R m hend).elim Or.inl fun h => Or.inr (Or.inl h)
    refine ⟨iff_of_false hs.ne_OPM ?_, Or.inr hs⟩
    rintro ⟨j, h1, h2, -⟩
    omega
  | succ n hmn ih =>
    obtain ⟨hiff, hor⟩ := ih fun j h1 h2 => hk j h1 (by omega)
    rw [exists_reopens_succ R hmn, ← hiff, R.succ]
    cases hv : (R.input n).vgaClk with
    | false =>
      rw [selector_step_of_not_vgaClk hv]
      exact ⟨by simp [MenuReset, hv], hor⟩
    | true =>
      cases hr : (R.state n).resetH (R.input n) with
      | true =>
        rw [selector_step_of_resetH hv hr]
        exact ⟨by simp [MenuReset, hv, hr], Or.inl rfl⟩
      | false =>
        rw [selector_step_of_vgaClk hv hr, hk n hmn (by omega)]
        rcases hor with ho | hs
        · rw [ho, next_OPM_iff]
          refine ⟨by simp [MenuReset, hr], ?_⟩
          by_cases hq : navKey k = false ∧ enterKey k = false
          · exact Or.inl hq
          · exact Or.inr (stuck_next_OPM hq)
        · refine ⟨iff_of_false hs.next.ne_OPM ?_, Or.inr hs.next⟩
          simp [MenuReset, hr, hs.ne_OPM]

end Hold

/-- **A word held from the end screen on reopens the menus** if and only if `VGA_CLK` has an edge
while `Reset_h` is high, because the word is exactly the quit key or by the button, and none after
it at which the word chooses something. -/
theorem menus_open_iff (R : Run) {m n : ℕ} {k : BitVec 32} (hend : (R.state m).state = .END)
    (hmn : m ≤ n) (hk : ∀ j, m ≤ j → j < n → (R.input j).keycode = k) :
    (R.state n).MenusOpen ↔ ∃ j, m ≤ j ∧ j < n ∧ Reopens R k j n := by
  rw [menusOpen_iff (menuOk_run R n)]
  exact (selector_hold R hend hmn hk).1

/-- A game without enemies, which is over at once, and then the quit key together with another
key. -/
def quitting : Run :=
  runOf fun n => press ([0x28, 0x28, 0, 0x28, 0x28, 0, 0, 0].getD n 0x0414) false

theorem menus_open_iff_quitting :
    (quitting.state 20).MenusOpen ↔ ∃ j, 8 ≤ j ∧ j < 20 ∧ Reopens quitting 0x0414 j 20 :=
  menus_open_iff quitting (by decide +kernel) (by decide) fun j h1 h2 => by
    interval_cases j <;> rfl

/-- With another key down the quit key leads from the end screen back to the first page, where the
old mode is still chosen. -/
theorem quitting_stuck :
    ¬ ∀ (R : Run) (m n : ℕ) (k : BitVec 32), (R.state m).state = .END →
      (R.state (m + 1)).state = .BG → (∀ j, m ≤ j → j < n → (R.input j).keycode = k) →
      (∃ j, m ≤ j ∧ j < n ∧ (R.input j).vgaClk = true) → (R.state n).MenusOpen := by
  intro h
  have hopen := h quitting 8 9 0x0414 (by decide +kernel) (by decide +kernel)
    (fun j h1 h2 => by interval_cases j; rfl) ⟨8, le_rfl, by decide, rfl⟩
  have hstuck : ¬ (quitting.state 9).MenusOpen := by decide +kernel
  exact hstuck hopen

end TankBattle
