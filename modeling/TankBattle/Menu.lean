import TankBattle.Lab8

/-!
# The main machine and the menus

`lab8`, `tanks_selector` and `en_draw` hand over to one another through level signals and the raw
key codes, on two clocks.

* `next_GAME1`, ...: from where the main machine enters each of its states;
* `MenuOk`: the joint invariant of the three machines, the phase of the main machine says where
  the menus are;
* `menus_agree`: it holds in every cycle of every run, and the number of enemies is frozen from
  `EN_WAIT` to the next reset;
* `game_induction`: what a reset cycle establishes and a game preserves holds during the game;
* `twoPlayerKeys`, `twoEnemyKeys`: key sequences that lead through the menus.
-/

namespace TankBattle

open Sys

section Phases

variable {i : Pins} {s : Sys}

theorem onePlayerMode_iff : s.onePlayerMode = true ↔ s.selector = .OPM_DONE := by
  simp [onePlayerMode, SelectorState.onePlayerMode]

theorem twoPlayersMode_iff : s.twoPlayersMode = true ↔ s.selector = .TPM_DONE := by
  simp [twoPlayersMode, SelectorState.twoPlayersMode]

theorem chosen_iff : s.enDraw.chosen = true ↔ s.enDraw.state = .done_state := by
  simp [EnDraw.chosen]

theorem state_of_resetH (hr : s.resetH i = true) : (s.step i).state = .BG := by
  rw [step_state, if_pos hr]

theorem state_of_not_resetH (hr : s.resetH i = false) : (s.step i).state = s.nextState i := by
  rw [step_state, hr, if_neg Bool.false_ne_true]

/-- The main machine leaves `BG` by an edge without reset only. -/
theorem not_resetH_of_state (h : (s.step i).state ≠ .BG) : s.resetH i = false := by
  by_contra hr
  exact h (state_of_resetH (by simpa using hr))

theorem next_BG_WAIT (h : s.nextState i = .BG_WAIT) :
    s.onePlayerMode = true ∨ s.twoPlayersMode = true := by
  cases hs : s.state <;> simp only [nextState, hs] at h <;> (try split_ifs at h) <;> simp_all

theorem next_EN (h : s.nextState i = .EN) :
    s.state = .BG_WAIT ∧ s.onePlayerMode = true ∨ s.state = .EN := by
  cases hs : s.state <;> simp only [nextState, hs] at h <;> (try split_ifs at h) <;> simp_all

theorem next_EN_WAIT (h : s.nextState i = .EN_WAIT) :
    s.state = .EN ∧ s.enDraw.chosen = true ∨ s.state = .EN_WAIT := by
  cases hs : s.state <;> simp only [nextState, hs] at h <;> (try split_ifs at h) <;> simp_all

theorem next_GAME_RST1 (h : s.nextState i = .GAME_RST1) :
    s.state = .EN_WAIT ∨ s.state = .GAME_RST1 := by
  cases hs : s.state <;> simp only [nextState, hs] at h <;> (try split_ifs at h) <;> simp_all

theorem next_GAME_RST2 (h : s.nextState i = .GAME_RST2) :
    s.state = .BG_WAIT ∧ s.onePlayerMode = false ∨ s.state = .GAME_RST2 := by
  cases hs : s.state <;> simp only [nextState, hs] at h <;> (try split_ifs at h) <;> simp_all

/-- `GAME1` is entered from `GAME_RST1` and kept while both sides have lives. -/
theorem next_GAME1 (h : s.nextState i = .GAME1) :
    s.state = .GAME_RST1 ∨
      s.state = .GAME1 ∧ s.enNum ≠ 0 ∧ (s.enNum = 1 → s.playerLives ≠ 0 ∧ s.enemy1Lives ≠ 0) ∧
        (s.enNum = 2 → s.playerLives ≠ 0 ∧
          s.enemy1Lives.setWidth 32 + s.enemy2Lives.setWidth 32 ≠ 0#32) := by
  cases hs : s.state <;> simp only [nextState, hs] at h <;> (try split_ifs at h) <;> simp_all
  tauto

/-- `GAME2` is entered from `GAME_RST2` and kept while both players have lives. -/
theorem next_GAME2 (h : s.nextState i = .GAME2) :
    s.state = .GAME_RST2 ∨ s.state = .GAME2 ∧ s.player1Lives ≠ 0 ∧ s.player2Lives ≠ 0 := by
  cases hs : s.state <;> simp only [nextState, hs] at h <;> (try split_ifs at h) <;> simp_all

end Phases

/-! ### The joint invariant -/

/-- The main machine and the two menus agree. -/
structure MenuOk (s : Sys) : Prop where
  wait : s.state = .BG_WAIT → s.selector = .OPM_DONE ∨ s.selector = .TPM_DONE
  one : s.state = .EN ∨ s.state = .EN_WAIT ∨ s.state = .GAME_RST1 ∨ s.state = .GAME1 →
    s.selector = .OPM_DONE
  two : s.state = .GAME_RST2 ∨ s.state = .GAME2 → s.selector = .TPM_DONE
  done : s.state = .EN_WAIT ∨ s.state = .GAME_RST1 ∨ s.state = .GAME1 →
    s.enDraw.state = .done_state
  num : s.enNum = 0 ∨ s.enNum = 1 ∨ s.enNum = 2
  idle : s.selector ≠ .OPM_DONE → s.enDraw = ⟨.state0, 0⟩

/-- A mode, once chosen, stays until a reset that `VGA_CLK` sees. -/
theorem selector_step_done {i : Pins} {s : Sys} (hr : s.resetH i = false)
    (h : s.selector = .OPM_DONE ∨ s.selector = .TPM_DONE) : (s.step i).selector = s.selector := by
  rw [step_selector, hr]
  rcases h with h | h <;> simp [SelectorState.step, SelectorState.next, h]

/-- A number of enemies, once chosen, stays until a reset that `VGA_CLK` sees. -/
theorem enDraw_step_done {i : Pins} {s : Sys} (hr : s.resetH i = false)
    (h : s.enDraw.state = .done_state) : (s.step i).enDraw = s.enDraw := by
  rw [step_enDraw, hr, EnDraw.step_done h, ite_self]

/-- `en_draw` loads `en_num` with 0, 1 or 2 only. -/
theorem enDraw_step_num (reset enState : Bool) (keycode : BitVec 32) {e : EnDraw}
    (h : e.enNum = 0 ∨ e.enNum = 1 ∨ e.enNum = 2) :
    (e.step reset enState keycode).enNum = 0 ∨ (e.step reset enState keycode).enNum = 1 ∨
      (e.step reset enState keycode).enNum = 2 := by
  cases reset with
  | true => simp [EnDraw.step]
  | false =>
    simp only [EnDraw.step, EnDraw.next, Bool.false_eq_true, if_false]
    split
    case h_7 => exact h
    all_goals simp only [EnDraw.rest, EnDraw.wait]; split_ifs <;> simp

theorem menuOk_start {s : Sys} (h : Started s) : MenuOk s := by
  obtain ⟨i, t, hv, hr, rfl⟩ := h
  have hs := state_of_resetH hr
  have he : (t.step i).enDraw = ⟨.state0, 0⟩ := by simp [step_enDraw, hv, hr, EnDraw.step]
  constructor <;> simp [hs, he, enNum]

/-- `en_draw` waits in its first state until a one-player game is chosen. -/
theorem enDraw_step_idle {i : Pins} {s : Sys} (h : MenuOk s)
    (hs : (s.step i).selector ≠ .OPM_DONE) : (s.step i).enDraw = ⟨.state0, 0⟩ := by
  rw [step_selector] at hs
  rw [step_enDraw]
  cases hv : i.vgaClk with
  | false =>
    rw [hv] at hs
    exact h.idle hs
  | true =>
    cases hr : s.resetH i with
    | true => rfl
    | false =>
      have hsel : s.selector ≠ .OPM_DONE := by
        intro ho
        simp [hv, hr, ho, SelectorState.step, SelectorState.next] at hs
      have hen : s.enState = false := by
        simp only [enState, Bool.or_eq_false_iff, beq_eq_false_iff_ne]
        exact ⟨fun hs => hsel (h.one (by simp [hs])), fun hs => hsel (h.one (by simp [hs]))⟩
      simp [h.idle hsel, hen, EnDraw.step, EnDraw.next, EnDraw.rest]

theorem menuOk_step (i : Pins) (s : Sys) (h : MenuOk s) : MenuOk (s.step i) := by
  have hidle := enDraw_step_idle (i := i) h
  have hnum : (s.step i).enNum = 0 ∨ (s.step i).enNum = 1 ∨ (s.step i).enNum = 2 := by
    rw [enNum, step_enDraw]
    split
    · exact enDraw_step_num _ _ _ h.num
    · exact h.num
  cases hr : s.resetH i with
  | true =>
    have hs := state_of_resetH hr
    exact ⟨by simp [hs], by simp [hs], by simp [hs], by simp [hs], hnum, hidle⟩
  | false =>
    have hsel := selector_step_done (i := i) hr
    have hen := enDraw_step_done (i := i) hr
    have hnext := state_of_not_resetH (i := i) hr
    -- where the main machine came from says where the menus were
    have hone : s.onePlayerMode = true → (s.step i).selector = .OPM_DONE := fun h1 => by
      rw [hsel (Or.inl (onePlayerMode_iff.1 h1)), onePlayerMode_iff.1 h1]
    have htwo : s.selector = .TPM_DONE → (s.step i).selector = .TPM_DONE := fun h2 => by
      rw [hsel (Or.inr h2), h2]
    have hone' : s.selector = .OPM_DONE → (s.step i).selector = .OPM_DONE := fun h1 =>
      hone (onePlayerMode_iff.2 h1)
    have hdone : s.enDraw.state = .done_state → (s.step i).enDraw.state = .done_state := by
      intro hd
      rw [hen hd, hd]
    refine ⟨fun hs => ?_, fun hs => ?_, fun hs => ?_, fun hs => ?_, hnum, hidle⟩ <;>
      rw [hnext] at hs
    · rcases next_BG_WAIT hs with h1 | h2
      · exact Or.inl (hone h1)
      · exact Or.inr (htwo (twoPlayersMode_iff.1 h2))
    · rcases hs with hs | hs | hs | hs
      · rcases next_EN hs with ⟨-, h1⟩ | hs
        · exact hone h1
        · exact hone' (h.one (by simp [hs]))
      · rcases next_EN_WAIT hs with ⟨hs, -⟩ | hs <;> exact hone' (h.one (by simp [hs]))
      · rcases next_GAME_RST1 hs with hs | hs <;> exact hone' (h.one (by simp [hs]))
      · rcases next_GAME1 hs with hs | ⟨hs, -⟩ <;> exact hone' (h.one (by simp [hs]))
    · rcases hs with hs | hs
      · rcases next_GAME_RST2 hs with ⟨hs, h1⟩ | hs
        · rcases h.wait hs with ho | ht
          · rw [onePlayerMode_iff.2 ho] at h1
            cases h1
          · exact htwo ht
        · exact htwo (h.two (by simp [hs]))
      · rcases next_GAME2 hs with hs | ⟨hs, -⟩ <;> exact htwo (h.two (by simp [hs]))
    · rcases hs with hs | hs | hs
      · rcases next_EN_WAIT hs with ⟨-, hc⟩ | hs
        · exact hdone (chosen_iff.1 hc)
        · exact hdone (h.done (by simp [hs]))
      · rcases next_GAME_RST1 hs with hs | hs <;> exact hdone (h.done (by simp [hs]))
      · rcases next_GAME1 hs with hs | ⟨hs, -⟩ <;> exact hdone (h.done (by simp [hs]))

theorem menuOk_run (R : Run) (n : ℕ) : MenuOk (R.state n) :=
  R.invariant (fun _ => menuOk_start) menuOk_step n

/-- The number of enemies is frozen once it is chosen. -/
theorem enDraw_frozen (R : Run) {m n : ℕ} (hmn : m ≤ n)
    (hr : ∀ k, m ≤ k → k < n → (R.state k).resetH (R.input k) = false)
    (hd : (R.state m).enDraw.state = .done_state) : (R.state n).enDraw = (R.state m).enDraw :=
  R.invariant_until (P := fun s => s.enDraw = (R.state m).enDraw) rfl
    (fun k h1 h2 hk => by rw [enDraw_step_done (hr k h1 h2) (by rw [hk, hd]), hk]) hmn le_rfl

/-- **The main machine and the two menus never disagree.** -/
theorem menus_agree (R : Run) (n : ℕ) :
    ((R.state n).state = .EN ∨ (R.state n).state = .EN_WAIT ∨ (R.state n).state = .GAME_RST1 ∨
        (R.state n).state = .GAME1 → (R.state n).selector = .OPM_DONE) ∧
      ((R.state n).state = .GAME_RST2 ∨ (R.state n).state = .GAME2 →
        (R.state n).selector = .TPM_DONE) ∧
      ((R.state n).state = .EN_WAIT ∨ (R.state n).state = .GAME_RST1 ∨ (R.state n).state = .GAME1 →
        (R.state n).enDraw.state = .done_state ∧
          ((R.state n).enNum = 0 ∨ (R.state n).enNum = 1 ∨ (R.state n).enNum = 2)) ∧
      ∀ m ≤ n, (R.state m).state = .EN_WAIT →
        (∀ k, m ≤ k → k < n → (R.state k).resetH (R.input k) = false) →
        (R.state n).enNum = (R.state m).enNum := by
  have h := menuOk_run R n
  refine ⟨h.one, h.two, fun hs => ⟨h.done hs, h.num⟩, fun m hmn hs hr => ?_⟩
  have hd := (menuOk_run R m).done (Or.inl hs)
  rw [enNum, enDraw_frozen R hmn hr hd, enNum]

/-! ### Games -/

/-- A game is going on. -/
def Sys.InGame (s : Sys) : Prop := s.state = .GAME1 ∨ s.state = .GAME2

theorem resetTank_eq_false {s : Sys} (h : s.InGame) : s.resetTank = false := by
  rcases h with h | h <;> simp [resetTank, h]

/-- A cycle of a game follows a reset cycle or a cycle of the same game. -/
theorem inGame_cases {i : Pins} {s : Sys} (h : (s.step i).InGame) :
    s.resetH i = false ∧ (s.resetTank = true ∨ s.InGame ∧ (s.step i).state = s.state) := by
  have hr : s.resetH i = false :=
    not_resetH_of_state (by rcases h with h | h <;> rw [h] <;> decide)
  have hn := state_of_not_resetH (i := i) hr
  refine ⟨hr, ?_⟩
  rcases h with h | h
  · rcases next_GAME1 (hn.symm.trans h) with h1 | ⟨h1, -⟩
    · exact Or.inl (by simp [resetTank, h1])
    · exact Or.inr ⟨Or.inl h1, h.trans h1.symm⟩
  · rcases next_GAME2 (hn.symm.trans h) with h2 | ⟨h2, -⟩
    · exact Or.inl (by simp [resetTank, h2])
    · exact Or.inr ⟨Or.inr h2, h.trans h2.symm⟩

theorem state_zero (R : Run) : (R.state 0).state = .BG := by
  obtain ⟨i, s, -, hr, hs⟩ := R.start
  rw [hs, state_of_resetH hr]

/-- What a reset cycle establishes and the cycles of a game preserve holds during every game. -/
theorem game_induction (R : Run) {P : Sys → Prop}
    (h0 : ∀ (i : Pins) (s : Sys), s.resetTank = true → (s.step i).InGame → P (s.step i))
    (hs : ∀ n, (R.state n).InGame → (R.state (n + 1)).state = (R.state n).state →
      P (R.state n) → P ((R.state n).step (R.input n))) (n : ℕ) :
    (R.state n).InGame → P (R.state n) := by
  induction n with
  | zero =>
    intro h
    rcases h with h | h <;> rw [state_zero] at h <;> cases h
  | succ n ih =>
    intro h
    rw [R.succ] at h ⊢
    rcases (inGame_cases h).2 with hr | ⟨hg, hst⟩
    · exact h0 _ _ hr h
    · exact hs n hg (R.succ n ▸ hst) (ih hg)

/-! ### Ways into the game -/

/-- All registers cleared. -/
def powerUp : Sys :=
  let bullet : Bullet := ⟨.NOBULLET, ⟨false, false⟩, 0, 0, 0, 0, 0, 0, .right⟩
  let tank : Tank := ⟨.FIRST, ⟨false, false⟩, 0, 0, 0, 0, .right⟩
  let enemy : Enemy := ⟨⟨false, false⟩, 0, 0, 0, 0, .right, 0, 0, bullet⟩
  ⟨false, .BG, .OPM, ⟨.state0, 0⟩, 0, 0, 0, 0, 0, tank, tank, enemy, enemy, bullet, bullet⟩

/-- A cycle with an edge of `VGA_CLK` and the button up. -/
def press (keycode : BitVec 32) (vgaVS : Bool) : Pins := ⟨keycode, true, vgaVS, true⟩

theorem started_powerUp : Sys.Started (powerUp.step (press 0x14 false)) :=
  ⟨_, _, rfl, by decide, rfl⟩

/-- The run on the given pins after a reset of the cleared registers. -/
def runOf (f : ℕ → Pins) : Run := Sync.Run.feed Sys.step started_powerUp f

theorem runOf_input (f : ℕ → Pins) (n : ℕ) : (runOf f).input n = f n := rfl

/-- Down, enter, all keys up: the shortest way into a two-player game. -/
def twoPlayerKeys (n : ℕ) : BitVec 32 := [0x51, 0, 0x28, 0x28, 0, 0, 0, 0].getD n 0

/-- Enter, down, down, enter: the shortest way into a one-player game with two enemies. -/
def twoEnemyKeys (n : ℕ) : BitVec 32 :=
  [0x28, 0x28, 0, 0x51, 0, 0x51, 0, 0x28, 0x28, 0, 0].getD n 0

end TankBattle
