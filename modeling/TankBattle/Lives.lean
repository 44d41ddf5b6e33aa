import TankBattle.Duel

/-!
# The lives counters

The five counters are loaded with 5 by `Reset_h` and `lives_activate` and decremented, without a
guard, in every cycle in which they are charged.

* `lives_step`: what one edge does to a counter;
* `lives_framed`: a counter changes in its own game only;
* `charged_zero`: a counter that reads 0 can be charged in the very next cycle only, before the
  main machine has left for `END`;
* `lives_le_five_iff`: no counter ever wraps if and only if no counter is charged in the cycle
  after its last life was taken;
* `ramming`: two tanks driven into one another, where that goes wrong.
-/

namespace TankBattle

open Sys

/-- The lives counters. -/
inductive Counter
  | enemy1
  | enemy2
  | player
  | player1
  | player2
  deriving DecidableEq

namespace Sys

/-- The counter's register. -/
def lives (s : Sys) : Counter → BitVec 6
  | .enemy1 => s.enemy1Lives
  | .enemy2 => s.enemy2Lives
  | .player => s.playerLives
  | .player1 => s.player1Lives
  | .player2 => s.player2Lives

/-- The counter loses a life at this edge, unless it is loaded. -/
def charged (s : Sys) : Counter → Bool
  | .enemy1 => s.onePlayerMode && s.playerHitEn1
  | .enemy2 => s.onePlayerMode && s.playerHitEn2
  | .player => s.onePlayerMode && (s.en1HitPlayer || s.en2HitPlayer)
  | .player1 => s.enable2 && s.player1Hit
  | .player2 => s.enable2 && s.player2Hit

end Sys

section Step

variable {i : Pins} {s : Sys}

theorem lives_step (i : Pins) (s : Sys) (c : Counter) :
    (s.step i).lives c =
      if s.livesLoad i then 5 else if s.charged c then s.lives c - 1 else s.lives c := by
  cases c with
  | player =>
    show (if s.livesLoad i then (5 : BitVec 6) else s.playerLivesIn) = _
    congr 1
    unfold playerLivesIn charged lives
    cases s.onePlayerMode <;> cases s.en1HitPlayer <;> cases s.en2HitPlayer <;> rfl
  | _ => rfl

theorem livesLoad_eq_false :
    s.livesLoad i = false ↔ s.resetH i = false ∧ s.state ≠ .GAME_RST1 ∧ s.state ≠ .GAME_RST2 := by
  simp [livesLoad, livesActivate]

theorem lives_of_load (h : s.livesLoad i = true) (c : Counter) : (s.step i).lives c = 5 := by
  rw [lives_step, if_pos h]

/-- An enemy's enable is low outside the one-player game. -/
theorem state_of_enable1 (h : s.enable1 = true) : s.state = .GAME_RST1 ∨ s.state = .GAME1 := by
  unfold enable1 at h
  cases hs : s.state <;> simp_all

theorem state_of_enable12 (h : s.enable12 = true) : s.state = .GAME_RST1 ∨ s.state = .GAME1 := by
  unfold enable12 at h
  cases hs : s.state <;> simp_all

theorem state_of_enable2 (h : s.enable2 = true) : s.state = .GAME_RST2 ∨ s.state = .GAME2 := by
  simpa [enable2] using h

theorem enNum_of_enable1 (h : s.enable1 = true) : s.enNum = 1 ∨ s.enNum = 2 := by
  unfold enable1 at h
  cases hs : s.state <;> simp_all
  tauto

theorem enNum_of_enable12 (h : s.enable12 = true) : s.enNum = 2 := by
  unfold enable12 at h
  cases hs : s.state <;> simp_all

/-- In a game with two enemies, a dead enemy is disabled at once. -/
theorem enemy1Lives_ne_zero (hs : s.state = .GAME1) (hn : s.enNum = 2) (h : s.enable1 = true) :
    s.enemy1Lives ≠ 0 := by
  rintro h0
  simp [enable1, hs, hn, h0] at h

theorem enemy2Lives_ne_zero (hs : s.state = .GAME1) (h : s.enable12 = true) :
    s.enemy2Lives ≠ 0 := by
  rintro h0
  simp [enable12, hs, h0] at h

/-- A counter is charged in its own game only. -/
theorem state_of_charged {c : Counter} (h : s.charged c = true) :
    (c = .enemy1 ∧ s.enable1 = true ∨ c = .enemy2 ∧ s.enable12 = true ∨
        c = .player ∧ (s.enable1 = true ∨ s.enable12 = true)) ∧
        (s.state = .GAME_RST1 ∨ s.state = .GAME1) ∨
      (c = .player1 ∨ c = .player2) ∧ (s.state = .GAME_RST2 ∨ s.state = .GAME2) := by
  cases c with
  | enemy1 =>
    simp only [charged, playerHitEn1, wallPlayerHit, Bool.and_eq_true] at h
    exact Or.inl ⟨Or.inl ⟨rfl, h.2.1⟩, state_of_enable1 h.2.1⟩
  | enemy2 =>
    simp only [charged, playerHitEn2, wallPlayerHit, Bool.and_eq_true] at h
    exact Or.inl ⟨Or.inr (Or.inl ⟨rfl, h.2.1⟩), state_of_enable12 h.2.1⟩
  | player =>
    simp only [charged, en1HitPlayer, en2HitPlayer, Enemy.playerHit, enemyWallPlayerHit, enemy1Pins,
      enemy2Pins, Bool.and_eq_true, Bool.or_eq_true] at h
    rcases h.2 with h | h
    · exact Or.inl ⟨Or.inr (Or.inr ⟨rfl, Or.inl h.1⟩), state_of_enable1 h.1⟩
    · exact Or.inl ⟨Or.inr (Or.inr ⟨rfl, Or.inr h.1⟩), state_of_enable12 h.1⟩
  | player1 =>
    simp only [charged, Bool.and_eq_true] at h
    exact Or.inr ⟨Or.inl rfl, state_of_enable2 h.1⟩
  | player2 =>
    simp only [charged, Bool.and_eq_true] at h
    exact Or.inr ⟨Or.inr rfl, state_of_enable2 h.1⟩

end Step

/-- A counter that is neither loaded nor in its own game keeps its value. -/
theorem lives_step_of_state {i : Pins} {s : Sys} {c : Counter} (hl : s.livesLoad i = false)
    (h1 : c = .enemy1 ∨ c = .enemy2 ∨ c = .player → s.state ≠ .GAME1)
    (h2 : c = .player1 ∨ c = .player2 → s.state ≠ .GAME2) : (s.step i).lives c = s.lives c := by
  obtain ⟨-, hrst1, hrst2⟩ := livesLoad_eq_false.1 hl
  have hc : s.charged c = false := by
    rw [← Bool.not_eq_true]
    intro hc
    rcases state_of_charged hc with ⟨hcc, hs⟩ | ⟨hcc, hs⟩
    · refine h1 ?_ (hs.resolve_left hrst1)
      rcases hcc with ⟨rfl, -⟩ | ⟨rfl, -⟩ | ⟨rfl, -⟩ <;> simp
    · exact h2 hcc (hs.resolve_left hrst2)
  rw [lives_step, hl, if_neg Bool.false_ne_true, hc, if_neg Bool.false_ne_true]

/-- **Lives change only in their own game**, unless they are loaded. -/
theorem lives_framed (R : Run) (n : ℕ) (hl : (R.state n).livesLoad (R.input n) = false) :
    ((R.state n).state ≠ .GAME1 →
        (R.state (n + 1)).enemy1Lives = (R.state n).enemy1Lives ∧
          (R.state (n + 1)).enemy2Lives = (R.state n).enemy2Lives ∧
          (R.state (n + 1)).playerLives = (R.state n).playerLives) ∧
      ((R.state n).state ≠ .GAME2 →
        (R.state (n + 1)).player1Lives = (R.state n).player1Lives ∧
          (R.state (n + 1)).player2Lives = (R.state n).player2Lives) ∧
      ((R.state n).state = .BG ∨ (R.state n).state = .BG_WAIT ∨ (R.state n).state = .EN ∨
          (R.state n).state = .EN_WAIT ∨ (R.state n).state = .END →
        ∀ c, (R.state (n + 1)).lives c = (R.state n).lives c) := by
  rw [R.succ]
  refine ⟨fun h => ⟨?_, ?_, ?_⟩, fun h => ⟨?_, ?_⟩, fun h c => ?_⟩
  · exact lives_step_of_state (c := .enemy1) hl (fun _ => h) (by simp)
  · exact lives_step_of_state (c := .enemy2) hl (fun _ => h) (by simp)
  · exact lives_step_of_state (c := .player) hl (fun _ => h) (by simp)
  · exact lives_step_of_state (c := .player1) hl (by simp) fun _ => h
  · exact lives_step_of_state (c := .player2) hl (by simp) fun _ => h
  · refine lives_step_of_state hl (fun _ => ?_) fun _ => ?_ <;>
      rcases h with h | h | h | h | h <;> rw [h] <;> decide

theorem lives_framed_menu :
    ((runOf fun _ => press 0 true).state 8).playerLives =
      ((runOf fun _ => press 0 true).state 7).playerLives :=
  ((lives_framed (runOf fun _ => press 0 true) 7 (by decide +kernel)).1 (by decide +kernel)).2.2

/-! ### Wrapping -/

/-- The game does not go on with a counter at zero that a hit can still reach. -/
theorem charged_of_zero {i j : Pins} {s : Sys} {c : Counter} (h : MenuOk s)
    (hload : s.livesLoad i = false) (hl : (s.step i).livesLoad j = false) (hz : s.lives c = 0)
    (h0 : (s.step i).lives c = 0) : (s.step i).charged c = false := by
  obtain ⟨hr, hr1, hr2⟩ := livesLoad_eq_false.1 hload
  obtain ⟨-, hl1, hl2⟩ := livesLoad_eq_false.1 hl
  rw [← Bool.not_eq_true]
  intro hc
  rcases state_of_charged hc with ⟨hen, hs⟩ | ⟨hcc, hs⟩
  · have hs := hs.resolve_left hl1
    have hn : s.nextState i = .GAME1 := by rw [← state_of_not_resetH hr, hs]
    obtain ⟨hs1, -, hone, htwo⟩ := (next_GAME1 hn).resolve_left hr1
    have hnum : (s.step i).enNum = s.enNum := by
      rw [enNum, enDraw_step_done hr (h.done (Or.inr (Or.inr hs1))), enNum]
    have hpl : (s.step i).enable1 = true ∨ (s.step i).enable12 = true → s.playerLives ≠ 0 := by
      rintro (he | he)
      · rcases enNum_of_enable1 he with hn | hn
        · exact (hone (hnum ▸ hn)).1
        · exact (htwo (hnum ▸ hn)).1
      · exact (htwo (hnum ▸ enNum_of_enable12 he)).1
    rcases hen with ⟨rfl, he⟩ | ⟨rfl, he⟩ | ⟨rfl, he⟩
    · rcases enNum_of_enable1 he with hn | hn
      · exact (hone (hnum ▸ hn)).2 hz
      · exact enemy1Lives_ne_zero hs hn he h0
    · exact enemy2Lives_ne_zero hs he h0
    · exact hpl he hz
  · have hs := hs.resolve_left hl2
    have hn : s.nextState i = .GAME2 := by rw [← state_of_not_resetH hr, hs]
    obtain ⟨-, hp1, hp2⟩ := (next_GAME2 hn).resolve_left hr2
    rcases hcc with rfl | rfl
    · exact hp1 hz
    · exact hp2 hz

/-- A counter that reads 0 is charged only in the cycle after its last life was taken: after that
the main machine is in `END`, or the enemy is disabled. -/
theorem charged_zero {i j : Pins} {s : Sys} {c : Counter} (h : MenuOk s)
    (h0 : (s.step i).lives c = 0) (hc : (s.step i).charged c = true)
    (hl : (s.step i).livesLoad j = false) :
    s.lives c = 1 ∧ s.charged c = true ∧ s.livesLoad i = false := by
  have hload : s.livesLoad i = false := by
    by_contra hload
    rw [lives_of_load (by simpa using hload)] at h0
    exact absurd h0 (by decide)
  have hne : s.lives c ≠ 0 := fun hz => by
    rw [charged_of_zero h hload hl hz h0] at hc
    cases hc
  rw [lives_step, hload, if_neg Bool.false_ne_true] at h0
  by_cases hcs : s.charged c = true
  · rw [if_pos hcs] at h0
    exact ⟨by bv_omega, hcs, hload⟩
  · rw [if_neg hcs] at h0
    exact absurd h0 hne

theorem lives_start (R : Run) (c : Counter) : (R.state 0).lives c = 5 := by
  obtain ⟨i, s, -, hr, hs⟩ := R.start
  rw [hs, lives_of_load (by simp [livesLoad, hr])]

/-- **No counter ever wraps** if and only if no counter is charged in the cycle after its last
life was taken. -/
theorem lives_le_five_iff (R : Run) :
    (∀ n c, (R.state n).lives c ≤ 5) ↔
      ∀ n c, (R.state n).lives c = 1 → (R.state n).charged c = true →
        (R.state n).livesLoad (R.input n) = false → (R.state (n + 1)).charged c = true →
        (R.state (n + 1)).livesLoad (R.input (n + 1)) = true := by
  constructor
  · intro h n c h1 hc hl hc'
    by_contra hl'
    have hz : (R.state (n + 1)).lives c = 0 := by
      rw [R.succ, lives_step, hl, if_neg Bool.false_ne_true, if_pos hc, h1]
      rfl
    have h63 : (R.state (n + 2)).lives c = 63 := by
      rw [R.succ, lives_step, if_neg hl', if_pos hc', hz]
      rfl
    have := h (n + 2) c
    rw [h63] at this
    exact absurd this (by decide)
  · intro h n
    induction n with
    | zero =>
      intro c
      rw [lives_start]
      exact BitVec.le_refl _
    | succ n ih =>
      intro c
      rw [R.succ, lives_step]
      split_ifs with hl hc
      · exact BitVec.le_refl _
      · have hne : (R.state n).lives c ≠ 0 := by
          intro hz
          cases n with
          | zero =>
            rw [lives_start] at hz
            exact absurd hz (by decide)
          | succ m =>
            have hl' := Bool.not_eq_true _ ▸ hl
            rw [R.succ m] at hz hc
            obtain ⟨h1, hcm, hlm⟩ := charged_zero (menuOk_run R m) hz hc (R.succ m ▸ hl')
            exact hl (h m c h1 hcm hlm (R.succ m ▸ hc))
        have := ih c
        bv_omega
      · exact ih c

/-- Tank 1 and tank 2 drive up and down the left edge of the field into one another. -/
def ramming : Run :=
  runOf fun n => if n < 8 then press (twoPlayerKeys n) false else press 0x0c1A (n % 2 == 0)

/-- While the tanks overlap, the idle bullet of each lies in the box of the other one and takes a
life in every cycle; the sixth hit of the row wraps the counter. -/
theorem ramming_wraps : ¬ ∀ (R : Run) (n : ℕ) (c : Counter), (R.state n).lives c ≤ 5 := by
  intro h
  have h63 : (ramming.state 222).lives .player1 = 63 := by decide +kernel
  have := h ramming 222 .player1
  rw [h63] at this
  exact absurd this (by decide)

end TankBattle
