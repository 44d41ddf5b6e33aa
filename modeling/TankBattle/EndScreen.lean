import TankBattle.Lives
import TankBattle.Screen

/-!
# The end screen

`lab8` leaves a game when a counter reads 0 and `sp_addr_lookup` reads the counters again, in every
cycle of `END`.  The edge between the two may still charge a counter.

* `Match`: the two sides of a game, the one that `sp_addr_lookup` tests first in front;
* `frozen_run`: nothing that the end screen reads changes in `END`;
* `endBranch_iff`, `endBranch_loser_iff`: the branch that is taken there, by the counters;
* `end_names_loser_iff`: the end screen names the loser if and only if the last edge of the game
  charges neither the loser nor takes the last life of a winner that is tested first.
-/

namespace TankBattle

open Sys

/-- The counters of the side that a branch of the end screen is for. -/
def EndBranch.counters : EndBranch → List Counter
  | .noEnemy => []
  | .enemy1 => [.enemy1]
  | .enemies => [.enemy1, .enemy2]
  | .player => [.player]
  | .player1 => [.player1]
  | .player2 => [.player2]

/-- The two sides of the game that is going on, the one tested first by `sp_addr_lookup` in
front. -/
inductive Match (s : Sys) : EndBranch → EndBranch → Prop
  | oneEnemy : s.state = .GAME1 → s.enNum = 1 → Match s .enemy1 .player
  | twoEnemies : s.state = .GAME1 → s.enNum = 2 → Match s .enemies .player
  | players : s.state = .GAME2 → Match s .player1 .player2

namespace Sys

/-- The side has no lives left. -/
def Out (s : Sys) (b : EndBranch) : Prop := ∀ c ∈ b.counters, s.lives c = 0

/-- The side will have no lives left after the next edge. -/
def OutNext (s : Sys) (b : EndBranch) : Prop :=
  ∀ c ∈ b.counters, s.lives c = if s.charged c then 1 else 0

/-- The side loses a life at the next edge. -/
def Hit (s : Sys) (b : EndBranch) : Prop := ∃ c ∈ b.counters, s.charged c = true

end Sys

/-- Exactly one side of the game has no lives left. -/
structure Lost (s : Sys) (loser winner : EndBranch) : Prop where
  sides : Match s loser winner ∨ Match s winner loser
  out : s.Out loser
  left : ¬ s.Out winner

/-! ### The edge into `END` -/

theorem out_step_iff {i : Pins} {s : Sys} (hl : s.livesLoad i = false) (b : EndBranch) :
    (s.step i).Out b ↔ s.OutNext b := by
  refine forall₂_congr fun c _ => ?_
  rw [lives_step, hl, if_neg Bool.false_ne_true]
  split_ifs <;> constructor <;> intro h <;> bv_omega

/-- The loser's count is still 0 in `END` unless it is hit at the edge into it. -/
theorem outNext_loser_iff {s : Sys} {b : EndBranch} (h : s.Out b) : s.OutNext b ↔ ¬ s.Hit b := by
  unfold OutNext Hit
  push Not
  refine forall₂_congr fun c hc => ?_
  rw [h c hc]
  cases s.charged c <;> decide

/-! ### Inside `END` -/

/-- What tells the branches of the end screen apart, beside the counters of the two sides. -/
inductive Shown (s : Sys) : EndBranch → EndBranch → Prop
  | oneEnemy : s.onePlayerMode = true → s.enNum = 1 → Shown s .enemy1 .player
  | twoEnemies : s.onePlayerMode = true → s.enNum = 2 → Shown s .enemies .player
  | players : s.onePlayerMode = false → s.enNum = 0 → s.playerLives ≠ 0 → Shown s .player1 .player2

theorem add_eq_zero_iff (a b : BitVec 6) :
    a.setWidth 32 + b.setWidth 32 = 0#32 ↔ a = 0 ∧ b = 0 := by
  constructor
  · intro h
    constructor <;> bv_omega
  · rintro ⟨rfl, rfl⟩
    rfl

/-- The end screen shows the side tested first if that side is out, else the other one if that one
is out. -/
theorem endBranch_iff {s : Sys} {a b : EndBranch} (hs : s.state = .END) (h : Shown s a b)
    (drawX drawY : Coord) :
    ((s.spPorts drawX drawY).endBranch = some a ↔ s.Out a) ∧
      ((s.spPorts drawX drawY).endBranch = some b ↔ ¬ s.Out a ∧ s.Out b) := by
  have hm : s.mode = 3 := by rw [mode, hs]
  simp only [SpPorts.endBranch, spPorts, hm, add_eq_zero_iff]
  cases h with
  | oneEnemy h1 hn =>
    simp only [Out, EndBranch.counters, List.forall_mem_singleton, lives, h1, hn]
    split_ifs <;> simp_all
  | twoEnemies h1 hn =>
    simp only [Out, EndBranch.counters, List.forall_mem_cons, and_true, lives, h1, hn]
    split_ifs <;> simp_all
  | players h1 hn hp =>
    simp only [Out, EndBranch.counters, List.forall_mem_singleton, lives, h1, hn]
    split_ifs <;> simp_all

theorem charged_player_GAME2 {s : Sys} (hs : s.state = .GAME2) : s.charged .player = false := by
  by_contra hc
  rw [Bool.not_eq_false] at hc
  rcases state_of_charged hc with ⟨-, h | h⟩ | ⟨h | h, -⟩
  · rw [hs] at h
    cases h
  · rw [hs] at h
    cases h
  · cases h
  · cases h

theorem charged_END {s : Sys} (hs : s.state = .END) (c : Counter) : s.charged c = false := by
  by_contra hc
  rw [Bool.not_eq_false] at hc
  rcases state_of_charged hc with ⟨-, h | h⟩ | ⟨-, h | h⟩ <;> rw [hs] at h <;> cases h

/-- The design is in `END` and shows what `t` shows. -/
structure Frozen (t s : Sys) : Prop where
  state : s.state = .END
  selector : s.selector = .OPM_DONE ∧ s.enDraw.state = .done_state ∨ s.selector = .TPM_DONE
  onePlayerMode : s.onePlayerMode = t.onePlayerMode
  enNum : s.enNum = t.enNum
  lives : ∀ c, s.lives c = t.lives c

theorem frozen_step {i : Pins} {t s : Sys} (h : Frozen t s) (hm : MenuOk s)
    (hm' : MenuOk (s.step i)) (hn : (s.step i).state = .END) : Frozen t (s.step i) := by
  have hr : s.resetH i = false := not_resetH_of_state (by rw [hn]; decide)
  have hl : s.livesLoad i = false := livesLoad_eq_false.2 ⟨hr, by simp [h.state], by simp [h.state]⟩
  have hsel : (s.step i).selector = s.selector :=
    selector_step_done hr (h.selector.imp (fun h => h.1) id)
  have hlives : ∀ c, (s.step i).lives c = t.lives c := fun c => by
    rw [lives_step, hl, charged_END h.state c]
    exact h.lives c
  have hone : (s.step i).onePlayerMode = t.onePlayerMode := by
    rw [Sys.onePlayerMode, hsel]
    exact h.onePlayerMode
  rcases h.selector with ⟨ho, hd⟩ | ht
  · have hen := enDraw_step_done (i := i) hr hd
    refine ⟨hn, Or.inl ⟨hsel.trans ho, by rw [hen, hd]⟩, hone, ?_, hlives⟩
    rw [Sys.enNum, hen]
    exact h.enNum
  · refine ⟨hn, Or.inr (hsel.trans ht), hone, ?_, hlives⟩
    rw [← h.enNum, Sys.enNum, Sys.enNum, hm.idle (by simp [ht]), hm'.idle (by simp [hsel, ht])]

theorem frozen_run (R : Run) {m n : ℕ} (hm : Frozen (R.state m) (R.state m)) (hmn : m ≤ n)
    (hs : ∀ k, m ≤ k → k ≤ n → (R.state k).state = .END) : Frozen (R.state m) (R.state n) :=
  R.invariant_until hm
    (fun k h1 h2 h => frozen_step h (menuOk_run R k) (R.succ k ▸ menuOk_run R (k + 1))
      (R.succ k ▸ hs (k + 1) (by omega) (by omega)))
    hmn le_rfl

theorem Shown.frozen {t s : Sys} {a b : EndBranch} (h : Shown t a b) (hf : Frozen t s) :
    Shown s a b := by
  cases h with
  | oneEnemy h1 hn => exact .oneEnemy (hf.onePlayerMode.trans h1) (hf.enNum.trans hn)
  | twoEnemies h1 hn => exact .twoEnemies (hf.onePlayerMode.trans h1) (hf.enNum.trans hn)
  | players h1 hn hp =>
    refine .players (hf.onePlayerMode.trans h1) (hf.enNum.trans hn) fun h0 => hp ?_
    rw [← h0]
    exact (hf.lives .player).symm

theorem Frozen.out_iff {t s : Sys} (h : Frozen t s) (b : EndBranch) : s.Out b ↔ t.Out b :=
  forall₂_congr fun c _ => by rw [h.lives c]

/-! ### The two together -/

/-- The counters of the one-player game stay loaded in a two-player game. -/
theorem playerLives_run (R : Run) (n : ℕ) :
    (R.state n).state = .GAME2 → (R.state n).playerLives = 5 := by
  refine R.invariant (P := fun s => s.state = .GAME2 → s.playerLives = 5) (fun s hs h => ?_)
    (fun i s ih h => ?_) n
  · obtain ⟨i, t, -, hr, rfl⟩ := hs
    rw [state_of_resetH hr] at h
    cases h
  · have hr : s.resetH i = false := not_resetH_of_state (by rw [h]; decide)
    show (s.step i).lives .player = 5
    rcases next_GAME2 (by rw [← state_of_not_resetH hr, h]) with h1 | ⟨h1, -⟩
    · exact lives_of_load (by simp [livesLoad, livesActivate, h1]) .player
    · rw [lives_step, livesLoad_eq_false.2 ⟨hr, by simp [h1], by simp [h1]⟩]
      rw [charged_player_GAME2 h1]
      exact ih h1

/-- The first cycle of `END` after a game. -/
theorem frozen_first (R : Run) {n : ℕ} {a b : EndBranch} (h : Match (R.state n) a b)
    (hn : (R.state (n + 1)).state = .END) :
    Frozen (R.state (n + 1)) (R.state (n + 1)) ∧ Shown (R.state (n + 1)) a b ∧
      (R.state n).livesLoad (R.input n) = false := by
  have hm := menuOk_run R n
  have hr : (R.state n).resetH (R.input n) = false :=
    not_resetH_of_state (by rw [← R.succ, hn]; decide)
  have hone : (R.state n).state = .GAME1 → (R.state (n + 1)).selector = .OPM_DONE ∧
      (R.state (n + 1)).enDraw = (R.state n).enDraw ∧
      (R.state (n + 1)).enDraw.state = .done_state := fun hs => by
    have ho := hm.one (by simp [hs])
    have hd := hm.done (by simp [hs])
    rw [R.succ, selector_step_done hr (Or.inl ho), enDraw_step_done hr hd]
    exact ⟨ho, rfl, hd⟩
  cases h with
  | oneEnemy hs hnum =>
    obtain ⟨ho, he, hd⟩ := hone hs
    exact ⟨⟨hn, Or.inl ⟨ho, hd⟩, rfl, rfl, fun _ => rfl⟩,
      .oneEnemy (onePlayerMode_iff.2 ho) (by rw [enNum, he]; exact hnum),
      livesLoad_eq_false.2 ⟨hr, by simp [hs], by simp [hs]⟩⟩
  | twoEnemies hs hnum =>
    obtain ⟨ho, he, hd⟩ := hone hs
    exact ⟨⟨hn, Or.inl ⟨ho, hd⟩, rfl, rfl, fun _ => rfl⟩,
      .twoEnemies (onePlayerMode_iff.2 ho) (by rw [enNum, he]; exact hnum),
      livesLoad_eq_false.2 ⟨hr, by simp [hs], by simp [hs]⟩⟩
  | players hs =>
    have ht := hm.two (by simp [hs])
    have hsel : (R.state (n + 1)).selector = .TPM_DONE := by
      rw [R.succ, selector_step_done hr (Or.inr ht), ht]
    have hl := livesLoad_eq_false.2 ⟨hr, by simp [hs], by simp [hs]⟩
    refine ⟨⟨hn, Or.inr hsel, rfl, rfl, fun _ => rfl⟩, .players ?_ ?_ ?_, hl⟩
    · simp [Sys.onePlayerMode, SelectorState.onePlayerMode, hsel]
    · rw [enNum, (menuOk_run R (n + 1)).idle (by simp [hsel])]
    · have h5 : (R.state (n + 1)).lives .player = 5 := by
        rw [R.succ, lives_step, hl, charged_player_GAME2 hs]
        exact playerLives_run R n hs
      show (R.state (n + 1)).lives .player ≠ 0
      rw [h5]
      decide

theorem Match.asymm {s : Sys} {a b : EndBranch} (h : Match s a b) : ¬ Match s b a := by
  cases h <;> rintro ⟨⟩

/-- In every cycle of the end screen the branch is decided by the last edge of the game. -/
theorem endBranch_loser_iff (R : Run) {n m : ℕ} {loser winner : EndBranch}
    (h : Lost (R.state n) loser winner) (hnm : n < m)
    (hs : ∀ k, n < k → k ≤ m → (R.state k).state = .END) (drawX drawY : Coord) :
    ((R.state m).spPorts drawX drawY).endBranch = some loser ↔
      ¬ (R.state n).Hit loser ∧
        (Match (R.state n) winner loser → ¬ (R.state n).OutNext winner) := by
  have hend := hs (n + 1) (by omega) hnm
  have hm := hs m hnm le_rfl
  rcases h.sides with hfirst | hsecond
  · obtain ⟨hf, hshown, hl⟩ := frozen_first R hfirst hend
    have hfm := frozen_run R hf hnm fun k h1 h2 => hs k h1 h2
    rw [(endBranch_iff hm (hshown.frozen hfm) drawX drawY).1, hfm.out_iff, R.succ,
      out_step_iff hl, outNext_loser_iff h.out]
    exact (and_iff_left fun hw => absurd hw hfirst.asymm).symm
  · obtain ⟨hf, hshown, hl⟩ := frozen_first R hsecond hend
    have hfm := frozen_run R hf hnm fun k h1 h2 => hs k h1 h2
    rw [(endBranch_iff hm (hshown.frozen hfm) drawX drawY).2, hfm.out_iff, hfm.out_iff, R.succ,
      out_step_iff hl, out_step_iff hl, outNext_loser_iff h.out, and_comm]
    exact and_congr_right fun _ => (imp_iff_right hsecond).symm

/-- **The end screen names the side that lost** if and only if the last edge of the game neither
charges that side nor takes the last life of a winner that is tested first. -/
theorem end_names_loser_iff (R : Run) (n : ℕ) (loser winner : EndBranch)
    (h : Lost (R.state n) loser winner) (hn : (R.state (n + 1)).state = .END) :
    (∀ m, n < m → (∀ k, n < k → k ≤ m → (R.state k).state = .END) →
        ∀ drawX drawY, ((R.state m).spPorts drawX drawY).endBranch = some loser) ↔
      ¬ (R.state n).Hit loser ∧
        (Match (R.state n) winner loser → ¬ (R.state n).OutNext winner) := by
  constructor
  · intro hall
    have hs : ∀ k, n < k → k ≤ n + 1 → (R.state k).state = .END := fun k h1 h2 => by
      rw [show k = n + 1 by omega, hn]
    exact (endBranch_loser_iff R h (Nat.lt_succ_self n) hs 0 0).1
      (hall (n + 1) (Nat.lt_succ_self n) hs 0 0)
  · intro hc m hnm hs drawX drawY
    exact (endBranch_loser_iff R h hnm hs drawX drawY).2 hc

/-- Tank 1 runs into tank 2, which has just turned to the right. -/
def lastHit : Run :=
  runOf fun n => if n < 8 then press (twoPlayerKeys n) false else
    press (if n < 212 then 0x0c1A else 0x121A) (n % 2 == 0)

/-- Player 2 has no lives left, player 1 has all five. -/
theorem lastHit_lost : Lost (lastHit.state 222) .player2 .player1 := by
  obtain ⟨h2, h1, hs⟩ : (lastHit.state 222).lives .player2 = 0 ∧
      (lastHit.state 222).lives .player1 ≠ 0 ∧ (lastHit.state 222).state = .GAME2 := by
    decide +kernel
  refine ⟨Or.inr (.players hs), ?_, ?_⟩
  · simpa [Out, EndBranch.counters] using h2
  · simpa [Out, EndBranch.counters] using h1

theorem lastHit_end : (lastHit.state 223).state = .END := by decide +kernel

theorem end_names_loser_iff_lastHit :
    (∀ m, 222 < m → (∀ k, 222 < k → k ≤ m → (lastHit.state k).state = .END) →
        ∀ drawX drawY, ((lastHit.state m).spPorts drawX drawY).endBranch = some .player2) ↔
      ¬ (lastHit.state 222).Hit .player2 ∧
        (Match (lastHit.state 222) .player1 .player2 → ¬ (lastHit.state 222).OutNext .player1) :=
  end_names_loser_iff lastHit 222 .player2 .player1 lastHit_lost lastHit_end

/-- The edge into `END` charges player 2 again: the count wraps, and no branch is taken. -/
theorem lastHit_not_named :
    ¬ ∀ (R : Run) (n : ℕ) (loser winner : EndBranch), Lost (R.state n) loser winner →
      (R.state (n + 1)).state = .END →
      ∀ m, n < m → (∀ k, n < k → k ≤ m → (R.state k).state = .END) →
        ∀ drawX drawY, ((R.state m).spPorts drawX drawY).endBranch = some loser := by
  intro h
  have hnone : ((lastHit.state 223).spPorts 0 0).endBranch ≠ some .player2 := by decide +kernel
  refine hnone (h lastHit 222 .player2 .player1 lastHit_lost lastHit_end 223 (by omega) ?_ 0 0)
  intro k h1 h2
  rw [show k = 223 by omega]
  exact lastHit_end

end TankBattle
