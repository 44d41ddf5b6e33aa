import TankBattle.Sync

/-!
# Timers

A timer is a register that a machine clears outside a set of states and counts up inside it, and
that the machine tests for equality with a limit to leave the set.

* `Run.Stay`: an uninterrupted stay in a set of states, from its first cycle on;
* `Timer`, `Timer.eq`: a timer that is clear when a stay begins holds the cycles since then, and
  never passes its limit;
* `Timer.leaves`, `Timer.full`: no stay outlasts the limit, and one that nothing else ends takes
  all of it;
* `Run.exists_of_variant`: a machine whose variant falls until `P` holds comes to `P`.
-/

namespace Sync

variable {σ ι : Type*} {step : ι → σ → σ} {Start : σ → Prop}

/-- From cycle `e`, where it came into `P`, to cycle `n` the machine stayed in `P`. -/
structure Run.Stay (R : Run step Start) (P : σ → Prop) (e n : ℕ) : Prop where
  le : e ≤ n
  entered : ∀ k, k + 1 = e → ¬ P (R.state k)
  stays : ∀ k, e ≤ k → k ≤ n → P (R.state k)

namespace Run

variable {R : Run step Start} {P : σ → Prop} {e n : ℕ}

/-- Every cycle in `P` belongs to a stay. -/
theorem exists_stay (h : P (R.state n)) : ∃ e, R.Stay P e n := by
  induction n with
  | zero => exact ⟨0, le_rfl, fun k hk => absurd hk (by omega), fun k _ hk => by
      rwa [Nat.le_zero.1 hk]⟩
  | succ n ih =>
    by_cases hn : P (R.state n)
    · obtain ⟨e, hle, hent, hst⟩ := ih hn
      refine ⟨e, by omega, hent, fun k hek hk => ?_⟩
      rcases Nat.le_succ_iff.1 hk with hk | rfl
      · exact hst k hek hk
      · exact h
    · refine ⟨n + 1, le_rfl, fun k hk => ?_, fun k hek hk => ?_⟩
      · rwa [Nat.succ.inj hk]
      · rwa [le_antisymm hk hek]

theorem Stay.last (h : R.Stay P e n) : P (R.state n) := h.stays n h.le le_rfl

/-- The first part of a stay is a stay. -/
theorem Stay.mono (h : R.Stay P e n) {k : ℕ} (hek : e ≤ k) (hkn : k ≤ n) : R.Stay P e k :=
  ⟨hek, h.entered, fun j hej hjk => h.stays j hej (hjk.trans hkn)⟩

/-- A stay goes on as long as the machine is in `P`. -/
theorem Stay.succ (h : R.Stay P e n) (hn : P (R.state (n + 1))) : R.Stay P e (n + 1) := by
  refine ⟨Nat.le_succ_of_le h.le, h.entered, fun k hek hk => ?_⟩
  rcases Nat.le_succ_iff.1 hk with hk | rfl
  · exact h.stays k hek hk
  · exact hn

/-- A machine whose variant falls with every edge outside `P` comes to `P`, from every cycle on. -/
theorem exists_of_variant (R : Run step Start) {Inv : σ → Prop} (hinv : ∀ n, Inv (R.state n))
    (v : σ → ℕ) (hv : ∀ i s, Inv s → ¬ P s → v (step i s) < v s) (n : ℕ) :
    ∃ k ≤ v (R.state n), P (R.state (n + k)) := by
  induction hm : v (R.state n) using Nat.strong_induction_on generalizing n with
  | _ m ih =>
    by_cases hn : P (R.state n)
    · exact ⟨0, Nat.zero_le m, hn⟩
    · have hlt : v (R.state (n + 1)) < m := by
        rw [← hm, R.succ]
        exact hv _ _ (hinv n) hn
      obtain ⟨k, hk, hP⟩ := ih _ hlt (n + 1) rfl
      exact ⟨k + 1, by omega, by rwa [show n + (k + 1) = n + 1 + k by omega]⟩

end Run

/-- `c` is a timer for the stays in `P`: clear when one begins, counted up below the limit `L`, and
at the limit the stay is over. -/
structure Timer (step : ι → σ → σ) (Start P : σ → Prop) (c : σ → ℕ) (L : ℕ) : Prop where
  start : ∀ s, Start s → P s → c s = 0
  clear : ∀ i s, ¬ P s → P (step i s) → c (step i s) = 0
  tick : ∀ i s, P s → P (step i s) → c s < L → c (step i s) = c s + 1
  limit : ∀ i s, P s → c s = L → ¬ P (step i s)

namespace Timer

variable {P : σ → Prop} {c : σ → ℕ} {L : ℕ} (T : Timer step Start P c L) {R : Run step Start}
  {e n : ℕ}

include T

/-- The timer holds the cycles since the entry, and never passes its limit. -/
theorem eq (h : R.Stay P e n) : c (R.state n) = n - e ∧ c (R.state n) ≤ L := by
  obtain ⟨d, rfl⟩ := Nat.exists_eq_add_of_le h.le
  induction d with
  | zero =>
    have hzero : c (R.state e) = 0 := by
      cases e with
      | zero => exact T.start _ R.start h.last
      | succ e =>
        have hlast := h.last
        rw [Nat.add_zero, R.succ] at hlast
        rw [R.succ]
        exact T.clear _ _ (h.entered e rfl) hlast
    rw [Nat.add_zero, hzero]
    omega
  | succ d ih =>
    have hd := h.mono (Nat.le_add_right e d) (by omega)
    obtain ⟨hc, hL⟩ := ih hd
    have hnext : P (step (R.input (e + d)) (R.state (e + d))) := by
      have := h.last
      rwa [← Nat.add_assoc, R.succ] at this
    have hne : c (R.state (e + d)) ≠ L := fun heq => T.limit _ _ hd.last heq hnext
    rw [← Nat.add_assoc, R.succ, T.tick _ _ hd.last hnext (by omega)]
    omega

/-- No stay outlasts the limit. -/
theorem leaves (h : R.Stay P e n) : n - e ≤ L := by
  have := T.eq h
  omega

/-- A stay that only the limit ends takes exactly `L + 1` cycles. -/
theorem full (h : R.Stay P e e)
    (hon : ∀ n, R.Stay P e n → n < e + L → P (R.state (n + 1))) :
    R.Stay P e (e + L) ∧ ¬ P (R.state (e + L + 1)) := by
  have key : ∀ d, d ≤ L → R.Stay P e (e + d) := by
    intro d hd
    induction d with
    | zero => exact h
    | succ d ih => exact (ih (by omega)).succ (hon _ (ih (by omega)) (by omega))
  refine ⟨key L le_rfl, ?_⟩
  rw [R.succ]
  refine T.limit _ _ (key L le_rfl).last ?_
  rw [(T.eq (key L le_rfl)).1]
  omega

end Timer

end Sync
