import Mathlib.Tactic

/-!
# Raster scans

Two nested counters walk through the places of a grid of `H` columns and `V` rows, row by row.

* `Raster.place`: the place after `n` steps;
* `Raster.advance`, `advance_place`: one step of the two counters;
* `place_eq_iff`: the place determines the number of steps modulo `H * V`;
* `existsUnique_place`: a window of `H * V` steps visits each place exactly once.
-/

namespace Raster

variable {H V : ℕ}

/-- Column and row after `n` steps from the first place. -/
def place (H V n : ℕ) : ℕ × ℕ := (n % H, n / H % V)

/-- One step: to the next column, and after the last one to the next row. -/
def advance (H V : ℕ) (q : ℕ × ℕ) : ℕ × ℕ :=
  if q.1 + 1 = H then (0, if q.2 + 1 = V then 0 else q.2 + 1) else (q.1 + 1, q.2)

/-- A wrapping counter counts modulo its period. -/
theorem succ_mod (hV : 0 < V) (n : ℕ) :
    (n + 1) % V = if n % V + 1 = V then 0 else n % V + 1 := by
  rw [← Nat.mod_add_mod]
  split_ifs with h
  · rw [h, Nat.mod_self]
  · exact Nat.mod_eq_of_lt (lt_of_le_of_ne (Nat.mod_lt n hV) h)

/-- The outer counter moves when the inner one wraps. -/
theorem succ_div (hH : 0 < H) (n : ℕ) :
    (n + 1) / H = if n % H + 1 = H then n / H + 1 else n / H := by
  have hn : n + 1 = n % H + 1 + H * (n / H) := by
    have := Nat.mod_add_div n H
    omega
  rw [hn, Nat.add_mul_div_left _ _ hH]
  split_ifs with h
  · rw [h, Nat.div_self hH, Nat.add_comm]
  · rw [Nat.div_eq_of_lt (lt_of_le_of_ne (Nat.mod_lt n hH) h), Nat.zero_add]

/-- The counters are at the place of the number of steps. -/
theorem advance_place (hH : 0 < H) (hV : 0 < V) (n : ℕ) :
    advance H V (place H V n) = place H V (n + 1) := by
  rw [place, place, advance, succ_mod hH, succ_div hH]
  split_ifs with h h' <;> simp [succ_mod hV, *]

theorem place_eq_iff (hH : 0 < H) {x y : ℕ} (hx : x < H) (hy : y < V) (n : ℕ) :
    place H V n = (x, y) ↔ n % (H * V) = x + H * y := by
  rw [place, Prod.mk.injEq, Nat.mod_mul]
  constructor
  · rintro ⟨rfl, rfl⟩
    rfl
  · intro h
    have hmod := congrArg (· % H) h
    have hdiv := congrArg (· / H) h
    simp only [Nat.add_mul_mod_self_left, Nat.mod_mod, Nat.mod_eq_of_lt hx] at hmod
    simp only [Nat.add_mul_div_left _ _ hH, Nat.div_eq_of_lt (Nat.mod_lt n hH),
      Nat.div_eq_of_lt hx, Nat.zero_add] at hdiv
    exact ⟨hmod, hdiv⟩

/-- In a window of one period each residue occurs exactly once. -/
theorem existsUnique_mod {p r : ℕ} (hr : r < p) (m : ℕ) :
    ∃! n, m < n ∧ n ≤ m + p ∧ n % p = r := by
  have hm := Nat.mod_lt m (Nat.zero_lt_of_lt hr)
  have hdiv := Nat.mod_add_div m p
  have residue : ∀ q, (r + p * q) % p = r := fun q => by
    rw [Nat.add_mul_mod_self_left, Nat.mod_eq_of_lt hr]
  have hex : ∃ n, m < n ∧ n ≤ m + p ∧ n % p = r := by
    by_cases h : m % p < r
    · exact ⟨r + p * (m / p), by omega, by omega, residue _⟩
    · have hp : p * (m / p + 1) = p * (m / p) + p := Nat.mul_succ _ _
      exact ⟨r + p * (m / p + 1), by omega, by omega, residue _⟩
  obtain ⟨n, h1, h2, h3⟩ := hex
  refine ⟨n, ⟨h1, h2, h3⟩, ?_⟩
  rintro k ⟨k1, k2, k3⟩
  obtain ⟨a, rfl⟩ := Nat.exists_eq_add_of_lt h1
  obtain ⟨b, rfl⟩ := Nat.exists_eq_add_of_lt k1
  have hmod : m + 1 + b ≡ m + 1 + a [MOD p] := by
    rw [Nat.add_right_comm m 1 b, Nat.add_right_comm m 1 a]
    exact k3.trans h3.symm
  rw [(Nat.ModEq.add_left_cancel' _ hmod).eq_of_lt_of_lt (by omega) (by omega)]

/-- **Each place is visited exactly once** in a window of `H * V` steps. -/
theorem existsUnique_place {x y : ℕ} (hx : x < H) (hy : y < V) (m : ℕ) :
    ∃! n, m < n ∧ n ≤ m + H * V ∧ place H V n = (x, y) := by
  have hxy : x + H * y < H * V :=
    calc x + H * y < H + H * y := Nat.add_lt_add_right hx _
      _ = H * (y + 1) := by ring
      _ ≤ H * V := Nat.mul_le_mul_left H hy
  simp only [place_eq_iff (Nat.zero_lt_of_lt hx) hx hy]
  exact existsUnique_mod hxy m

end Raster
