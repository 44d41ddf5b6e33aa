import TankBattle.Envelope

/-!
# Driving a tank

The motion registers and the direction of a tank are loaded together by a frame pulse, but a reset
loads a step down and the direction to the right.

* `Tank.clock_cases`: what one edge does to the three registers;
* `Driven`: the motion is zero or the step the tank faces, and zero before the first key;
* `Moved`: there has been a frame pulse since the last reset;
* `driven_iff`: the one if and only if the other.
-/

namespace TankBattle

namespace Tank

/-- The pending motion. -/
def motion (t : Tank) : Coord × Coord := (t.xMotion, t.yMotion)

/-- A movement key of the tank is down. -/
def moveKey (c : TankConfig) (keycode : BitVec 32) : Bool :=
  keyOn keycode c.upKey || keyOn keycode c.downKey || keyOn keycode c.leftKey ||
    keyOn keycode c.rightKey

variable {c : TankConfig} {i : TankPins} {t : Tank}

/-- A frame pulse decides on no step, or on one in the direction that it makes the tank face. -/
theorem motionIn_faces (keycode : BitVec 32) (stop : Stops) :
    ((t.motionIn c keycode stop).1, (t.motionIn c keycode stop).2.1) = (0, 0) ∨
      ((t.motionIn c keycode stop).1, (t.motionIn c keycode stop).2.1) =
        twoPixels (t.motionIn c keycode stop).2.2 := by
  unfold motionIn
  dsimp only
  -- one case for each key in the order of the source, allowed and refused
  split_ifs <;> first | exact Or.inl rfl | exact Or.inr rfl

/-- Without a movement key it decides on no step. -/
theorem motionIn_of_not_moveKey {keycode : BitVec 32} (h : moveKey c keycode = false)
    (stop : Stops) :
    ((t.motionIn c keycode stop).1, (t.motionIn c keycode stop).2.1) = (0, 0) := by
  simp only [moveKey, Bool.or_eq_false_iff] at h
  obtain ⟨⟨⟨hu, hd⟩, hl⟩, hr⟩ := h
  simp [motionIn, hu, hd, hl, hr]

/-- A tank that has been released stays so until a reset. -/
theorem clock_newInstance (hr : i.reset = false) (hn : t.newInstance = false) :
    (t.clock c i).newInstance = false := by
  have hs : t.state = .OTHER := by simpa [newInstance] using hn
  have hs' : (t.clock c i).state = .OTHER := by
    cases hp : t.edge.rising <;> simp [clock, step, hr, hn, hp, nextState, hs]
  simp [newInstance, hs']

/-- One edge loads the start values, decides on a step or keeps motion and direction. -/
theorem clock_cases (c : TankConfig) (i : TankPins) (t : Tank) :
    (i.reset = true ∨ t.newInstance = true) ∧ (t.clock c i).motion = (0, 2) ∧
        (t.clock c i).isTankDir = .right ∨
      i.reset = false ∧ t.Pulse ∧
        (t.clock c i).motion =
          ((t.motionIn c i.keycode i.stop).1, (t.motionIn c i.keycode i.stop).2.1) ∧
        (t.clock c i).isTankDir = (t.motionIn c i.keycode i.stop).2.2 ∨
      i.reset = false ∧ ¬ t.Pulse ∧ t.newInstance = false ∧ (t.clock c i).motion = t.motion ∧
        (t.clock c i).isTankDir = t.isTankDir := by
  by_cases h : (i.reset || t.newInstance) = true
  · refine Or.inl ⟨by simpa using h, ?_, ?_⟩ <;> simp only [clock, step, h, if_true, motion]
  · obtain ⟨hr, hn⟩ : i.reset = false ∧ t.newInstance = false := by simpa using h
    cases hp : t.edge.rising with
    | true =>
      refine Or.inr (Or.inl ⟨hr, ⟨hp, hn⟩, ?_, ?_⟩) <;> simp [clock, step, motion, hr, hn, hp]
    | false =>
      refine Or.inr (Or.inr ⟨hr, fun hq => ?_, hn, ?_, ?_⟩)
      · rw [hq.1] at hp
        cases hp
      · simp [clock, step, motion, hr, hn, hp]
      · simp [clock, step, hr, hn, hp]

end Tank

section Runs

variable {p : Player} (R : TankRun p)

/-- There has been a frame pulse since the last reset. -/
def Moved (n : ℕ) : Prop :=
  ∃ k < n, (R.state k).Pulse ∧ ∀ j, k ≤ j → j < n → (R.input j).reset = false

/-- A movement key has been in effect at a frame pulse since the last reset. -/
def Keyed (n : ℕ) : Prop :=
  ∃ k < n, (R.state k).Pulse ∧ Tank.moveKey p.config (R.input k).keycode = true ∧
    ∀ j, k ≤ j → j < n → (R.input j).reset = false

/-- The pending motion is zero or the step that the tank faces, and zero as long as no movement key
has been in effect. -/
structure Driven (n : ℕ) : Prop where
  faces : (R.state n).motion = (0, 0) ∨ (R.state n).motion = twoPixels (R.state n).isTankDir
  still : ¬ Keyed R n → (R.state n).motion = (0, 0)

variable {R} {n : ℕ}

theorem not_moved_zero : ¬ Moved R 0 := by
  rintro ⟨k, hk, -⟩
  omega

theorem moved_succ_iff : Moved R (n + 1) ↔
    (R.input n).reset = false ∧ ((R.state n).Pulse ∨ Moved R n) :=
  Sync.since_succ_iff _ _ n

theorem keyed_succ_iff : Keyed R (n + 1) ↔ (R.input n).reset = false ∧
    ((R.state n).Pulse ∧ Tank.moveKey p.config (R.input n).keycode = true ∨ Keyed R n) := by
  have h := Sync.since_succ_iff
    (fun k => (R.state k).Pulse ∧ Tank.moveKey p.config (R.input k).keycode = true)
    (fun j => (R.input j).reset = false) n
  simpa only [Keyed, and_assoc] using h

/-- Before the first frame pulse the motion is the step down that a reset loads; from then on the
tank is driven by its keys. -/
theorem driven_or_loaded (R : TankRun p) (n : ℕ) :
    Moved R n ∧ (R.state n).newInstance = false ∧ Driven R n ∨
      ¬ Moved R n ∧ (R.state n).motion = (0, 2) ∧ (R.state n).isTankDir = .right := by
  induction n with
  | zero =>
    obtain ⟨i, t₀, hr, hs⟩ := R.start
    refine Or.inr ⟨not_moved_zero, ?_, ?_⟩ <;> rw [hs] <;>
      simp only [Tank.clock, Tank.step, hr, if_true, Tank.motion]
  | succ n ih =>
    have hc := Tank.clock_cases p.config (R.input n) (R.state n)
    rw [← R.succ n] at hc
    rcases hc with ⟨hload, hm, hd⟩ | ⟨hr, hp, hm, hd⟩ | ⟨hr, hp, hn, hm, hd⟩
    · refine Or.inr ⟨fun hmoved => ?_, hm, hd⟩
      obtain ⟨hr, hmoved⟩ := moved_succ_iff.1 hmoved
      -- a tank on hold has not seen a pulse since its reset
      have hn : (R.state n).newInstance = true := hload.resolve_left (by simp [hr])
      rcases hmoved with hp | hmoved
      · exact absurd (hp.2.symm.trans hn) (by decide)
      · rcases ih with ⟨-, h, -⟩ | ⟨h, -⟩
        · exact absurd (h.symm.trans hn) (by decide)
        · exact h hmoved
    · refine Or.inl ⟨moved_succ_iff.2 ⟨hr, Or.inl hp⟩, ?_, ?_, fun hk => ?_⟩
      · rw [R.succ]
        exact Tank.clock_newInstance hr hp.2
      · rw [hm, hd]
        exact Tank.motionIn_faces _ _
      · rw [hm]
        refine Tank.motionIn_of_not_moveKey ?_ _
        by_contra hkey
        exact hk (keyed_succ_iff.2 ⟨hr, Or.inl ⟨hp, by simpa using hkey⟩⟩)
    · rw [moved_succ_iff, or_iff_right hp, and_iff_right hr, hm, hd]
      rcases ih with ⟨h1, -, h2⟩ | h
      · refine Or.inl ⟨h1, ?_, ?_, fun hk => ?_⟩
        · rw [R.succ]
          exact Tank.clock_newInstance hr hn
        · rw [hm, hd]
          exact h2.faces
        · rw [hm]
          exact h2.still fun hk' => hk (keyed_succ_iff.2 ⟨hr, Or.inr hk'⟩)
      · exact Or.inr h

end Runs

/-- **A tank moves only where it faces and only on a key** if and only if there has been a frame
pulse since the last reset. -/
theorem driven_iff (p : Player) (R : TankRun p) (n : ℕ) : Driven R n ↔ Moved R n := by
  rcases driven_or_loaded R n with ⟨hm, -, hd⟩ | ⟨hm, h1, h2⟩
  · exact iff_of_true hd hm
  · refine iff_of_false (fun hd => ?_) hm
    have := hd.faces
    rw [h1, h2] at this
    exact absurd this (by decide)

/-- Tank 1 after the reset, before any key: it faces to the right and is about to go down. -/
theorem falling_not_driven : ¬ ∀ (p : Player) (R : TankRun p) (n : ℕ), Driven R n := by
  intro h
  have hm : (falling.state 0).motion = (0, 2) ∧ (falling.state 0).isTankDir = .right := by decide
  have := (h .one falling 0).faces
  rw [hm.1, hm.2] at this
  exact absurd this (by decide)

end TankBattle
