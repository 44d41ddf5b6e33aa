import TankBattle.Drive

/-!
# A tank that a letter has stopped

The stop signal of a letter makes a frame pulse load no motion, but the same pulse carries out the
motion loaded before.  What the tank does from then on, as long as the key is held, depends on the
check at the place where that last step leads to.

* `Held`: no reset, the key in effect, the letters as the only obstacles;
* `Passes`: the next step is neither stopped by a letter nor limited by the border;
* `Arrested`: the tank never gets more than one step further;
* `arrested_iff`: the places where it does not;
* `crossing`: a tank in front of the slanted stroke, whose right check misses every other column.
-/

namespace TankBattle

/-! ### The key in effect -/

/-- The direction of the key in effect, in the order of the source. -/
def Tank.ordered (c : TankConfig) (keycode : BitVec 32) : Option Dir :=
  if keyOn keycode c.upKey then some .up
  else if keyOn keycode c.downKey then some .down
  else if keyOn keycode c.leftKey then some .left
  else if keyOn keycode c.rightKey then some .right
  else none

/-- The limit of the border for a step from `(x, y)`. -/
def Limit (d : Dir) (x y : Coord) : Prop :=
  match d with
  | .right => x + size < 476
  | .up => 22 < y
  | .left => 2 < x
  | .down => y + size < 478

instance (d : Dir) (x y : Coord) : Decidable (Limit d x y) := by
  cases d <;> exact inferInstanceAs (Decidable (_ < _))

/-- Neither the border nor a letter is in the way of a step from the place `q`. -/
def Passes (d : Dir) (q : Coord × Coord) : Prop :=
  Limit d q.1 q.2 ∧ (letterStops q.1 q.2).toward (some d) = false

instance (d : Dir) (q : Coord × Coord) : Decidable (Passes d q) :=
  inferInstanceAs (Decidable (_ ∧ _))

/-- The place of a tank. -/
def Tank.place (t : Tank) : Coord × Coord := (t.xPos, t.yPos)

/-- The key of direction `d` is in effect, and nothing but the letters stops the tank. -/
structure Held (c : TankConfig) (d : Dir) (i : TankPins) (t : Tank) : Prop where
  reset : i.reset = false
  key : Tank.ordered c i.keycode = some d
  stop : i.stop = letterStops t.xPos t.yPos

section Edge

variable {c : TankConfig} {d : Dir} {i : TankPins} {t : Tank}

/-- What a frame pulse decides on. -/
theorem Held.motionIn (h : Held c d i t) :
    ((t.motionIn c i.keycode i.stop).1, (t.motionIn c i.keycode i.stop).2.1) =
      if Passes d t.place then twoPixels d else 0 := by
  have hk := h.key
  rw [h.stop]
  unfold Tank.ordered at hk
  by_cases hq : Passes d t.place
  · rw [if_pos hq]
    obtain ⟨h1, h2⟩ := hq
    split_ifs at hk <;> cases hk <;> simp only [Limit, Stops.toward, Tank.place] at h1 h2 <;>
      simp_all [Tank.motionIn, twoPixels]
  · rw [if_neg hq]
    split_ifs at hk <;> cases hk <;>
      simp only [Passes, Limit, Stops.toward, Tank.place] at hq <;>
      simp_all [Tank.motionIn]

/-- A frame pulse carries out the pending motion and decides on the next one. -/
theorem Held.pulse (h : Held c d i t) (hp : t.Pulse) :
    (t.clock c i).place = t.place + t.motion ∧
      (t.clock c i).motion = if Passes d t.place then twoPixels d else 0 := by
  obtain ⟨hx, hy⟩ := Tank.clock_pulse (c := c) h.reset hp
  refine ⟨Prod.ext hx hy, ?_⟩
  rw [← h.motionIn]
  simp [Tank.clock, Tank.step, Tank.motion, h.reset, hp.1, hp.2]

/-- Between the pulses nothing changes. -/
theorem Held.idle (h : Held c d i t) (hn : t.newInstance = false) (hp : ¬ t.Pulse) :
    (t.clock c i).place = t.place ∧ (t.clock c i).motion = t.motion := by
  have he : t.edge.rising = false := by
    rw [← Bool.not_eq_true]
    exact fun hr => hp ⟨hr, hn⟩
  constructor <;> simp [Tank.clock, Tank.step, Tank.motion, Tank.place, h.reset, hn, he]

end Edge

/-! ### How far a tank has come -/

/-- The pixels from the one place to the other in direction `d`. -/
def advance (d : Dir) (t t' : Tank) : ℤ :=
  match d with
  | .right => t'.xPos.toNat - t.xPos.toNat
  | .up => t.yPos.toNat - t'.yPos.toNat
  | .left => t.xPos.toNat - t'.xPos.toNat
  | .down => t'.yPos.toNat - t.yPos.toNat

section Advance

variable {d e : Dir} {t t' : Tank}

theorem advance_add (d : Dir) (t t' t'' : Tank) :
    advance d t t'' = advance d t t' + advance d t' t'' := by
  cases d <;> simp only [advance] <;> ring

theorem advance_of_eq (d : Dir) (h : t'.place = t.place) : advance d t t' = 0 := by
  have hx : t'.xPos = t.xPos := congrArg Prod.fst h
  have hy : t'.yPos = t.yPos := congrArg Prod.snd h
  cases d <;> simp [advance, hx, hy]

/-- A step from one place on the grid to another is exact. -/
theorem shift_of_place (h : OnGrid 2 t.mover) (h' : OnGrid 2 t'.mover)
    (ht : t'.place = t.place + twoPixels e) :
    (t'.xPos.toNat : ℤ) = t.xPos.toNat + (stride 2 (some e)).1 ∧
      (t'.yPos.toNat : ℤ) = t.yPos.toNat + (stride 2 (some e)).2 := by
  have hx : t'.xPos = t.xPos + (twoPixels e).1 := congrArg Prod.fst ht
  have hy : t'.yPos = t.yPos + (twoPixels e).2 := congrArg Prod.snd ht
  have b1 : t.xPos.toNat ≤ 460 := h.x_le
  have b2 : t.yPos.toNat ≤ 462 := h.y_le
  have b3 : t'.xPos.toNat ≤ 460 := h'.x_le
  have b4 : t'.yPos.toNat ≤ 462 := h'.y_le
  cases e <;> simp only [twoPixels, stride] at * <;> constructor <;> bv_omega

theorem advance_self (h : OnGrid 2 t.mover) (h' : OnGrid 2 t'.mover)
    (ht : t'.place = t.place + twoPixels d) : advance d t t' = 2 := by
  obtain ⟨hx, hy⟩ := shift_of_place h h' ht
  cases d <;> simp only [advance, stride] at * <;> omega

/-- The pending motion is no step or one of two pixels. -/
theorem motion_cases (h : OnGrid 2 t.mover) : t.motion = 0 ∨ ∃ e, t.motion = twoPixels e := by
  obtain ⟨m, hm⟩ := h.heads
  rcases m with _ | e
  · exact Or.inl (Prod.ext hm.1 hm.2)
  · right
    refine ⟨e, ?_⟩
    cases e <;> exact Prod.ext hm.1 hm.2.1

/-- Against the direction, across it, or along it. -/
theorem advance_step (h : OnGrid 2 t.mover) (h' : OnGrid 2 t'.mover)
    (ht : t'.place = t.place + twoPixels e) :
    twoPixels e = -twoPixels d ∧ advance d t t' = -2 ∨
      twoPixels e ≠ -twoPixels d ∧ (advance d t t' = 0 ∨ advance d t t' = 2) := by
  obtain ⟨hx, hy⟩ := shift_of_place h h' ht
  cases d <;> cases e <;> simp only [advance, stride, twoPixels] at * <;>
    first | exact Or.inl ⟨by decide, by omega⟩ | exact Or.inr ⟨by decide, by omega⟩

end Advance

/-! ### Runs with the key held -/

section Runs

open Sync.Run

variable {c : TankConfig} {d : Dir} {f : ℕ → TankPins} {t : Tank} {k : ℕ}

/-- Place and motion follow the frame pulses, whenever they come. -/
theorem Held.invariant {P : Coord × Coord → Coord × Coord → Prop}
    (hs : ∀ q m, P q m → P (q + m) (if Passes d q then twoPixels d else 0))
    (hn : t.newInstance = false) (h0 : P t.place t.motion)
    (hk : ∀ j < k, Held c d (f j) (states (Tank.clock c) f t j)) :
    P (states (Tank.clock c) f t k).place (states (Tank.clock c) f t k).motion := by
  have key : (states (Tank.clock c) f t k).newInstance = false ∧
      P (states (Tank.clock c) f t k).place (states (Tank.clock c) f t k).motion := by
    induction k with
    | zero => exact ⟨hn, h0⟩
    | succ k ih =>
      obtain ⟨hn', hP⟩ := ih fun j hj => hk j (by omega)
      have h := hk k (by omega)
      refine ⟨Tank.clock_newInstance h.reset hn', ?_⟩
      rw [states]
      by_cases hp : (states (Tank.clock c) f t k).Pulse
      · obtain ⟨e1, e2⟩ := h.pulse hp
        rw [e1, e2]
        exact hs _ _ hP
      · obtain ⟨e1, e2⟩ := h.idle hn' hp
        rw [e1, e2]
        exact hP
  exact key.2

/-- The condition: the place where the pending step leads to stops the tank, or the step leads back
and the place ahead stops it. -/
def Stopped (d : Dir) (t : Tank) : Prop :=
  ¬ Passes d (t.place + t.motion) ∨
    t.motion = -twoPixels d ∧ ¬ Passes d (t.place + twoPixels d)

/-- Under the condition the tank is never anywhere else. -/
theorem Held.place (hn : t.newInstance = false) (ht : ¬ Passes d t.place) (h : Stopped d t)
    (hk : ∀ j < k, Held c d (f j) (states (Tank.clock c) f t j)) :
    (states (Tank.clock c) f t k).place = t.place ∨
      (states (Tank.clock c) f t k).place = t.place + t.motion ∨
      (states (Tank.clock c) f t k).place = t.place + twoPixels d := by
  rcases h with h | ⟨hm, h⟩
  · have := Held.invariant (P := fun q m => q = t.place ∧ m = t.motion ∨
      q = t.place + t.motion ∧ m = 0) ?_ hn (Or.inl ⟨rfl, rfl⟩) hk
    · tauto
    · rintro q m (⟨rfl, rfl⟩ | ⟨rfl, rfl⟩)
      · exact Or.inr ⟨rfl, if_neg ht⟩
      · exact Or.inr ⟨add_zero _, if_neg h⟩
  · have hback : t.place + t.motion + twoPixels d = t.place := by rw [hm]; abel
    have hstay : ∀ q : Coord × Coord, (if Passes d q then twoPixels d else 0) = twoPixels d ∨
        (if Passes d q then twoPixels d else 0) = 0 := fun q => ite_eq_or_eq _ _ _
    have := Held.invariant (P := fun q m => q = t.place ∧ (m = t.motion ∨ m = twoPixels d ∨ m = 0) ∨
      q = t.place + t.motion ∧ (m = twoPixels d ∨ m = 0) ∨
      q = t.place + twoPixels d ∧ m = 0) ?_ hn (Or.inl ⟨rfl, Or.inl rfl⟩) hk
    · tauto
    · rintro q m (⟨rfl, rfl | rfl | rfl⟩ | ⟨rfl, rfl | rfl⟩ | ⟨rfl, rfl⟩)
      · exact Or.inr (Or.inl ⟨rfl, Or.inr (if_neg ht)⟩)
      · exact Or.inr (Or.inr ⟨rfl, if_neg ht⟩)
      · exact Or.inl ⟨add_zero _, Or.inr (Or.inr (if_neg ht))⟩
      · exact Or.inl ⟨hback, Or.inr (hstay _)⟩
      · exact Or.inr (Or.inl ⟨add_zero _, hstay _⟩)
      · exact Or.inr (Or.inr ⟨add_zero _, if_neg h⟩)

end Runs

/-! ### A tank alone with the letters -/

section Lone

open Sync.Run

/-- The pins of such a tank, with a frame pulse in every other cycle. -/
def lone (keys : ℕ → BitVec 32) (k : ℕ) (t : Tank) : TankPins :=
  ⟨true, false, k % 2 == 1, keys k, letterStops t.xPos t.yPos⟩

variable {c : TankConfig} {d : Dir} {w : BitVec 32} {t : Tank} {k : ℕ}

/-- The tank in each cycle from `t` on, with the keys of one word held. -/
def solo (c : TankConfig) (w : BitVec 32) (t : Tank) : ℕ → Tank :=
  loop (Tank.clock c) (lone fun _ => w) t

theorem solo_succ (k : ℕ) :
    solo c w t (k + 1) = (solo c w t k).clock c (lone (fun _ => w) k (solo c w t k)) := rfl

theorem states_solo (k : ℕ) :
    states (Tank.clock c) (fun j => lone (fun _ => w) j (solo c w t j)) t k = solo c w t k :=
  states_loop _ _ _ _

theorem held_lone (hw : Tank.ordered c w = some d) (k : ℕ) (t : Tank) :
    Held c d (lone (fun _ => w) k t) t := ⟨rfl, hw, rfl⟩

/-- From one frame pulse to the next. -/
theorem solo_two (hw : Tank.ordered c w = some d) (he : k % 2 = 0) (hp : (solo c w t k).Pulse) :
    (solo c w t (k + 2)).Pulse ∧
      (solo c w t (k + 2)).place = (solo c w t k).place + (solo c w t k).motion ∧
      (solo c w t (k + 2)).motion = if Passes d (solo c w t k).place then twoPixels d else 0 := by
  rw [solo_succ, solo_succ]
  generalize solo c w t k = u at *
  have h1 := held_lone hw k u
  obtain ⟨e1, e2⟩ := h1.pulse hp
  have hn := Tank.clock_newInstance (c := c) h1.reset hp.2
  have hedge : (u.clock c (lone (fun _ => w) k u)).edge = ⟨false, false⟩ := by
    have hf : (k % 2 == 1) = false := by simp [he]
    simp [Tank.clock, Tank.step, lone, hp.1, hp.2, Edge.step, hf]
  generalize u.clock c (lone (fun _ => w) k u) = v at *
  have h2 := held_lone hw (k + 1) v
  have hv : ¬ v.Pulse := fun hq => by
    have := hq.1
    rw [hedge] at this
    cases this
  obtain ⟨g1, g2⟩ := h2.idle hn hv
  refine ⟨⟨?_, Tank.clock_newInstance h2.reset hn⟩, g1.trans e1, g2.trans e2⟩
  have hf : ((k + 1) % 2 == 1) = true := by
    have : (k + 1) % 2 = 1 := by omega
    simp [this]
  simp [Tank.clock, Tank.step, lone, hn, hedge, Edge.step, hf]

end Lone

/-- A word with the key of direction `d` alone. -/
def Player.key (p : Player) (d : Dir) : BitVec 32 :=
  match d with
  | .right => p.config.rightKey.setWidth 32
  | .up => p.config.upKey.setWidth 32
  | .left => p.config.leftKey.setWidth 32
  | .down => p.config.downKey.setWidth 32

theorem Player.ordered_key (p : Player) (d : Dir) : Tank.ordered p.config (p.key d) = some d := by
  cases p <;> cases d <;> decide

section Condition

open Sync.Run

variable {p : Player} {d : Dir} {t : Tank}

/-- As long as the key is held, the tank gets at most one step further. -/
def Arrested (p : Player) (d : Dir) (t : Tank) : Prop :=
  ∀ (f : ℕ → TankPins) (k : ℕ),
    (∀ j < k, Held p.config d (f j) (states (Tank.clock p.config) f t j)) →
      advance d t (states (Tank.clock p.config) f t k) ≤ 2

theorem states_onGrid (f : ℕ → TankPins) (h : OnGrid 2 t.mover) (k : ℕ) :
    OnGrid 2 (states (Tank.clock p.config) f t k).mover :=
  states_invariant (P := fun u : Tank => OnGrid 2 u.mover) f h
    (fun _ _ => Tank.onGrid_step p.startOk _ _ _ _ _) k

theorem Stopped.arrested (hg : OnGrid 2 t.mover) (hn : t.newInstance = false)
    (ht : ¬ Passes d t.place) (h : Stopped d t) : Arrested p d t := by
  intro f k hk
  have hg' := states_onGrid (p := p) f hg k
  rcases Held.place hn ht h hk with e | e | e
  · rw [advance_of_eq d e]
    decide
  · rcases motion_cases hg with hm | ⟨m, hm⟩
    · rw [advance_of_eq d (by rw [e, hm, add_zero])]
      decide
    · rcases advance_step (d := d) hg hg' (e.trans (by rw [hm])) with ⟨-, ha⟩ | ⟨-, ha | ha⟩ <;>
        rw [ha] <;> decide
  · exact (advance_self hg hg' e).le

theorem solo_onGrid {w : BitVec 32} (h : OnGrid 2 t.mover) (k : ℕ) :
    OnGrid 2 (solo p.config w t k).mover :=
  states_solo (c := p.config) (w := w) (t := t) k ▸ states_onGrid _ h k

/-- A tank at rest where it is not stopped takes two steps, since it decides on the second one
before the first is done. -/
theorem departs {w : BitVec 32} (hw : Tank.ordered p.config w = some d) (hg : OnGrid 2 t.mover)
    {k : ℕ} (he : k % 2 = 0) (hp : (solo p.config w t k).Pulse)
    (hm : (solo p.config w t k).motion = 0) (hq : Passes d (solo p.config w t k).place) :
    (solo p.config w t (k + 6)).Pulse ∧
      (solo p.config w t (k + 6)).place =
        (solo p.config w t k).place + twoPixels d + twoPixels d ∧
      (solo p.config w t (k + 6)).motion =
        (if Passes d ((solo p.config w t k).place + twoPixels d) then twoPixels d else 0) ∧
      advance d (solo p.config w t k) (solo p.config w t (k + 6)) = 4 := by
  have hgrid := solo_onGrid (p := p) (w := w) hg
  obtain ⟨P2, q2, m2⟩ := solo_two hw he hp
  obtain ⟨P4, q4, m4⟩ := solo_two hw (by omega) P2
  obtain ⟨P6, q6, m6⟩ := solo_two hw (by omega) P4
  simp only [Nat.add_assoc, Nat.reduceAdd] at *
  generalize solo p.config w t = L at *
  rw [hm, add_zero] at q2
  rw [if_pos hq] at m2
  rw [q2, m2] at q4
  rw [q2, if_pos hq] at m4
  rw [m4] at q6
  have a2 := advance_of_eq d q2
  have a4 := advance_self (hgrid (k + 2)) (hgrid (k + 4)) (q4.trans (by rw [q2]))
  have a6 := advance_self (hgrid (k + 4)) (hgrid (k + 6)) q6
  refine ⟨P6, q6.trans (by rw [q4]), m6.trans (by rw [q4]), ?_⟩
  rw [advance_add d _ (L (k + 2)), advance_add d (L (k + 2)) (L (k + 4)), a2, a4, a6]
  rfl

/-- Without the condition the tank takes at least two steps after the pending one. -/
theorem not_arrested (hg : OnGrid 2 t.mover) (hp : t.Pulse) (ht : ¬ Passes d t.place)
    (h : ¬ Stopped d t) : ¬ Arrested p d t := by
  intro ha
  have hw := p.ordered_key d
  have hadv : ∀ k, advance d t (solo p.config (p.key d) t k) ≤ 2 := by
    intro k
    have := ha (fun k => lone (fun _ => p.key d) k (solo p.config (p.key d) t k)) k fun j _ => by
      rw [states_solo]
      exact held_lone hw j _
    rwa [states_solo] at this
  obtain ⟨hq, hback⟩ := not_or.1 h
  rw [not_not] at hq
  -- the pending step, and a rest of one frame
  obtain ⟨P2, q2, m2⟩ := solo_two (t := t) (k := 0) hw rfl hp
  rw [show (0 : ℕ) + 2 = 2 from rfl] at P2 q2 m2
  change (solo p.config (p.key d) t 2).place = t.place + t.motion at q2
  change (solo p.config (p.key d) t 2).motion =
    if Passes d t.place then twoPixels d else 0 at m2
  rw [if_neg ht] at m2
  obtain ⟨P8, q8, m8, a8⟩ := departs hw hg rfl P2 m2 (by rwa [q2])
  have s8 := hadv (2 + 6)
  rw [advance_add d t (solo p.config (p.key d) t 2), a8] at s8
  have hg2 := solo_onGrid (p := p) (w := p.key d) hg 2
  rcases motion_cases hg with hm | ⟨m, hm⟩
  · rw [hm, add_zero] at hq
    exact ht hq
  · rcases advance_step (d := d) hg hg2 (q2.trans (by rw [hm])) with ⟨hm', a2⟩ | ⟨-, a2 | a2⟩
    · -- the tank comes back to where it was stopped, rests one step ahead and passes that place
      have hplace : t.place + t.motion + twoPixels d = t.place := by
        rw [hm.trans hm']
        abel
      rw [q2, hplace, if_neg ht] at m8
      rw [q2, hplace] at q8
      have hahead : Passes d (t.place + twoPixels d) := by
        by_contra hn
        exact hback ⟨hm.trans hm', hn⟩
      obtain ⟨-, -, -, a14⟩ := departs hw hg rfl P8 m8 (by rwa [q8])
      have s14 := hadv (2 + 6 + 6)
      rw [advance_add d t (solo p.config (p.key d) t (2 + 6)),
        advance_add d t (solo p.config (p.key d) t 2), a2, a8, a14] at s14
      omega
    · omega
    · omega

end Condition

/-- **A letter that has stopped a tank keeps it stopped** if and only if the place where the pending
step leads to stops it as well, or this step leads back and the place ahead stops it. -/
theorem arrested_iff (p : Player) (R : TankRun p) (n : ℕ) (d : Dir) (hp : (R.state n).Pulse)
    (hs : (letterStops (R.state n).xPos (R.state n).yPos).toward (some d) = true) :
    Arrested p d (R.state n) ↔ Stopped d (R.state n) := by
  have hg := tankRun_onGrid R n
  have ht : ¬ Passes d (R.state n).place := fun hq => by
    have := hs.symm.trans hq.2
    cases this
  constructor
  · intro ha
    by_contra hn
    exact not_arrested hg hp ht hn ha
  · exact Stopped.arrested hg hp.2 ht

/-- The keys that bring tank 1 from its start to the slanted stroke: to the right, up between the
stroke and the left stem of the N, and to the right again. -/
def crossingKeys (n : ℕ) : BitVec 32 :=
  if n < 4 then 0 else if n < 190 then 0x07 else if n < 282 then 0x1A else 0x07

/-- Tank 1 with these keys. -/
def crossing : TankRun .one :=
  Sync.Run.feedback (Tank.clock tank1Config) loaded_freshTank (lone crossingKeys)

/-- In the end the right stem of the N stops the tank. -/
theorem arrested_iff_crossing :
    (crossing.state 294).Pulse ∧
      (letterStops (crossing.state 294).xPos (crossing.state 294).yPos).right = true ∧
      Arrested .one .right (crossing.state 294) :=
  have hp : (crossing.state 294).Pulse := by decide +kernel
  have hs : (letterStops (crossing.state 294).xPos (crossing.state 294).yPos).right = true := by
    decide +kernel
  have hq : ¬ Passes .right ((crossing.state 294).place + (crossing.state 294).motion) := by
    decide +kernel
  ⟨hp, hs, (arrested_iff .one crossing 294 .right hp hs).2 (Or.inl hq)⟩

/-- The stroke stops the tank at `X = 190`, but not at `X = 192`, where the pending step leads to:
the tank drives into the stroke, up to `X = 196`. -/
theorem crossing_not_arrested :
    ¬ ∀ (p : Player) (R : TankRun p),
      (∀ n, (R.input n).stop = letterStops (R.state n).xPos (R.state n).yPos) →
      ∀ (n : ℕ) (d : Dir), (R.state n).Pulse →
        (letterStops (R.state n).xPos (R.state n).yPos).toward (some d) = true →
        Arrested p d (R.state n) := by
  intro h
  have ha := h .one crossing (fun _ => rfl) 286 .right (by decide +kernel) (by decide +kernel)
  have hkey : ∀ j, crossingKeys (286 + j) = 0x07 := fun j => by
    rw [crossingKeys, if_neg (by omega), if_neg (by omega), if_neg (by omega)]
  have hx : (crossing.state 286).xPos = 190 ∧ (crossing.state 294).xPos = 196 := by decide +kernel
  have := ha (fun j => crossing.input (286 + j)) 8 fun j _ => by
    rw [← crossing.state_add 286 j]
    refine ⟨rfl, ?_, rfl⟩
    change Tank.ordered tank1Config (crossingKeys (286 + j)) = _
    rw [hkey]
    decide
  rw [← crossing.state_add 286 8] at this
  change ((crossing.state 294).xPos.toNat : ℤ) - (crossing.state 286).xPos.toNat ≤ 2 at this
  rw [hx.1, hx.2] at this
  exact absurd this (by decide)

end TankBattle
