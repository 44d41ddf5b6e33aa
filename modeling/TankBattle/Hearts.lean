import TankBattle.Screen

/-!
# The heart mappers (`heart.sv`, `heart2p.sv`)

A row has five hearts of 20 by 20 pixels, and each has its own branch: it lights up if enough lives
remain, and reads its picture from the ROM whether it is lit or not.

* `HeartOut`, `heartCell`, `heartCells`: what one heart and one row do to the outputs;
* `heartMapper1`, `heartMapper2p`: the two mappers of the design;
* `heartCells_of_mem`, `heartCells_of_not_mem`: a row, computed in one go;
* `hearts_exact`: which pixels are lit, and what they show.
-/

namespace TankBattle

/-- The outputs of a mapper, and its address into the ROM. -/
structure HeartOut where
  isHeart : Bool
  code : BitVec 12
  readAddress : BitVec 9

/-- A row of hearts: its gate, the lives it shows, and where it is. -/
structure HeartRow where
  enable : Bool
  lives : BitVec 6
  top : Coord

/-- The branch of one heart; `dataOut` is what the ROM puts out. -/
def heartCell (r : HeartRow) (dataOut : BitVec 12) (drawX drawY : Coord) (least : BitVec 6)
    (left : Coord) (o : HeartOut) : HeartOut :=
  if left ≤ drawX ∧ drawX < left + 20 ∧ r.top ≤ drawY ∧ drawY < r.top + 20 then
    { isHeart := if least ≤ r.lives ∧ r.enable = true then true else o.isHeart
      code := dataOut
      readAddress := ((zext drawY - zext r.top) * 20 + (zext drawX - zext left)).setWidth 9 }
  else o

/-- The five hearts of a row. -/
def heartCells (r : HeartRow) (dataOut : BitVec 12) (drawX drawY : Coord) (o : HeartOut) :
    HeartOut :=
  heartCell r dataOut drawX drawY 5 590 (heartCell r dataOut drawX drawY 4 570
    (heartCell r dataOut drawX drawY 3 550 (heartCell r dataOut drawX drawY 2 530
      (heartCell r dataOut drawX drawY 1 510 o))))

/-- A mapper with some rows, in the order of the source. -/
def heartRows (rows : List HeartRow) (dataOut : BitVec 12) (drawX drawY : Coord) : HeartOut :=
  rows.foldl (fun o r => heartCells r dataOut drawX drawY o) ⟨false, 0, 0⟩

namespace Sys

variable (s : Sys)

/-- The rows of `heart_mapper1`: the player, enemy 1 and enemy 2. -/
def heartRows1 : List HeartRow :=
  [⟨s.onePlayerMode && s.mode == 2, s.playerLives, 220⟩,
    ⟨s.onePlayerMode && s.mode == 2, s.enemy1Lives, 260⟩, ⟨s.enable12, s.enemy2Lives, 290⟩]

/-- The rows of `heart_mapper_2p`: player 1 and player 2. -/
def heartRows2p : List HeartRow :=
  [⟨s.twoPlayersMode && s.mode == 2, s.player1Lives, 220⟩,
    ⟨s.twoPlayersMode && s.mode == 2, s.player2Lives, 260⟩]

/-- `heart_mapper1`. -/
def heartMapper1 (dataOut : BitVec 12) (drawX drawY : Coord) : HeartOut :=
  TankBattle.heartRows s.heartRows1 dataOut drawX drawY

/-- `heart_mapper_2p`. -/
def heartMapper2p (dataOut : BitVec 12) (drawX drawY : Coord) : HeartOut :=
  TankBattle.heartRows s.heartRows2p dataOut drawX drawY

end Sys

section Row

variable {r : HeartRow} {dataOut : BitVec 12} {drawX drawY : Coord} {o : HeartOut}

/-- The pixel is in a row of hearts. -/
structure HeartRow.Mem (r : HeartRow) (drawX drawY : Coord) : Prop where
  left : 510 ≤ drawX.toNat
  right : drawX.toNat < 610
  top : r.top.toNat ≤ drawY.toNat
  bottom : drawY.toNat < r.top.toNat + 20

/-- A bar of 20 pixels for each life, and five at most. -/
def HeartRow.Lit (r : HeartRow) (drawX : Coord) : Prop :=
  r.enable = true ∧ drawX.toNat < 510 + 20 * min r.lives.toNat 5

/-- The place of the pixel in the picture of its heart, row by row. -/
def HeartRow.address (r : HeartRow) (drawX drawY : Coord) : ℕ :=
  20 * (drawY.toNat - r.top.toNat) + (drawX.toNat - 510) % 20

/-- The condition of a heart, in numbers. -/
theorem heartCell_iff {left : Coord} (hl : left.toNat ≤ 590)
    (ht : r.top.toNat ≤ 1000) :
    (left ≤ drawX ∧ drawX < left + 20 ∧ r.top ≤ drawY ∧ drawY < r.top + 20) ↔
      (left.toNat ≤ drawX.toNat ∧ drawX.toNat < left.toNat + 20) ∧
        r.top.toNat ≤ drawY.toNat ∧ drawY.toNat < r.top.toNat + 20 := by
  have h1 : (left + 20).toNat = left.toNat + 20 := by bv_omega
  have h2 : (r.top + 20).toNat = r.top.toNat + 20 := by bv_omega
  rw [BitVec.le_def, BitVec.lt_def, BitVec.le_def, BitVec.lt_def, h1, h2, and_assoc]

theorem heartCell_skip {least : BitVec 6} {left : Coord} (hl : left.toNat ≤ 590)
    (ht : r.top.toNat ≤ 1000)
    (h : ¬ ((left.toNat ≤ drawX.toNat ∧ drawX.toNat < left.toNat + 20) ∧
      r.top.toNat ≤ drawY.toNat ∧ drawY.toNat < r.top.toNat + 20)) :
    heartCell r dataOut drawX drawY least left o = o :=
  if_neg (mt (heartCell_iff hl ht).1 h)

/-- The branch of the heart that the pixel is in; it is number `j` of its row. -/
theorem heartCell_hit {least : BitVec 6} {left : Coord} {j : ℕ} (hj : j < 5)
    (hleast : least.toNat = j + 1) (hl : left.toNat = 510 + 20 * j) (ht : r.top.toNat ≤ 1000)
    (hx : left.toNat ≤ drawX.toNat ∧ drawX.toNat < left.toNat + 20)
    (hy : r.top.toNat ≤ drawY.toNat ∧ drawY.toNat < r.top.toNat + 20) :
    ((heartCell r dataOut drawX drawY least left o).isHeart = true ↔
        o.isHeart = true ∨ r.Lit drawX) ∧
      (heartCell r dataOut drawX drawY least left o).code = dataOut ∧
      (heartCell r dataOut drawX drawY least left o).readAddress.toNat = r.address drawX drawY := by
  rw [heartCell, if_pos ((heartCell_iff (by omega) ht).2 ⟨hx, hy⟩)]
  refine ⟨?_, rfl, ?_⟩
  · have hlit : r.Lit drawX ↔ least ≤ r.lives ∧ r.enable = true := by
      rw [HeartRow.Lit, BitVec.le_def, and_comm]
      exact and_congr_left fun _ => by omega
    rw [hlit]
    by_cases h : least ≤ r.lives ∧ r.enable = true <;> simp [h]
  · have h1 : (zext drawY - zext r.top).toNat = drawY.toNat - r.top.toNat := by
      have := toNat_zext drawY
      have := toNat_zext r.top
      bv_omega
    have h2 : (zext drawX - zext left).toNat = drawX.toNat - left.toNat := by
      have := toNat_zext drawX
      have := toNat_zext left
      bv_omega
    rw [BitVec.toNat_setWidth, BitVec.toNat_add, BitVec.toNat_mul, h1, h2, HeartRow.address,
      show (20 : BitVec 32).toNat = 20 from rfl]
    omega

/-- Outside its hearts a row does nothing. -/
theorem heartCells_of_not_mem (ht : r.top.toNat ≤ 1000) (h : ¬ r.Mem drawX drawY) :
    heartCells r dataOut drawX drawY o = o := by
  have hskip : ∀ (least : BitVec 6) (left : Coord) (o : HeartOut), 510 ≤ left.toNat →
      left.toNat ≤ 590 → heartCell r dataOut drawX drawY least left o = o :=
    fun least left o h1 h2 => heartCell_skip h2 ht fun hc =>
      h ⟨by omega, by omega, hc.2.1, hc.2.2⟩
  rw [heartCells, hskip 1 510 o (by decide) (by decide), hskip 2 530 o (by decide) (by decide),
    hskip 3 550 o (by decide) (by decide), hskip 4 570 o (by decide) (by decide),
    hskip 5 590 o (by decide) (by decide)]

variable (dataOut o) in
/-- **A row in one go**: the branch of one heart is taken. -/
theorem heartCells_of_mem (ht : r.top.toNat ≤ 1000) (h : r.Mem drawX drawY) :
    ((heartCells r dataOut drawX drawY o).isHeart = true ↔
        o.isHeart = true ∨ r.Lit drawX) ∧
      (heartCells r dataOut drawX drawY o).code = dataOut ∧
      (heartCells r dataOut drawX drawY o).readAddress.toNat = r.address drawX drawY := by
  obtain ⟨h1, h2, h3, h4⟩ := h
  have hskip : ∀ (least : BitVec 6) (left : Coord) (o : HeartOut), left.toNat ≤ 590 →
      ¬ (left.toNat ≤ drawX.toNat ∧ drawX.toNat < left.toNat + 20) →
      heartCell r dataOut drawX drawY least left o = o :=
    fun least left o hl hx => heartCell_skip hl ht fun hc => hx hc.1
  have l1 : (510 : Coord).toNat = 510 := rfl
  have l2 : (530 : Coord).toNat = 530 := rfl
  have l3 : (550 : Coord).toNat = 550 := rfl
  have l4 : (570 : Coord).toNat = 570 := rfl
  have l5 : (590 : Coord).toNat = 590 := rfl
  rw [heartCells]
  rcases (by omega : drawX.toNat < 530 ∨ 530 ≤ drawX.toNat ∧ drawX.toNat < 550 ∨
    550 ≤ drawX.toNat ∧ drawX.toNat < 570 ∨ 570 ≤ drawX.toNat ∧ drawX.toNat < 590 ∨
    590 ≤ drawX.toNat) with hx | ⟨hx, hx'⟩ | ⟨hx, hx'⟩ | ⟨hx, hx'⟩ | hx
  · rw [hskip 5 590 _ (by decide) (by omega), hskip 4 570 _ (by decide) (by omega),
      hskip 3 550 _ (by decide) (by omega), hskip 2 530 _ (by decide) (by omega)]
    exact heartCell_hit (j := 0) (by decide) rfl rfl ht ⟨by omega, by omega⟩ ⟨h3, h4⟩
  · rw [hskip 5 590 _ (by decide) (by omega), hskip 4 570 _ (by decide) (by omega),
      hskip 3 550 _ (by decide) (by omega), hskip 1 510 _ (by decide) (by omega)]
    exact heartCell_hit (j := 1) (by decide) rfl rfl ht ⟨by omega, by omega⟩ ⟨h3, h4⟩
  · rw [hskip 5 590 _ (by decide) (by omega), hskip 4 570 _ (by decide) (by omega),
      hskip 2 530 _ (by decide) (by omega), hskip 1 510 _ (by decide) (by omega)]
    exact heartCell_hit (j := 2) (by decide) rfl rfl ht ⟨by omega, by omega⟩ ⟨h3, h4⟩
  · rw [hskip 5 590 _ (by decide) (by omega), hskip 3 550 _ (by decide) (by omega),
      hskip 2 530 _ (by decide) (by omega), hskip 1 510 _ (by decide) (by omega)]
    exact heartCell_hit (j := 3) (by decide) rfl rfl ht ⟨by omega, by omega⟩ ⟨h3, h4⟩
  · rw [hskip 4 570 _ (by decide) (by omega), hskip 3 550 _ (by decide) (by omega),
      hskip 2 530 _ (by decide) (by omega), hskip 1 510 _ (by decide) (by omega)]
    exact heartCell_hit (j := 4) (by decide) rfl rfl ht ⟨by omega, by omega⟩ ⟨h3, h4⟩

/-- The signal of a heart is the one that the priority of the pixels uses. -/
theorem heartCell_isHeart (least : BitVec 6) (left : Coord) :
    (heartCell r dataOut drawX drawY least left o).isHeart =
      (heart r.enable r.lives least left r.top drawX drawY || o.isHeart) := by
  rw [heartCell, heart]
  split_ifs with h1 h2
  · obtain ⟨a1, a2, a3, a4⟩ := h1
    simp only [a1, a2, a3, a4, h2.1, h2.2, decide_true, Bool.and_self, Bool.true_or]
  · obtain ⟨a1, a2, a3, a4⟩ := h1
    simp only [a1, a2, a3, a4, decide_true, Bool.true_and]
    by_cases hl : least ≤ r.lives
    · have he : r.enable = false := by simpa [hl] using h2
      simp [he]
    · simp [hl]
  · have hno : (decide (left ≤ drawX) && decide (drawX < left + 20) && decide (r.top ≤ drawY) &&
        decide (drawY < r.top + 20)) = false := by
      rw [← Bool.not_eq_true]
      simpa [and_assoc] using h1
    rw [hno, Bool.false_and, Bool.false_and, Bool.false_or]

theorem heartCells_isHeart : (heartCells r dataOut drawX drawY o).isHeart =
    (heartRow r.enable r.lives r.top drawX drawY || o.isHeart) := by
  simp only [heartCells, heartCell_isHeart, heartRow]
  ac_rfl

end Row

/-! ### All rows -/

section Rows

variable {rows : List HeartRow} {r : HeartRow} {dataOut : BitVec 12} {drawX drawY : Coord}

/-- The rows are on the screen, one below the other. -/
structure Stacked (rows : List HeartRow) : Prop where
  top : ∀ r ∈ rows, r.top.toNat ≤ 1000
  apart : rows.Pairwise fun r r' => r.top.toNat + 20 ≤ r'.top.toNat

theorem foldl_of_not_mem (ht : ∀ r ∈ rows, r.top.toNat ≤ 1000)
    (h : ∀ r ∈ rows, ¬ r.Mem drawX drawY) (o : HeartOut) :
    rows.foldl (fun o r => heartCells r dataOut drawX drawY o) o = o := by
  induction rows with
  | nil => rfl
  | cons r rows ih =>
    rw [List.foldl_cons, heartCells_of_not_mem (ht r List.mem_cons_self) (h r List.mem_cons_self)]
    exact ih (fun r' hr => ht r' (List.mem_cons_of_mem r hr))
      fun r' hr => h r' (List.mem_cons_of_mem r hr)

variable (dataOut) in
/-- Only the row that the pixel is in counts. -/
theorem heartRows_of_mem (hs : Stacked rows) (hr : r ∈ rows) (h : r.Mem drawX drawY) :
    heartRows rows dataOut drawX drawY = heartCells r dataOut drawX drawY ⟨false, 0, 0⟩ := by
  obtain ⟨l, l', rfl⟩ := List.append_of_mem hr
  obtain ⟨ht, hapart⟩ := hs
  obtain ⟨-, hcons, hbefore⟩ := List.pairwise_append.1 hapart
  obtain ⟨hafter, -⟩ := List.pairwise_cons.1 hcons
  rw [heartRows, List.foldl_append, List.foldl_cons,
    foldl_of_not_mem fun r' hr' => ht r' (List.mem_append_left _ hr'),
    foldl_of_not_mem fun r' hr' => ht r' (List.mem_append_right _ (List.mem_cons_of_mem r hr'))]
  · intro r' hr' h'
    have := hafter r' hr'
    have := h'.top
    have := h.bottom
    omega
  · intro r' hr' h'
    have := hbefore r' hr' r List.mem_cons_self
    have := h'.bottom
    have := h.top
    omega

/-- What a mapper shows: in every row a bar of 20 pixels for each life, and five at most; and every
pixel of a row is read from its place in the ROM, which has 400 words. -/
structure ShowsLives (rows : List HeartRow) (dataOut : BitVec 12) (drawX drawY : Coord)
    (o : HeartOut) : Prop where
  lit : o.isHeart = true ↔ ∃ r ∈ rows, r.Mem drawX drawY ∧ r.Lit drawX
  code : ∀ r ∈ rows, r.Mem drawX drawY → o.code = dataOut
  address : ∀ r ∈ rows, r.Mem drawX drawY → o.readAddress.toNat = r.address drawX drawY
  range : o.readAddress.toNat < 400

theorem showsLives (hs : Stacked rows) :
    ShowsLives rows dataOut drawX drawY (heartRows rows dataOut drawX drawY) := by
  by_cases h : ∃ r ∈ rows, r.Mem drawX drawY
  · obtain ⟨r, hr, hm⟩ := h
    have hrow := heartRows_of_mem dataOut hs hr hm
    obtain ⟨hlit, hcode, haddr⟩ := heartCells_of_mem dataOut ⟨false, 0, 0⟩
      (hs.top r hr) hm
    rw [← hrow] at hlit hcode haddr
    refine ⟨⟨fun h => ⟨r, hr, hm, (hlit.1 h).resolve_left Bool.false_ne_true⟩, ?_⟩,
      fun _ _ _ => hcode, fun r' hr' hm' => ?_, ?_⟩
    · rintro ⟨r', hr', hm', hl⟩
      obtain ⟨hlit', -⟩ := heartCells_of_mem dataOut ⟨false, 0, 0⟩
        (hs.top r' hr') hm'
      rw [heartRows_of_mem _ hs hr' hm', hlit']
      exact Or.inr hl
    · rw [heartRows_of_mem _ hs hr' hm']
      exact (heartCells_of_mem _ _ (hs.top r' hr') hm').2.2
    · rw [haddr, HeartRow.address]
      have := hm.top
      have := hm.bottom
      omega
  · push Not at h
    have hnone : heartRows rows dataOut drawX drawY = ⟨false, 0, 0⟩ :=
      foldl_of_not_mem hs.top h _
    rw [hnone]
    exact ⟨⟨fun h' => absurd h' Bool.false_ne_true, fun ⟨r, hr, hm, _⟩ => absurd hm (h r hr)⟩,
      fun r hr hm => absurd hm (h r hr), fun r hr hm => absurd hm (h r hr), by decide⟩

end Rows

/-- **The hearts show the lives**: in every state and at every pixel both mappers show, row by row,
as many hearts as there are lives, up to five, and read no word outside their ROM; and their signals
are those that decide what is painted. -/
theorem hearts_exact (s : Sys) (dataOut : BitVec 12) (drawX drawY : Coord) :
    ShowsLives s.heartRows1 dataOut drawX drawY (s.heartMapper1 dataOut drawX drawY) ∧
      ShowsLives s.heartRows2p dataOut drawX drawY (s.heartMapper2p dataOut drawX drawY) ∧
      (s.heartMapper1 dataOut drawX drawY).isHeart = s.isHeart drawX drawY ∧
      (s.heartMapper2p dataOut drawX drawY).isHeart = s.isHeart2 drawX drawY := by
  refine ⟨showsLives ⟨?_, ?_⟩, showsLives ⟨?_, ?_⟩, ?_, ?_⟩
  · simp [Sys.heartRows1]
  · simp [Sys.heartRows1]
  · simp [Sys.heartRows2p]
  · simp [Sys.heartRows2p]
  · simp only [Sys.heartMapper1, heartRows, Sys.heartRows1, List.foldl_cons, List.foldl_nil,
      heartCells_isHeart, Sys.isHeart]
    ac_rfl
  · simp only [Sys.heartMapper2p, heartRows, Sys.heartRows2p, List.foldl_cons, List.foldl_nil,
      heartCells_isHeart, Sys.isHeart2]
    ac_rfl

end TankBattle
