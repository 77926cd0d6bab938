import Vivarium.Proofs.World.Placing

/-! Adjacency. Slots and the positions on the board name the same cells in the same order, and the
slot next to another is that of the position one step away, so no row and no column wraps around.
Words of 64 bits are wide enough for all of it. -/
namespace Vivarium

namespace Position

/-- `q` lies so many cells from `p` in direction `d`. -/
def Away (p : Position) (d : Heading) (cells : Nat) (q : Position) : Prop :=
  (q.row : Int) = p.row + cells * d.offset.1 ∧ (q.col : Int) = p.col + cells * d.offset.2

variable {p q : Position} {d : Heading} {m n : Nat}

theorem away_one_iff : p.Away d 1 q ↔
    (q.row : Int) = p.row + d.offset.1 ∧ (q.col : Int) = p.col + d.offset.2 := by
  rw [Away, Int.natCast_one, Int.one_mul, Int.one_mul]

theorem step?_eq_some_iff : p.step? d = some q ↔ p.Away d 1 q := by
  rcases q with ⟨row, col⟩
  rw [away_one_iff]
  simp only [step?, Option.ite_none_right_eq_some, Option.some.injEq, Position.mk.injEq]
  constructor
  · rintro ⟨⟨hrow, hcol⟩, rfl, rfl⟩
    omega
  · rintro ⟨hrow, hcol⟩
    omega

theorem Away.symm (h : p.Away d n q) : q.Away d.opposite n p := by
  obtain ⟨hrow, hcol⟩ := h
  cases d <;> simp only [Heading.offset] at hrow hcol <;>
    simp only [Away, Heading.opposite, Heading.right, Heading.offset] <;> omega

theorem Away.unique {r : Position} (h : p.Away d n q) (k : p.Away d n r) : q = r := by
  rcases q with ⟨row, col⟩
  rcases r with ⟨row', col'⟩
  simp only [Away] at h k
  rw [mk.injEq]
  omega

theorem away_zero (p : Position) (d : Heading) : p.Away d 0 p := by
  simp [Away]

theorem Away.next_iff {r : Position} (h : p.Away d n q) : q.Away d 1 r ↔ p.Away d (n + 1) r := by
  obtain ⟨hrow, hcol⟩ := h
  cases d <;> simp only [Heading.offset] at hrow hcol <;> simp only [Away, Heading.offset] <;> omega

theorem Away.distance_unique (h : p.Away d m q) (k : p.Away d n q) : m = n := by
  obtain ⟨hrow, hcol⟩ := h
  obtain ⟨krow, kcol⟩ := k
  cases d <;> simp only [Heading.offset] at hrow hcol krow kcol <;> omega

theorem Away.ne (h : p.Away d (n + 1) q) : q ≠ p := by
  rintro rfl
  exact absurd (h.distance_unique (away_zero q d)) n.succ_ne_zero

/-! ### Scan order -/

theorem compare_eq (p q : Position) :
    compare p q = (compare p.row q.row).then (compare p.col q.col) := by
  rcases p with ⟨row, col⟩
  rcases q with ⟨row', col'⟩
  change (compare row row').then ((compare col col').then .eq) = _
  rw [Ordering.then_eq]

theorem compare_swap (p q : Position) : (compare p q).swap = compare q p := by
  simp only [compare_eq, Ordering.swap_then, Nat.compare_swap]

theorem compare_of_before (h : p.Before q) : compare p q = .lt := by
  rw [compare_eq, Ordering.then_eq_lt, Nat.compare_eq_lt, Nat.compare_eq_eq, Nat.compare_eq_lt]
  exact h

end Position

namespace World

variable {w : World} {slot target : Nat} {d : Heading}

theorem compare_positionOf (w : World) (a b : Nat) :
    compare (w.positionOf a) (w.positionOf b) = compare a b := by
  rcases Nat.lt_trichotomy a b with hlt | rfl | hgt
  · rw [Position.compare_of_before (w.positionOf_before hlt), Nat.compare_eq_lt.mpr hlt]
  · rw [Position.compare_eq, Nat.compare_eq_eq.mpr rfl, Nat.compare_eq_eq.mpr rfl,
      Nat.compare_eq_eq.mpr rfl, Ordering.then_eq]
  · rw [← Position.compare_swap, Position.compare_of_before (w.positionOf_before hgt),
      ← Nat.compare_swap, Nat.compare_eq_lt.mpr hgt]

/-! ### Neighbours -/

theorem exists_slotOf?_iff {p : Position} : (∃ slot, w.slotOf? p = some slot) ↔ w.Contains p := by
  constructor
  · rintro ⟨slot, hslot⟩
    exact contains_of_slotOf? hslot
  · intro hin
    rw [← Option.ne_none_iff_exists']
    exact fun hnone => slotOf?_eq_none_iff.mp hnone hin

theorem neighbor?_eq_some_iff : w.neighbor? slot d = some target ↔
    ∃ p, (w.positionOf slot).Away d 1 p ∧ w.slotOf? p = some target := by
  simp only [neighbor?, Option.bind_eq_some_iff, Position.step?_eq_some_iff]

theorem away_of_neighbor? (h : w.neighbor? slot d = some target) :
    (w.positionOf slot).Away d 1 (w.positionOf target) := by
  obtain ⟨p, haway, htarget⟩ := neighbor?_eq_some_iff.mp h
  rw [positionOf_of_slotOf? htarget]
  exact haway

theorem neighbor?_opposite (hslot : slot < w.cells.size) (h : w.neighbor? slot d = some target) :
    w.neighbor? target d.opposite = some slot :=
  neighbor?_eq_some_iff.mpr ⟨_, (away_of_neighbor? h).symm, w.slotOf?_positionOf hslot⟩

theorem neighbor?_ne (h : w.neighbor? slot d = some target) : target ≠ slot := by
  rintro rfl
  exact (away_of_neighbor? h).ne rfl

theorem lt_wordBound_of_lt_size (w : World) (h : slot < w.cells.size) : slot < Text.wordBound := by
  rw [w.filled] at h
  exact Nat.lt_trans h w.addressable

theorem rows_lt_wordBound (w : World) : w.rows < Text.wordBound :=
  Nat.lt_of_le_of_lt (Nat.le_mul_of_pos_right w.rows w.cols_pos) w.addressable

theorem cols_lt_wordBound (w : World) : w.cols < Text.wordBound :=
  Nat.lt_of_le_of_lt (Nat.le_mul_of_pos_left w.cols (Nat.pos_of_mul_pos_right w.nonempty))
    w.addressable

end World

/-! ### Words -/

structure WordPosition where
  row : UInt64
  col : UInt64

/-- A board whose cells are counted in words. Sums and products of words wrap around. -/
structure WordBoard where
  rows : UInt64
  cols : UInt64

def WordPosition.toPosition (p : WordPosition) : Position := ⟨p.row.toNat, p.col.toNat⟩

def World.inWords (w : World) : WordBoard := ⟨.ofNat w.rows, .ofNat w.cols⟩

namespace WordBoard

def slotOf? (b : WordBoard) (p : WordPosition) : Option UInt64 :=
  if p.row < b.rows ∧ p.col < b.cols then some (p.row * b.cols + p.col) else none

def positionOf (b : WordBoard) (slot : UInt64) : WordPosition := ⟨slot / b.cols, slot % b.cols⟩

def shift? (a : UInt64) (offset : Int) : Option UInt64 :=
  if 0 ≤ a.toNat + offset ∧ a.toNat + offset < Text.wordBound then
    some (.ofNat (a.toNat + offset).toNat)
  else none

def neighbor? (b : WordBoard) (slot : UInt64) (d : Heading) : Option UInt64 := do
  let row ← shift? (b.positionOf slot).row d.offset.1
  let col ← shift? (b.positionOf slot).col d.offset.2
  b.slotOf? ⟨row, col⟩

theorem shift?_eq_some_iff {a b : UInt64} {offset : Int} :
    shift? a offset = some b ↔ (b.toNat : Int) = a.toNat + offset := by
  have hword : b.toNat < Text.wordBound := b.toNat_lt
  simp only [shift?, Option.ite_none_right_eq_some, Option.some.injEq]
  constructor
  · rintro ⟨⟨hlow, hhigh⟩, rfl⟩
    have hsum : (a.toNat + offset).toNat < UInt64.size := by
      change (a.toNat + offset).toNat < Text.wordBound
      omega
    rw [UInt64.toNat_ofNat_of_lt' hsum, Int.toNat_of_nonneg hlow]
  · intro hsum
    refine ⟨by omega, ?_⟩
    rw [← hsum, Int.toNat_natCast, UInt64.ofNat_toNat]

end WordBoard

namespace World

open WordBoard (shift?_eq_some_iff)

variable {w : World} {d : Heading}

theorem toNat_rows_inWords (w : World) : w.inWords.rows.toNat = w.rows :=
  UInt64.toNat_ofNat_of_lt' w.rows_lt_wordBound

theorem toNat_cols_inWords (w : World) : w.inWords.cols.toNat = w.cols :=
  UInt64.toNat_ofNat_of_lt' w.cols_lt_wordBound

theorem slotOf?_inWords_eq_some_iff {w : World} {p : WordPosition} {slot : UInt64} :
    w.inWords.slotOf? p = some slot ↔ w.slotOf? p.toPosition = some slot.toNat := by
  simp only [WordBoard.slotOf?, slotOf?, UInt64.lt_iff_toNat_lt, toNat_rows_inWords,
    toNat_cols_inWords, Option.ite_none_right_eq_some, Option.some.injEq, ← UInt64.toNat_inj,
    UInt64.toNat_add, UInt64.toNat_mul]
  apply and_congr_right
  intro hin
  -- The slot is on the board, so the sum and the product before it take no more than a word.
  have hword : p.row.toNat * w.cols + p.col.toNat < 2 ^ 64 := by
    have hslot : w.slotOf? p.toPosition = some (p.row.toNat * w.cols + p.col.toNat) := if_pos hin
    exact w.lt_wordBound_of_lt_size (slotOf?_lt hslot)
  rw [Nat.mod_eq_of_lt (show p.row.toNat * w.cols < 2 ^ 64 by omega), Nat.mod_eq_of_lt hword]
  rfl

theorem toPosition_positionOf_inWords (w : World) (slot : UInt64) :
    (w.inWords.positionOf slot).toPosition = w.positionOf slot.toNat := by
  simp only [WordBoard.positionOf, WordPosition.toPosition, positionOf, UInt64.toNat_div,
    UInt64.toNat_mod, toNat_cols_inWords]

theorem exists_toPosition {p : Position} (h : w.Contains p) :
    ∃ q : WordPosition, q.toPosition = p := by
  have hrow : p.row < UInt64.size := Nat.lt_trans h.1 w.rows_lt_wordBound
  have hcol : p.col < UInt64.size := Nat.lt_trans h.2 w.cols_lt_wordBound
  refine ⟨⟨.ofNat p.row, .ofNat p.col⟩, ?_⟩
  rw [WordPosition.toPosition, UInt64.toNat_ofNat_of_lt' hrow, UInt64.toNat_ofNat_of_lt' hcol]

theorem neighbor?_inWords_eq_some_iff {slot target : UInt64} :
    w.inWords.neighbor? slot d = some target ↔ w.neighbor? slot.toNat d = some target.toNat := by
  have hstep : w.inWords.neighbor? slot d = some target ↔ ∃ q : WordPosition,
      (w.positionOf slot.toNat).Away d 1 q.toPosition ∧ w.inWords.slotOf? q = some target := by
    rw [← w.toPosition_positionOf_inWords]
    simp only [WordBoard.neighbor?, Option.bind_eq_bind, Option.bind_eq_some_iff,
      shift?_eq_some_iff, Position.away_one_iff]
    constructor
    · rintro ⟨row, hrow, col, hcol, htarget⟩
      exact ⟨⟨row, col⟩, ⟨hrow, hcol⟩, htarget⟩
    · rintro ⟨q, ⟨hrow, hcol⟩, htarget⟩
      exact ⟨q.row, hrow, q.col, hcol, htarget⟩
  rw [hstep, neighbor?_eq_some_iff]
  constructor
  · rintro ⟨q, haway, htarget⟩
    exact ⟨_, haway, slotOf?_inWords_eq_some_iff.mp htarget⟩
  · rintro ⟨p, haway, htarget⟩
    obtain ⟨q, rfl⟩ := exists_toPosition (contains_of_slotOf? htarget)
    exact ⟨q, haway, slotOf?_inWords_eq_some_iff.mpr htarget⟩

theorem map_toNat_eq {words : Option UInt64} {numbers : Option Nat}
    (hwords : ∀ n ∈ numbers, n < Text.wordBound)
    (h : ∀ word : UInt64, words = some word ↔ numbers = some word.toNat) :
    words.map UInt64.toNat = numbers := by
  ext n
  rw [Option.map_eq_some_iff]
  constructor
  · rintro ⟨word, hword, rfl⟩
    exact (h word).mp hword
  · intro hn
    have hword : (UInt64.ofNat n).toNat = n := UInt64.toNat_ofNat_of_lt' (hwords n hn)
    exact ⟨.ofNat n, (h _).mpr (by rw [hword, hn]), hword⟩

theorem slotOf?_inWords (w : World) (p : WordPosition) :
    (w.inWords.slotOf? p).map UInt64.toNat = w.slotOf? p.toPosition :=
  map_toNat_eq (fun _ h => w.lt_wordBound_of_lt_size (slotOf?_lt h)) fun _ =>
    slotOf?_inWords_eq_some_iff

theorem neighbor?_inWords (w : World) (slot : UInt64) (d : Heading) :
    (w.inWords.neighbor? slot d).map UInt64.toNat = w.neighbor? slot.toNat d :=
  map_toNat_eq (fun _ h => w.lt_wordBound_of_lt_size (neighbor?_lt h)) fun _ =>
    neighbor?_inWords_eq_some_iff

end World

/-- Positions on the board and slots below the number of cells are each other's inverses, in the
same order. A slot has a neighbour exactly if the position one step away is on the board, and the
neighbour is the slot of that position: another slot, on whose opposite side the first one lies. A
machine that counts in words comes to the same slots, positions and neighbours, for no number on the
way takes more than a word. -/
theorem rows_and_columns_never_wrap (w : World) :
    (∀ p, w.Contains p →
      ∃ slot < w.rows * w.cols, w.slotOf? p = some slot ∧ w.positionOf slot = p) ∧
    (∀ p, ¬ w.Contains p → w.slotOf? p = none) ∧
    (∀ slot < w.rows * w.cols,
      w.Contains (w.positionOf slot) ∧ w.slotOf? (w.positionOf slot) = some slot) ∧
    (∀ a b, compare (w.positionOf a) (w.positionOf b) = compare a b) ∧
    (∀ slot < w.rows * w.cols, ∀ d target, w.neighbor? slot d = some target ↔
      ∃ p, (p.row : Int) = (w.positionOf slot).row + d.offset.1 ∧
        (p.col : Int) = (w.positionOf slot).col + d.offset.2 ∧
        w.Contains p ∧ w.slotOf? p = some target) ∧
    (∀ slot < w.rows * w.cols, ∀ d target, w.neighbor? slot d = some target →
      target < w.rows * w.cols ∧ target ≠ slot ∧ w.neighbor? target d.opposite = some slot) ∧
    (w.rows * w.cols < Text.wordBound ∧ w.inWords.rows.toNat = w.rows ∧
      w.inWords.cols.toNat = w.cols ∧ ∀ p, w.Contains p → p.row * w.cols + p.col < Text.wordBound) ∧
    (∀ p, (w.inWords.slotOf? p).map UInt64.toNat = w.slotOf? p.toPosition) ∧
    (∀ slot, (w.inWords.positionOf slot).toPosition = w.positionOf slot.toNat) ∧
    ∀ slot d, (w.inWords.neighbor? slot d).map UInt64.toNat = w.neighbor? slot.toNat d := by
  have hsize : w.cells.size = w.rows * w.cols := w.filled
  refine ⟨?_, fun p => World.slotOf?_eq_none_iff.mpr, ?_, w.compare_positionOf, ?_, ?_,
    ⟨w.addressable, w.toNat_rows_inWords, w.toNat_cols_inWords, ?_⟩, w.slotOf?_inWords,
    w.toPosition_positionOf_inWords, w.neighbor?_inWords⟩
  · intro p hin
    obtain ⟨slot, hslot⟩ := World.exists_slotOf?_iff.mpr hin
    exact ⟨slot, hsize ▸ World.slotOf?_lt hslot, hslot, World.positionOf_of_slotOf? hslot⟩
  · intro slot hslot
    rw [← hsize] at hslot
    exact ⟨w.positionOf_bounds hslot, w.slotOf?_positionOf hslot⟩
  · intro slot _ d target
    rw [World.neighbor?_eq_some_iff]
    constructor
    · rintro ⟨p, haway, htarget⟩
      obtain ⟨hrow, hcol⟩ := Position.away_one_iff.mp haway
      exact ⟨p, hrow, hcol, World.contains_of_slotOf? htarget, htarget⟩
    · rintro ⟨p, hrow, hcol, _, htarget⟩
      exact ⟨p, Position.away_one_iff.mpr ⟨hrow, hcol⟩, htarget⟩
  · intro slot hslot d target htarget
    rw [← hsize] at hslot ⊢
    exact ⟨World.neighbor?_lt htarget, World.neighbor?_ne htarget,
      World.neighbor?_opposite hslot htarget⟩
  · intro p hin
    exact w.lt_wordBound_of_lt_size (World.slotOf?_lt (if_pos hin))

/-- On a board of two rows and three columns, the end of the first row is next to the end of the
second and not to its beginning. -/
theorem first_row_ends_at_the_wall :
    ∃ w, World.empty 2 3 = .ok w ∧ w.neighbor? 2 .south = some 5 ∧ w.neighbor? 5 .north = some 2 ∧
      w.neighbor? 2 .east = none ∧ w.slotOf? ⟨0, 3⟩ = none ∧
      w.Contains (w.positionOf 3) ∧ w.slotOf? (w.positionOf 3) = some 3 ∧
      (∃ slot < 2 * 3, w.slotOf? ⟨1, 0⟩ = some slot ∧ w.positionOf slot = ⟨1, 0⟩) ∧
      (w.inWords.neighbor? 2 .east).map UInt64.toNat = none := by
  obtain ⟨hinverse, houtside, hslots, _, _, hopposite, _, _, _, hwords⟩ :=
    rows_and_columns_never_wrap
      ⟨2, 3, Array.replicate (2 * 3) none, Array.size_replicate, by decide, by decide⟩
  obtain ⟨_, _, hback⟩ := hopposite 2 (by decide) .south 5 rfl
  obtain ⟨hin, hslot⟩ := hslots 3 (by decide)
  refine ⟨_, rfl, rfl, hback, rfl, houtside _ ?_, hin, hslot, hinverse ⟨1, 0⟩ ?_, hwords 2 .east⟩
  · exact fun hcontains => absurd hcontains.2 (by decide)
  · exact ⟨by decide, by decide⟩

end Vivarium
