import Mathlib.Logic.Function.Basic
import Vivarium.World

/-! Slots and positions of one board. Slots run along the rows from north to south, so they and the
positions on the board determine each other and are in the same order. -/
namespace Vivarium

/-- Scan order: by row, then by column. -/
def Position.Before (p q : Position) : Prop := p.row < q.row ∨ p.row = q.row ∧ p.col < q.col

namespace World

theorem cols_pos (w : World) : 0 < w.cols := Nat.pos_of_mul_pos_left w.nonempty

theorem positionOf_injective (w : World) : Function.Injective w.positionOf := by
  intro a b h
  have hrow : a / w.cols = b / w.cols := congrArg Position.row h
  have hcol : a % w.cols = b % w.cols := congrArg Position.col h
  rw [← Nat.div_add_mod a w.cols, ← Nat.div_add_mod b w.cols, hrow, hcol]

theorem positionOf_before (w : World) {a b : Nat} (h : a < b) :
    (w.positionOf a).Before (w.positionOf b) := by
  rcases Nat.lt_or_eq_of_le (Nat.div_le_div_right (c := w.cols) (Nat.le_of_lt h)) with hrow | hrow
  · exact Or.inl hrow
  · refine Or.inr ⟨hrow, ?_⟩
    have ha := Nat.div_add_mod a w.cols
    have hb := Nat.div_add_mod b w.cols
    rw [hrow] at ha
    change a % w.cols < b % w.cols
    omega

theorem positionOf_of_slotOf? {w : World} {p : Position} {slot : Nat}
    (h : w.slotOf? p = some slot) : w.positionOf slot = p := by
  unfold slotOf? at h
  split at h
  · next hp =>
    cases h
    have hrow : (p.row * w.cols + p.col) / w.cols = p.row := by
      rw [Nat.add_comm, Nat.add_mul_div_right _ _ w.cols_pos, Nat.div_eq_of_lt hp.2, Nat.zero_add]
    have hcol : (p.row * w.cols + p.col) % w.cols = p.col := by
      rw [Nat.add_comm, Nat.add_mul_mod_self_right, Nat.mod_eq_of_lt hp.2]
    simp only [positionOf, hrow, hcol]
  · cases h

theorem positionOf_bounds (w : World) {slot : Nat} (h : slot < w.cells.size) :
    (w.positionOf slot).row < w.rows ∧ (w.positionOf slot).col < w.cols := by
  constructor
  · change slot / w.cols < w.rows
    rw [Nat.div_lt_iff_lt_mul w.cols_pos, ← w.filled]
    exact h
  · exact Nat.mod_lt _ w.cols_pos

theorem slotOf?_positionOf (w : World) {slot : Nat} (h : slot < w.cells.size) :
    w.slotOf? (w.positionOf slot) = some slot := by
  rw [slotOf?, if_pos (w.positionOf_bounds h)]
  simp only [positionOf, Nat.div_add_mod']

theorem slotOf?_eq_some_iff {w : World} {p : Position} {slot : Nat} :
    w.slotOf? p = some slot ↔ slot < w.cells.size ∧ w.positionOf slot = p := by
  constructor
  · intro h
    exact ⟨slotOf?_lt h, positionOf_of_slotOf? h⟩
  · rintro ⟨h, rfl⟩
    exact w.slotOf?_positionOf h

theorem step?_of_neighbor? {w : World} {slot target : Nat} {d : Heading}
    (h : w.neighbor? slot d = some target) :
    (w.positionOf slot).step? d = some (w.positionOf target) := by
  obtain ⟨p, hp, ht⟩ := Option.bind_eq_some_iff.mp h
  rw [positionOf_of_slotOf? ht]
  exact hp

theorem creatureAt?_positionOf (w : World) {slot : Nat} (h : slot < w.cells.size) :
    w.creatureAt? (w.positionOf slot) = w.occupant? slot := by
  simp [creatureAt?, w.slotOf?_positionOf h]

theorem creatureAt?_eq_some_iff {w : World} {p : Position} {c : Creature} :
    w.creatureAt? p = some c ↔ ∃ slot, w.occupant? slot = some c ∧ w.positionOf slot = p := by
  simp only [creatureAt?, Option.bind_eq_some_iff, slotOf?_eq_some_iff]
  constructor
  · rintro ⟨slot, ⟨_, hp⟩, hc⟩
    exact ⟨slot, hc, hp⟩
  · rintro ⟨slot, hc, hp⟩
    exact ⟨slot, ⟨lt_size_of_occupant (by simp [hc]), hp⟩, hc⟩

theorem exists_slot_of_place {w u : World} {kind : Kind} {p : Position} {d : Heading}
    (h : w.place kind p d = .ok u) : ∃ slot, w.slotOf? p = some slot ∧ w.occupant? slot = none ∧
      u = w.put slot (some (.spawn kind d)) := by
  unfold place at h
  split at h
  · cases h
  · next slot hslot =>
    split at h
    · cases h
    · next hfree =>
      cases h
      exact ⟨slot, hslot, by simpa using hfree, rfl⟩

/-! ### Boards of one shape -/

/-- The same board, whoever stands on it. -/
structure SameShape (w u : World) : Prop where
  rows : u.rows = w.rows
  cols : u.cols = w.cols

theorem SameShape.refl (w : World) : w.SameShape w := ⟨rfl, rfl⟩

theorem SameShape.symm {w u : World} (h : w.SameShape u) : u.SameShape w :=
  ⟨h.rows.symm, h.cols.symm⟩

theorem SameShape.trans {w u x : World} (h : w.SameShape u) (k : u.SameShape x) :
    w.SameShape x := ⟨k.rows.trans h.rows, k.cols.trans h.cols⟩

theorem sameShape_put (w : World) (slot : Nat) (occupant : Option Creature) :
    w.SameShape (w.put slot occupant) := ⟨rfl, rfl⟩

theorem SameShape.size_eq {w u : World} (h : w.SameShape u) : u.cells.size = w.cells.size := by
  rw [u.filled, w.filled, h.rows, h.cols]

theorem SameShape.eq_of_occupants {w u : World} (h : w.SameShape u)
    (hoccupants : ∀ slot, u.occupant? slot = w.occupant? slot) : u = w := by
  have hcells : u.cells = w.cells := by
    refine Array.ext h.size_eq ?_
    intro slot hu hw
    simpa [occupant?, hu, hw] using hoccupants slot
  obtain ⟨hrows, hcols⟩ := h
  cases u
  cases w
  cases hrows
  cases hcols
  cases hcells
  rfl

theorem SameShape.positionOf_eq {w u : World} (h : w.SameShape u) :
    u.positionOf = w.positionOf := by
  funext slot
  simp only [positionOf, h.cols]

theorem SameShape.slotOf?_eq {w u : World} (h : w.SameShape u) : u.slotOf? = w.slotOf? := by
  funext p
  simp only [slotOf?, h.rows, h.cols]

theorem SameShape.neighbor?_eq {w u : World} (h : w.SameShape u) :
    u.neighbor? = w.neighbor? := by
  funext slot d
  simp only [neighbor?, h.positionOf_eq, h.slotOf?_eq]

end World

end Vivarium
