import Vivarium.Proofs.Geometry

/-! How a board is populated: when a creature can be placed and which cell then changes. A board is
no more than its size and what stands at its positions. -/
namespace Vivarium.World

def Contains (w : World) (p : Position) : Prop := p.row < w.rows ∧ p.col < w.cols

structure Bare (w : World) (rows cols : Nat) : Prop where
  rows_eq : w.rows = rows
  cols_eq : w.cols = cols
  vacant : ∀ q, w.creatureAt? q = none

/-- What placing a creature takes, and that it changes one cell. -/
structure Placed (w : World) (kind : Kind) (p : Position) (d : Heading) (u : World) : Prop where
  contains : w.Contains p
  free : w.creatureAt? p = none
  shape : w.SameShape u
  cells : ∀ q, u.creatureAt? q = if q = p then some (.spawn kind d) else w.creatureAt? q

variable {w u : World} {kind : Kind} {p : Position} {d : Heading} {rows cols : Nat}

theorem slotOf?_eq_none_iff : w.slotOf? p = none ↔ ¬ w.Contains p := by
  simp [slotOf?, Contains]

theorem contains_of_slotOf? {slot : Nat} (h : w.slotOf? p = some slot) : w.Contains p := by
  by_contra hout
  rw [slotOf?_eq_none_iff.mpr hout] at h
  cases h

theorem SameShape.eq_of_creatures (h : w.SameShape u)
    (hcreatures : ∀ q, u.creatureAt? q = w.creatureAt? q) : u = w := by
  apply h.eq_of_occupants
  intro slot
  by_cases hslot : slot < w.cells.size
  · have hthere := hcreatures (w.positionOf slot)
    rw [w.creatureAt?_positionOf hslot, ← h.positionOf_eq,
      u.creatureAt?_positionOf (h.size_eq.symm ▸ hslot)] at hthere
    exact hthere
  · have hw : w.occupant? slot = none := by
      by_contra hsome
      exact hslot (lt_size_of_occupant (Option.isSome_iff_ne_none.mpr hsome))
    have hu : u.occupant? slot = none := by
      by_contra hsome
      exact hslot (h.size_eq ▸ lt_size_of_occupant (Option.isSome_iff_ne_none.mpr hsome))
    rw [hu, hw]

/-! ### Empty boards -/

theorem occupant?_empty (h : empty rows cols = .ok w) (slot : Nat) : w.occupant? slot = none := by
  unfold empty at h
  split at h
  · cases h
    by_cases hs : slot < rows * cols <;> simp [occupant?, hs]
  · cases h

theorem empty_eq_error_iff {fault : Fault} :
    empty rows cols = .error fault ↔
      ¬ (1 ≤ rows * cols ∧ rows * cols < Text.wordBound) ∧ fault = .badDimensions rows cols := by
  unfold empty
  split
  · next hroom =>
    constructor
    · rintro ⟨⟩
    · rintro ⟨hnone, -⟩
      exact absurd hroom hnone
  · next hnone =>
    constructor
    · rintro ⟨⟩
      exact ⟨hnone, rfl⟩
    · rintro ⟨-, rfl⟩
      rfl

theorem exists_empty (h : 1 ≤ rows * cols ∧ rows * cols < Text.wordBound) :
    ∃ w, empty rows cols = .ok w := by
  cases hempty : empty rows cols with
  | ok w => exact ⟨w, rfl⟩
  | error fault => exact absurd h (empty_eq_error_iff.mp hempty).1

theorem room_of_empty (h : empty rows cols = .ok w) :
    1 ≤ rows * cols ∧ rows * cols < Text.wordBound := by
  by_contra hnone
  rw [empty_eq_error_iff.mpr ⟨hnone, rfl⟩] at h
  cases h

theorem bare_of_empty (h : empty rows cols = .ok w) : w.Bare rows cols := by
  have hvacant : ∀ q, w.creatureAt? q = none := by
    intro q
    rw [Option.eq_none_iff_forall_not_mem]
    intro c hc
    obtain ⟨slot, hslot, _⟩ := creatureAt?_eq_some_iff.mp hc
    rw [occupant?_empty h] at hslot
    cases hslot
  unfold empty at h
  split at h
  · cases h
    exact ⟨rfl, rfl, hvacant⟩
  · cases h

/-! ### Placing a creature -/

theorem place_eq_error_iff {fault : Fault} :
    w.place kind p d = .error fault ↔
      ¬ w.Contains p ∧ fault = .outOfBounds p w.rows w.cols ∨
        w.Contains p ∧ w.creatureAt? p ≠ none ∧ fault = .cellOccupied p := by
  unfold place
  split
  · next hslot => simp [slotOf?_eq_none_iff.mp hslot, eq_comm]
  · next slot hslot =>
    have hin := contains_of_slotOf? hslot
    have hthere : w.creatureAt? p = w.occupant? slot := by simp [creatureAt?, hslot]
    rw [hthere, ← Option.isSome_iff_ne_none]
    split
    · next hoccupied => simp [hin, hoccupied, eq_comm]
    · next hfree => simp [hin, hfree]

theorem placed_of_place (h : w.place kind p d = .ok u) : w.Placed kind p d u := by
  obtain ⟨slot, hslot, hfree, rfl⟩ := exists_slot_of_place h
  have hshape := w.sameShape_put slot (some (.spawn kind d))
  refine ⟨contains_of_slotOf? hslot, by simpa [creatureAt?, hslot] using hfree, hshape, ?_⟩
  intro q
  rw [creatureAt?, creatureAt?, hshape.slotOf?_eq]
  by_cases hq : q = p
  · subst hq
    simp [hslot, occupant?_put, slotOf?_lt hslot]
  · rw [if_neg hq]
    cases hthere : w.slotOf? q with
    | none => rfl
    | some there =>
      have hne : there ≠ slot := by
        rintro rfl
        exact hq ((positionOf_of_slotOf? hthere).symm.trans (positionOf_of_slotOf? hslot))
      simp [occupant?_put, hne]

theorem exists_place (hin : w.Contains p) (hfree : w.creatureAt? p = none) (kind : Kind)
    (d : Heading) : ∃ u, w.place kind p d = .ok u := by
  cases hplace : w.place kind p d with
  | ok u => exact ⟨u, rfl⟩
  | error fault =>
    rcases place_eq_error_iff.mp hplace with ⟨hout, -⟩ | ⟨-, hoccupied, -⟩
    · exact absurd hin hout
    · exact absurd hfree hoccupied

end Vivarium.World
