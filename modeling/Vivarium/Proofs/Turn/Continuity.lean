import Vivarium.Proofs.Turn.Effect
import Vivarium.Proofs.World.Tally

/-! Whatever is done through a view, the creatures of the board stay the same ones: the view
follows the creature it was opened for, and all others stand where they stood. So nobody is lost
or created. -/
namespace Vivarium.View

/-- One view goes on as the other. -/
structure Continues (v last : View) : Prop where
  shape : v.world.SameShape last.world
  others : ∀ slot, slot ≠ v.slot → slot ≠ last.slot →
    (last.world.occupant? slot).isSome = (v.world.occupant? slot).isSome
  moved : last.slot = v.slot ∨
    v.world.occupant? last.slot = none ∧ last.world.occupant? v.slot = none

def origin (v last : View) (slot : Nat) : Nat := if slot = last.slot then v.slot else slot

variable {v u last : View}

theorem continues_of_board {f : Nat → Creature → Creature} (shape : v.world.SameShape last.world)
    (free : last.slot = v.slot ∨ v.world.occupant? last.slot = none)
    (board : ∀ slot, last.world.occupant? slot =
      if slot = last.slot then some last.active
      else if slot = v.slot then none else (v.world.occupant? slot).map (f slot)) :
    v.Continues last where
  shape := shape
  others slot hv hlast := by
    rw [board, if_neg hlast, if_neg hv, Option.isSome_map]
  moved := by
    by_cases hstay : last.slot = v.slot
    · exact Or.inl hstay
    · refine Or.inr ⟨free.resolve_left hstay, ?_⟩
      rw [board, if_neg (Ne.symm hstay), if_pos rfl]

namespace Continues

theorem refl (v : View) : v.Continues v := ⟨.refl _, fun _ _ _ => rfl, Or.inl rfl⟩

theorem symm (h : v.Continues last) : last.Continues v where
  shape := h.shape.symm
  others slot hlast hv := (h.others slot hv hlast).symm
  moved := by
    rcases h.moved with hstay | ⟨hfree, hleft⟩
    · exact Or.inl hstay.symm
    · exact Or.inr ⟨hleft, hfree⟩

theorem vacated (h : v.Continues last) {slot : Nat} (hlast : slot ≠ last.slot)
    (hfree : slot = v.slot ∨ v.world.occupant? slot = none) :
    last.world.occupant? slot = none := by
  by_cases hv : slot = v.slot
  · subst hv
    rcases h.moved with hstay | ⟨_, hleft⟩
    · exact absurd hstay.symm hlast
    · exact hleft
  · have hsame := h.others slot hv hlast
    rw [hfree.resolve_left hv] at hsame
    simpa using hsame

theorem trans (h : v.Continues u) (k : u.Continues last) : v.Continues last where
  shape := h.shape.trans k.shape
  others slot hv hlast := by
    by_cases hu : slot = u.slot
    · -- The slot was passed through: it is free before and afterwards.
      subst hu
      rw [k.vacated hlast (Or.inl rfl), h.symm.vacated hv (Or.inl rfl)]
    · rw [k.others slot hu hlast, h.others slot hv hu]
  moved := by
    by_cases hstay : last.slot = v.slot
    · exact Or.inl hstay
    · refine Or.inr ⟨h.symm.vacated hstay ?_, k.vacated (Ne.symm hstay) ?_⟩
      · rcases k.moved with hu | ⟨hfree, _⟩
        · exact Or.inl hu
        · exact Or.inr hfree
      · rcases h.moved with hu | ⟨_, hleft⟩
        · exact Or.inl hu.symm
        · exact Or.inr hleft

theorem of_revise (v : View) (c : Creature) : v.Continues (v.revise c) where
  shape := v.sameShape_revise c
  others slot hv _ := by rw [occupant?_revise, if_neg hv]
  moved := Or.inl rfl

/-! ### Counting along a view -/

theorem slot_ne (h : v.Continues last) {slot : Nat} (hlast : slot ≠ last.slot) {c : Creature}
    (hc : last.world.occupant? slot = some c) : slot ≠ v.slot := by
  rintro rfl
  rw [h.vacated hlast (Or.inl rfl)] at hc
  cases hc

theorem exists_origin (h : v.Continues last) {slot : Nat} {c : Creature}
    (hc : last.world.occupant? slot = some c) :
    ∃ b, v.world.occupant? (v.origin last slot) = some b := by
  unfold origin
  split
  · exact ⟨v.active, v.occupant?_slot⟩
  · next hlast =>
    rw [← Option.isSome_iff_exists, ← h.others slot (h.slot_ne hlast hc) hlast, hc]
    rfl

theorem tally_le (h : v.Continues last) {p q : Creature → Bool}
    (horigin : ∀ slot c, last.world.occupant? slot = some c → q c = true →
      ∃ b, v.world.occupant? (v.origin last slot) = some b ∧ p b = true) :
    last.world.tally q ≤ v.world.tally p := by
  rw [← World.card_standing, ← World.card_standing]
  apply Finset.card_le_card_of_injOn (v.origin last)
  · intro slot hslot
    obtain ⟨c, hc, hq⟩ := World.mem_standing.mp hslot
    exact World.mem_standing.mpr (horigin slot c hc hq)
  · intro a ha b hb heq
    obtain ⟨_, hca, _⟩ := World.mem_standing.mp ha
    obtain ⟨_, hcb, _⟩ := World.mem_standing.mp hb
    unfold origin at heq
    by_cases hla : a = last.slot
    · by_cases hlb : b = last.slot
      · rw [hla, hlb]
      · rw [if_pos hla, if_neg hlb] at heq
        exact absurd heq.symm (h.slot_ne hlb hcb)
    · by_cases hlb : b = last.slot
      · rw [if_neg hla, if_pos hlb] at heq
        exact absurd heq (h.slot_ne hla hca)
      · rw [if_neg hla, if_neg hlb] at heq
        exact heq

theorem count_le (h : v.Continues last) : last.world.count ≤ v.world.count := by
  rw [World.count_eq_tally, World.count_eq_tally]
  apply h.tally_le
  intro slot c hc _
  obtain ⟨b, hb⟩ := h.exists_origin hc
  exact ⟨b, hb, rfl⟩

theorem count_eq (h : v.Continues last) : last.world.count = v.world.count :=
  Nat.le_antisymm h.count_le h.symm.count_le

end Continues

/-! ### Acts and turns -/

theorem Performs.continues {a : Act} {o : Outcome} (h : v.Performs a o last) : v.Continues last :=
  continues_of_board h.shape h.slot_free h.board

theorem Ends.continues {budget : Nat} {decided : Decision × Deliberation} {t : Turn}
    (h : v.Ends budget decided t) : v.Continues t.view :=
  continues_of_board h.shape h.slot_free h.board

theorem performs_of_hop (h : v.hop = .ok last) : v.Performs .hop .moved last := by
  cases hfaces : v.facesEmpty with
  | true =>
    obtain ⟨there, hthere, hperforms⟩ := hop_performs hfaces
    rw [h] at hthere
    cases hthere
    exact hperforms
  | false =>
    exfalso
    unfold hop at h
    split at h
    · cases h
    · next target ahead =>
      rw [facesEmpty, ahead, Option.any_some] at hfaces
      split at h
      · cases h
      · next hfree =>
        rw [Option.not_isSome_iff_eq_none.mp hfree] at hfaces
        cases hfaces

theorem performs_of_infect? (h : v.infect? = some last) : v.Performs .infect .infected last := by
  rcases v.infect?_performs with ⟨there, hthere, hperforms⟩ | ⟨hnone, _⟩
  · rw [h] at hthere
    cases hthere
    exact hperforms
  · rw [h] at hnone
    cases hnone

end Vivarium.View
