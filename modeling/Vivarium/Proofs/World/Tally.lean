import Mathlib.Data.Finset.Card
import Vivarium.Proofs.Census
import Vivarium.Proofs.Geometry

/-! Counting the creatures of a board: all of them, or those of one sort. The cells, the occupied
slots and the census agree on how many there are. -/
namespace Vivarium.World

def tally (w : World) (q : Creature → Bool) : Nat := w.cells.toList.countP fun cell => cell.any q

def standing (w : World) (q : Creature → Bool) : Finset Nat :=
  (Finset.range w.cells.size).filter fun slot => (w.occupant? slot).any q

variable {w u : World}

theorem mem_standing {q : Creature → Bool} {slot : Nat} :
    slot ∈ w.standing q ↔ ∃ c, w.occupant? slot = some c ∧ q c = true := by
  rw [standing, Finset.mem_filter, Finset.mem_range, Option.any_eq_true]
  constructor
  · rintro ⟨_, hc⟩
    exact hc
  · rintro ⟨c, hc, hq⟩
    exact ⟨lt_size_of_occupant (by simp [hc]), c, hc, hq⟩

theorem toList_cells (w : World) :
    w.cells.toList = (List.range w.cells.size).map w.occupant? := by
  apply List.ext_getElem
  · simp
  · intro slot hslot _
    simp only [Array.length_toList] at hslot
    simp [occupant?, Array.getD_eq_getD_getElem?, hslot]

theorem card_standing (w : World) (q : Creature → Bool) : (w.standing q).card = w.tally q := by
  have hlist : (w.standing q).card = ((List.range w.cells.size).filter fun slot =>
      decide ((w.occupant? slot).any q = true)).length := rfl
  rw [hlist, tally, toList_cells, List.countP_map, List.countP_eq_length_filter]
  simp only [Bool.decide_eq_true, Function.comp_def]

theorem count_eq_tally (w : World) : w.count = w.tally fun _ => true := by
  unfold count tally
  apply List.countP_congr
  intro cell _
  cases cell <;> simp

theorem length_occupiedSlots (w : World) : w.occupiedSlots.length = w.count := by
  rw [count, toList_cells, List.countP_map, List.countP_eq_length_filter]
  rfl

theorem length_creatures (w : World) : w.creatures.length = w.count := by
  rw [← length_occupiedSlots, creatures, List.length_filterMap_eq_countP, occupiedSlots,
    List.countP_eq_length_filter]
  simp

theorem total_census (w : World) : w.census.total = w.count := by
  rw [census, Census.total_ofSymbols, List.length_map, length_creatures]

theorem count_place {kind : Kind} {p : Position} {d : Heading} (h : w.place kind p d = .ok u) :
    u.count = w.count + 1 := by
  obtain ⟨slot, hslot, hfree, rfl⟩ := exists_slot_of_place h
  have hinsert : (w.put slot (some (.spawn kind d))).standing (fun _ => true) =
      insert slot (w.standing fun _ => true) := by
    ext there
    rw [Finset.mem_insert, mem_standing, mem_standing, occupant?_put]
    by_cases hthere : there = slot
    · simp [hthere, slotOf?_lt hslot]
    · simp [hthere]
  have hnew : slot ∉ w.standing fun _ => true := by
    simp [mem_standing, hfree]
  rw [count_eq_tally, count_eq_tally, ← card_standing, ← card_standing, hinsert,
    Finset.card_insert_of_notMem hnew]

end Vivarium.World
