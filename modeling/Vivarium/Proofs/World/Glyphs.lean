import Vivarium.Proofs.Census
import Vivarium.Proofs.World.Drawing

/-! The glyphs of a drawn board. Read line by line they are the symbols of the creatures in scan
order, so whoever counts them takes the census of the board. -/
namespace Vivarium

/-- Whom a drawn board shows, from the first row to the last. The numbers of rows and columns and
the empty cells are left out. -/
def shownSymbols (text : String) : List String :=
  ((Text.lines text.toList).tail.flatMap (List.drop 2)).filterMap shown?

theorem range_mul_eq_flatMap (rows cols : Nat) : List.range (rows * cols) =
    (List.range rows).flatMap fun row => (List.range cols).map (row * cols + ·) := by
  induction rows with
  | zero => rw [Nat.zero_mul, List.range_zero, List.flatMap_nil]
  | succ rows ih =>
    rw [Nat.succ_mul, List.range_add, ih, List.range_succ, List.flatMap_append,
      List.flatMap_singleton]

namespace World

variable {w : World}

theorem creatureAt?_of_bounds {row col : Nat} (hrow : row < w.rows) (hcol : col < w.cols) :
    w.creatureAt? ⟨row, col⟩ = w.occupant? (row * w.cols + col) := by
  rw [creatureAt?, slotOf?, if_pos ⟨hrow, hcol⟩]
  rfl

theorem symbols_creatures (w : World) : (w.creatures.map fun entry => entry.2.symbol) =
    (List.range w.cells.size).filterMap fun slot => (w.occupant? slot).map Creature.symbol := by
  rw [creatures, List.map_filterMap]
  congr 1
  funext slot
  rw [Option.map_map]
  rfl

theorem shown_rowLine (h : w.Legible) {row : Nat} (hrow : row < w.rows) :
    ((w.rowLine row).drop 2).filterMap shown? =
      ((List.range w.cols).map (row * w.cols + ·)).filterMap fun slot =>
        (w.occupant? slot).map Creature.symbol := by
  change ((List.range w.cols).map _).filterMap shown? = _
  rw [List.filterMap_map, List.filterMap_map]
  apply List.filterMap_congr
  intro col hcol
  rw [Function.comp_apply, Function.comp_apply, shown?_glyph (h.at ⟨row, col⟩),
    creatureAt?_of_bounds hrow (List.mem_range.mp hcol)]

/-- The drawn board shows the symbol of each creature once, in scan order, and nothing else. -/
theorem shownSymbols_board (h : w.Legible) :
    shownSymbols w.board = w.creatures.map fun entry => entry.2.symbol := by
  rw [shownSymbols, lines_board h, boardLines, List.tail_cons, symbols_creatures, w.filled,
    range_mul_eq_flatMap, List.filterMap_flatMap, List.filterMap_flatMap, List.flatMap_map]
  apply List.flatMap_congr
  intro row hrow
  exact shown_rowLine h (List.mem_range.mp hrow)

theorem counts_census (h : w.Legible) : Census.Counts w.census (shownSymbols w.board) := by
  rw [shownSymbols_board h]
  exact Census.counts_ofSymbols _

end World

end Vivarium
