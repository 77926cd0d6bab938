import Vivarium.Proofs.Scenario.Population

/-! A drawn board can be read back. What is drawn in a cell is neither a line break nor taken for an
empty cell, so the lines stay apart and every cell shows whether somebody is there and who. -/
namespace Vivarium

/-! ### Lines -/

namespace Text

def Unbroken (c : Char) : Prop := c ≠ '\n' ∧ c ≠ '\r'

theorem lines_append_feed {l : List Char} (h : ∀ c ∈ l, Unbroken c) (rest : List Char) :
    lines (l ++ '\n' :: rest) = l :: lines rest := by
  induction l with
  | nil => rw [List.nil_append, lines]
  | cons c l ih =>
    obtain ⟨⟨hfeed, hreturn⟩, hl⟩ := List.forall_mem_cons.mp h
    rw [List.cons_append, lines, ih hl]
    · exact fun hc => hfeed hc
    · exact fun _ hc => absurd hc hreturn

theorem lines_flatMap {ls : List (List Char)} (h : ∀ l ∈ ls, ∀ c ∈ l, Unbroken c) :
    lines (ls.flatMap (· ++ ['\n'])) = ls := by
  induction ls with
  | nil => rw [List.flatMap_nil, lines]
  | cons l ls ih =>
    obtain ⟨hl, hls⟩ := List.forall_mem_cons.mp h
    rw [List.flatMap_cons, List.append_assoc, List.singleton_append, lines_append_feed hl, ih hls]

theorem unbroken_of_isBlank {c : Char} (h : isBlank c = false) : Unbroken c := by
  constructor
  · rintro rfl
    cases h
  · rintro rfl
    cases h

end Text

theorem unbroken_lastDigit (n : Nat) : Text.Unbroken (lastDigit n) := by
  have hdigits : ∀ d < 10,
      Char.ofNat ('0'.toNat + d) ≠ '\n' ∧ Char.ofNat ('0'.toNat + d) ≠ '\r' := by decide
  exact hdigits (n % 10) (Nat.mod_lt n (by decide))

/-! ### Cells -/

def shown? (c : Char) : Option String := if c = vacantGlyph then none else some (String.singleton c)

/-- Whom a drawn board shows at a position. -/
def symbolAt? (text : String) (p : Position) : Option String := do
  let l ← (Text.lines text.toList)[p.row + 1]?
  let c ← l[p.col + 2]?
  shown? c

def World.Legible (w : World) : Prop := w.All fun c => Drawable c.symbol

theorem Kind.Checked.drawable {kind : Kind} (h : kind.Checked) : Drawable kind.species.symbol :=
  (Species.check_eq_ok_iff.mp h).symbol

theorem glyph_eq (occupant? : Option Creature) :
    glyph occupant? = ((occupant?.map Creature.symbol).map fun s =>
      s.toList.headD vacantGlyph).getD vacantGlyph := by
  cases occupant? <;> rfl

theorem unbroken_glyph {occupant? : Option Creature} (h : ∀ c ∈ occupant?, Drawable c.symbol) :
    Text.Unbroken (glyph occupant?) := by
  cases occupant? with
  | none => exact Text.unbroken_of_isBlank rfl
  | some creature =>
    obtain ⟨c, hc, _, hblank⟩ := h creature rfl
    rw [glyph, hc]
    exact Text.unbroken_of_isBlank hblank

theorem shown?_glyph {occupant? : Option Creature} (h : ∀ c ∈ occupant?, Drawable c.symbol) :
    shown? (glyph occupant?) = occupant?.map Creature.symbol := by
  cases occupant? with
  | none => rfl
  | some creature =>
    obtain ⟨c, hc, hvacant, _⟩ := h creature rfl
    have hsymbol : String.singleton c = creature.symbol := by
      rw [← String.toList_inj, hc]
      simp
    rw [glyph, hc, List.headD_cons, shown?, if_neg hvacant, hsymbol]
    rfl

namespace World

variable {w u : World}

theorem Legible.at (h : w.Legible) (p : Position) : ∀ c ∈ w.creatureAt? p, Drawable c.symbol := by
  intro c hc
  obtain ⟨slot, hslot, _⟩ := creatureAt?_eq_some_iff.mp hc
  exact h slot c hslot

/-! ### The drawn board -/

theorem unbroken_boardLines (h : w.Legible) : ∀ l ∈ w.boardLines, ∀ c ∈ l, Text.Unbroken c := by
  have hspace : Text.Unbroken ' ' := ⟨by decide, by decide⟩
  have hdigits : ∀ l : List Nat, ∀ c ∈ l.map lastDigit, Text.Unbroken c := by
    intro l c hc
    obtain ⟨n, _, rfl⟩ := List.mem_map.mp hc
    exact unbroken_lastDigit n
  refine List.forall_mem_cons.mpr ⟨?_, ?_⟩
  · exact List.forall_mem_cons.mpr ⟨hspace, List.forall_mem_cons.mpr ⟨hspace, hdigits _⟩⟩
  · intro l hl
    obtain ⟨row, _, rfl⟩ := List.mem_map.mp hl
    refine List.forall_mem_cons.mpr ⟨unbroken_lastDigit row, List.forall_mem_cons.mpr ⟨hspace, ?_⟩⟩
    intro c hc
    obtain ⟨col, _, rfl⟩ := List.mem_map.mp hc
    exact unbroken_glyph (h.at ⟨row, col⟩)

theorem lines_board (h : w.Legible) : Text.lines w.board.toList = w.boardLines := by
  rw [board, String.toList_ofList, Text.lines_flatMap (unbroken_boardLines h)]

theorem length_boardLines (w : World) : w.boardLines.length = w.rows + 1 := by
  simp [boardLines]

theorem length_of_mem_boardLines {l : List Char} (h : l ∈ w.boardLines) :
    l.length = w.cols + 2 := by
  rcases List.mem_cons.mp h with rfl | hrow
  · simp [headerLine]
  · obtain ⟨row, _, rfl⟩ := List.mem_map.mp hrow
    simp [rowLine]

theorem creatureAt?_eq_none {p : Position} (h : ¬ (p.row < w.rows ∧ p.col < w.cols)) :
    w.creatureAt? p = none := by
  rw [creatureAt?, slotOf?, if_neg h]
  rfl

/-- On the board and off it, the text shows who is there. -/
theorem symbolAt?_board (h : w.Legible) (p : Position) :
    symbolAt? w.board p = (w.creatureAt? p).map Creature.symbol := by
  have hline : w.boardLines[p.row + 1]? = (List.range w.rows)[p.row]?.map w.rowLine := by
    rw [boardLines, List.getElem?_cons_succ, List.getElem?_map]
  have hcell : (w.rowLine p.row)[p.col + 2]? =
      (List.range w.cols)[p.col]?.map fun col => glyph (w.creatureAt? ⟨p.row, col⟩) := by
    rw [rowLine, List.getElem?_cons_succ, List.getElem?_cons_succ, List.getElem?_map]
  rw [symbolAt?, lines_board h, hline]
  by_cases hrow : p.row < w.rows
  · rw [List.getElem?_range hrow]
    change ((w.rowLine p.row)[p.col + 2]?.bind shown?) = _
    rw [hcell]
    by_cases hcol : p.col < w.cols
    · rw [List.getElem?_range hcol]
      exact shown?_glyph (h.at p)
    · rw [List.getElem?_eq_none (by simpa using hcol), creatureAt?_eq_none (by omega)]
      rfl
  · rw [List.getElem?_eq_none (by simpa using hrow), creatureAt?_eq_none (by omega)]
    rfl

theorem board_congr (hrows : w.rows = u.rows) (hcols : w.cols = u.cols)
    (h : ∀ p, (w.creatureAt? p).map Creature.symbol = (u.creatureAt? p).map Creature.symbol) :
    w.board = u.board := by
  have hglyph : ∀ p, glyph (w.creatureAt? p) = glyph (u.creatureAt? p) := by
    intro p
    rw [glyph_eq, h p, ← glyph_eq]
  have hrow : w.rowLine = u.rowLine := by
    funext row
    simp only [rowLine, hcols, hglyph]
  rw [board, boardLines, headerLine, hrow, hrows, hcols]
  rfl

end World

/-- Boards of checked species are drawn alike if and only if they are of one size and show the same
symbols in the same places. The text has a line more than the board has rows, every line has two
characters more than the board has columns, and who stands where can be read from it. -/
theorem drawn_boards_are_faithful {w u : World} (hw : w.All fun c => c.kind.Checked)
    (hu : u.All fun c => c.kind.Checked) :
    (w.board = u.board ↔ w.rows = u.rows ∧ w.cols = u.cols ∧
      ∀ p, (w.creatureAt? p).map Creature.symbol = (u.creatureAt? p).map Creature.symbol) ∧
    (Text.lines w.board.toList).length = w.rows + 1 ∧
    (∀ l ∈ Text.lines w.board.toList, l.length = w.cols + 2) ∧
    ∀ p, symbolAt? w.board p = (w.creatureAt? p).map Creature.symbol := by
  have hleft : w.Legible := fun slot c hc => (hw slot c hc).drawable
  have hright : u.Legible := fun slot c hc => (hu slot c hc).drawable
  refine ⟨⟨?_, ?_⟩, ?_, ?_, World.symbolAt?_board hleft⟩
  · intro hboard
    have hlines : w.boardLines = u.boardLines := by
      rw [← World.lines_board hleft, hboard, World.lines_board hright]
    have hrows : w.rows + 1 = u.rows + 1 := by
      rw [← w.length_boardLines, hlines, u.length_boardLines]
    have hheader : w.headerLine ∈ u.boardLines := by
      rw [← hlines]
      exact List.mem_cons_self
    have hcols : w.cols + 2 = u.cols + 2 := by
      rw [← World.length_of_mem_boardLines List.mem_cons_self,
        World.length_of_mem_boardLines hheader]
    refine ⟨by omega, by omega, ?_⟩
    intro p
    rw [← World.symbolAt?_board hleft, hboard, World.symbolAt?_board hright]
  · intro h
    obtain ⟨hrows, hcols, hsymbols⟩ := h
    exact World.board_congr hrows hcols hsymbols
  · rw [World.lines_board hleft, w.length_boardLines]
  · intro l hl
    rw [World.lines_board hleft] at hl
    exact World.length_of_mem_boardLines hl

/-- A trap and food under the trap's symbol are drawn alike, whichever way they face. -/
theorem disguised_food_is_drawn_as_a_trap :
    ∃ board w u, World.empty 1 2 = .ok board ∧
      board.place ⟨0, Species.trap⟩ ⟨0, 1⟩ .east = .ok w ∧
      board.place ⟨0, ⟨"t", Species.food.program⟩⟩ ⟨0, 1⟩ .west = .ok u ∧
      w.board = u.board ∧ symbolAt? u.board ⟨0, 0⟩ = none ∧
      symbolAt? u.board ⟨0, 1⟩ = some "t" := by
  have hempty : World.empty 1 2 = .ok _ := rfl
  have htrap : Kind.Checked ⟨0, Species.trap⟩ := rfl
  have hfood : Kind.Checked ⟨0, ⟨"t", Species.food.program⟩⟩ := rfl
  have hchecked : ∀ {w : World}, w.Populated Kind.Checked → w.All fun c => c.kind.Checked :=
    World.Populated.all fun _ _ h => h
  have hw := hchecked (.place (.empty hempty) htrap (p := ⟨0, 1⟩) (d := .east) rfl)
  have hu := hchecked (.place (.empty hempty) hfood (p := ⟨0, 1⟩) (d := .west) rfl)
  obtain ⟨hdrawn, _⟩ := drawn_boards_are_faithful hw hu
  obtain ⟨_, _, _, hread⟩ := drawn_boards_are_faithful hu hu
  refine ⟨_, _, _, hempty, rfl, rfl, hdrawn.mpr ⟨rfl, rfl, ?_⟩, hread ⟨0, 0⟩, hread ⟨0, 1⟩⟩
  intro p
  by_cases hp : p.row < 1 ∧ p.col < 2
  · obtain ⟨row, col⟩ := p
    obtain ⟨rfl, rfl | rfl⟩ : row = 0 ∧ (col = 0 ∨ col = 1) := by
      simp only at hp
      omega
    · rfl
    · rfl
  · rw [World.creatureAt?_eq_none hp, World.creatureAt?_eq_none hp]

end Vivarium
