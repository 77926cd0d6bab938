import Vivarium.Creature

/-! The walled board, row-major, with at most one creature in a cell. Stepping off the board never
wraps around. `occupant?` is the view of the cells, and `occupant?_put` the law of an update. -/
namespace Vivarium

structure World where
  rows : Nat
  cols : Nat
  cells : Array (Option Creature)
  filled : cells.size = rows * cols
  nonempty : 0 < rows * cols
  addressable : rows * cols < Text.wordBound

namespace World

/-- The empty board. It needs a cell, and its cells are counted in one word. -/
def empty (rows cols : Nat) : Except Fault World :=
  if h : 0 < rows * cols ∧ rows * cols < Text.wordBound then
    .ok ⟨rows, cols, Array.replicate (rows * cols) none, Array.size_replicate, h.1, h.2⟩
  else .error (.badDimensions rows cols)

/-! ### Geometry -/

def slotOf? (w : World) (p : Position) : Option Nat :=
  if p.row < w.rows ∧ p.col < w.cols then some (p.row * w.cols + p.col) else none

def positionOf (w : World) (slot : Nat) : Position := ⟨slot / w.cols, slot % w.cols⟩

/-- The slot one step away, or nothing where the wall is. -/
def neighbor? (w : World) (slot : Nat) (d : Heading) : Option Nat :=
  ((w.positionOf slot).step? d).bind w.slotOf?

theorem slotOf?_lt {w : World} {p : Position} {slot : Nat} (h : w.slotOf? p = some slot) :
    slot < w.cells.size := by
  unfold slotOf? at h
  split at h
  · next hp =>
    cases h
    have := Nat.mul_le_mul_right w.cols hp.1
    rw [Nat.succ_mul] at this
    rw [w.filled]
    omega
  · cases h

theorem neighbor?_lt {w : World} {slot target : Nat} {d : Heading}
    (h : w.neighbor? slot d = some target) : target < w.cells.size := by
  obtain ⟨p, _, hp⟩ := Option.bind_eq_some_iff.mp h
  exact slotOf?_lt hp

/-! ### Occupants -/

def occupant? (w : World) (slot : Nat) : Option Creature := w.cells.getD slot none

def creatureAt? (w : World) (p : Position) : Option Creature := (w.slotOf? p).bind w.occupant?

/-- Sets what a slot holds; there is nothing to set off the board. -/
def put (w : World) (slot : Nat) (occupant : Option Creature) : World :=
  { w with
    cells := w.cells.setIfInBounds slot occupant
    filled := by rw [Array.size_setIfInBounds, w.filled] }

theorem occupant?_put (w : World) (slot target : Nat) (occupant : Option Creature) :
    (w.put slot occupant).occupant? target =
      if target = slot ∧ slot < w.cells.size then occupant else w.occupant? target := by
  unfold occupant? put
  simp only [Array.getD_eq_getD_getElem?, Array.getElem?_setIfInBounds]
  by_cases h : slot = target
  · subst h
    by_cases hs : slot < w.cells.size <;> simp [hs]
  · simp [h, Ne.symm h]

theorem lt_size_of_occupant {w : World} {slot : Nat} (h : (w.occupant? slot).isSome) :
    slot < w.cells.size := by
  apply Classical.byContradiction
  intro hs
  simp [occupant?, Array.getD_eq_getD_getElem?, Nat.le_of_not_lt hs] at h

def place (w : World) (kind : Kind) (p : Position) (d : Heading) : Except Fault World :=
  match w.slotOf? p with
  | none => .error (.outOfBounds p w.rows w.cols)
  | some slot =>
    if (w.occupant? slot).isSome then .error (.cellOccupied p)
    else .ok (w.put slot (some (.spawn kind d)))

def occupiedSlots (w : World) : List Nat :=
  (List.range w.cells.size).filter fun slot => (w.occupant? slot).isSome

def creatures (w : World) : List (Nat × Creature) :=
  (List.range w.cells.size).filterMap fun slot => (w.occupant? slot).map (slot, ·)

def count (w : World) : Nat := w.cells.toList.countP (·.isSome)

end World

/-! ### The census

How many creatures show each symbol, in the order of the symbols' code points. -/

abbrev Census := List (String × Nat)

namespace Census

def add (symbol : String) : Census → Census
  | [] => [(symbol, 1)]
  | (s, n) :: rest =>
    if symbol = s then (s, n + 1) :: rest
    else if symbol < s then (symbol, 1) :: (s, n) :: rest
    else (s, n) :: add symbol rest

def ofSymbols (symbols : List String) : Census := symbols.foldl (fun counts s => add s counts) []

end Census

def World.census (w : World) : Census :=
  Census.ofSymbols (w.creatures.map fun (_, c) => c.symbol)

/-! ### The board

A header with the column numbers, then a line for each row that starts with the row's number.
Numbers show their last digit only. -/

def glyph : Option Creature → Char
  | none => vacantGlyph
  | some c => c.symbol.toList.headD vacantGlyph

def lastDigit (n : Nat) : Char := Char.ofNat ('0'.toNat + n % 10)

namespace World

def headerLine (w : World) : List Char := ' ' :: ' ' :: (List.range w.cols).map lastDigit

def rowLine (w : World) (row : Nat) : List Char :=
  lastDigit row :: ' ' :: (List.range w.cols).map fun col => glyph (w.creatureAt? ⟨row, col⟩)

def boardLines (w : World) : List (List Char) := w.headerLine :: (List.range w.rows).map w.rowLine

def board (w : World) : String := String.ofList (w.boardLines.flatMap (· ++ ['\n']))

end World

end Vivarium
