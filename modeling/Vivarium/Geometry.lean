/-! Headings and board positions. Rows grow to the south and columns to the east. -/
namespace Vivarium

inductive Heading where
  | north
  | east
  | south
  | west
  deriving DecidableEq, Repr

namespace Heading

/-- The four headings, clockwise from north. -/
def all : List Heading := [.north, .east, .south, .west]

def left : Heading → Heading
  | .north => .west
  | .west => .south
  | .south => .east
  | .east => .north

def right : Heading → Heading
  | .north => .east
  | .east => .south
  | .south => .west
  | .west => .north

def opposite (d : Heading) : Heading := d.right.right

def offset : Heading → Int × Int
  | .north => (-1, 0)
  | .east => (0, 1)
  | .south => (1, 0)
  | .west => (0, -1)

def name : Heading → String
  | .north => "north"
  | .east => "east"
  | .south => "south"
  | .west => "west"

def ofName? (name : String) : Option Heading := all.find? (·.name = name)

@[simp] theorem left_right (d : Heading) : d.left.right = d := by cases d <;> rfl

@[simp] theorem right_left (d : Heading) : d.right.left = d := by cases d <;> rfl

theorem mem_all (d : Heading) : d ∈ all := by cases d <;> decide

theorem ofName?_name (d : Heading) : ofName? d.name = some d := by cases d <;> decide

end Heading

/-- Positions are ordered by row, then by column. -/
structure Position where
  row : Nat
  col : Nat
  deriving DecidableEq, Repr, Ord

namespace Position

def text (p : Position) : String := s!"({p.row}, {p.col})"

/-- One step in a direction; there is nothing north of row 0 or west of column 0. -/
def step? (p : Position) (d : Heading) : Option Position :=
  let row := (p.row : Int) + d.offset.1
  let col := (p.col : Int) + d.offset.2
  if 0 ≤ row ∧ 0 ≤ col then some ⟨row.toNat, col.toNat⟩ else none

end Position

end Vivarium
