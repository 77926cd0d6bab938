import Vivarium.World

/-! What the creature whose turn it is may ask of the world and do to it. Every question is about
the cell directly ahead. The slot of a view is always occupied, and follows its creature. -/
namespace Vivarium

/-- The cell ahead, in the only respects that matter to a creature. -/
inductive Sight where
  | wall
  | empty
  | friend
  | enemy
  deriving DecidableEq, Repr

structure View where
  world : World
  slot : Nat
  occupied : (world.occupant? slot).isSome

def World.view (w : World) (slot : Nat) : Except Fault View :=
  if h : (w.occupant? slot).isSome then .ok ⟨w, slot, h⟩
  else .error (.emptySlot (w.positionOf slot))

namespace View

def active (v : View) : Creature := (v.world.occupant? v.slot).get v.occupied

def position (v : View) : Position := v.world.positionOf v.slot

def ahead? (v : View) : Option Nat := v.world.neighbor? v.slot v.active.heading

def sight (v : View) : Sight :=
  match v.ahead? with
  | none => .wall
  | some target =>
    match v.world.occupant? target with
    | none => .empty
    | some other => if v.active.sameKind other then .friend else .enemy

def facesWall (v : View) : Bool := v.ahead?.isNone

def facesEmpty (v : View) : Bool := v.ahead?.any fun target => (v.world.occupant? target).isNone

def enemyAhead? (v : View) : Option Creature :=
  (v.ahead?.bind v.world.occupant?).filter fun other => !v.active.sameKind other

theorem occupant?_slot (v : View) : v.world.occupant? v.slot = some v.active := by
  simp [active]

theorem slot_lt (v : View) : v.slot < v.world.cells.size := World.lt_size_of_occupant v.occupied

def revise (v : View) (c : Creature) : View where
  world := v.world.put v.slot (some c)
  slot := v.slot
  occupied := by simp [World.occupant?_put, v.slot_lt]

/-- Moves the active creature into the cell ahead, which has to be empty. -/
def hop (v : View) : Except Fault View :=
  match h : v.ahead? with
  | none => .error (.hopIntoWall v.position)
  | some target =>
    if (v.world.occupant? target).isSome then
      .error (.hopIntoOccupied v.position (v.world.positionOf target))
    else
      .ok
        { world := (v.world.put v.slot none).put target (some v.active)
          slot := target
          occupied := by
            have ht : target < (v.world.put v.slot none).cells.size := by
              simpa [World.put] using World.neighbor?_lt h
            simp [World.occupant?_put, ht] }

/-- Converts the enemy ahead to the kind of the active creature; nothing happens without one. -/
def infect? (v : View) : Option View :=
  match v.ahead? with
  | none => none
  | some target =>
    match v.world.occupant? target with
    | none => none
    | some other =>
      if other.kind = v.active.kind then none
      else
        some
          { world := v.world.put target (some (other.convert v.active.kind))
            slot := v.slot
            occupied := by
              rw [World.occupant?_put]
              split
              · rfl
              · exact v.occupied }

end View

end Vivarium
