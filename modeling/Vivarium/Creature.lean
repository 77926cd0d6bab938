import Vivarium.Species

/-! Creatures. A creature does not know where it is: its position is the slot that holds it. -/
namespace Vivarium

/-- A species as one population. Two populations may look alike, with the same symbol and program;
their tags keep them apart. -/
structure Kind where
  tag : Nat
  species : Species
  deriving DecidableEq, Repr

structure Creature where
  kind : Kind
  heading : Heading
  counter : Nat
  deriving DecidableEq, Repr

namespace Creature

def spawn (kind : Kind) (heading : Heading) : Creature := ⟨kind, heading, 0⟩

def symbol (c : Creature) : String := c.kind.species.symbol

def program (c : Creature) : Program := c.kind.species.program

/-- Friends are of one kind, whatever their symbols say. -/
def sameKind (a b : Creature) : Bool := a.kind = b.kind

def fetch (c : Creature) : Except Fault Instruction := c.kind.species.fetch c.counter

/-- Infection: the creature takes on a kind and starts its program from the top. -/
def convert (c : Creature) (kind : Kind) : Creature := { c with kind, counter := 0 }

end Creature

end Vivarium
