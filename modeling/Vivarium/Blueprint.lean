import Vivarium.Simulation
import Vivarium.Species.Library

/-! A scenario as it is written down, and the checks that turn it into one: first the settings, then
the species in order, then the size of the world, then the creatures in order. -/
namespace Vivarium

/-- A populated world, the settings to run it with, and every kind it defines, placed or not. -/
structure Scenario where
  world : World
  settings : Settings
  kinds : List Kind

def Scenario.simulation (s : Scenario) : Except Fault Simulation :=
  Simulation.startSeeded s.world s.settings

/-- A library species, perhaps under another symbol, or a program with a symbol. -/
structure SpeciesEntry where
  symbol? : Option String
  library? : Option String
  program? : Option String
  deriving DecidableEq, Repr

structure CreatureEntry where
  symbol : String
  position : Position
  heading : Heading
  deriving DecidableEq, Repr

structure Blueprint where
  rows : Nat
  cols : Nat
  settings : Settings
  species : List SpeciesEntry
  creatures : List CreatureEntry
  deriving DecidableEq, Repr

def SpeciesEntry.build (number : Nat) (e : SpeciesEntry) : Except Fault Species :=
  match e.library?, e.program? with
  | some name, none => do
    let base ← Species.named name
    match e.symbol? with
    | some symbol => Species.checked ⟨symbol, base.program⟩
    | none => .ok base
  | none, some source =>
    match e.symbol? with
    | some symbol => Species.ofSource symbol source
    | none => .error (.config (.missingSymbol number))
  | _, _ => .error (.config (.ambiguousSpecies number))

def kindOf? (kinds : List Kind) (symbol : String) : Option Kind :=
  kinds.find? fun k => k.species.symbol = symbol

namespace Blueprint

/-- Adds the kinds of further entries, each with the number of its predecessors as tag. -/
def addKinds (kinds : List Kind) : List SpeciesEntry → Except Fault (List Kind)
  | [] => .ok kinds
  | e :: rest => do
    let s ← e.build (kinds.length + 1)
    if (kindOf? kinds s.symbol).isSome then .error (.duplicateSpecies s.symbol)
    else addKinds (kinds ++ [⟨kinds.length, s⟩]) rest

def populate (kinds : List Kind) (w : World) : List CreatureEntry → Except Fault World
  | [] => .ok w
  | e :: rest =>
    match kindOf? kinds e.symbol with
    | none => .error (.unknownSpecies e.symbol)
    | some kind => do
      let w ← w.place kind e.position e.heading
      populate kinds w rest

def build (b : Blueprint) : Except Fault Scenario := do
  b.settings.check
  let kinds ← addKinds [] b.species
  let board ← World.empty b.rows b.cols
  let world ← populate kinds board b.creatures
  .ok ⟨world, b.settings, kinds⟩

def demo : Blueprint where
  rows := 8
  cols := 8
  settings := {}
  species := [⟨none, some "food", none⟩, ⟨none, some "hopper", none⟩]
  creatures :=
    [⟨"f", ⟨0, 0⟩, .east⟩, ⟨"h", ⟨3, 3⟩, .north⟩, ⟨"h", ⟨3, 4⟩, .east⟩, ⟨"h", ⟨4, 4⟩, .south⟩,
      ⟨"h", ⟨4, 3⟩, .west⟩, ⟨"f", ⟨7, 7⟩, .north⟩]

end Blueprint

end Vivarium
