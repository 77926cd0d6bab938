import Vivarium.Blueprint
import Vivarium.Toml.Document

/-! Blueprints read from TOML. Tables may also be written as arrays of their fields in order, of
which all that follow the last field are ignored. Keys that nobody asked for are refused, but
ignored among the settings. -/
namespace Vivarium

namespace Toml.Value

def natUpTo? (limit : Nat) : Value → Option Nat
  | .integer n => if 0 ≤ n ∧ n ≤ limit then some n.toNat else none
  | _ => none

def size? (v : Value) : Option Nat := v.natUpTo? 0x7FFFFFFFFFFFFFFF

def string? : Value → Option String
  | .string s => some s
  | _ => none

def list? : Value → Option (List Value)
  | .array items => some items
  | .tables items => some (items.map (.table .header))
  | _ => none

/-- Nothing but an empty array or an empty table. -/
def isUnit : Value → Bool
  | .array items => items.isEmpty
  | .table _ entries => entries.isEmpty
  | _ => false

/-- A heading is its name, alone or as the only key of a table and with a value that says nothing.
-/
def heading? : Value → Option Heading
  | .string name => Heading.ofName? name
  | .table _ [(name, value)] => if value.isUnit then Heading.ofName? name else none
  | _ => none

end Toml.Value

open Toml (Value Entries)

/-- The value of a key, if it is there, has to be readable. -/
def Toml.Entries.optional? {α : Type} (t : Entries) (key : String) (read : Value → Option α) :
    Option (Option α) :=
  match t.lookup key with
  | none => some none
  | some v => (read v).map some

def Toml.Entries.required? {α : Type} (t : Entries) (key : String) (read : Value → Option α) :
    Option α :=
  (t.lookup key).bind read

def Toml.Entries.knows (t : Entries) (keys : List String) : Bool := t.all fun e => e.1 ∈ keys

namespace Settings

def roundLimit : Nat := 0xFFFFFFFF

def ofEntries? (t : Entries) : Option Settings := do
  let defaults : Settings := {}
  let rounds ← t.optional? "rounds" (·.natUpTo? roundLimit)
  let stepBudget ← t.optional? "step_budget" (·.size?)
  let seed ← t.optional? "seed" (·.size?)
  some
    ⟨rounds.getD defaults.rounds, stepBudget.getD defaults.stepBudget, seed.getD defaults.seed⟩

def ofList? (items : List Value) : Option Settings := do
  let defaults : Settings := {}
  let rounds ← (items[0]?.map (·.natUpTo? roundLimit)).getD defaults.rounds
  let stepBudget ← (items[1]?.map (·.size?)).getD defaults.stepBudget
  let seed ← (items[2]?.map (·.size?)).getD defaults.seed
  some ⟨rounds, stepBudget, seed⟩

/-- A date or time counts as a table with a key of its own, which is ignored. -/
def ofValue? (v : Value) : Option Settings :=
  match v with
  | .table _ entries => ofEntries? entries
  | .moment _ => some {}
  | _ => v.list?.bind ofList?

def ofText? (text : String) : Option Settings := (Toml.read? text).bind ofEntries?

end Settings

namespace SpeciesEntry

def ofEntries? (t : Entries) : Option SpeciesEntry := do
  guard (t.knows ["symbol", "library", "program"])
  some
    ⟨← t.optional? "symbol" (·.string?), ← t.optional? "library" (·.string?),
      ← t.optional? "program" (·.string?)⟩

def ofValue? (v : Value) : Option SpeciesEntry :=
  match v with
  | .table _ entries => ofEntries? entries
  | _ => do
    match ← v.list? with
    | symbol :: library :: program :: _ =>
      some ⟨some (← symbol.string?), some (← library.string?), some (← program.string?)⟩
    | _ => none

end SpeciesEntry

namespace CreatureEntry

def ofEntries? (t : Entries) : Option CreatureEntry := do
  guard (t.knows ["species", "row", "col", "facing"])
  let symbol ← t.required? "species" (·.string?)
  let row ← t.required? "row" (·.size?)
  let col ← t.required? "col" (·.size?)
  let heading ← t.required? "facing" (·.heading?)
  some ⟨symbol, ⟨row, col⟩, heading⟩

def ofValue? (v : Value) : Option CreatureEntry :=
  match v with
  | .table _ entries => ofEntries? entries
  | _ => do
    match ← v.list? with
    | symbol :: row :: col :: heading :: _ =>
      some ⟨← symbol.string?, ⟨← row.size?, ← col.size?⟩, ← heading.heading?⟩
    | _ => none

end CreatureEntry

namespace Blueprint

def ofEntries? (t : Entries) : Option Blueprint := do
  guard (t.knows ["rows", "cols", "simulation", "species", "creature"])
  let rows ← t.required? "rows" (·.size?)
  let cols ← t.required? "cols" (·.size?)
  let settings ← t.optional? "simulation" Settings.ofValue?
  let species ← t.optional? "species" fun v => do (← v.list?).mapM SpeciesEntry.ofValue?
  let creatures ← t.optional? "creature" fun v => do (← v.list?).mapM CreatureEntry.ofValue?
  some ⟨rows, cols, settings.getD {}, species.getD [], creatures.getD []⟩

def ofText? (text : String) : Option Blueprint := (Toml.read? text).bind ofEntries?

end Blueprint

namespace Scenario

/-- A scenario read from text. The whole text is read before anything in it is checked. -/
def ofText (text : String) : Except Fault Scenario :=
  match Blueprint.ofText? text with
  | none => .error .malformed
  | some b => b.build

def demo : Except Fault Scenario := Blueprint.demo.build

end Scenario

end Vivarium
