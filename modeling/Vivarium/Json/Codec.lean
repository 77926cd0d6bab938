import Vivarium.Json
import Vivarium.Simulation

/-! The JSON forms of instructions, headings, positions and reports. -/
namespace Vivarium

/-- Sizes and targets are words; larger numbers are refused. -/
def Json.word? (j : Json) : Option Nat := j.nat?.filter (· < Text.wordBound)

/-! ### Instructions -/

def Act.tag : Act → String
  | .hop => "Hop"
  | .left => "Left"
  | .right => "Right"
  | .infect => "Infect"

def Condition.tag : Condition → String
  | .empty => "IfEmpty"
  | .wall => "IfWall"
  | .heads => "IfRandom"
  | .enemy => "IfEnemy"
  | .always => "Go"

def Act.ofTag? (tag : String) : Option Act := Act.all.find? (·.tag = tag)

def Condition.ofTag? (tag : String) : Option Condition := Condition.all.find? (·.tag = tag)

def Act.toJson (a : Act) : Json := .string a.tag

namespace Instruction

def toJson : Instruction → Json
  | .act a => a.toJson
  | .jump c target => .object [(c.tag, .nat target)]

/-- An act is its tag, alone or as the key of a null; a jump is its tag as the key of its target. -/
def ofJson? : Json → Option Instruction
  | .string tag => (Act.ofTag? tag).map .act
  | .object [(tag, .null)] => (Act.ofTag? tag).map .act
  | .object [(tag, value)] => do
    let condition ← Condition.ofTag? tag
    let target ← value.word?
    some (.jump condition target)
  | _ => none

theorem ofJson?_toJson (i : Instruction) (h : ∀ n, i.target? = some n → n < Text.wordBound) :
    ofJson? i.toJson = some i := by
  cases i with
  | act a => cases a <;> rfl
  | jump c n =>
    have hn := h n rfl
    have hw : Json.word? (.nat n) = some n := by
      simp [Json.word?, Json.nat?, Option.filter_some, hn]
    cases c <;> simp [toJson, ofJson?, Condition.ofTag?, Condition.all, Condition.tag, hw]

end Instruction

/-! ### Headings and positions -/

namespace Heading

def toJson (d : Heading) : Json := .string d.name

def ofJson? : Json → Option Heading
  | .string name => ofName? name
  | .object [(name, .null)] => ofName? name
  | _ => none

end Heading

namespace Position

def toJson (p : Position) : Json := .object [("row", .nat p.row), ("col", .nat p.col)]

/-- A position is a pair, or an object with both fields and perhaps others. -/
def ofJson? : Json → Option Position
  | .array [row, col] => do some ⟨← row.word?, ← col.word?⟩
  | .object fields => do
    let row ← fields.lookup "row"
    let col ← fields.lookup "col"
    some ⟨← row.word?, ← col.word?⟩
  | _ => none

theorem ofJson?_toJson (p : Position) (hr : p.row < Text.wordBound) (hc : p.col < Text.wordBound) :
    ofJson? p.toJson = some p := by
  simp [toJson, ofJson?, List.lookup_cons, Json.word?, Json.nat?, Option.filter_some, hr, hc]

end Position

/-! ### Reports -/

def Outcome.name : Outcome → String
  | .moved => "moved"
  | .blocked => "blocked"
  | .turned => "turned"
  | .infected => "infected"
  | .noTarget => "no_target"

def Event.toJson : Event → Json
  | .turnTaken round symbol source target heading act outcome steps =>
    .object
      [("event", .string "turn_taken"), ("round", .nat round), ("species", .string symbol),
        ("from", source.toJson), ("to", target.toJson), ("facing", heading.toJson),
        ("instruction", act.toJson), ("outcome", .string outcome.name), ("steps", .nat steps)]
  | .converted round infector target symbol =>
    .object
      [("event", .string "converted"), ("round", .nat round), ("infector", infector.toJson),
        ("target", target.toJson), ("species", .string symbol)]

def Census.toJson (c : Census) : Json := .object (c.map fun (symbol, n) => (symbol, .nat n))

def RoundReport.toJson (r : RoundReport) : Json :=
  .object
    [("round", .nat r.round), ("events", .array (r.events.map Event.toJson)),
      ("census", r.census.toJson)]

end Vivarium
