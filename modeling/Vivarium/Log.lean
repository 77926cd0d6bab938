import Vivarium.Simulation
import Vivarium.Text.Quoted

/-! Log records, what is logged of a run, and the filter that admits records by target and level. -/
namespace Vivarium.Log

inductive Level where
  | error
  | warn
  | info
  | debug
  | trace
  deriving DecidableEq, Repr

namespace Level

def all : List Level := [.error, .warn, .info, .debug, .trace]

def name : Level → String
  | .error => "ERROR"
  | .warn => "WARN"
  | .info => "INFO"
  | .debug => "DEBUG"
  | .trace => "TRACE"

/-- The higher, the more is logged. -/
def detail : Level → Nat
  | .error => 1
  | .warn => 2
  | .info => 3
  | .debug => 4
  | .trace => 5

end Level

structure Record where
  level : Level
  target : String
  message : String
  fields : List (String × String)
  deriving DecidableEq, Repr

/-- Controls that steer a terminal are spelled out. -/
def harmless (c : Char) : String :=
  if c = '\x1b' then "\\x1b"
  else if c = '\x07' then "\\x07"
  else if c = '\x08' then "\\x08"
  else if c = '\x0c' then "\\x0c"
  else if c = '\x7f' then "\\x7f"
  else if 0x80 ≤ c.toNat ∧ c.toNat ≤ 0x9F then Text.codePointText c
  else String.singleton c

def Record.text (r : Record) : String :=
  let message := String.join (r.message.toList.map harmless)
  let fields := String.join (r.fields.map fun (name, value) => s!" {name}={value}")
  s!"{r.level.name} {r.target}: {message}{fields}"

/-! ### What is logged -/

def mainTarget : String := "darwin"

def loaderTarget : String := "darwin::scenario::loader"

def roundTarget : String := "darwin::simulation::tick"

/-- A malformed document is reported without further detail. -/
def fault (f : Fault) : Record :=
  let fields := if f = .malformed then [] else [("internal", toString f.isInternal)]
  ⟨.error, mainTarget, f.message, fields⟩

def loaded (rows cols species creatures : Nat) : Record :=
  ⟨.info, loaderTarget, "scenario loaded",
    [("rows", toString rows), ("cols", toString cols), ("species", toString species),
      ("creatures", toString creatures)]⟩

def starting (settings : Settings) : Record :=
  ⟨.info, mainTarget, "Darwin starting...",
    [("rounds", toString settings.rounds), ("seed", toString settings.seed)]⟩

def outcomeName : Outcome → String
  | .moved => "Moved"
  | .blocked => "Blocked"
  | .turned => "Turned"
  | .infected => "Infected"
  | .noTarget => "NoTarget"

/-- Only turns are logged one by one. -/
def ofEvent? : Event → Option Record
  | .turnTaken round symbol source target _ act outcome steps =>
    some
      ⟨.debug, roundTarget, "turn taken",
        [("round", toString round), ("species", symbol), ("from", source.text),
          ("to", target.text), ("instruction", act.mnemonic), ("outcome", outcomeName outcome),
          ("steps", toString steps)]⟩
  | .converted .. => none

def censusText (c : Census) : String :=
  "\x7b" ++ ", ".intercalate (c.map fun (symbol, n) => s!"{Text.quoted symbol}: {n}") ++ "\x7d"

def ofRound (e : RoundEnd) : List Record :=
  let turns := e.events.filterMap ofEvent?
  match e.result with
  | .error _ => turns
  | .ok report =>
    turns ++
      [⟨.info, roundTarget, "round complete",
        [("round", toString report.round), ("creatures", toString e.simulation.world.count),
          ("census", censusText report.census)]⟩]

/-! ### Filters -/

/-- Admits the targets that start with `scope`, up to a level; without a level, nothing. -/
structure Filter where
  scope : String
  level? : Option Level
  deriving DecidableEq, Repr

namespace Filter

def standard : Filter := ⟨mainTarget, some .info⟩

def admits (f : Filter) (r : Record) : Bool :=
  f.scope.toList.isPrefixOf r.target.toList && f.level?.any (r.level.detail ≤ ·.detail)

/-- A level, or `off`, in any case. -/
def levelNamed? (word : List Char) : Option (Option Level) :=
  let word := word.map Char.toUpper
  if word = "OFF".toList then some none
  else (Level.all.find? fun l => l.name.toList = word).map some

/-- Reads a level, which then holds for all targets, or a target with a level after an equals sign;
a target alone stands for all its records. -/
def ofText (text : String) : Filter :=
  let cs := text.toList
  match levelNamed? cs, cs.dropWhile (· ≠ '=') with
  | some level, _ => ⟨"", level⟩
  | none, [] => if cs.isEmpty then ⟨"", some .error⟩ else ⟨text, some .trace⟩
  | none, _ :: word =>
    match levelNamed? word with
    | some level => ⟨String.ofList (cs.takeWhile (· ≠ '=')), level⟩
    | none => standard

end Filter

end Vivarium.Log
