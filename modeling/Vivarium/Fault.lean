import Vivarium.Geometry

/-! Everything that can go wrong, by cause, and the message for each cause. -/
namespace Vivarium

/-- Why a file could not be read as text. -/
inductive ReadFault where
  | notFound
  | notDirectory
  | isDirectory
  | nameTooLong
  | notText
  | other (reason : String)
  deriving DecidableEq, Repr

def ReadFault.message : ReadFault → String
  | .notFound => "No such file or directory (os error 2)"
  | .notDirectory => "Not a directory (os error 20)"
  | .isDirectory => "Is a directory (os error 21)"
  | .nameTooLong => "File name too long (os error 36)"
  | .notText => "stream did not contain valid UTF-8"
  | .other reason => reason

/-- Why a blueprint or a set of settings is refused, the programs and the board apart. -/
inductive ConfigFault where
  | zeroStepBudget
  /-- The entry names a library species and a program, or neither; entries count from 1. -/
  | ambiguousSpecies (entry : Nat)
  | missingSymbol (entry : Nat)
  deriving DecidableEq, Repr

def ConfigFault.message : ConfigFault → String
  | .zeroStepBudget => "step_budget must be at least 1"
  | .ambiguousSpecies entry => s!"species #{entry} needs exactly one of `library` or `program`"
  | .missingSymbol entry => s!"species #{entry} has a program but no symbol"

inductive Fault where
  | counterOutOfRange (symbol : String) (index len : Nat)
  | targetOutOfRange (symbol : String) (index target len : Nat)
  | badSymbol (symbol : String)
  | emptyProgram (symbol : String)
  | badDimensions (rows cols : Nat)
  | outOfBounds (position : Position) (rows cols : Nat)
  | cellOccupied (position : Position)
  | unknownSpecies (name : String)
  | duplicateSpecies (symbol : String)
  | unrecognised (line : Nat) (code : String)
  | config (cause : ConfigFault)
  | noProgress (symbol : String) (budget : Nat)
  | hopIntoWall (source : Position)
  | hopIntoOccupied (source target : Position)
  | emptySlot (position : Position)
  | unreadable (cause : ReadFault)
  /-- The scenario file is no well-formed document or lacks the required shape. -/
  | malformed
  deriving DecidableEq, Repr

namespace Fault

def message : Fault → String
  | .counterOutOfRange symbol index len =>
    s!"Species '{symbol}' fetched instruction {index} but its program has {len}"
  | .targetOutOfRange symbol index target len =>
    s!"Species '{symbol}' instruction {index} jumps to {target}, " ++
      s!"past the end of a {len}-instruction program"
  | .badSymbol symbol =>
    s!"Species symbol '{symbol}' must be a single visible character other than '-'"
  | .emptyProgram symbol => s!"Species '{symbol}' has an empty program"
  | .badDimensions rows cols =>
    s!"World must have at least one row and one column and fit in memory, got {rows}x{cols}"
  | .outOfBounds position rows cols =>
    s!"Position {position.text} is outside the {rows}x{cols} world"
  | .cellOccupied position => s!"Cell {position.text} is already occupied"
  | .unknownSpecies name => s!"Unknown species: {name}"
  | .duplicateSpecies symbol => s!"Species '{symbol}' is defined more than once"
  | .unrecognised line code => s!"Parse error on line {line}: unrecognised instruction '{code}'"
  | .config cause => s!"Invalid config: {cause.message}"
  | .noProgress symbol budget =>
    s!"Creature of species '{symbol}' made no progress within {budget} steps"
  | .hopIntoWall source => s!"Internal error: hop from {source.text} into a wall"
  | .hopIntoOccupied source target =>
    s!"Internal error: hop from {source.text} into occupied cell {target.text}"
  | .emptySlot position => s!"Internal error: scheduled slot {position.text} is empty"
  | .unreadable cause => s!"IO error: {cause.message}"
  | .malformed => "Scenario error"

/-- Breaches of the contract between schedule, view and turn, which no program can cause. -/
def isInternal : Fault → Bool
  | .hopIntoWall _ | .hopIntoOccupied _ _ | .emptySlot _ => true
  | _ => false

end Fault

end Vivarium
