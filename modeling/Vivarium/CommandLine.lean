import Vivarium.Simulation

/-! The arguments of the command line. An option takes its value from the next argument or, after an
equals sign, from its own; a one-letter option also takes the rest of its argument. Values that
start with a dash are refused unless attached, and so is any option given twice. -/
namespace Vivarium.CommandLine

inductive Format where
  | text
  | json
  deriving DecidableEq, Repr

inductive Setting where
  | scenario
  | rounds
  | seed
  | stepBudget
  | format
  deriving DecidableEq, Repr

structure Options where
  scenario? : Option String := none
  rounds? : Option Nat := none
  seed? : Option Nat := none
  stepBudget? : Option Nat := none
  format? : Option Format := none
  listSpecies : Bool := false
  deriving DecidableEq, Repr

inductive Request where
  | help
  | perform (options : Options)
  deriving DecidableEq, Repr

/-! ### Values -/

def word? (value : List Char) : Option Nat :=
  match value with
  | '+' :: digits => Text.readDecimal? Text.wordBound digits
  | digits => Text.readDecimal? Text.wordBound digits

/-- Round numbers are read with either sign and have to lie between 0 and `2 ^ 32 - 1`. -/
def roundNumber? (value : List Char) : Option Nat :=
  match value with
  | '-' :: digits => Text.readDecimal? 1 digits
  | '+' :: digits => Text.readDecimal? 0x100000000 digits
  | digits => Text.readDecimal? 0x100000000 digits

def Format.named? (value : List Char) : Option Format :=
  if value = "text".toList then some .text
  else if value = "json".toList then some .json
  else none

/-- Records a value, unless the option has one already or cannot take this one. -/
def Options.set (o : Options) (setting : Setting) (value : List Char) : Option Options :=
  match setting with
  | .scenario =>
    if o.scenario?.isSome || value.isEmpty then none
    else some { o with scenario? := some (String.ofList value) }
  | .rounds =>
    if o.rounds?.isSome then none
    else (roundNumber? value).map fun n => { o with rounds? := some n }
  | .seed => if o.seed?.isSome then none else (word? value).map fun n => { o with seed? := some n }
  | .stepBudget =>
    if o.stepBudget?.isSome then none
    else (word? value).map fun n => { o with stepBudget? := some n }
  | .format =>
    if o.format?.isSome then none
    else (Format.named? value).map fun f => { o with format? := some f }

/-! ### Arguments -/

inductive Argument where
  | listSpecies
  | help
  | setting (setting : Setting) (attached? : Option (List Char))

def Setting.ofLong? (name : List Char) : Option Setting :=
  if name = "scenario".toList then some .scenario
  else if name = "rounds".toList then some .rounds
  else if name = "seed".toList then some .seed
  else if name = "step-budget".toList then some .stepBudget
  else if name = "format".toList then some .format
  else none

def Setting.ofShort? : Char → Option Setting
  | 's' => some .scenario
  | 'n' => some .rounds
  | _ => none

def attachment? (cs : List Char) : Option (List Char) := (cs.dropWhile (· ≠ '=')).tail?

def argument? : List Char → Option Argument
  | '-' :: '-' :: rest =>
    let name := rest.takeWhile (· ≠ '=')
    match attachment? rest with
    | none =>
      if name = "list-species".toList then some .listSpecies
      else if name = "help".toList then some .help
      else (Setting.ofLong? name).map (.setting · none)
    | some value => (Setting.ofLong? name).map (.setting · (some value))
  | ['-', 'h'] => some .help
  | '-' :: letter :: rest =>
    (Setting.ofShort? letter).map fun s =>
      match rest with
      | [] => .setting s none
      | '=' :: value => .setting s (some value)
      | value => .setting s (some value)
  | _ => none

/-- A dash alone is a value. -/
def looksLikeOption : List Char → Bool
  | '-' :: _ :: _ => true
  | _ => false

/-- Reads the arguments from the front; two dashes may end them. -/
def readFrom (o : Options) : List (List Char) → Option Request
  | [] => some (.perform o)
  | [['-', '-']] => some (.perform o)
  | arg :: rest =>
    match argument? arg with
    | none => none
    | some .help => some .help
    | some .listSpecies =>
      if o.listSpecies then none else readFrom { o with listSpecies := true } rest
    | some (.setting s (some value)) => (o.set s value).bind fun o => readFrom o rest
    | some (.setting s none) =>
      match rest with
      | [] => none
      | value :: rest =>
        if looksLikeOption value then none else (o.set s value).bind fun o => readFrom o rest

def read (args : List String) : Option Request := readFrom {} (args.map String.toList)

/-- The options take precedence over the settings of a scenario. -/
def Options.apply (o : Options) (s : Settings) : Settings where
  rounds := o.rounds?.getD s.rounds
  stepBudget := o.stepBudget?.getD s.stepBudget
  seed := o.seed?.getD s.seed

def Options.format (o : Options) : Format := o.format?.getD .text

end Vivarium.CommandLine
