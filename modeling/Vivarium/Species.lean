import Vivarium.Assembly

/-! A species: the symbol that shows its members on the board, and the program they run. -/
namespace Vivarium

/-- What the board shows where nobody is. -/
def vacantGlyph : Char := '-'

structure Species where
  symbol : String
  program : Program
  deriving DecidableEq, Repr

namespace Species

/-- An index past the end is a defect of the program. -/
def fetch (s : Species) (index : Nat) : Except Fault Instruction :=
  match s.program[index]? with
  | some i => .ok i
  | none => .error (.counterOutOfRange s.symbol index s.program.length)

def push (s : Species) (i : Instruction) : Species := { s with program := s.program ++ [i] }

/-- A single character that can be told from blanks and from an empty cell. -/
def drawable (symbol : String) : Bool :=
  match symbol.toList with
  | [c] => c ≠ vacantGlyph && !Text.isBlank c
  | _ => false

/-- The first jump, counted from `index`, whose target is no index below `len`. -/
def strayJump? (len : Nat) (index : Nat) : Program → Option (Nat × Nat)
  | [] => none
  | i :: rest =>
    match i.target? with
    | some target =>
      if len ≤ target then some (index, target) else strayJump? len (index + 1) rest
    | none => strayJump? len (index + 1) rest

/-- A species may live on a board when its symbol is drawable, its program is not empty and every
jump lands inside the program. -/
def check (s : Species) : Except Fault Unit :=
  if !drawable s.symbol then .error (.badSymbol s.symbol)
  else if s.program = [] then .error (.emptyProgram s.symbol)
  else
    match strayJump? s.program.length 0 s.program with
    | some (index, target) =>
      .error (.targetOutOfRange s.symbol index target s.program.length)
    | none => .ok ()

def checked (s : Species) : Except Fault Species := s.check.map fun _ => s

def ofSource (symbol source : String) : Except Fault Species := do
  let program ← Assembly.assemble source
  checked ⟨symbol, program⟩

def listingIndex (index : Nat) : String :=
  let digits := toString index
  String.ofList (List.replicate (3 - digits.length) ' ') ++ digits

def listing (s : Species) : String :=
  String.join (s.program.mapIdx fun index i => s!"{listingIndex index}: {i.text}\n")

end Species

end Vivarium
