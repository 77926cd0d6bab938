/-! The instruction set. An act ends a turn; a jump moves the program counter when its
condition holds, and its target is an absolute index into the same program. -/
namespace Vivarium

inductive Act where
  | hop
  | left
  | right
  | infect
  deriving DecidableEq, Repr

inductive Condition where
  | always
  /-- The cell ahead is on the board and empty. -/
  | empty
  /-- The cell ahead is off the board. -/
  | wall
  /-- The coin shows heads. -/
  | heads
  /-- The cell ahead holds a creature of another kind. -/
  | enemy
  deriving DecidableEq, Repr

inductive Instruction where
  | act (act : Act)
  | jump (condition : Condition) (target : Nat)
  deriving DecidableEq, Repr

abbrev Program := List Instruction

namespace Act

def all : List Act := [.hop, .left, .right, .infect]

def mnemonic : Act → String
  | .hop => "hop"
  | .left => "left"
  | .right => "right"
  | .infect => "infect"

theorem mem_all (a : Act) : a ∈ all := by cases a <;> decide

end Act

namespace Condition

def all : List Condition := [.empty, .wall, .heads, .enemy, .always]

def mnemonic : Condition → String
  | .empty => "if_empty"
  | .wall => "if_wall"
  | .heads => "if_random"
  | .enemy => "if_enemy"
  | .always => "go"

theorem mem_all (c : Condition) : c ∈ all := by cases c <;> decide

end Condition

namespace Instruction

def mnemonic : Instruction → String
  | .act a => a.mnemonic
  | .jump c _ => c.mnemonic

def target? : Instruction → Option Nat
  | .act _ => none
  | .jump _ target => some target

def isAct : Instruction → Bool
  | .act _ => true
  | .jump _ _ => false

def text : Instruction → String
  | .act a => a.mnemonic
  | .jump c target => s!"{c.mnemonic} {target}"

end Instruction

end Vivarium
