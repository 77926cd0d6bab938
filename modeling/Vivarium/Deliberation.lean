import Vivarium.Coin
import Vivarium.View

/-! How a creature comes to an act. It runs its jumps, which change its counter and flip the coin
and do nothing else, until it fetches an act, leaves its program or has spent its budget. -/
namespace Vivarium

structure Deliberation where
  counter : Nat
  coin : Coin
  fetched : Nat

inductive Decision where
  | act (act : Act)
  /-- The counter points outside the program. -/
  | lost
  /-- The budget is spent. -/
  | undecided
  deriving DecidableEq, Repr

/-- Whether a jump is taken, and the coin afterwards; only a test for heads flips it. -/
def Condition.test (sight : Sight) (coin : Coin) : Condition → Bool × Coin
  | .always => (true, coin)
  | .empty => (sight = .empty, coin)
  | .wall => (sight = .wall, coin)
  | .enemy => (sight = .enemy, coin)
  | .heads => coin.flip

namespace Deliberation

def pass (d : Deliberation) : Deliberation :=
  { d with counter := d.counter + 1, fetched := d.fetched + 1 }

def branch (sight : Sight) (condition : Condition) (target : Nat) (d : Deliberation) :
    Deliberation :=
  let (taken, coin) := condition.test sight d.coin
  ⟨if taken then target else d.counter + 1, coin, d.fetched + 1⟩

def run (program : Program) (sight : Sight) :
    (budget : Nat) → Deliberation → Decision × Deliberation
  | 0, d => (.undecided, d)
  | budget + 1, d =>
    match program[d.counter]? with
    | none => (.lost, d)
    | some (.act a) => (.act a, d.pass)
    | some (.jump condition target) => run program sight budget (d.branch sight condition target)

end Deliberation

end Vivarium
