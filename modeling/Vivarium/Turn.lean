import Vivarium.Deliberation

/-! One creature's turn: it deliberates, and the act it comes to ends the turn whether or not the
act has any effect. A turn that fails has moved the counter of its creature and nothing else. -/
namespace Vivarium

inductive Outcome where
  /-- Hopped into the empty cell ahead. -/
  | moved
  /-- There was a wall or a creature ahead. -/
  | blocked
  | turned
  /-- Converted the enemy ahead. -/
  | infected
  /-- There was no enemy ahead. -/
  | noTarget
  deriving DecidableEq, Repr

structure TurnReport where
  act : Act
  outcome : Outcome
  /-- Instructions fetched, the act included. -/
  steps : Nat
  deriving DecidableEq, Repr

structure Turn where
  view : View
  coin : Coin
  result : Except Fault TurnReport

namespace View

def perform (v : View) : Act → Except Fault (Outcome × View)
  | .hop => if v.facesEmpty then v.hop.map (.moved, ·) else .ok (.blocked, v)
  | .left => .ok (.turned, v.revise { v.active with heading := v.active.heading.left })
  | .right => .ok (.turned, v.revise { v.active with heading := v.active.heading.right })
  | .infect =>
    match v.infect? with
    | some converted => .ok (.infected, converted)
    | none => .ok (.noTarget, v)

def withCounter (v : View) (counter : Nat) : View := v.revise { v.active with counter }

def turn (v : View) (coin : Coin) (budget : Nat) : Turn :=
  let (decision, d) :=
    Deliberation.run v.active.program v.sight budget ⟨v.active.counter, coin, 0⟩
  let after := v.withCounter d.counter
  match decision with
  | .lost =>
    ⟨after, d.coin,
      .error (.counterOutOfRange v.active.symbol d.counter v.active.program.length)⟩
  | .undecided => ⟨after, d.coin, .error (.noProgress v.active.symbol budget)⟩
  | .act a =>
    match after.perform a with
    | .error fault => ⟨after, d.coin, .error fault⟩
    | .ok (outcome, last) => ⟨last, d.coin, .ok ⟨a, outcome, d.fetched⟩⟩

end View

end Vivarium
