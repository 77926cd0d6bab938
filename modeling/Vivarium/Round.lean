import Vivarium.World
import Vivarium.Turn

/-! A round. The occupied slots are listed once, in scan order, and each creature listed takes its
turn against the live board: a later creature sees what the earlier ones did, and a creature that
was infected before its turn already runs the program of its new kind. -/
namespace Vivarium

inductive Event where
  | turnTaken (round : Nat) (symbol : String) (source target : Position) (heading : Heading)
      (act : Act) (outcome : Outcome) (steps : Nat)
  | converted (round : Nat) (infector target : Position) (symbol : String)
  deriving DecidableEq, Repr

def Event.isConversion : Event → Bool
  | .converted .. => true
  | .turnTaken .. => false

/-- What turns have done so far; a fault ends the round and leaves all before it in place. -/
structure Progress where
  world : World
  coin : Coin
  events : List Event
  fault? : Option Fault

/-- The events of a turn that began at `source` and left the view as it is. -/
def View.events (v : View) (round : Nat) (source : Position) (r : TurnReport) : List Event :=
  let taken := .turnTaken round v.active.symbol source v.position v.active.heading r.act r.outcome
    r.steps
  match r.outcome, v.ahead? with
  | .infected, some target =>
    [taken, .converted round v.position (v.world.positionOf target) v.active.symbol]
  | _, _ => [taken]

namespace World

def playSlot (round budget : Nat) (w : World) (coin : Coin) (slot : Nat) : Progress :=
  match w.view slot with
  | .error fault => ⟨w, coin, [], some fault⟩
  | .ok v =>
    let t := v.turn coin budget
    match t.result with
    | .error fault => ⟨t.view.world, t.coin, [], some fault⟩
    | .ok report => ⟨t.view.world, t.coin, t.view.events round v.position report, none⟩

def playSlots (round budget : Nat) : List Nat → World → Coin → Progress
  | [], w, coin => ⟨w, coin, [], none⟩
  | slot :: queue, w, coin =>
    let first := w.playSlot round budget coin slot
    match first.fault? with
    | some _ => first
    | none =>
      let rest := playSlots round budget queue first.world first.coin
      { rest with events := first.events ++ rest.events }

def playRound (round budget : Nat) (w : World) (coin : Coin) : Progress :=
  playSlots round budget w.occupiedSlots w coin

end World

end Vivarium
