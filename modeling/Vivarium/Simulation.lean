import Vivarium.Round

/-! A simulation plays rounds. A run is observed before its first round and after every round that
succeeds; one that fails keeps its observations and the world as the failure left it. -/
namespace Vivarium

structure Settings where
  /-- Rounds to play after the board is first shown. -/
  rounds : Nat := 5
  /-- Instructions a creature may fetch in one turn. -/
  stepBudget : Nat := 1000
  seed : Nat := 0
  deriving DecidableEq, Repr

def Settings.check (s : Settings) : Except Fault Unit :=
  if s.stepBudget = 0 then .error (.config .zeroStepBudget) else .ok ()

structure Simulation where
  world : World
  coin : Coin
  settings : Settings
  /-- Rounds begun so far, without a bound. A counter of 32 bits would start over after `2 ^ 32`
  rounds; no session asks for as many. -/
  round : Nat

structure RoundReport where
  round : Nat
  events : List Event
  census : Census
  deriving DecidableEq, Repr

def RoundReport.conversions (r : RoundReport) : Nat := r.events.countP Event.isConversion

structure RoundEnd where
  simulation : Simulation
  /-- The events before a fault too. -/
  events : List Event
  result : Except Fault RoundReport

structure Observation where
  round : Nat
  world : World

structure RunEnd where
  simulation : Simulation
  observed : List Observation
  rounds : List RoundEnd
  fault? : Option Fault

def RunEnd.reports (r : RunEnd) : List RoundReport :=
  r.rounds.filterMap fun e => e.result.toOption

namespace Simulation

def start (world : World) (coin : Coin) (settings : Settings) : Except Fault Simulation :=
  settings.check.map fun _ => ⟨world, coin, settings, 0⟩

def startSeeded (world : World) (settings : Settings) : Except Fault Simulation :=
  start world (.seeded (UInt64.ofNat settings.seed)) settings

def observe (s : Simulation) : Observation := ⟨s.round, s.world⟩

/-- Plays one round; a round that fails counts too. -/
def step (s : Simulation) : RoundEnd :=
  let round := s.round + 1
  let p := s.world.playRound round s.settings.stepBudget s.coin
  let next := { s with world := p.world, coin := p.coin, round }
  match p.fault? with
  | some fault => ⟨next, p.events, .error fault⟩
  | none => ⟨next, p.events, .ok ⟨round, p.events, p.world.census⟩⟩

/-- Plays rounds until one fails, and observes after each. -/
def advance : Nat → Simulation → RunEnd
  | 0, s => ⟨s, [], [], none⟩
  | rounds + 1, s =>
    let e := s.step
    match e.result with
    | .error fault => ⟨e.simulation, [], [e], some fault⟩
    | .ok _ =>
      let rest := advance rounds e.simulation
      { rest with observed := e.simulation.observe :: rest.observed, rounds := e :: rest.rounds }

def run (rounds : Nat) (s : Simulation) : RunEnd :=
  let r := s.advance rounds
  { r with observed := s.observe :: r.observed }

end Simulation

end Vivarium
