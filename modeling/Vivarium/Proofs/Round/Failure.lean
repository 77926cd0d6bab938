import Vivarium.Proofs.Round.Schedule

/-! Failed rounds. A turn that fails has moved the counter of its creature and done nothing else. A
round that fails is not undone: it stays as the turns before the failing one have left it, and none
of these is carried out in part. -/
namespace Vivarium

/-- The same board but for the counter of the creature in a slot. -/
structure World.CounterApart (w : World) (slot : Nat) (u : World) : Prop where
  shape : w.SameShape u
  others : ∀ other, other ≠ slot → u.occupant? other = w.occupant? other
  creature : ∃ c counter, w.occupant? slot = some c ∧ u.occupant? slot = some { c with counter }

namespace View

theorem counterApart_withCounter (v : View) (counter : Nat) :
    v.world.CounterApart v.slot (v.withCounter counter).world where
  shape := v.sameShape_withCounter counter
  others other hother := by rw [occupant?_withCounter, if_neg hother]
  creature := by
    refine ⟨v.active, counter, v.occupant?_slot, ?_⟩
    rw [occupant?_withCounter, if_pos rfl]

theorem counterApart_of_error {v : View} {coin : Coin} {budget : Nat} {fault : Fault}
    (h : (v.turn coin budget).result = .error fault) :
    (v.turn coin budget).view.slot = v.slot ∧
      v.world.CounterApart v.slot (v.turn coin budget).view.world := by
  rw [(v.turn_ends coin budget).of_error h]
  exact ⟨rfl, v.counterApart_withCounter _⟩

end View

namespace World

/-- The turns of a queue fail in the one at a place, after all turns before it have succeeded. -/
structure FailsAt (round budget : Nat) (queue : List Nat) (w : World) (coin : Coin) (place : Nat)
    (v : View) (fault : Fault) : Prop where
  queued : queue[place]? = some v.slot
  earlier : (playSlots round budget (queue.take place) w coin).fault? = none
  board : v.world = (playSlots round budget (queue.take place) w coin).world
  fails : (v.turn (playSlots round budget (queue.take place) w coin).coin budget).result =
    .error fault

variable {round budget place : Nat} {queue : List Nat} {w : World} {coin : Coin} {v : View}
  {fault : Fault}

theorem FailsAt.next {u : View} {report : TurnReport}
    (hr : (u.turn coin budget).result = .ok report)
    (h : FailsAt round budget queue (u.turn coin budget).view.world (u.turn coin budget).coin place
      v fault) :
    FailsAt round budget (u.slot :: queue) u.world coin (place + 1) v fault where
  queued := by
    rw [List.getElem?_cons_succ]
    exact h.queued
  earlier := by
    rw [List.take_succ_cons, playSlots_cons_of_ok hr]
    exact h.earlier
  board := by
    rw [List.take_succ_cons, playSlots_cons_of_ok hr]
    exact h.board
  fails := by
    rw [List.take_succ_cons, playSlots_cons_of_ok hr]
    exact h.fails

theorem exists_failsAt (hs : w.Scheduled queue)
    (hf : (playSlots round budget queue w coin).fault? = some fault) :
    ∃ place v, FailsAt round budget queue w coin place v fault := by
  induction queue, w, coin, hs using Scheduled.induction budget with
  | nil => cases hf
  | error v queue coin first hs hfirst =>
    rw [playSlots_cons_of_error hfirst] at hf
    cases hf
    exact ⟨0, v, rfl, rfl, rfl, hfirst⟩
  | ok v queue coin report hs hr ih =>
    rw [playSlots_cons_of_ok hr] at hf
    obtain ⟨place, u, hu⟩ := ih hf
    exact ⟨place + 1, u, hu.next hr⟩

theorem FailsAt.playSlots_eq (h : FailsAt round budget queue w coin place v fault) :
    playSlots round budget queue w coin =
      let earlier := playSlots round budget (queue.take place) w coin
      ⟨(v.turn earlier.coin budget).view.world, (v.turn earlier.coin budget).coin, earlier.events,
        some fault⟩ := by
  obtain ⟨hplace, hslot⟩ := List.getElem?_eq_some_iff.mp h.queued
  have hqueue : queue = queue.take place ++ v.slot :: queue.drop (place + 1) := by
    rw [← hslot, ← List.drop_eq_getElem_cons hplace, List.take_append_drop]
  have hplayed : playSlots round budget queue w coin =
      playSlots round budget (queue.take place ++ v.slot :: queue.drop (place + 1)) w coin := by
    rw [← hqueue]
  rw [hplayed, playSlots_append h.earlier, ← h.board, playSlots_cons_of_error h.fails]
  simp only [Progress.andThen, List.append_nil]

end World

namespace Simulation

def upTo (s : Simulation) (place : Nat) : Progress :=
  s.progressOf (s.world.occupiedSlots.take place)

def FailsIn (s : Simulation) (place : Nat) (v : View) (fault : Fault) : Prop :=
  World.FailsAt (s.round + 1) s.settings.stepBudget s.world.occupiedSlots s.world s.coin place v
    fault

variable {s : Simulation} {place : Nat} {v : View} {fault : Fault}

theorem FailsIn.progress_eq (h : s.FailsIn place v fault) :
    s.progress =
      ⟨(v.turn (s.upTo place).coin s.settings.stepBudget).view.world,
        (v.turn (s.upTo place).coin s.settings.stepBudget).coin, (s.upTo place).events,
        some fault⟩ := World.FailsAt.playSlots_eq h

theorem step_eq_error_iff_failsIn :
    s.step.result = .error fault ↔ ∃ place v, s.FailsIn place v fault := by
  rw [step_eq_error_iff]
  constructor
  · intro h
    exact World.exists_failsAt s.world.scheduled_occupiedSlots h
  · intro h
    obtain ⟨place, v, hfails⟩ := h
    rw [hfails.progress_eq]

theorem FailsIn.step_eq (h : s.FailsIn place v fault) :
    s.step =
      ⟨{ s with
          world := (v.turn (s.upTo place).coin s.settings.stepBudget).view.world
          coin := (v.turn (s.upTo place).coin s.settings.stepBudget).coin
          round := s.round + 1 }, (s.upTo place).events, .error fault⟩ := by
  have hplayed := h.progress_eq
  unfold progress at hplayed
  simp only [step, hplayed]

end Simulation

/-- A turn that fails leaves the board as it was but for the counter of its creature. A round fails
if and only if, at some place of its queue, a turn fails that begins where the successful turns
before it have ended. Such a round counts, and leaves the board that these turns have left, but for
the counter of the creature whose turn has failed. -/
theorem failures_move_one_counter :
    (∀ (v : View) (coin : Coin) (budget : Nat) (fault : Fault),
      (v.turn coin budget).result = .error fault →
      (v.turn coin budget).view.slot = v.slot ∧
        v.world.CounterApart v.slot (v.turn coin budget).view.world) ∧
    ∀ (s : Simulation) (fault : Fault),
      (s.step.result = .error fault ↔ ∃ place v, s.FailsIn place v fault) ∧
      ∀ place v, s.FailsIn place v fault →
        s.step.simulation.round = s.round + 1 ∧ s.step.simulation.settings = s.settings ∧
        s.step.events = (s.upTo place).events ∧
        (s.upTo place).world.CounterApart v.slot s.step.simulation.world := by
  refine ⟨fun v coin budget fault => View.counterApart_of_error, ?_⟩
  intro s fault
  refine ⟨Simulation.step_eq_error_iff_failsIn, ?_⟩
  intro place v hfails
  have hboard : v.world = (s.upTo place).world := hfails.board
  rw [hfails.step_eq, ← hboard]
  exact ⟨rfl, rfl, rfl, (View.counterApart_of_error hfails.fails).2⟩

/-- A hopper on its way to a creature that goes round in its program and never comes to an act:

    h→ - m→
-/
def stalled : Simulation where
  world :=
    { rows := 1
      cols := 3
      cells :=
        #[some (.spawn ⟨0, Species.hopper⟩ .east), none,
          some (.spawn ⟨1, "m", [.jump .wall 1, .jump .always 1]⟩ .east)]
      filled := rfl
      nonempty := by decide
      addressable := by decide }
  coin := .scripted #[]
  settings := { stepBudget := 3 }
  round := 0

theorem stalled_keeps_its_first_turn :
    stalled.step.result = .error (.noProgress "m" 3) ∧ stalled.step.simulation.round = 1 ∧
    stalled.step.simulation.world.occupant? 0 = none ∧
    stalled.step.simulation.world.occupant? 1 = some ⟨⟨0, Species.hopper⟩, .east, 1⟩ ∧
    ∃ c counter, stalled.world.occupant? 2 = some c ∧
      stalled.step.simulation.world.occupant? 2 = some { c with counter } := by
  obtain ⟨_, hrounds⟩ := failures_move_one_counter
  obtain ⟨hiff, hleft⟩ := hrounds stalled (.noProgress "m" 3)
  have hfails : stalled.FailsIn 1 ⟨(stalled.upTo 1).world, 2, rfl⟩ (.noProgress "m" 3) :=
    ⟨rfl, rfl, rfl, rfl⟩
  obtain ⟨hround, _, _, hapart⟩ := hleft 1 _ hfails
  refine ⟨hiff.mpr ⟨1, _, hfails⟩, hround, ?_, ?_, hapart.creature⟩
  · rw [hapart.others 0 (by decide)]
    rfl
  · rw [hapart.others 1 (by decide)]
    rfl

end Vivarium
