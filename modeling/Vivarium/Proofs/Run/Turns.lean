import Mathlib.Data.Nat.Init
import Mathlib.Logic.Relation
import Vivarium.Proofs.Round.LateBinding
import Vivarium.Proofs.Run.Creatures

/-! A run turn by turn. Between two turns there is a board, and a single turn makes each board
from the one before, so whatever single turns keep is kept between any board of a run and any
later one. -/
namespace Vivarium

/-- A moment of a run: between two turns, after some whole rounds and some turns of the next one. -/
structure Moment where
  rounds : Nat
  turns : Nat
  deriving DecidableEq, Repr

instance : LE Moment := ⟨fun m n => m.rounds < n.rounds ∨ m.rounds = n.rounds ∧ m.turns ≤ n.turns⟩

instance (m n : Moment) : Decidable (m ≤ n) :=
  inferInstanceAs (Decidable (m.rounds < n.rounds ∨ m.rounds = n.rounds ∧ m.turns ≤ n.turns))

namespace World

def Passes (budget : Nat) (w u : World) : Prop :=
  ∃ (v : View) (coin : Coin), v.world = w ∧ (v.turn coin budget).view.world = u

abbrev LeadsTo (budget : Nat) : World → World → Prop := Relation.ReflTransGen (Passes budget)

variable {round budget : Nat} {queue earlier : List Nat} {w : World} {coin : Coin}

theorem passes_turn (v : View) (coin : Coin) (budget : Nat) :
    v.world.Passes budget (v.turn coin budget).view.world := ⟨v, coin, rfl, rfl⟩

theorem leadsTo_playSlots (h : w.Scheduled queue) :
    w.LeadsTo budget (playSlots round budget queue w coin).world := by
  induction queue, w, coin, h using Scheduled.induction budget with
  | nil w coin h => exact .refl
  | error v queue coin fault h hf =>
    rw [playSlots_cons_of_error hf]
    exact .single (passes_turn v coin budget)
  | ok v queue coin report h hr ih =>
    rw [playSlots_cons_of_ok hr]
    exact .head (passes_turn v coin budget) ih

theorem leadsTo_of_prefix (h : w.Scheduled queue) (hearlier : earlier <+: queue) :
    (playSlots round budget earlier w coin).world.LeadsTo budget
      (playSlots round budget queue w coin).world := by
  obtain ⟨later, rfl⟩ := hearlier
  induction earlier generalizing w coin with
  | nil => exact leadsTo_playSlots h
  | cons slot earlier ih =>
    obtain ⟨v, rfl, rfl⟩ : ∃ v : View, v.world = w ∧ v.slot = slot :=
      ⟨⟨w, slot, h.occupied slot List.mem_cons_self⟩, rfl, rfl⟩
    rw [List.cons_append]
    cases hresult : (v.turn coin budget).result with
    | error fault =>
      rw [playSlots_cons_of_error hresult, playSlots_cons_of_error hresult]
    | ok report =>
      rw [playSlots_cons_of_ok hresult, playSlots_cons_of_ok hresult]
      exact ih (h.next coin budget)

theorem Scheduled.take (h : w.Scheduled queue) (n : Nat) : w.Scheduled (queue.take n) := by
  rw [← List.take_append_drop n queue] at h
  exact h.left

theorem start_of_turns (h : w.Scheduled queue) {place : Nat} {p : Played}
    (hp : (turns budget queue w coin)[place]? = some p) :
    p.start.world = (playSlots round budget (queue.take place) w coin).world ∧
      ∃ flips, p.ended = p.start.turn flips budget := by
  induction queue, w, coin, h using Scheduled.induction budget generalizing place with
  | nil w coin h => cases hp
  | error v queue coin fault h hf =>
    rw [turns_cons_of_error hf] at hp
    cases place with
    | zero =>
      cases hp
      exact ⟨rfl, coin, rfl⟩
    | succ place => cases hp
  | ok v queue coin report h hr ih =>
    rw [turns_cons_of_ok hr] at hp
    cases place with
    | zero =>
      cases hp
      exact ⟨rfl, coin, rfl⟩
    | succ place =>
      rw [List.take_succ_cons, playSlots_cons_of_ok hr]
      exact ih hp

end World

namespace Simulation

/-- The board at a moment of a run. Once a round has failed, the turns left out change nothing. -/
def boardAt (s : Simulation) (m : Moment) : World :=
  ((s.after m.rounds).progressOf ((s.after m.rounds).world.occupiedSlots.take m.turns)).world

def turns (s : Simulation) : List Played := s.turnsOf s.world.occupiedSlots

def turnAt? (s : Simulation) (m : Moment) : Option Played := (s.after m.rounds).turns[m.turns]?

variable {s : Simulation}

theorem events_of_step {report : RoundReport} (h : s.step.result = .ok report) :
    report.events = s.turns.flatMap (Played.events report.round) := by
  obtain ⟨_, rfl⟩ := step_eq_ok_iff.mp h
  exact World.events_of_turns s.world.scheduled_occupiedSlots

theorem step_eq_error_iff_turns {fault : Fault} :
    s.step.result = .error fault ↔ ∃ p ∈ s.turns, p.ended.result = .error fault :=
  step_eq_error_iff.trans (World.fault_of_turns s.world.scheduled_occupiedSlots)

theorem mem_steps_of_step {n : Nat} : n ∈ s.step.events.filterMap Event.steps? ↔
    ∃ p ∈ s.turns, ∃ report, p.ended.result = .ok report ∧ report.steps = n := by
  have hevents : s.step.events = s.turns.flatMap (Played.events (s.round + 1)) :=
    s.step_events.trans (World.events_of_turns s.world.scheduled_occupiedSlots)
  have hturn : ∀ p : Played, n ∈ (p.events (s.round + 1)).filterMap Event.steps? ↔
      ∃ report, p.ended.result = .ok report ∧ report.steps = n := by
    intro p
    unfold Played.events
    cases hresult : p.ended.result with
    | error fault => simp
    | ok report =>
      have hsteps := Event.steps_of_turn p.ended.view (s.round + 1) p.start.position report []
      rw [List.append_nil] at hsteps
      simp only [hsteps, List.filterMap_nil, List.mem_singleton, Except.ok.injEq, exists_eq_left',
        eq_comm]
  simp only [hevents, List.filterMap_flatMap, List.mem_flatMap, hturn]

theorem boardAt_round (s : Simulation) (rounds : Nat) :
    s.boardAt ⟨rounds, 0⟩ = (s.after rounds).world := rfl

theorem reaches_boardAt (s : Simulation) (m : Moment) : s.Reaches (s.boardAt m) :=
  ⟨m.rounds, _, _, (List.take_append_drop m.turns _).symm, rfl⟩

theorem start_of_turnAt? {m : Moment} {p : Played} (h : s.turnAt? m = some p) :
    p.start.world = s.boardAt m ∧ ∃ coin, p.ended = p.start.turn coin s.settings.stepBudget := by
  rw [← s.settings_after m.rounds]
  exact World.start_of_turns (World.scheduled_occupiedSlots _) h

theorem start_of_mem_turns {k : Nat} {p : Played} (h : p ∈ (s.after k).turns) :
    s.Reaches p.start.world ∧ ∃ coin, p.ended = p.start.turn coin s.settings.stepBudget := by
  obtain ⟨place, hp⟩ := List.mem_iff_getElem?.mp h
  have hturn : s.turnAt? ⟨k, place⟩ = some p := hp
  obtain ⟨hboard, hended⟩ := start_of_turnAt? hturn
  rw [hboard]
  exact ⟨s.reaches_boardAt _, hended⟩

theorem leadsTo_of_turns_le (s : Simulation) (rounds : Nat) {m n : Nat} (h : m ≤ n) :
    (s.boardAt ⟨rounds, m⟩).LeadsTo s.settings.stepBudget (s.boardAt ⟨rounds, n⟩) := by
  have hscheduled := (s.after rounds).world.scheduled_occupiedSlots
  rw [← s.settings_after rounds]
  exact World.leadsTo_of_prefix (hscheduled.take n) (List.take_prefix_take_left h)

theorem leadsTo_next_round (s : Simulation) (m : Moment) :
    (s.boardAt m).LeadsTo s.settings.stepBudget (s.boardAt ⟨m.rounds + 1, 0⟩) := by
  have hscheduled := (s.after m.rounds).world.scheduled_occupiedSlots
  rw [boardAt_round, after, step_world, ← s.settings_after m.rounds]
  exact World.leadsTo_of_prefix hscheduled (List.take_prefix _ _)

theorem leadsTo_of_le (s : Simulation) {m n : Moment} (h : m ≤ n) :
    (s.boardAt m).LeadsTo s.settings.stepBudget (s.boardAt n) := by
  have hrounds : ∀ k, m.rounds + 1 ≤ k →
      (s.boardAt m).LeadsTo s.settings.stepBudget (s.boardAt ⟨k, 0⟩) := by
    intro k hk
    induction k, hk using Nat.le_induction with
    | base => exact s.leadsTo_next_round m
    | succ k _ ih => exact ih.trans (s.leadsTo_next_round ⟨k, 0⟩)
  rcases m with ⟨rounds, turns⟩
  rcases n with ⟨rounds', turns'⟩
  rcases h with hlt | ⟨rfl, hle⟩
  · exact (hrounds rounds' hlt).trans (s.leadsTo_of_turns_le rounds' (Nat.zero_le turns'))
  · exact s.leadsTo_of_turns_le _ hle

end Simulation

end Vivarium
