import Vivarium.Proofs.Round.Queue
import Vivarium.Species.Library

/-! The schedule of a round. Every creature that stands on the board when a round begins has exactly
one turn in it, in scan order, although the board changes under the queue. -/
namespace Vivarium

namespace Event

def source? : Event → Option Position
  | .turnTaken _ _ source .. => some source
  | .converted .. => none

def steps? : Event → Option Nat
  | .turnTaken _ _ _ _ _ _ _ steps => some steps
  | .converted .. => none

/-- How many turns the events report of the creature that stands at `p` before them. The creature is
followed from turn to turn, to wherever each of its turns takes it. -/
def turnsTaken : List Event → Position → Nat
  | [], _ => 0
  | .turnTaken _ _ source target _ _ _ _ :: events, p =>
    if p = source then turnsTaken events target + 1 else turnsTaken events p
  | .converted .. :: events, p => turnsTaken events p

end Event

namespace View

theorem events_eq_cons (v : View) (round : Nat) (source : Position) (r : TurnReport) :
    ∃ tail, v.events round source r = .turnTaken round v.active.symbol source v.position
      v.active.heading r.act r.outcome r.steps :: tail ∧ ∀ e ∈ tail, e.isConversion = true := by
  unfold events
  split
  · exact ⟨_, rfl, by simp [Event.isConversion]⟩
  · exact ⟨[], rfl, by simp⟩

theorem events_of_not_infected {v : View} {round : Nat} {source : Position} {r : TurnReport}
    (ho : r.outcome ≠ .infected) :
    v.events round source r =
      [.turnTaken round v.active.symbol source v.position v.active.heading r.act r.outcome
        r.steps] := by
  unfold events
  split
  · next h _ => exact absurd h ho
  · rfl

end View

namespace Event

theorem turnsTaken_append_of_conversions {tail : List Event}
    (h : ∀ e ∈ tail, e.isConversion = true) (events : List Event) (p : Position) :
    turnsTaken (tail ++ events) p = turnsTaken events p := by
  induction tail with
  | nil => rfl
  | cons e tail ih =>
    cases e with
    | turnTaken => cases h _ List.mem_cons_self
    | converted => exact ih fun e he => h e (List.mem_cons_of_mem _ he)

theorem filterMap_of_turn {β : Type} {f : Event → Option β}
    (hf : ∀ e : Event, e.isConversion = true → f e = none) (v : View) (round : Nat)
    (source : Position) (r : TurnReport) (events : List Event) :
    (v.events round source r ++ events).filterMap f =
      (f (.turnTaken round v.active.symbol source v.position v.active.heading r.act r.outcome
        r.steps)).toList ++ events.filterMap f := by
  obtain ⟨tail, hevents, htail⟩ := v.events_eq_cons round source r
  have hnone : tail.filterMap f = [] :=
    List.filterMap_eq_nil_iff.mpr fun e he => hf e (htail e he)
  rw [hevents, List.filterMap_append, List.filterMap_cons, hnone]
  cases f (.turnTaken round v.active.symbol source v.position v.active.heading r.act r.outcome
    r.steps) <;> rfl

theorem sources_of_turn (v : View) (round : Nat) (source : Position) (r : TurnReport)
    (events : List Event) :
    (v.events round source r ++ events).filterMap source? = source :: events.filterMap source? := by
  refine filterMap_of_turn ?_ v round source r events
  intro e he
  cases e with
  | turnTaken => cases he
  | converted => rfl

theorem steps_of_turn (v : View) (round : Nat) (source : Position) (r : TurnReport)
    (events : List Event) :
    (v.events round source r ++ events).filterMap steps? = r.steps :: events.filterMap steps? := by
  refine filterMap_of_turn ?_ v round source r events
  intro e he
  cases e with
  | turnTaken => cases he
  | converted => rfl

theorem turnsTaken_of_turn (v : View) (round : Nat) (source : Position) (r : TurnReport)
    (events : List Event) (p : Position) :
    turnsTaken (v.events round source r ++ events) p =
      if p = source then turnsTaken events v.position + 1 else turnsTaken events p := by
  obtain ⟨tail, hevents, htail⟩ := v.events_eq_cons round source r
  rw [hevents, List.cons_append, turnsTaken]
  simp only [turnsTaken_append_of_conversions htail]

end Event

namespace World

open Event (turnsTaken)

variable {round budget : Nat} {queue : List Nat} {w : World} {coin : Coin}

theorem playSlots_fault (h : w.Scheduled queue) {fault : Fault}
    (hf : (playSlots round budget queue w coin).fault? = some fault) :
    fault.isInternal = false := by
  induction queue, w, coin, h using Scheduled.induction budget with
  | nil => cases hf
  | error v queue coin fault' h hfault =>
    rw [playSlots_cons_of_error hfault] at hf
    cases hf
    exact (v.turn_ends coin budget).fault_not_internal hfault
  | ok v queue coin report h hr ih =>
    rw [playSlots_cons_of_ok hr] at hf
    exact ih hf

theorem playSlots_sources (h : w.Scheduled queue)
    (hok : (playSlots round budget queue w coin).fault? = none) :
    (playSlots round budget queue w coin).events.filterMap Event.source? =
      queue.map w.positionOf := by
  induction queue, w, coin, h using Scheduled.induction budget with
  | nil => rfl
  | error v queue coin fault h hf =>
    rw [playSlots_cons_of_error hf] at hok
    cases hok
  | ok v queue coin report h hr ih =>
    rw [playSlots_cons_of_ok hr] at hok ⊢
    rw [Event.sources_of_turn, ih hok, (v.turn_ends coin budget).shape.positionOf_eq]
    rfl

theorem Scheduled.landing {v : View} (h : v.world.Scheduled (v.slot :: queue)) (coin : Coin)
    (budget : Nat) :
    (v.turn coin budget).view.position ∉
      queue.map (v.turn coin budget).view.world.positionOf := by
  intro hmem
  obtain ⟨slot, hslot, heq⟩ := List.mem_map.mp hmem
  obtain rfl : slot = (v.turn coin budget).view.slot := positionOf_injective _ heq
  rcases (v.turn_ends coin budget).slot_free with hstay | hfree
  · rw [hstay] at hslot
    exact (List.nodup_cons.mp h.distinct).1 hslot
  · have hocc := h.occupied _ (List.mem_cons_of_mem _ hslot)
    simp [hfree] at hocc

theorem turnsTaken_of_unlisted (h : w.Scheduled queue) {p : Position}
    (hp : p ∉ queue.map w.positionOf) :
    turnsTaken (playSlots round budget queue w coin).events p = 0 := by
  induction queue, w, coin, h using Scheduled.induction budget with
  | nil => rfl
  | error v queue coin fault h hf =>
    rw [playSlots_cons_of_error hf]
    rfl
  | ok v queue coin report h hr ih =>
    rw [List.map_cons, List.mem_cons, not_or] at hp
    rw [playSlots_cons_of_ok hr]
    simp only [Event.turnsTaken_of_turn]
    rw [if_neg (show p ≠ v.position from hp.1)]
    exact ih (by rw [(v.turn_ends coin budget).shape.positionOf_eq]; exact hp.2)

/-- A queued creature has one turn, or none if a fault ends the round before. -/
theorem turnsTaken_of_listed (h : w.Scheduled queue) {p : Position}
    (hp : p ∈ queue.map w.positionOf) :
    turnsTaken (playSlots round budget queue w coin).events p ≤ 1 ∧
      ((playSlots round budget queue w coin).fault? = none →
        turnsTaken (playSlots round budget queue w coin).events p = 1) := by
  induction queue, w, coin, h using Scheduled.induction budget with
  | nil => cases hp
  | error v queue coin fault h hf =>
    rw [playSlots_cons_of_error hf]
    exact ⟨Nat.zero_le 1, nofun⟩
  | ok v queue coin report h hr ih =>
    rw [playSlots_cons_of_ok hr]
    simp only [Event.turnsTaken_of_turn]
    by_cases hmine : p = v.position
    · -- It is followed to where it lands, and nothing is queued there.
      rw [if_pos hmine, turnsTaken_of_unlisted (h.next coin budget) (h.landing coin budget)]
      exact ⟨Nat.le_refl 1, fun _ => rfl⟩
    · rw [if_neg hmine]
      apply ih
      rw [(v.turn_ends coin budget).shape.positionOf_eq]
      exact (List.mem_cons.mp hp).resolve_left hmine

end World

/-- A round never breaks the contract between schedule, view and turn. When it succeeds, its turns
begin exactly where creatures stood at its start, in scan order, each once. Followed over the board,
no creature acts twice, and when the round succeeds none is left out. The board is any board,
reachable or not. -/
theorem each_creature_acts_once (s : Simulation) :
    (∀ fault, s.step.result = .error fault → fault.isInternal = false) ∧
    (∀ p, Event.turnsTaken s.step.events p ≤ 1) ∧
    ∀ report, s.step.result = .ok report →
      (report.events.filterMap Event.source?).Pairwise Position.Before ∧
      (∀ p, p ∈ report.events.filterMap Event.source? ↔ (s.world.creatureAt? p).isSome) ∧
      ∀ p, (s.world.creatureAt? p).isSome → Event.turnsTaken report.events p = 1 := by
  have hqueue := s.world.scheduled_occupiedSlots
  have hlisted : ∀ p, p ∈ s.world.occupiedSlots.map s.world.positionOf ↔
      (s.world.creatureAt? p).isSome := by
    intro p
    simp only [List.mem_map, World.mem_occupiedSlots, Option.isSome_iff_exists,
      World.creatureAt?_eq_some_iff]
    constructor
    · rintro ⟨slot, ⟨c, hc⟩, hp⟩
      exact ⟨c, slot, hc, hp⟩
    · rintro ⟨c, slot, hc, hp⟩
      exact ⟨slot, ⟨c, hc⟩, hp⟩
  refine ⟨?_, ?_, ?_⟩
  · intro fault hf
    exact World.playSlots_fault hqueue (Simulation.step_eq_error_iff.mp hf)
  · intro p
    rw [s.step_events]
    by_cases hp : p ∈ s.world.occupiedSlots.map s.world.positionOf
    · exact (World.turnsTaken_of_listed hqueue hp).1
    · exact Nat.le_trans (Nat.le_of_eq (World.turnsTaken_of_unlisted hqueue hp)) (Nat.zero_le 1)
  · intro report hr
    obtain ⟨hok, rfl⟩ := Simulation.step_eq_ok_iff.mp hr
    have hsources : s.progress.events.filterMap Event.source? =
        s.world.occupiedSlots.map s.world.positionOf := World.playSlots_sources hqueue hok
    refine ⟨?_, ?_, ?_⟩
    · rw [hsources, List.pairwise_map]
      exact s.world.occupiedSlots_ascending.imp fun h => s.world.positionOf_before h
    · intro p
      rw [hsources]
      exact hlisted p
    · intro p hp
      exact (World.turnsTaken_of_listed hqueue ((hlisted p).mpr hp)).2 hok

/-- A round in which creatures are converted before their turns, hop, and infect in turn:

    -  t↓ h↓
    r→ f↑ -
-/
def ambush : Simulation where
  world :=
    { rows := 2
      cols := 3
      cells :=
        #[none, some (.spawn ⟨0, Species.trap⟩ .south), some (.spawn ⟨1, Species.hopper⟩ .south),
          some (.spawn ⟨2, Species.rover⟩ .east), some (.spawn ⟨3, Species.food⟩ .north), none]
      filled := rfl
      nonempty := by decide
      addressable := by decide }
  coin := .scripted #[]
  settings := {}
  round := 0

/-- The hopper moves into a cell that is scanned later, and the food is converted before its turn.
-/
theorem ambush_creatures_act_once :
    ∃ report, ambush.step.result = .ok report ∧
      (∀ p, p ∈ report.events.filterMap Event.source? ↔ (ambush.world.creatureAt? p).isSome) ∧
      Event.turnsTaken report.events ⟨0, 2⟩ = 1 ∧ Event.turnsTaken report.events ⟨1, 1⟩ = 1 := by
  refine ⟨⟨1, ambush.step.events, ambush.step.simulation.world.census⟩, rfl, ?_⟩
  obtain ⟨_, hmem, honce⟩ := (each_creature_acts_once ambush).2.2 _ rfl
  exact ⟨hmem, honce ⟨0, 2⟩ rfl, honce ⟨1, 1⟩ rfl⟩

end Vivarium
