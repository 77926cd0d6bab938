import Vivarium.Proofs.Round.Schedule

/-! Species are bound late. Until its own turn begins, a creature is what it was when the round
began, except that it has the kind of whoever infected it last and then starts that program from the
top. -/
namespace Vivarium

structure Played where
  start : View
  ended : Turn

def Played.events (round : Nat) (p : Played) : List Event :=
  match p.ended.result with
  | .error _ => []
  | .ok report => p.ended.view.events round p.start.position report

def World.turns (budget : Nat) : List Nat → World → Coin → List Played
  | [], _, _ => []
  | slot :: queue, w, coin =>
    match w.view slot with
    | .error _ => []
    | .ok v =>
      ⟨v, v.turn coin budget⟩ ::
        match (v.turn coin budget).result with
        | .error _ => []
        | .ok _ => turns budget queue (v.turn coin budget).view.world (v.turn coin budget).coin

/-- The kind of the creature that infected `slot` last in the course of some turns. -/
def lastInfector (slot : Nat) (turns : List Played) : Option Kind :=
  (turns.filterMap fun p => p.start.infects? p.ended slot).getLast?

theorem lastInfector_cons (slot : Nat) (p : Played) (turns : List Played) :
    lastInfector slot (p :: turns) =
      (lastInfector slot turns).or (p.start.infects? p.ended slot) := by
  unfold lastInfector
  rw [List.filterMap_cons]
  cases p.start.infects? p.ended slot with
  | none => simp
  | some kind => cases h : (turns.filterMap fun p => p.start.infects? p.ended slot).getLast? <;>
      simp [List.getLast?_cons, h]

theorem Creature.infectedBy_infectedBy (c : Creature) (first second : Option Kind) :
    (c.infectedBy first).infectedBy second = c.infectedBy (second.or first) := by
  cases second with
  | none => rfl
  | some kind => cases first <;> rfl

namespace World

variable {round budget : Nat} {queue : List Nat} {w : World} {coin : Coin}

theorem turns_cons_of_error {v : View} {fault : Fault}
    (hf : (v.turn coin budget).result = .error fault) :
    turns budget (v.slot :: queue) v.world coin = [⟨v, v.turn coin budget⟩] := by
  simp only [turns, view_eq_ok v.occupied, hf]

theorem turns_cons_of_ok {v : View} {report : TurnReport}
    (hr : (v.turn coin budget).result = .ok report) :
    turns budget (v.slot :: queue) v.world coin =
      ⟨v, v.turn coin budget⟩ ::
        turns budget queue (v.turn coin budget).view.world (v.turn coin budget).coin := by
  simp only [turns, view_eq_ok v.occupied, hr]

theorem events_of_turns (h : w.Scheduled queue) :
    (playSlots round budget queue w coin).events =
      (turns budget queue w coin).flatMap (Played.events round) := by
  induction queue, w, coin, h using Scheduled.induction budget with
  | nil => rfl
  | error v queue coin fault h hf =>
    rw [playSlots_cons_of_error hf, turns_cons_of_error hf]
    simp [Played.events, hf]
  | ok v queue coin report h hr ih =>
    rw [playSlots_cons_of_ok hr, turns_cons_of_ok hr, List.flatMap_cons, ← ih]
    simp [Played.events, hr]

theorem fault_of_turns (h : w.Scheduled queue) {fault : Fault} :
    (playSlots round budget queue w coin).fault? = some fault ↔
      ∃ p ∈ turns budget queue w coin, p.ended.result = .error fault := by
  induction queue, w, coin, h using Scheduled.induction budget with
  | nil => exact ⟨nofun, nofun⟩
  | error v queue coin first h hf =>
    rw [playSlots_cons_of_error hf, turns_cons_of_error hf]
    simp [hf]
  | ok v queue coin report h hr ih =>
    rw [playSlots_cons_of_ok hr, turns_cons_of_ok hr]
    simp [hr, ih]

/-- The turns of others leave a creature where it is and can do no more than infect it. -/
theorem occupant?_of_unlisted (h : w.Scheduled queue) {slot : Nat} {c : Creature}
    (hslot : slot ∉ queue) (hc : w.occupant? slot = some c) :
    (playSlots round budget queue w coin).world.occupant? slot =
      some (c.infectedBy (lastInfector slot (turns budget queue w coin))) := by
  induction queue, w, coin, h using Scheduled.induction budget generalizing c with
  | nil => exact hc
  | error v queue coin fault h hf =>
    rw [List.mem_cons, not_or] at hslot
    rw [playSlots_cons_of_error hf, turns_cons_of_error hf, lastInfector_cons]
    exact ((v.turn_ends coin budget).bystander hslot.1 hc).2
  | ok v queue coin report h hr ih =>
    rw [List.mem_cons, not_or] at hslot
    rw [playSlots_cons_of_ok hr, turns_cons_of_ok hr, lastInfector_cons,
      ← Creature.infectedBy_infectedBy]
    exact ih hslot.2 ((v.turn_ends coin budget).bystander hslot.1 hc).2

end World

def Simulation.turnsOf (s : Simulation) (earlier : List Nat) : List Played :=
  World.turns s.settings.stepBudget earlier s.world s.coin

/-- When the turn of a queued slot begins, after the turns of all slots before it, the slot still
holds the creature it held when the round began, with the same heading. An infection in between has
given it the kind of the last infector and the top of that program; without one it has its old kind
and its old counter. -/
theorem late_binding (s : Simulation) {earlier later : List Nat} {slot : Nat}
    (hqueue : s.world.occupiedSlots = earlier ++ slot :: later)
    (hplayed : (s.progressOf earlier).fault? = none) :
    s.progress = (s.progressOf earlier).andThen
        (World.playSlots (s.round + 1) s.settings.stepBudget (slot :: later)
          (s.progressOf earlier).world (s.progressOf earlier).coin) ∧
      (s.progressOf earlier).events =
        (s.turnsOf earlier).flatMap (Played.events (s.round + 1)) ∧
      ∃ before now, s.world.occupant? slot = some before ∧
        (s.progressOf earlier).world.occupant? slot = some now ∧
        now.heading = before.heading ∧
        (now.kind, now.counter) =
          match lastInfector slot (s.turnsOf earlier) with
          | some kind => (kind, 0)
          | none => (before.kind, before.counter) := by
  have hscheduled : s.world.Scheduled (earlier ++ slot :: later) := by
    rw [← hqueue]
    exact s.world.scheduled_occupiedSlots
  have hslot : slot ∉ earlier := by
    intro hmem
    have hdisjoint := (List.nodup_append.mp hscheduled.distinct).2.2
    exact hdisjoint slot hmem slot List.mem_cons_self rfl
  obtain ⟨before, hbefore⟩ := Option.isSome_iff_exists.mp
    (hscheduled.occupied slot (List.mem_append_right _ List.mem_cons_self))
  refine ⟨?_, World.events_of_turns hscheduled.left, before, _, hbefore,
    World.occupant?_of_unlisted hscheduled.left hslot hbefore, ?_, ?_⟩
  · unfold Simulation.progress World.playRound
    rw [hqueue]
    exact World.playSlots_append hplayed
  · change (before.infectedBy (lastInfector slot (s.turnsOf earlier))).heading = before.heading
    cases lastInfector slot (s.turnsOf earlier) <;> rfl
  · change ((before.infectedBy (lastInfector slot (s.turnsOf earlier))).kind,
      (before.infectedBy (lastInfector slot (s.turnsOf earlier))).counter) = _
    cases lastInfector slot (s.turnsOf earlier) <;> rfl

/-- The food is trapped, then infected by the rover: when its turn begins, it is a rover that starts
from the top, with the heading of the food. -/
theorem ambush_binds_late :
    ∃ now, (ambush.progressOf [1, 2, 3]).world.occupant? 4 = some now ∧ now.heading = .north ∧
      (now.kind, now.counter) = (⟨2, Species.rover⟩, 0) := by
  have hqueue : ambush.world.occupiedSlots = [1, 2, 3] ++ 4 :: [] := by decide
  obtain ⟨_, _, before, now, hbefore, hnow, hheading, hbound⟩ := late_binding ambush hqueue rfl
  cases hbefore
  exact ⟨now, hnow, hheading, hbound⟩

end Vivarium
