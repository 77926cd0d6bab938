import Vivarium.Proofs.Round.Queue

/-! Invariants of single creatures. A property that a creature keeps in its own turns, and passes on
with its kind when it infects, holds of every creature on every board of a run. -/
namespace Vivarium

namespace Creature

/-- Kept by deliberating and by turning around, and handed to whoever is infected. -/
structure Inherited (P : Creature → Prop) : Prop where
  turn : ∀ c heading sight coin budget, P c →
    P { c with
      heading
      counter := (Deliberation.run c.program sight budget ⟨c.counter, coin, 0⟩).2.counter }
  infection : ∀ victim infector, P victim → P infector → P (victim.convert infector.kind)

end Creature

def World.All (P : Creature → Prop) (w : World) : Prop :=
  ∀ slot c, w.occupant? slot = some c → P c

variable {P : Creature → Prop}

namespace View

theorem all_active {v : View} (h : v.world.All P) : P v.active := h _ _ v.occupant?_slot

theorem all_turn (hP : Creature.Inherited P) {v : View} (h : v.world.All P) (coin : Coin)
    (budget : Nat) : (v.turn coin budget).view.world.All P := by
  have hends := v.turn_ends coin budget
  intro slot c hc
  rw [hends.board] at hc
  split at hc
  · obtain ⟨heading, hactive⟩ := hends.active
    cases hc
    rw [hactive]
    exact hP.turn _ _ _ _ _ (all_active h)
  · split at hc
    · cases hc
    · obtain ⟨victim, hvictim, rfl⟩ := Option.map_eq_some_iff.mp hc
      cases hkind : v.infects? (v.turn coin budget) slot with
      | none => exact h slot victim hvictim
      | some kind =>
        rw [(infects?_eq_some_iff.mp hkind).1]
        exact hP.infection victim v.active (h slot victim hvictim) (all_active h)

end View

namespace World

variable {round budget : Nat} {queue : List Nat} {w : World} {coin : Coin}

theorem all_playSlots (hP : Creature.Inherited P) (hs : w.Scheduled queue) (h : w.All P) :
    (playSlots round budget queue w coin).world.All P := by
  induction queue, w, coin, hs using Scheduled.induction budget with
  | nil => exact h
  | error v queue coin fault hs hf =>
    rw [playSlots_cons_of_error hf]
    exact View.all_turn hP h coin budget
  | ok v queue coin report hs hr ih =>
    rw [playSlots_cons_of_ok hr]
    exact ih (View.all_turn hP h coin budget)

/-- A fault that ends a round comes from a turn on a board where the property holds, and the board
stays as that turn leaves it. -/
theorem exists_turn_of_fault (hP : Creature.Inherited P) (hs : w.Scheduled queue) (h : w.All P)
    {fault : Fault} (hf : (playSlots round budget queue w coin).fault? = some fault) :
    ∃ (v : View) (flips : Coin), v.world.All P ∧ (v.turn flips budget).result = .error fault ∧
      (playSlots round budget queue w coin).world = (v.turn flips budget).view.world := by
  induction queue, w, coin, hs using Scheduled.induction budget with
  | nil => cases hf
  | error v queue coin fault' hs hfault =>
    rw [playSlots_cons_of_error hfault] at hf ⊢
    cases hf
    exact ⟨v, coin, h, hfault, rfl⟩
  | ok v queue coin report hs hr ih =>
    rw [playSlots_cons_of_ok hr] at hf ⊢
    exact ih (View.all_turn hP h coin budget) hf

end World

namespace Simulation

def after (s : Simulation) : Nat → Simulation
  | 0 => s
  | rounds + 1 => (s.after rounds).step.simulation

/-- The boards of a run: those that some whole rounds and some turns of the next one lead to. -/
def Reaches (s : Simulation) (w : World) : Prop :=
  ∃ rounds earlier later, (s.after rounds).world.occupiedSlots = earlier ++ later ∧
    w = ((s.after rounds).progressOf earlier).world

theorem reaches_after (s : Simulation) (rounds : Nat) : s.Reaches (s.after rounds).world :=
  ⟨rounds, [], _, rfl, rfl⟩

theorem settings_after (s : Simulation) (rounds : Nat) :
    (s.after rounds).settings = s.settings := by
  induction rounds with
  | zero => rfl
  | succ rounds ih =>
    rw [after, ← ih]
    simp only [step]
    split <;> rfl

theorem all_after (hP : Creature.Inherited P) {s : Simulation} (h : s.world.All P)
    (rounds : Nat) : (s.after rounds).world.All P := by
  induction rounds with
  | zero => exact h
  | succ rounds ih =>
    rw [after, step_world]
    exact World.all_playSlots hP (World.scheduled_occupiedSlots _) ih

theorem all_of_reaches (hP : Creature.Inherited P) {s : Simulation} (h : s.world.All P)
    {w : World} (hw : s.Reaches w) : w.All P := by
  obtain ⟨rounds, earlier, later, hqueue, rfl⟩ := hw
  have hscheduled := (s.after rounds).world.scheduled_occupiedSlots
  rw [hqueue] at hscheduled
  exact World.all_playSlots hP hscheduled.left (all_after hP h rounds)

end Simulation

end Vivarium
