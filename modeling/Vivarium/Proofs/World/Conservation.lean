import Vivarium.Proofs.Round.Schedule
import Vivarium.Proofs.Turn.Continuity

/-! Creatures are conserved. Only placing a creature adds one to the board; nothing else that can be
done to a board, through a view or by rounds, changes how many there are, whether it succeeds or
fails. -/
namespace Vivarium

/-- What can be done through an open view. Each turn brings a coin of its own, so turns that share
one are among them. -/
inductive View.Call where
  | hop
  | infect
  | convert (kind : Kind)
  | turnTo (heading : Heading)
  | takeTurn (coin : Coin) (budget : Nat)

/-- What can be done to a board. A view is opened, used and closed again. -/
inductive World.Operation where
  | place (kind : Kind) (position : Position) (heading : Heading)
  | view (slot : Nat) (calls : List View.Call)
  | round (coin : Coin) (settings : Settings) (round : Nat)

namespace View

def call (v : View) : Call → View
  | .hop =>
    match v.hop with
    | .ok last => last
    | .error _ => v
  | .infect => v.infect?.getD v
  | .convert kind => v.revise (v.active.convert kind)
  | .turnTo heading => v.revise { v.active with heading }
  | .takeTurn coin budget => (v.turn coin budget).view

def calls (v : View) (calls : List Call) : View := calls.foldl call v

theorem continues_call (v : View) (c : Call) : v.Continues (v.call c) := by
  cases c with
  | hop =>
    rw [call]
    split
    · next hok => exact (performs_of_hop hok).continues
    · exact .refl v
  | infect =>
    rw [call]
    cases hinfect : v.infect? with
    | some last => exact (performs_of_infect? hinfect).continues
    | none => exact .refl v
  | convert => exact .of_revise v _
  | turnTo => exact .of_revise v _
  | takeTurn coin budget => exact (v.turn_ends coin budget).continues

theorem continues_calls (v : View) (calls : List Call) : v.Continues (v.calls calls) := by
  induction calls generalizing v with
  | nil => exact .refl v
  | cons c calls ih => exact (v.continues_call c).trans (ih (v.call c))

end View

namespace World

def apply (w : World) : Operation → World
  | .place kind p d =>
    match w.place kind p d with
    | .ok u => u
    | .error _ => w
  | .view slot calls =>
    match w.view slot with
    | .ok v => (v.calls calls).world
    | .error _ => w
  | .round coin settings round => (Simulation.mk w coin settings round).step.simulation.world

def applyAll (w : World) (operations : List Operation) : World := operations.foldl apply w

def gain (w : World) : Operation → Nat
  | .place kind p d =>
    match w.place kind p d with
    | .ok _ => 1
    | .error _ => 0
  | .view _ _ => 0
  | .round _ _ _ => 0

def gainAll (w : World) : List Operation → Nat
  | [] => 0
  | operation :: rest => w.gain operation + gainAll (w.apply operation) rest

variable {w : World}

theorem count_playSlots {round budget : Nat} {queue : List Nat} {coin : Coin}
    (h : w.Scheduled queue) : (playSlots round budget queue w coin).world.count = w.count := by
  induction queue, w, coin, h using Scheduled.induction budget with
  | nil => rfl
  | error v queue coin fault h hf =>
    rw [playSlots_cons_of_error hf]
    exact (v.turn_ends coin budget).continues.count_eq
  | ok v queue coin report h hr ih =>
    rw [playSlots_cons_of_ok hr]
    exact ih.trans (v.turn_ends coin budget).continues.count_eq

theorem sameShape_apply (w : World) (operation : Operation) :
    w.SameShape (w.apply operation) := by
  cases operation with
  | place kind p d =>
    rw [apply]
    split
    · next u hplace =>
      obtain ⟨slot, _, _, rfl⟩ := exists_slot_of_place hplace
      exact w.sameShape_put slot _
    · exact .refl w
  | view slot calls =>
    rw [apply]
    split
    · next v hview =>
      have hworld := (view_eq_ok_iff.mp hview).1
      subst hworld
      exact (v.continues_calls calls).shape
    · exact .refl w
  | round coin settings round =>
    rw [apply, Simulation.step_world]
    exact sameShape_playSlots w.scheduled_occupiedSlots

theorem count_apply (w : World) (operation : Operation) :
    (w.apply operation).count = w.count + w.gain operation := by
  cases operation with
  | place kind p d =>
    rw [apply, gain]
    cases hplace : w.place kind p d with
    | ok u => exact count_place hplace
    | error fault => rfl
  | view slot calls =>
    rw [apply]
    split
    · next v hview =>
      have hworld := (view_eq_ok_iff.mp hview).1
      subst hworld
      exact (v.continues_calls calls).count_eq
    · rfl
  | round coin settings round =>
    rw [apply, Simulation.step_world]
    exact count_playSlots w.scheduled_occupiedSlots

theorem sameShape_applyAll (w : World) (operations : List Operation) :
    w.SameShape (w.applyAll operations) := by
  induction operations generalizing w with
  | nil => exact .refl w
  | cons operation operations ih =>
    exact (w.sameShape_apply operation).trans (ih (w.apply operation))

theorem count_applyAll (w : World) (operations : List Operation) :
    (w.applyAll operations).count = w.count + w.gainAll operations := by
  induction operations generalizing w with
  | nil => rfl
  | cons operation operations ih =>
    have hrest := ih (w.apply operation)
    rw [count_apply] at hrest
    rw [applyAll, List.foldl_cons, gainAll, ← Nat.add_assoc]
    exact hrest

theorem count_empty {rows cols : Nat} (h : empty rows cols = .ok w) :
    w.rows = rows ∧ w.cols = cols ∧ w.count = 0 := by
  unfold empty at h
  split at h
  · cases h
    refine ⟨rfl, rfl, ?_⟩
    simp [count]
  · cases h

/-- A board of some size with so many creatures, by all accounts. A view that is opened on it holds
its creature, with all others in their places, whatever is done through it. -/
structure Accounts (w : World) (rows cols creatures : Nat) : Prop where
  rows_eq : w.rows = rows
  cols_eq : w.cols = cols
  size_eq : w.cells.size = rows * cols
  count_eq : w.count = creatures
  census_eq : w.census.total = creatures
  occupied_eq : w.occupiedSlots.length = creatures
  views : ∀ slot v, w.view slot = .ok v → ∀ calls,
    (v.calls calls).world.occupant? (v.calls calls).slot = some (v.calls calls).active ∧
      v.Continues (v.calls calls) ∧ (v.calls calls).world.count = creatures

theorem accounts_count (w : World) : w.Accounts w.rows w.cols w.count where
  rows_eq := rfl
  cols_eq := rfl
  size_eq := w.filled
  count_eq := rfl
  census_eq := w.total_census
  occupied_eq := w.length_occupiedSlots
  views slot v hview calls := by
    refine ⟨View.occupant?_slot _, v.continues_calls calls, ?_⟩
    rw [← (view_eq_ok_iff.mp hview).1]
    exact (v.continues_calls calls).count_eq

end World

/-- A board that began empty keeps its size, and the creatures on it are just those that were
placed, whatever else has been done to it: an operation adds one creature if it places one and
succeeds, and none otherwise. -/
theorem creatures_are_conserved {rows cols : Nat} {w : World} (h : World.empty rows cols = .ok w)
    (history : List World.Operation) :
    (w.applyAll history).Accounts rows cols (w.gainAll history) ∧
    ∀ operation, ((w.applyAll history).apply operation).count =
      (w.applyAll history).count + (w.applyAll history).gain operation := by
  obtain ⟨hrows, hcols, hnone⟩ := World.count_empty h
  have hshape := w.sameShape_applyAll history
  have haccounts := (w.applyAll history).accounts_count
  rw [World.count_applyAll, hnone, Nat.zero_add, hshape.rows, hshape.cols, hrows, hcols]
    at haccounts
  exact ⟨haccounts, World.count_apply _⟩

/-- A placing that is refused, a hop that fails, an infection, a turn and a round leave the two
creatures that were placed. -/
theorem two_creatures_are_conserved :
    ∃ w, World.empty 1 3 = .ok w ∧
      (w.applyAll
        [.place ⟨0, Species.rover⟩ ⟨0, 0⟩ .east, .place ⟨1, Species.food⟩ ⟨0, 0⟩ .north,
          .place ⟨1, Species.food⟩ ⟨0, 1⟩ .west,
          .view 0 [.hop, .infect, .turnTo .west, .takeTurn (.scripted #[]) 5],
          .round (.scripted #[true]) {} 0]).count = 2 := by
  have hempty : World.empty 1 3 = .ok _ := rfl
  obtain ⟨haccounts, _⟩ := creatures_are_conserved hempty
    [.place ⟨0, Species.rover⟩ ⟨0, 0⟩ .east, .place ⟨1, Species.food⟩ ⟨0, 0⟩ .north,
      .place ⟨1, Species.food⟩ ⟨0, 1⟩ .west,
      .view 0 [.hop, .infect, .turnTo .west, .takeTurn (.scripted #[]) 5],
      .round (.scripted #[true]) {} 0]
  exact ⟨_, hempty, haccounts.count_eq⟩

end Vivarium
