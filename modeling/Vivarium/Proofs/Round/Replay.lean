import Mathlib.Data.Finset.Prod
import Vivarium.Proofs.Census
import Vivarium.Proofs.Round.Schedule

/-! The log of a round is complete: replayed on what the board showed when the round began, it gives
what the board shows when it ends. The log knows creatures by symbol and heading only. -/
namespace Vivarium

/-- All that the log tells of a creature. -/
structure Cell where
  symbol : String
  heading : Heading
  deriving DecidableEq, Repr

abbrev Grid := Position → Option Cell

def Creature.cell (c : Creature) : Cell := ⟨c.symbol, c.heading⟩

def World.grid (w : World) : Grid := fun p => (w.creatureAt? p).map Creature.cell

namespace Grid

/-- Replays one event, if it fits the grid: a turn takes up a creature that shows the symbol and
puts it down again, and a conversion rewrites the symbol of a creature. -/
def follow? (g : Grid) : Event → Option Grid
  | .turnTaken _ symbol source target heading _ _ _ =>
    if (g source).map Cell.symbol = some symbol then
      some (Function.update (Function.update g source none) target (some ⟨symbol, heading⟩))
    else none
  | .converted _ _ target symbol =>
    (g target).map fun cell => Function.update g target (some { cell with symbol })

def replay? (g : Grid) (events : List Event) : Option Grid := events.foldlM follow? g

def population (g : Grid) (rows cols : Nat) (symbol : String) : Nat :=
  ((Finset.range rows ×ˢ Finset.range cols).filter fun p =>
    (g ⟨p.1, p.2⟩).map Cell.symbol = some symbol).card

theorem replay?_append (g : Grid) (first second : List Event) :
    g.replay? (first ++ second) = (g.replay? first).bind fun h => h.replay? second := by
  simp [replay?, List.foldlM_append]

end Grid

/-- The logs of a round in which every infection is followed by one conversion, of the cell one step
ahead of the infector, and in which nothing else is converted. -/
inductive Event.Paired (round : Nat) : List Event → Prop where
  | nil : Paired round []
  | turn {symbol source target heading act outcome steps events} (other : outcome ≠ .infected)
      (rest : Paired round events) :
      Paired round (.turnTaken round symbol source target heading act outcome steps :: events)
  | infection {symbol source target heading act steps victim events}
      (ahead : target.step? heading = some victim) (rest : Paired round events) :
      Paired round
        (.turnTaken round symbol source target heading act .infected steps ::
          .converted round target victim symbol :: events)

namespace World

theorem grid_congr {w u : World} (h : w.SameShape u)
    (hb : ∀ slot, u.occupant? slot = w.occupant? slot) : u.grid = w.grid := by
  funext p
  have hocc : u.occupant? = w.occupant? := funext hb
  simp only [grid, creatureAt?, h.slotOf?_eq, hocc]

theorem grid_positionOf (w : World) {slot : Nat} (h : slot < w.cells.size) :
    w.grid (w.positionOf slot) = (w.occupant? slot).map Creature.cell := by
  rw [grid, w.creatureAt?_positionOf h]

theorem grid_put (w : World) {slot : Nat} (h : slot < w.cells.size)
    (occupant : Option Creature) :
    (w.put slot occupant).grid =
      Function.update w.grid (w.positionOf slot) (occupant.map Creature.cell) := by
  have hshape := w.sameShape_put slot occupant
  funext p
  by_cases hp : p = w.positionOf slot
  · subst hp
    rw [Function.update_self, ← hshape.positionOf_eq,
      grid_positionOf _ (by rw [hshape.size_eq]; exact h), occupant?_put, if_pos ⟨rfl, h⟩]
  · rw [Function.update_of_ne hp]
    simp only [grid, creatureAt?, hshape.slotOf?_eq]
    cases hslot : w.slotOf? p with
    | none => rfl
    | some there =>
      have hne : there ≠ slot := by
        rintro rfl
        exact hp (positionOf_of_slotOf? hslot).symm
      simp [occupant?_put, hne]

end World

namespace View

/-- The board of a view with the creature taken from its slot and put down where its turn ends. -/
def transit (v : View) (t : Turn) : World :=
  (v.world.put v.slot none).put t.view.slot (some t.view.active)

theorem events_of_infected {v : View} {round : Nat} {source : Position} {r : TurnReport}
    {target : Nat} (ho : r.outcome = .infected) (ahead : v.ahead? = some target) :
    v.events round source r =
      [.turnTaken round v.active.symbol source v.position v.active.heading r.act r.outcome r.steps,
        .converted round v.position (v.world.positionOf target) v.active.symbol] := by
  simp only [events, ho, ahead]

theorem grid_position (v : View) : v.world.grid v.position = some v.active.cell := by
  rw [position, v.world.grid_positionOf v.slot_lt, v.occupant?_slot, Option.map_some]

namespace Ends

variable {v : View} {budget : Nat} {decided : Decision × Deliberation} {t : Turn}

theorem slot_lt (h : v.Ends budget decided t) : t.view.slot < v.world.cells.size := by
  rw [← h.shape.size_eq]
  exact t.view.slot_lt

theorem occupant?_transit (h : v.Ends budget decided t) (slot : Nat) :
    (v.transit t).occupant? slot =
      if slot = t.view.slot then some t.view.active
      else if slot = v.slot then none else v.world.occupant? slot := by
  have size := (v.world.sameShape_put v.slot none).size_eq
  simp only [transit, World.occupant?_put, size, h.slot_lt, v.slot_lt, and_true]

theorem shape_transit (h : v.Ends budget decided t) : (v.transit t).SameShape t.view.world :=
  ⟨h.shape.rows, h.shape.cols⟩

theorem grid_transit (h : v.Ends budget decided t) :
    (v.transit t).grid = Function.update (Function.update v.world.grid v.position none)
      t.view.position (some t.view.active.cell) := by
  have hshape := v.world.sameShape_put v.slot none
  have hto : t.view.position = v.world.positionOf t.view.slot := by
    rw [position, h.shape.positionOf_eq]
  rw [transit, World.grid_put _ (by rw [hshape.size_eq]; exact h.slot_lt),
    World.grid_put _ v.slot_lt, hshape.positionOf_eq, hto]
  rfl

theorem follow?_taken (h : v.Ends budget decided t) (round : Nat) (r : TurnReport) :
    v.world.grid.follow? (.turnTaken round t.view.active.symbol v.position t.view.position
      t.view.active.heading r.act r.outcome r.steps) = some (v.transit t).grid := by
  have hsymbol : v.active.symbol = t.view.active.symbol := by
    rw [Creature.symbol, ← h.kind, Creature.symbol]
  rw [h.grid_transit, Grid.follow?, if_pos]
  · rfl
  · rw [v.grid_position, ← hsymbol]
    rfl

theorem grid_of_fault (h : v.Ends budget decided t) {fault : Fault}
    (hf : t.result = .error fault) : t.view.world.grid = v.world.grid := by
  have hcounter : ∀ counter, (v.withCounter counter).world.grid = v.world.grid := by
    intro counter
    rw [withCounter, revise, World.grid_put _ v.slot_lt]
    apply Function.update_eq_self_iff.mpr
    exact v.grid_position.symm
  cases h with
  | lost => exact hcounter _
  | undecided => exact hcounter _
  | acted => cases hf

theorem follow?_converted (h : v.Ends budget decided t) {r : TurnReport} (hr : t.result = .ok r)
    (ho : r.outcome = .infected) (round : Nat) {target : Nat}
    (hahead : t.view.ahead? = some target) :
    (v.transit t).grid.follow? (.converted round t.view.position (t.view.world.positionOf target)
      t.view.active.symbol) = some t.view.world.grid := by
  obtain ⟨_, there, other, ahead, hother, _, hne, hslot, hthere⟩ := h.of_infected hr ho
  obtain rfl : there = target := Option.some.inj (hthere.symm.trans hahead)
  -- The log tells of the turn first, so the victim is met on the board in transit.
  have hbound : there < (v.transit t).cells.size := by
    rw [← h.shape_transit.size_eq]
    exact World.neighbor?_lt hahead
  have hgrid : (v.transit t).grid ((v.transit t).positionOf there) = some other.cell := by
    rw [World.grid_positionOf _ hbound, h.occupant?_transit, hslot, if_neg hne, if_neg hne,
      hother, Option.map_some]
  have hboard : ∀ slot, t.view.world.occupant? slot =
      ((v.transit t).put there (some (other.convert t.view.active.kind))).occupant? slot := by
    intro slot
    have hspread : v.infects? t slot = if there = slot then some v.active.kind else none := by
      simp [infects?, hr, spreads?, ho, ahead]
    rw [World.occupant?_put, h.board, h.occupant?_transit, hslot, hspread, h.kind]
    by_cases hs : slot = there
    · subst hs
      simp [hbound, hne, hother, Creature.infectedBy]
    · simp [hs, Ne.symm hs, Creature.infectedBy]
  have hshape : ((v.transit t).put there (some (other.convert t.view.active.kind))).SameShape
      t.view.world := ⟨h.shape_transit.rows, h.shape_transit.cols⟩
  rw [Grid.follow?, h.shape_transit.positionOf_eq, hgrid, World.grid_congr hshape hboard,
    World.grid_put _ hbound]
  rfl

theorem grid_of_not_infected (h : v.Ends budget decided t) {r : TurnReport}
    (hr : t.result = .ok r) (ho : r.outcome ≠ .infected) :
    t.view.world.grid = (v.transit t).grid := by
  apply World.grid_congr h.shape_transit
  intro slot
  have hnone : v.infects? t slot = none := by
    simp [infects?, hr, spreads?_eq_none ho]
  rw [h.board, h.occupant?_transit, hnone]
  simp [Creature.infectedBy]

theorem replay?_events (h : v.Ends budget decided t) {r : TurnReport} (hr : t.result = .ok r)
    (round : Nat) :
    v.world.grid.replay? (t.view.events round v.position r) = some t.view.world.grid := by
  by_cases ho : r.outcome = .infected
  · obtain ⟨_, target, _, _, _, _, _, _, hahead⟩ := h.of_infected hr ho
    rw [events_of_infected ho hahead]
    simp only [Grid.replay?, List.foldlM_cons, List.foldlM_nil]
    rw [h.follow?_taken, Option.bind_eq_bind, Option.bind_some, h.follow?_converted hr ho _ hahead]
    rfl
  · rw [events_of_not_infected ho, h.grid_of_not_infected hr ho]
    simp only [Grid.replay?, List.foldlM_cons, List.foldlM_nil]
    rw [h.follow?_taken]
    rfl

theorem paired_events (h : v.Ends budget decided t) {r : TurnReport} (hr : t.result = .ok r)
    {round : Nat} {rest : List Event} (hrest : Event.Paired round rest) :
    Event.Paired round (t.view.events round v.position r ++ rest) := by
  by_cases ho : r.outcome = .infected
  · obtain ⟨_, target, _, _, _, _, _, _, hahead⟩ := h.of_infected hr ho
    rw [events_of_infected ho hahead, ho]
    exact .infection (World.step?_of_neighbor? hahead) hrest
  · rw [events_of_not_infected ho]
    exact .turn ho hrest

end Ends

end View

namespace World

variable {round budget : Nat} {queue : List Nat} {w : World} {coin : Coin}

/-- The log of the turns played so far leads to the grid of the board they leave. -/
theorem replay?_playSlots (h : w.Scheduled queue) :
    w.grid.replay? (playSlots round budget queue w coin).events =
      some (playSlots round budget queue w coin).world.grid := by
  induction queue, w, coin, h using Scheduled.induction budget with
  | nil => rfl
  | error v queue coin fault h hf =>
    rw [playSlots_cons_of_error hf]
    exact congrArg some ((v.turn_ends coin budget).grid_of_fault hf).symm
  | ok v queue coin report h hr ih =>
    rw [playSlots_cons_of_ok hr]
    rw [Grid.replay?_append, (v.turn_ends coin budget).replay?_events hr, Option.bind_some]
    exact ih

theorem paired_playSlots (h : w.Scheduled queue) :
    Event.Paired round (playSlots round budget queue w coin).events := by
  induction queue, w, coin, h using Scheduled.induction budget with
  | nil => exact .nil
  | error v queue coin fault h hf =>
    rw [playSlots_cons_of_error hf]
    exact .nil
  | ok v queue coin report h hr ih =>
    rw [playSlots_cons_of_ok hr]
    exact (v.turn_ends coin budget).paired_events hr ih

/-! ### Counting the grid -/

theorem symbols_count (w : World) (symbol : String) :
    (w.creatures.map fun entry => entry.2.symbol).count symbol =
      ((List.range w.cells.size).filter fun slot =>
        (w.occupant? slot).map Creature.symbol = some symbol).length := by
  rw [← List.countP_eq_length_filter, creatures, List.map_filterMap, List.count_filterMap]
  apply List.countP_congr
  intro slot _
  cases w.occupant? slot <;> simp

theorem symbols_count_eq_population (w : World) (symbol : String) :
    (w.creatures.map fun entry => entry.2.symbol).count symbol =
      w.grid.population w.rows w.cols symbol := by
  rw [symbols_count, ← List.toFinset_card_of_nodup (List.nodup_range.filter _)]
  refine Finset.card_bij (fun slot _ => ((w.positionOf slot).row, (w.positionOf slot).col))
    ?_ ?_ ?_
  · intro slot hslot
    simp only [List.mem_toFinset, List.mem_filter, List.mem_range, decide_eq_true_eq] at hslot
    simp only [Finset.mem_filter, Finset.mem_product, Finset.mem_range]
    refine ⟨w.positionOf_bounds hslot.1, ?_⟩
    rw [w.grid_positionOf hslot.1, Option.map_map]
    exact hslot.2
  · intro a _ b _ heq
    rw [Prod.mk.injEq] at heq
    apply w.positionOf_injective
    exact congrArg₂ Position.mk heq.1 heq.2
  · intro p hp
    simp only [Finset.mem_filter, grid, Option.map_map, Option.map_eq_some_iff] at hp
    obtain ⟨_, c, hc, hsymbol⟩ := hp
    obtain ⟨slot, hslot, hposition⟩ := creatureAt?_eq_some_iff.mp hc
    refine ⟨slot, ?_, by simp [hposition]⟩
    simp only [List.mem_toFinset, List.mem_filter, List.mem_range, decide_eq_true_eq]
    refine ⟨lt_size_of_occupant (by simp [hslot]), ?_⟩
    rw [hslot]
    exact congrArg some hsymbol

end World

/-- The log of a round is complete. Replayed on the grid at its start, it gives the grid at its
end, also when a fault ends the round. Every infection in it is followed by the one conversion it
makes, and nothing else is converted. The census of a round that succeeds counts the grid the
replay gives. -/
theorem round_log_replays (s : Simulation) :
    s.world.SameShape s.step.simulation.world ∧
    s.world.grid.replay? s.step.events = some s.step.simulation.world.grid ∧
    Event.Paired (s.round + 1) s.step.events ∧
    ∀ report, s.step.result = .ok report →
      report.events = s.step.events ∧
      (report.census.map Prod.fst).Pairwise (· < ·) ∧
      ∀ symbol n, report.census.lookup symbol = some n ↔
        0 < n ∧ n = s.step.simulation.world.grid.population s.world.rows s.world.cols symbol := by
  have hqueue := s.world.scheduled_occupiedSlots
  have hshape : s.world.SameShape s.step.simulation.world := by
    rw [s.step_world]
    exact World.sameShape_playSlots hqueue
  refine ⟨hshape, ?_, ?_, ?_⟩
  · rw [s.step_events, s.step_world]
    exact World.replay?_playSlots hqueue
  · rw [s.step_events]
    exact World.paired_playSlots hqueue
  · intro report hr
    obtain ⟨_, rfl⟩ := Simulation.step_eq_ok_iff.mp hr
    have hcensus := Census.counts_ofSymbols
      (s.progress.world.creatures.map fun entry => entry.2.symbol)
    refine ⟨s.step_events.symm, hcensus.sorted, ?_⟩
    intro symbol n
    rw [← hshape.rows, ← hshape.cols, ← World.symbols_count_eq_population, s.step_world]
    change (Census.ofSymbols _).lookup symbol = some n ↔ _
    rw [hcensus.lookup]
    split
    · next hzero =>
      simp only [reduceCtorEq, false_iff, not_and]
      omega
    · next hpos =>
      rw [Option.some.injEq]
      omega

/-- The rover, the trap's victim and the rover's victim are rovers after the round. -/
theorem ambush_log_replays :
    ambush.world.grid.replay? ambush.step.events = some ambush.step.simulation.world.grid ∧
      ambush.step.simulation.world.grid.population 2 3 "r" = 3 := by
  obtain ⟨_, hreplay, _, hreport⟩ := round_log_replays ambush
  obtain ⟨_, _, hcensus⟩ := hreport ⟨1, ambush.step.events, ambush.step.simulation.world.census⟩ rfl
  exact ⟨hreplay, ((hcensus "r" 3).mp rfl).2.symm⟩

end Vivarium
