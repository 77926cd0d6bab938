import Mathlib.Data.List.Nodup
import Vivarium.Proofs.Turn.Loop
import Vivarium.Proofs.World.Adjacency

/-! A round on a meadow, where one creature hops among others that turn on the spot. Those stay
where they are, so the hopper finds the same cells taken whether it is scanned before them or after,
and the round ends as if all others had turned first. -/
namespace Vivarium

open Function (update)

/-- The turns of a queue succeed, are told by these events and leave this in the slots. -/
structure Progress.Yields (p : Progress) (events : List Event) (board : Nat → Option Creature) :
    Prop where
  fault : p.fault? = none
  events : p.events = events
  board : p.world.occupant? = board

namespace World

variable {w u : World} {queue earlier later : List Nat} {round budget slot : Nat} {coin : Coin}
  {c : Creature} {first events : List Event} {board board' : Nat → Option Creature}

theorem yields_cons {v : View} {report : TurnReport} (hr : (v.turn coin budget).result = .ok report)
    (htold : (v.turn coin budget).view.events round v.position report = first)
    (hlater : (playSlots round budget queue (v.turn coin budget).view.world
      (v.turn coin budget).coin).Yields events board) :
    (playSlots round budget (v.slot :: queue) v.world coin).Yields (first ++ events) board := by
  rw [playSlots_cons_of_ok hr]
  refine ⟨hlater.fault, ?_, hlater.board⟩
  rw [htold, ← hlater.events]

theorem yields_append (hearlier : (playSlots round budget earlier w coin).Yields first board)
    (hlater : (playSlots round budget later (playSlots round budget earlier w coin).world
      (playSlots round budget earlier w coin).coin).Yields events board') :
    (playSlots round budget (earlier ++ later) w coin).Yields (first ++ events) board' := by
  rw [playSlots_append hearlier.fault]
  refine ⟨hlater.fault, ?_, hlater.board⟩
  rw [Progress.andThen, hearlier.events, hlater.events]

theorem Scheduled.of_taken (hs : w.Scheduled queue) (hsub : later.Sublist queue)
    (htaken : ∀ x, (w.occupant? x).isSome = (u.occupant? x).isSome) : u.Scheduled later where
  distinct := hs.distinct.sublist hsub
  occupied x hx := htaken x ▸ hs.occupied x (hsub.subset hx)

/-! ### Creatures that turn on the spot -/

def Spins (w : World) (queue : List Nat) : Prop :=
  ∀ slot ∈ queue, ∀ c, w.occupant? slot = some c → c.Loops .left

def spinAt? (w : World) (round slot : Nat) : Option Event :=
  (w.occupant? slot).map
    (Creature.telling round .left .turned (w.positionOf slot) (w.positionOf slot))

def spun (queue : List Nat) (board : Nat → Option Creature) (slot : Nat) : Option Creature :=
  if slot ∈ queue then (board slot).map (Creature.acted .left) else board slot

theorem isSome_spun (queue : List Nat) (board : Nat → Option Creature) (slot : Nat) :
    (spun queue board slot).isSome = (board slot).isSome := by
  unfold spun
  split
  · exact Option.isSome_map
  · rfl

theorem spun_update (hout : slot ∉ queue) (occupant : Option Creature) :
    spun queue (update board slot occupant) = update (spun queue board) slot occupant := by
  funext x
  by_cases hx : x = slot
  · rw [hx, Function.update_self, spun, if_neg hout, Function.update_self]
  · rw [Function.update_of_ne hx, spun, Function.update_of_ne hx, spun]

theorem spun_cons (hout : slot ∉ queue) (hc : board slot = some c) :
    spun (slot :: queue) board = spun queue (update board slot (some (c.acted .left))) := by
  rw [spun_update hout]
  funext x
  by_cases hx : x = slot
  · rw [hx, Function.update_self, spun, if_pos List.mem_cons_self, hc, Option.map_some]
  · simp only [Function.update_of_ne hx, spun, List.mem_cons, hx, false_or]

theorem spun_spun (hdisjoint : ∀ x ∈ earlier, x ∉ later) :
    spun later (spun earlier board) = spun (earlier ++ later) board := by
  funext x
  by_cases hx : x ∈ earlier
  · simp only [spun, hdisjoint x hx, hx, List.mem_append, true_or, if_true, if_false]
  · simp only [spun, hx, List.mem_append, false_or, if_false]

theorem Spins.congr (h : w.Spins queue) (hkept : ∀ x ∈ queue, u.occupant? x = w.occupant? x) :
    u.Spins queue := by
  intro x hx c hc
  rw [hkept x hx] at hc
  exact h x hx c hc

theorem filterMap_spinAt?_congr (hshape : w.SameShape u)
    (hkept : ∀ x ∈ queue, u.occupant? x = w.occupant? x) (round : Nat) :
    queue.filterMap (u.spinAt? round) = queue.filterMap (w.spinAt? round) := by
  apply List.filterMap_congr
  intro x hx
  rw [spinAt?, spinAt?, hkept x hx, hshape.positionOf_eq]

theorem turn_of_spin {v : View} (h : v.active.Loops .left) (hbudget : 2 ≤ budget) (coin : Coin) :
    ∃ report, (v.turn coin budget).result = .ok report ∧
      (∀ round, (v.turn coin budget).view.events round v.position report =
        [v.active.telling round .left .turned v.position v.position]) ∧
      (v.turn coin budget).view.world.occupant? =
        update v.world.occupant? v.slot (some (v.active.acted .left)) := by
  obtain ⟨report, hok, htold, heffect⟩ := View.turn_of_loops h (by decide) hbudget coin
  obtain ⟨houtcome, hslot, hboard⟩ := heffect.of_left
  have hhere : (v.turn coin budget).view.position = v.position := by
    rw [View.position, View.position, hslot, (v.turn_ends coin budget).shape.positionOf_eq]
  refine ⟨report, hok, ?_, hboard⟩
  intro round
  rw [htold, houtcome, hhere]

theorem yields_of_spins (hs : w.Scheduled queue) (h : w.Spins queue) (hbudget : 2 ≤ budget) :
    (playSlots round budget queue w coin).Yields (queue.filterMap (w.spinAt? round))
      (spun queue w.occupant?) := by
  induction queue, w, coin, hs using Scheduled.induction budget with
  | nil w coin hs => exact ⟨rfl, rfl, funext fun slot => (if_neg List.not_mem_nil).symm⟩
  | error v queue coin fault hs hf =>
    have hloops := h v.slot List.mem_cons_self v.active v.occupant?_slot
    obtain ⟨report, hok, _⟩ := turn_of_spin hloops hbudget coin
    rw [hok] at hf
    cases hf
  | ok v queue coin report hs hr ih =>
    have hloops := h v.slot List.mem_cons_self v.active v.occupant?_slot
    obtain ⟨same, hok, htold, hboard⟩ := turn_of_spin hloops hbudget coin
    obtain rfl : report = same := Except.ok.inj (hr.symm.trans hok)
    have hshape := (v.turn_ends coin budget).shape
    have hout : v.slot ∉ queue := (List.nodup_cons.mp hs.distinct).1
    have hqueued : ∀ x ∈ queue,
        (v.turn coin budget).view.world.occupant? x = v.world.occupant? x := by
      intro x hx
      rw [hboard, Function.update_of_ne (ne_of_mem_of_not_mem hx hout)]
    have hspins : v.world.Spins queue := fun x hx => h x (List.mem_cons_of_mem _ hx)
    have hyields := yields_cons hr (htold round) (ih (hspins.congr hqueued))
    refine ⟨hyields.fault, ?_, ?_⟩
    · have hfirst : v.world.spinAt? round v.slot =
          some (v.active.telling round .left .turned v.position v.position) := by
        rw [spinAt?, v.occupant?_slot]
        rfl
      rw [hyields.events, List.filterMap_cons_some hfirst, filterMap_spinAt?_congr hshape hqueued]
      rfl
    · rw [hyields.board, hboard, spun_cons hout v.occupant?_slot]

/-! ### The hopper -/

/-- One creature hops, and all others turn on the spot. -/
structure HopsAlone (w : World) (p : Position) (c : Creature) : Prop where
  there : w.creatureAt? p = some c
  hopper : c.Loops .hop
  others : ∀ q other, q ≠ p → w.creatureAt? q = some other → other.Loops .left

theorem HopsAlone.occupant (h : w.HopsAlone (w.positionOf slot) c) : w.occupant? slot = some c := by
  obtain ⟨x, hx, hposition⟩ := creatureAt?_eq_some_iff.mp h.there
  rw [w.positionOf_injective hposition] at hx
  exact hx

theorem HopsAlone.spins (h : w.HopsAlone (w.positionOf slot) c) (hout : slot ∉ queue) :
    w.Spins queue := by
  intro x hx other hother
  have hne := w.positionOf_injective.ne (ne_of_mem_of_not_mem hx hout)
  exact h.others _ other hne (creatureAt?_eq_some_iff.mpr ⟨x, hother, rfl⟩)

theorem Effect.queued_of_hop {o : Outcome} {landing : Nat} (hs : w.Scheduled (slot :: later))
    (h : w.Effect slot c .hop o landing board) :
    landing ∉ later ∧ ∀ x ∈ later, board x = w.occupant? x := by
  have hslot : slot ∉ later := (List.nodup_cons.mp hs.distinct).1
  have hlanding : ∀ x ∈ later, x ≠ landing := by
    intro x hx
    exact h.ne_landing_of_hop (ne_of_mem_of_not_mem hx hslot)
      (hs.occupied x (List.mem_cons_of_mem _ hx))
  refine ⟨fun hmem => hlanding landing hmem rfl, ?_⟩
  intro x hx
  rw [h.of_hop, Function.update_of_ne (hlanding x hx),
    Function.update_of_ne (ne_of_mem_of_not_mem hx hslot)]

/-- The turn of the hopper and those behind it, on the board that those before it leave. -/
theorem yields_of_hopper (h : w.HopsAlone (w.positionOf slot) c) (hbudget : 2 ≤ budget)
    (hs : w.Scheduled (earlier ++ slot :: later)) (hshape : w.SameShape u)
    (hboard : u.occupant? = spun earlier w.occupant?) (round : Nat) (coin : Coin) :
    ∃ o landing board, w.Effect slot (c.acted .hop) .hop o landing board ∧
      (playSlots round budget (slot :: later) u coin).Yields
        (c.telling round .hop o (w.positionOf slot) (w.positionOf landing) ::
          later.filterMap (w.spinAt? round))
        (update (update (spun (earlier ++ later) w.occupant?) slot none) landing
          (some (c.acted .hop))) := by
  obtain ⟨_, hlast, hdisjoint⟩ := List.nodup_append.mp hs.distinct
  obtain ⟨hlater, _⟩ := List.nodup_cons.mp hlast
  have hapart : ∀ x ∈ earlier, x ∉ slot :: later := fun x hx hmem => hdisjoint x hx x hmem rfl
  have hearlier : slot ∉ earlier := fun hmem => hapart slot hmem List.mem_cons_self
  have htaken : ∀ x, (w.occupant? x).isSome = (u.occupant? x).isSome := by
    intro x
    rw [hboard, isSome_spun]
  -- Whoever has turned is still there, so the queue goes on as planned.
  have hsu : u.Scheduled (slot :: later) := hs.of_taken (List.sublist_append_right _ _) htaken
  obtain ⟨v, rfl, rfl⟩ : ∃ v : View, v.world = u ∧ v.slot = slot :=
    ⟨⟨u, slot, hsu.occupied slot List.mem_cons_self⟩, rfl, rfl⟩
  have hactive : v.active = c := by
    apply View.active_eq_of_occupant?
    rw [hboard, spun, if_neg hearlier, h.occupant]
  obtain ⟨report, hok, htold, heffect⟩ :=
    View.turn_of_loops (hactive ▸ h.hopper : v.active.Loops .hop) (by decide) hbudget coin
  rw [hactive] at htold heffect
  obtain ⟨hlanding, hkept⟩ := heffect.queued_of_hop hsu
  have hqueued : ∀ x ∈ later,
      (v.turn coin budget).view.world.occupant? x = w.occupant? x := by
    intro x hx
    have hnot : x ∉ earlier := fun hmem => hapart x hmem (List.mem_cons_of_mem _ hx)
    rw [hkept x hx, hboard, spun, if_neg hnot]
  have hyields := yields_cons hok (htold round)
    (yields_of_spins (hsu.next coin budget) ((h.spins hlater).congr hqueued) hbudget)
  have hnext := hshape.trans (v.turn_ends coin budget).shape
  obtain ⟨board, heffect'⟩ := heffect.hop_of_taken hshape.symm htaken
  refine ⟨report.outcome, _, board, heffect', hyields.fault, ?_, ?_⟩
  · rw [hyields.events, View.position, View.position, hshape.positionOf_eq, hnext.positionOf_eq,
      filterMap_spinAt?_congr hnext hqueued]
    rfl
  · rw [hyields.board, heffect.of_hop, hboard, spun_update hlanding, spun_update hlater,
      spun_spun fun x hx hmem => hapart x hx (List.mem_cons_of_mem _ hmem)]
    rfl

/-! ### The round -/

theorem spun_occupied (hqueue : w.occupiedSlots = earlier ++ slot :: later) :
    update (spun (earlier ++ later) w.occupant?) slot none =
      update (fun x => (w.occupant? x).map (Creature.acted .left)) slot none := by
  funext x
  by_cases hx : x = slot
  · rw [hx, Function.update_self, Function.update_self]
  · rw [Function.update_of_ne hx, Function.update_of_ne hx]
    by_cases hmem : x ∈ earlier ++ later
    · exact if_pos hmem
    · have hfree : w.occupant? x = none := by
        by_contra hsome
        have hqueued := mem_occupiedSlots.mpr (Option.isSome_iff_ne_none.mpr hsome)
        rw [hqueue] at hqueued
        exact hmem (by simpa [hx] using hqueued)
      rw [spun, if_neg hmem, hfree]
      rfl

theorem mem_spins_iff (hqueue : w.occupiedSlots = earlier ++ slot :: later) {e : Event} :
    (∃ x ∈ earlier ++ later, w.spinAt? round x = some e) ↔
      ∃ r other, r ≠ w.positionOf slot ∧ w.creatureAt? r = some other ∧
        e = other.telling round .left .turned r r := by
  have hnodup := w.scheduled_occupiedSlots.distinct
  rw [hqueue, List.nodup_middle, List.nodup_cons] at hnodup
  constructor
  · intro hspin
    obtain ⟨x, hx, hspin⟩ := hspin
    obtain ⟨other, hother, rfl⟩ := Option.map_eq_some_iff.mp hspin
    have hne := w.positionOf_injective.ne (ne_of_mem_of_not_mem hx hnodup.1)
    exact ⟨_, other, hne, creatureAt?_eq_some_iff.mpr ⟨x, hother, rfl⟩, rfl⟩
  · intro htold
    obtain ⟨r, other, hne, hother, rfl⟩ := htold
    obtain ⟨x, hx, rfl⟩ := creatureAt?_eq_some_iff.mp hother
    have hqueued : x ∈ earlier ++ slot :: later := hqueue ▸ mem_occupiedSlots.mpr (by rw [hx]; rfl)
    have hslot : x ≠ slot := fun heq => hne (heq ▸ rfl)
    refine ⟨x, by simpa [hslot] using hqueued, ?_⟩
    rw [spinAt?, hx, Option.map_some]

def Vacant (w : World) (q : Position) : Prop := w.Contains q ∧ w.creatureAt? q = none

/-- The outcome of a hop, and where it leads. -/
inductive Hops (w : World) (p : Position) (d : Heading) : Outcome → Position → Prop where
  | moved {q} (away : p.Away d 1 q) (vacant : w.Vacant q) : Hops w p d .moved q
  | blocked (barred : ∀ q, p.Away d 1 q → ¬ w.Vacant q) : Hops w p d .blocked p

theorem hops_of_effect {o : Outcome} {landing : Nat} (h : w.Effect slot c .hop o landing board) :
    w.Hops (w.positionOf slot) c.heading o (w.positionOf landing) := by
  cases h with
  | moved ahead free =>
    have hlt := neighbor?_lt ahead
    refine .moved (away_of_neighbor? ahead) ⟨w.positionOf_bounds hlt, ?_⟩
    rw [w.creatureAt?_positionOf hlt, free]
  | blocked barred =>
    refine .blocked ?_
    intro q haway hvacant
    obtain ⟨target, htarget⟩ := exists_slotOf?_iff.mpr hvacant.1
    have htaken := barred target (neighbor?_eq_some_iff.mpr ⟨q, haway, htarget⟩)
    have hfree := hvacant.2
    rw [creatureAt?, htarget, Option.bind_some] at hfree
    rw [hfree] at htaken
    cases htaken

structure HopsBy
    (w : World) (p : Position) (c : Creature) (round : Nat) (o : Outcome) (q : Position)
    (progress : Progress) : Prop where
  hops : w.Hops p c.heading o q
  fault : progress.fault? = none
  shape : w.SameShape progress.world
  creatures : ∀ r, progress.world.creatureAt? r =
    if r = q then some (c.acted .hop)
    else if r = p then none else (w.creatureAt? r).map (Creature.acted .left)
  events : ∀ e, e ∈ progress.events ↔ e = c.telling round .hop o p q ∨
    ∃ r other, r ≠ p ∧ w.creatureAt? r = some other ∧ e = other.telling round .left .turned r r

theorem creatureAt?_of_update {landing : Nat} {f : Creature → Creature} (hshape : w.SameShape u)
    (hboard : u.occupant? =
      update (update (fun x => (w.occupant? x).map f) slot none) landing (some c))
    (r : Position) : u.creatureAt? r =
      if r = w.positionOf landing then some c
      else if r = w.positionOf slot then none else (w.creatureAt? r).map f := by
  have hlanding : u.occupant? landing = some c := by rw [hboard, Function.update_self]
  by_cases hr : r = w.positionOf landing
  · rw [if_pos hr, creatureAt?_eq_some_iff]
    exact ⟨landing, hlanding, by rw [hr, hshape.positionOf_eq]⟩
  · rw [if_neg hr, creatureAt?, creatureAt?, hshape.slotOf?_eq]
    cases hthere : w.slotOf? r with
    | none => split <;> rfl
    | some x =>
      obtain rfl := positionOf_of_slotOf? hthere
      have hx : x ≠ landing := fun heq => hr (heq ▸ rfl)
      rw [Option.bind_some, Option.bind_some, hboard, Function.update_of_ne hx,
        Function.update_apply]
      simp only [w.positionOf_injective.eq_iff]

theorem playRound_of_hopsAlone {p : Position} (h : w.HopsAlone p c) (hbudget : 2 ≤ budget)
    (round : Nat) (coin : Coin) :
    ∃ o q, w.HopsBy p c round o q (w.playRound round budget coin) := by
  obtain ⟨slot, hthere, rfl⟩ := creatureAt?_eq_some_iff.mp h.there
  have hqueued : slot ∈ w.occupiedSlots := mem_occupiedSlots.mpr (by rw [hthere]; rfl)
  obtain ⟨earlier, later, hqueue⟩ := List.append_of_mem hqueued
  have hs := w.scheduled_occupiedSlots
  rw [hqueue] at hs
  have hout : slot ∉ earlier := by
    intro hmem
    exact (List.nodup_cons.mp (List.nodup_middle.mp hs.distinct)).1 (List.mem_append_left _ hmem)
  have hearlier : (playSlots round budget earlier w coin).Yields _ _ :=
    yields_of_spins hs.left (h.spins hout) hbudget
  obtain ⟨o, landing, board, heffect, hlater⟩ :=
    yields_of_hopper h hbudget hs (sameShape_playSlots hs.left) hearlier.board round _
  have hround := yields_append hearlier hlater
  rw [← hqueue] at hround
  have hshape : w.SameShape (w.playRound round budget coin).world :=
    sameShape_playSlots w.scheduled_occupiedSlots
  have hhops := hops_of_effect heffect
  refine ⟨o, _, hhops, hround.fault, hshape, ?_, ?_⟩
  · apply creatureAt?_of_update hshape
    rw [← spun_occupied hqueue]
    exact hround.board
  · intro e
    rw [← mem_spins_iff hqueue]
    have hevents : (w.playRound round budget coin).events = _ := hround.events
    rw [hevents]
    simp only [List.mem_append, List.mem_cons, List.mem_filterMap, or_and_right, exists_or]
    exact or_left_comm

end World

end Vivarium
