import Mathlib.Data.Set.Function
import Vivarium.Proofs.Run.Populations
import Vivarium.Proofs.Turn.Locality

/-! Symbols are for show. Exchange the kinds on a board for others that run the same programs, no
two of them for the same one, and everything goes as before but for the symbols in the log. -/
namespace Vivarium

/-! ### What is left without symbols -/

def Event.unlabelled : Event → Event
  | .turnTaken round _ source target heading act outcome steps =>
    .turnTaken round "" source target heading act outcome steps
  | .converted round infector target _ => .converted round infector target ""

/-- The faults of a turn name the species whose program is to blame. -/
def Fault.unlabelled : Fault → Fault
  | .counterOutOfRange _ index len => .counterOutOfRange "" index len
  | .noProgress _ budget => .noProgress "" budget
  | fault => fault

def RoundEnd.unlabelled (e : RoundEnd) : Except Fault (Nat × List Event) :=
  (e.result.map fun report => (report.round, report.events.map Event.unlabelled)).mapError
    Fault.unlabelled

/-! ### Boards that differ in kinds only -/

def Creature.recast (f : Kind → Kind) (c : Creature) : Creature := { c with kind := f c.kind }

theorem Creature.recast_infectedBy (f : Kind → Kind) (c : Creature) (infector : Option Kind) :
    (c.infectedBy infector).recast f = (c.recast f).infectedBy (infector.map f) := by
  cases infector <;> rfl

/-- The second board is the first with its kinds exchanged. Different kinds stay different and their
programs stay the same; symbols may become equal or cease to be so. -/
structure World.Mirrors (f : Kind → Kind) (w u : World) : Prop where
  shape : w.SameShape u
  occupants : ∀ slot, u.occupant? slot = (w.occupant? slot).map (Creature.recast f)
  distinct : Set.InjOn f {kind | w.Present kind}
  programs : ∀ kind, w.Present kind → (f kind).species.program = kind.species.program

structure View.Mirrors (f : Kind → Kind) (v u : View) : Prop where
  world : v.world.Mirrors f u.world
  slot : u.slot = v.slot

structure Turn.Mirrors (f : Kind → Kind) (t s : Turn) : Prop where
  view : t.view.Mirrors f s.view
  coin : s.coin = t.coin
  result : s.result.mapError Fault.unlabelled = t.result.mapError Fault.unlabelled

structure Played.Mirrors (f : Kind → Kind) (p q : Played) : Prop where
  start : p.start.Mirrors f q.start
  ended : p.ended.Mirrors f q.ended

structure Progress.Mirrors (f : Kind → Kind) (p q : Progress) : Prop where
  world : p.world.Mirrors f q.world
  coin : q.coin = p.coin
  events : q.events.map Event.unlabelled = p.events.map Event.unlabelled
  fault : q.fault?.map Fault.unlabelled = p.fault?.map Fault.unlabelled

structure Simulation.Mirrors (f : Kind → Kind) (s t : Simulation) : Prop where
  world : s.world.Mirrors f t.world
  coin : t.coin = s.coin
  settings : t.settings = s.settings
  round : t.round = s.round

structure RoundEnd.Mirrors (f : Kind → Kind) (e g : RoundEnd) : Prop where
  simulation : e.simulation.Mirrors f g.simulation
  events : g.events.map Event.unlabelled = e.events.map Event.unlabelled
  result : g.unlabelled = e.unlabelled

variable {f : Kind → Kind}

namespace World.Mirrors

variable {w u : World}

theorem occupiedSlots (h : w.Mirrors f u) : u.occupiedSlots = w.occupiedSlots := by
  simp only [World.occupiedSlots, h.shape.size_eq, h.occupants, Option.isSome_map]

theorem exists_view {v : View} (h : v.world.Mirrors f u) :
    ∃ v' : View, v'.world = u ∧ v.Mirrors f v' := by
  have hoccupied : (u.occupant? v.slot).isSome := by
    rw [h.occupants, Option.isSome_map]
    exact v.occupied
  exact ⟨⟨u, v.slot, hoccupied⟩, rfl, h, rfl⟩

theorem of_leadsTo {after after' : World} {budget : Nat} (h : w.Mirrors f u)
    (hleads : w.LeadsTo budget after) (shape : after.SameShape after')
    (occupants : ∀ slot, after'.occupant? slot =
      (after.occupant? slot).map (Creature.recast f)) : after.Mirrors f after' where
  shape := shape
  occupants := occupants
  distinct := h.distinct.mono fun _ hkind => hleads.present hkind
  programs kind hkind := h.programs kind (hleads.present hkind)

end World.Mirrors

namespace View

variable {v u : View}

theorem present_active (v : View) : v.world.Present v.active.kind :=
  ⟨v.slot, v.active, v.occupant?_slot, rfl⟩

namespace Mirrors

theorem active (h : v.Mirrors f u) : u.active = v.active.recast f := by
  apply active_eq_of_occupant?
  rw [h.slot, h.world.occupants, v.occupant?_slot]
  rfl

theorem program (h : v.Mirrors f u) : u.active.program = v.active.program := by
  rw [h.active]
  exact h.world.programs v.active.kind v.present_active

theorem ahead? (h : v.Mirrors f u) : u.ahead? = v.ahead? := by
  unfold View.ahead?
  rw [h.active, h.slot, h.world.shape.neighbor?_eq]
  rfl

theorem position (h : v.Mirrors f u) : u.position = v.position := by
  unfold View.position
  rw [h.slot, h.world.shape.positionOf_eq]

theorem sight (h : v.Mirrors f u) : u.sight = v.sight := by
  unfold View.sight
  rw [h.ahead?]
  cases v.ahead? with
  | none => rfl
  | some target =>
    simp only [h.world.occupants target]
    cases hother : v.world.occupant? target with
    | none => rfl
    | some other =>
      have hpresent : v.world.Present other.kind := ⟨target, other, hother, rfl⟩
      have hsame : u.active.sameKind (other.recast f) = v.active.sameKind other := by
        rw [h.active]
        exact decide_eq_decide.mpr (h.world.distinct.eq_iff v.present_active hpresent)
      simp only [Option.map_some, hsame]

theorem deliberate (h : v.Mirrors f u) (coin : Coin) (budget : Nat) :
    u.deliberate coin budget = v.deliberate coin budget := by
  unfold View.deliberate
  rw [h.program, h.sight, h.active]
  rfl

variable {budget : Nat} {decided : Decision × Deliberation} {t s : Turn}

theorem ends (h : v.Mirrors f u) (ht : v.Ends budget decided t) (hs : u.Ends budget decided s) :
    s.result.mapError Fault.unlabelled = t.result.mapError Fault.unlabelled ∧
      s.view.slot = t.view.slot ∧ s.view.active = t.view.active.recast f := by
  cases ht with
  | lost =>
    cases hs with
    | lost =>
      refine ⟨?_, h.slot, by simp [h.active, Creature.recast]⟩
      simp only [h.program, Except.mapError, Fault.unlabelled]
  | undecided =>
    cases hs with
    | undecided => exact ⟨rfl, h.slot, by simp [h.active, Creature.recast]⟩
  | acted hp =>
    cases hs with
    | acted kp =>
      have ho := hp.outcome_eq
      have ko := kp.outcome_eq
      rw [sight_withCounter] at ho ko
      rw [h.sight, ← ho] at ko
      subst ko
      have hslot := kp.slot_eq
      rw [ahead?_withCounter, slot_withCounter, h.ahead?, h.slot, ← slot_withCounter v,
        ← ahead?_withCounter v, ← hp.slot_eq] at hslot
      refine ⟨rfl, Option.some.inj hslot, ?_⟩
      rw [kp.active, hp.active, active_withCounter, active_withCounter, h.active]
      rfl

theorem infects? (h : v.Mirrors f u)
    (hresult : s.result.mapError Fault.unlabelled = t.result.mapError Fault.unlabelled)
    (slot : Nat) : u.infects? s slot = (v.infects? t slot).map f := by
  unfold View.infects?
  cases ht : t.result with
  | error fault =>
    cases hs : s.result with
    | error fault' => rfl
    | ok r => simp [ht, hs, Except.mapError] at hresult
  | ok r =>
    cases hs : s.result with
    | error fault => simp [ht, hs, Except.mapError] at hresult
    | ok r' =>
      obtain rfl : r' = r := by simpa [ht, hs, Except.mapError] using hresult
      simp only [spreads?, h.ahead?, h.active]
      split <;> rfl

theorem turn (h : v.Mirrors f u) (coin : Coin) (budget : Nat) :
    (v.turn coin budget).Mirrors f (u.turn coin budget) := by
  have hv := v.turn_ends coin budget
  have hu := u.turn_ends coin budget
  have hcoin : (u.turn coin budget).coin = (v.turn coin budget).coin := by
    rw [hu.coin, hv.coin, h.deliberate]
  rw [h.deliberate] at hu
  obtain ⟨hresult, hslot, hactive⟩ := h.ends hv hu
  refine ⟨⟨?_, hslot⟩, hcoin, hresult⟩
  have hleads : v.world.LeadsTo budget (v.turn coin budget).view.world :=
    .single (World.passes_turn v coin budget)
  refine h.world.of_leadsTo hleads (hv.shape.symm.trans (h.world.shape.trans hu.shape)) ?_
  intro slot
  rw [hu.board, hv.board, hslot, hactive, h.slot, h.world.occupants, h.infects? hresult]
  split
  · rfl
  · split
    · rfl
    · cases v.world.occupant? slot with
      | none => rfl
      | some c =>
        simp only [Option.map_some, Creature.recast_infectedBy]

theorem events (h : v.Mirrors f u) (round : Nat) (source : Position) (r : TurnReport) :
    (u.events round source r).map Event.unlabelled =
      (v.events round source r).map Event.unlabelled := by
  have hheading : u.active.heading = v.active.heading := by
    rw [h.active]
    rfl
  unfold View.events
  simp only [h.ahead?, h.position, hheading, h.world.shape.positionOf_eq]
  split <;> rfl

end Mirrors

end View

/-! ### A queue of turns -/

namespace Turn.Mirrors

variable {t s : Turn}

theorem of_error (h : t.Mirrors f s) {fault : Fault} (ht : t.result = .error fault) :
    ∃ fault', s.result = .error fault' ∧ fault'.unlabelled = fault.unlabelled := by
  have hresult := h.result
  cases hs : s.result with
  | error fault' =>
    refine ⟨fault', rfl, ?_⟩
    simpa [ht, hs, Except.mapError] using hresult
  | ok r => simp [ht, hs, Except.mapError] at hresult

theorem of_ok (h : t.Mirrors f s) {r : TurnReport} (ht : t.result = .ok r) : s.result = .ok r := by
  have hresult := h.result
  cases hs : s.result with
  | error fault => simp [ht, hs, Except.mapError] at hresult
  | ok r' => simpa [ht, hs, Except.mapError] using hresult

end Turn.Mirrors

namespace World.Mirrors

variable {w u : World} {round budget : Nat} {queue : List Nat} {coin : Coin}

theorem playSlots (hs : w.Scheduled queue) (h : w.Mirrors f u) :
    (World.playSlots round budget queue w coin).Mirrors f
        (World.playSlots round budget queue u coin) ∧
      List.Forall₂ (Played.Mirrors f) (World.turns budget queue w coin)
        (World.turns budget queue u coin) := by
  induction queue, w, coin, hs using Scheduled.induction budget generalizing u with
  | nil w coin hs => exact ⟨⟨h, rfl, rfl, rfl⟩, .nil⟩
  | error v queue coin fault hs hf =>
    obtain ⟨v', rfl, hv⟩ := h.exists_view
    have hturn := hv.turn coin budget
    obtain ⟨fault', hf', hfault⟩ := hturn.of_error hf
    rw [playSlots_cons_of_error hf, turns_cons_of_error hf, ← hv.slot, playSlots_cons_of_error hf',
      turns_cons_of_error hf']
    exact ⟨⟨hturn.view.world, hturn.coin, rfl, congrArg some hfault⟩, .cons ⟨hv, hturn⟩ .nil⟩
  | ok v queue coin report hs hr ih =>
    obtain ⟨v', rfl, hv⟩ := h.exists_view
    have hturn := hv.turn coin budget
    have hr' := hturn.of_ok hr
    obtain ⟨hrest, hturns⟩ := ih hturn.view.world
    rw [playSlots_cons_of_ok hr, turns_cons_of_ok hr, ← hv.slot, playSlots_cons_of_ok hr',
      turns_cons_of_ok hr', hturn.coin]
    refine ⟨⟨hrest.world, hrest.coin, ?_, hrest.fault⟩, .cons ⟨hv, hturn⟩ hturns⟩
    simp only [List.map_append, hv.position, hturn.view.events, hrest.events]

end World.Mirrors

/-! ### A run -/

/-- Runs with the same rounds, the last of which fails in both or in neither, by the same fault. -/
structure RunEnd.Mirrors (f : Kind → Kind) (r q : RunEnd) : Prop where
  simulation : r.simulation.Mirrors f q.simulation
  rounds : List.Forall₂ (RoundEnd.Mirrors f) r.rounds q.rounds
  fault : q.fault?.map Fault.unlabelled = r.fault?.map Fault.unlabelled

namespace Simulation

theorem step_simulation (s : Simulation) :
    s.step.simulation =
      { s with world := s.progress.world, coin := s.progress.coin, round := s.round + 1 } := by
  simp only [step]
  split <;> rfl

theorem unlabelled_step (s : Simulation) :
    s.step.unlabelled =
      match s.progress.fault?.map Fault.unlabelled with
      | some fault => .error fault
      | none => .ok (s.round + 1, s.progress.events.map Event.unlabelled) := by
  unfold RoundEnd.unlabelled
  cases hfault : s.progress.fault? with
  | some fault =>
    rw [step_eq_error_iff.mpr hfault]
    rfl
  | none =>
    rw [step_eq_ok_iff.mpr ⟨hfault, rfl⟩]
    rfl

namespace Mirrors

variable {s t : Simulation}

theorem progress (h : s.Mirrors f t) :
    s.progress.Mirrors f t.progress ∧ List.Forall₂ (Played.Mirrors f) s.turns t.turns := by
  unfold Simulation.progress World.playRound Simulation.turns Simulation.turnsOf
  rw [h.world.occupiedSlots, h.settings, h.coin, h.round]
  exact h.world.playSlots s.world.scheduled_occupiedSlots

theorem step (h : s.Mirrors f t) : s.step.Mirrors f t.step := by
  obtain ⟨hprogress, _⟩ := h.progress
  refine ⟨?_, ?_, ?_⟩
  · rw [step_simulation, step_simulation]
    exact ⟨hprogress.world, hprogress.coin, h.settings, congrArg (· + 1) h.round⟩
  · rw [step_events, step_events]
    exact hprogress.events
  · rw [unlabelled_step, unlabelled_step, hprogress.fault, hprogress.events, h.round]

theorem after (h : s.Mirrors f t) (rounds : Nat) : (s.after rounds).Mirrors f (t.after rounds) := by
  induction rounds with
  | zero => exact h
  | succ rounds ih => exact ih.step.simulation

theorem advance (h : s.Mirrors f t) (rounds : Nat) :
    (s.advance rounds).Mirrors f (t.advance rounds) := by
  induction rounds generalizing s t with
  | zero => exact ⟨h, .nil, rfl⟩
  | succ rounds ih =>
    have hstep := h.step
    have hresult := hstep.result
    unfold RoundEnd.unlabelled at hresult
    simp only [Simulation.advance]
    cases hs : s.step.result with
    | error fault =>
      cases ht : t.step.result with
      | error fault' =>
        have hfault : fault'.unlabelled = fault.unlabelled := by
          simpa [hs, ht, Except.map, Except.mapError] using hresult
        exact ⟨hstep.simulation, .cons hstep .nil, congrArg some hfault⟩
      | ok report => simp [hs, ht, Except.map, Except.mapError] at hresult
    | ok report =>
      cases ht : t.step.result with
      | error fault => simp [hs, ht, Except.map, Except.mapError] at hresult
      | ok report' =>
        have hrest := ih hstep.simulation
        exact ⟨hrest.simulation, .cons hstep hrest.rounds, hrest.fault⟩

end Mirrors

end Simulation

/-- Take a board and exchange its kinds for others with the same programs, different ones for
different kinds. After any number of rounds, whether they succeed or fail, the two boards still
correspond in that way; the turns of the next round are the same ones and end in the same way, with
the same log and the same fault if there is one, symbols apart; and so do whole runs. -/
theorem symbols_never_matter {s t : Simulation} (h : s.Mirrors f t) (rounds : Nat) :
    (s.after rounds).Mirrors f (t.after rounds) ∧
    List.Forall₂ (Played.Mirrors f) (s.after rounds).turns (t.after rounds).turns ∧
    (s.after rounds).step.Mirrors f (t.after rounds).step ∧
    (s.run rounds).Mirrors f (t.run rounds) := by
  have hafter := h.after rounds
  have hadvance := h.advance rounds
  exact ⟨hafter, hafter.progress.2, hafter.step,
    ⟨hadvance.simulation, hadvance.rounds, hadvance.fault⟩⟩

def duel (first second : Kind) : Simulation where
  world :=
    { rows := 1
      cols := 2
      cells := #[some (.spawn first .east), some (.spawn second .west)]
      filled := rfl
      nonempty := by decide
      addressable := by decide }
  coin := .scripted #[]
  settings := {}
  round := 0

theorem eq_or_eq_of_present_duel {first second kind : Kind}
    (h : (duel first second).world.Present kind) : kind = first ∨ kind = second := by
  obtain ⟨_ | _ | slot, c, hc, rfl⟩ := h
  · cases hc
    exact Or.inl rfl
  · cases hc
    exact Or.inr rfl
  · cases hc

/-- Two traps of different symbols fight. Give them one symbol, so that nothing but their tags keeps
them apart, and they fight on. -/
theorem look_alikes_fight :
    (duel ⟨0, ⟨"a", Species.trap.program⟩⟩ ⟨1, ⟨"b", Species.trap.program⟩⟩).Mirrors
        (fun kind => ⟨kind.tag, Species.trap⟩) (duel ⟨0, Species.trap⟩ ⟨1, Species.trap⟩) ∧
      (duel ⟨0, Species.trap⟩ ⟨1, Species.trap⟩).step.events.map Event.unlabelled =
        (duel ⟨0, ⟨"a", Species.trap.program⟩⟩
          ⟨1, ⟨"b", Species.trap.program⟩⟩).step.events.map Event.unlabelled ∧
      ∃ e ∈ (duel ⟨0, Species.trap⟩ ⟨1, Species.trap⟩).step.events, e.isConversion = true := by
  have hmirrors : (duel ⟨0, ⟨"a", Species.trap.program⟩⟩
      ⟨1, ⟨"b", Species.trap.program⟩⟩).Mirrors (fun kind => ⟨kind.tag, Species.trap⟩)
        (duel ⟨0, Species.trap⟩ ⟨1, Species.trap⟩) := by
    refine ⟨⟨⟨rfl, rfl⟩, ?_, ?_, ?_⟩, rfl, rfl, rfl⟩
    · rintro (_ | _ | slot) <;> rfl
    · intro a ha b hb heq
      rcases eq_or_eq_of_present_duel ha with rfl | rfl <;>
        rcases eq_or_eq_of_present_duel hb with rfl | rfl <;> simp_all
    · intro kind hkind
      rcases eq_or_eq_of_present_duel hkind with rfl | rfl <;> rfl
  obtain ⟨_, _, hstep, _⟩ := symbols_never_matter hmirrors 0
  exact ⟨hmirrors, hstep.events, _, List.mem_cons_of_mem _ List.mem_cons_self, rfl⟩

end Vivarium
