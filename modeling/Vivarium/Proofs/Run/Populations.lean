import Vivarium.Proofs.Program.Counter
import Vivarium.Proofs.Round.Replay
import Vivarium.Proofs.Run.Turns
import Vivarium.Proofs.Turn.Continuity

/-! How populations develop. A population grows only when its members infect, so no kind comes back
once it has died out, and a kind whose program never infects never grows. -/
namespace Vivarium

namespace World

def Present (w : World) (kind : Kind) : Prop := ∃ slot c, w.occupant? slot = some c ∧ c.kind = kind

def population (w : World) (kind : Kind) : Nat := w.tally fun c => c.kind = kind

theorem present_iff_population {w : World} {kind : Kind} :
    w.Present kind ↔ 0 < w.population kind := by
  rw [population, ← card_standing, Finset.card_pos]
  constructor
  · rintro ⟨slot, c, hc, hkind⟩
    exact ⟨slot, mem_standing.mpr ⟨c, hc, decide_eq_true hkind⟩⟩
  · rintro ⟨slot, hslot⟩
    obtain ⟨c, hc, hkind⟩ := mem_standing.mp hslot
    exact ⟨slot, c, hc, of_decide_eq_true hkind⟩

end World

theorem Creature.inherited_kind (P : Kind → Prop) : Inherited fun c => P c.kind where
  turn _ _ _ _ _ hc := hc
  infection _ _ _ hinfector := hinfector

namespace View

variable {v : View} {coin : Coin} {budget : Nat}

theorem infect_mem_of_infects? {slot : Nat} {kind : Kind}
    (h : v.infects? (v.turn coin budget) slot = some kind) : .act .infect ∈ v.active.program := by
  obtain ⟨_, _, r, hr, ho⟩ := infects?_eq_some_iff.mp h
  exact Deliberation.act_mem_of_run ((v.turn_ends coin budget).of_infected hr ho).1

theorem population_turn_le {kind : Kind} (h : .act .infect ∉ kind.species.program) (v : View)
    (coin : Coin) (budget : Nat) :
    (v.turn coin budget).view.world.population kind ≤ v.world.population kind := by
  have hends := v.turn_ends coin budget
  apply hends.continues.tally_le
  intro slot c hc hkind
  have hkind : c.kind = kind := of_decide_eq_true hkind
  by_cases hlast : slot = (v.turn coin budget).view.slot
  · rw [origin, if_pos hlast]
    refine ⟨v.active, v.occupant?_slot, decide_eq_true ?_⟩
    rw [hlast, View.occupant?_slot] at hc
    cases hc
    rw [← hends.kind]
    exact hkind
  · have hslot := hends.continues.slot_ne hlast hc
    rw [hends.board, if_neg hlast, if_neg hslot] at hc
    obtain ⟨b, hb, rfl⟩ := Option.map_eq_some_iff.mp hc
    rw [origin, if_neg hlast]
    refine ⟨b, hb, decide_eq_true ?_⟩
    cases hinfects : v.infects? (v.turn coin budget) slot with
    | none =>
      rw [hinfects] at hkind
      exact hkind
    | some spread =>
      -- An infection gives the creature the kind of the one that has the turn, which infects.
      rw [hinfects] at hkind
      change spread = kind at hkind
      rw [← hkind, (infects?_eq_some_iff.mp hinfects).1] at h
      exact absurd (infect_mem_of_infects? hinfects) h

theorem no_conversion_of_one_kind {kind : Kind} (h : v.world.All fun c => c.kind = kind)
    {report : TurnReport} (hr : (v.turn coin budget).result = .ok report) (round : Nat)
    (source : Position) :
    ∀ e ∈ (v.turn coin budget).view.events round source report, e.isConversion = false := by
  have ho : report.outcome ≠ .infected := by
    intro ho
    obtain ⟨_, slot, other, _, hother, hne, _⟩ := (v.turn_ends coin budget).of_infected hr ho
    exact hne ((h slot other hother).trans (all_active h).symm)
  intro e he
  rw [events_of_not_infected ho, List.mem_singleton] at he
  rw [he]
  rfl

end View

namespace World.LeadsTo

variable {budget : Nat} {w u : World}

theorem all {P : Creature → Prop} (hP : Creature.Inherited P) (h : w.LeadsTo budget u)
    (hw : w.All P) : u.All P := by
  induction h with
  | refl => exact hw
  | tail _ hturn ih =>
    obtain ⟨v, coin, rfl, rfl⟩ := hturn
    exact View.all_turn hP ih coin budget

theorem present {kind : Kind} (h : w.LeadsTo budget u) (hu : u.Present kind) :
    w.Present kind := by
  have hkinds : u.All fun c => w.Present c.kind := by
    apply h.all (Creature.inherited_kind w.Present)
    intro slot c hc
    exact ⟨slot, c, hc, rfl⟩
  obtain ⟨slot, c, hc, rfl⟩ := hu
  exact hkinds slot c hc

theorem population_le {kind : Kind} (hkind : .act .infect ∉ kind.species.program)
    (h : w.LeadsTo budget u) : u.population kind ≤ w.population kind := by
  induction h with
  | refl => exact Nat.le_refl _
  | tail _ hturn ih =>
    obtain ⟨v, coin, rfl, rfl⟩ := hturn
    exact Nat.le_trans (View.population_turn_le hkind v coin budget) ih

end World.LeadsTo

/-- Between a moment of a run and any later one, in the same round or not and whatever rounds fail,
no kind comes back or comes up, and a population whose program does not infect does not grow. If
only one kind is left at the first moment, the turn at the second converts nobody. -/
theorem populations_never_grow (s : Simulation) {m n : Moment} (h : m ≤ n) :
    (∀ kind, (s.boardAt n).Present kind → (s.boardAt m).Present kind) ∧
    (∀ kind, .act .infect ∉ kind.species.program →
      (s.boardAt n).population kind ≤ (s.boardAt m).population kind) ∧
    ∀ kind, ((s.boardAt m).All fun c => c.kind = kind) →
      ∀ p round, s.turnAt? n = some p → ∀ e ∈ p.events round, e.isConversion = false := by
  have hleads := s.leadsTo_of_le h
  refine ⟨fun _ => hleads.present, fun _ hkind => hleads.population_le hkind, ?_⟩
  intro kind hone p round hp e he
  obtain ⟨hstart, coin, hended⟩ := Simulation.start_of_turnAt? hp
  have hall := hleads.all (Creature.inherited_kind fun k => k = kind) hone
  rw [← hstart] at hall
  unfold Played.events at he
  rw [hended] at he
  split at he
  · cases he
  · next report hr => exact View.no_conversion_of_one_kind hall hr round _ e he

/-- The food has died out after the first round and does not come back. The one hopper has got no
company in the middle of the third. -/
theorem ambush_populations_never_grow :
    ¬ (ambush.boardAt ⟨2, 3⟩).Present ⟨3, Species.food⟩ ∧
      (ambush.boardAt ⟨2, 3⟩).population ⟨1, Species.hopper⟩ ≤ 1 := by
  obtain ⟨hpresent, _, _⟩ := populations_never_grow ambush (m := ⟨1, 0⟩) (n := ⟨2, 3⟩) (by decide)
  obtain ⟨_, hpopulation, _⟩ :=
    populations_never_grow ambush (m := ⟨0, 0⟩) (n := ⟨2, 3⟩) (by decide)
  refine ⟨?_, hpopulation ⟨1, Species.hopper⟩ (by decide)⟩
  intro hfood
  have hback := World.present_iff_population.mp (hpresent _ hfood)
  have hgone : (ambush.boardAt ⟨1, 0⟩).population ⟨3, Species.food⟩ = 0 := rfl
  rw [hgone] at hback
  exact Nat.lt_irrefl 0 hback

end Vivarium
