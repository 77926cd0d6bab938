import Mathlib.Logic.Function.Basic
import Vivarium.Proofs.Round.Schedule
import Vivarium.Proofs.Turn.Locality
import Vivarium.Proofs.Turn.Steps

/-! The effect of a turn that succeeds. What its creature does to the board follows from the board,
the place and heading of the creature and the act it comes to; the deliberation before leaves a
trace in the counter of the creature only. -/
namespace Vivarium

open Function (update)

namespace World

/-- What the acts of a creature in a slot of a board do: their outcome, where the creature is
afterwards, and what all slots hold then. -/
inductive Effect (w : World) (slot : Nat) (c : Creature) :
    Act → Outcome → Nat → (Nat → Option Creature) → Prop where
  | moved {target} (ahead : w.neighbor? slot c.heading = some target)
      (free : w.occupant? target = none) :
      Effect w slot c .hop .moved target (update (update w.occupant? slot none) target (some c))
  | blocked (barred : ∀ target, w.neighbor? slot c.heading = some target →
        (w.occupant? target).isSome) :
      Effect w slot c .hop .blocked slot (update w.occupant? slot (some c))
  | left :
      Effect w slot c .left .turned slot
        (update w.occupant? slot (some { c with heading := c.heading.left }))
  | right :
      Effect w slot c .right .turned slot
        (update w.occupant? slot (some { c with heading := c.heading.right }))
  | infected {target other} (ahead : w.neighbor? slot c.heading = some target)
      (there : w.occupant? target = some other) (enemy : other.kind ≠ c.kind) :
      Effect w slot c .infect .infected slot
        (update (update w.occupant? slot (some c)) target (some ⟨c.kind, other.heading, 0⟩))
  | noTarget (nobody : ∀ target other, w.neighbor? slot c.heading = some target →
        w.occupant? target = some other → other.kind = c.kind) :
      Effect w slot c .infect .noTarget slot (update w.occupant? slot (some c))

namespace Effect

variable {w : World} {slot landing : Nat} {c : Creature} {a : Act} {o : Outcome}
  {board : Nat → Option Creature}

theorem moved_iff (h : w.Effect slot c a o landing board) : o = .moved ↔
    a = .hop ∧ ∃ target, w.neighbor? slot c.heading = some target ∧ w.occupant? target = none := by
  cases h with
  | moved ahead free => exact ⟨fun _ => ⟨rfl, _, ahead, free⟩, fun _ => rfl⟩
  | blocked barred =>
    refine ⟨nofun, ?_⟩
    rintro ⟨_, target, ahead, free⟩
    have hthere := barred target ahead
    rw [free] at hthere
    cases hthere
  | left | right | infected | noTarget => exact ⟨nofun, fun h => nomatch h.1⟩

theorem infected_iff (h : w.Effect slot c a o landing board) : o = .infected ↔
    a = .infect ∧ ∃ target other, w.neighbor? slot c.heading = some target ∧
      w.occupant? target = some other ∧ other.kind ≠ c.kind := by
  cases h with
  | infected ahead there enemy => exact ⟨fun _ => ⟨rfl, _, _, ahead, there, enemy⟩, fun _ => rfl⟩
  | noTarget nobody =>
    refine ⟨nofun, ?_⟩
    rintro ⟨_, target, other, ahead, there, enemy⟩
    exact absurd (nobody target other ahead there) enemy
  | moved | blocked | left | right => exact ⟨nofun, fun h => nomatch h.1⟩

theorem unchanged (h : w.Effect slot c a o landing board) {other : Nat} (hother : other ≠ slot)
    (hahead : w.neighbor? slot c.heading ≠ some other) : board other = w.occupant? other := by
  have hne : ∀ {target}, w.neighbor? slot c.heading = some target → other ≠ target := by
    rintro target ahead rfl
    exact hahead ahead
  cases h with
  | moved ahead => rw [Function.update_of_ne (hne ahead), Function.update_of_ne hother]
  | infected ahead => rw [Function.update_of_ne (hne ahead), Function.update_of_ne hother]
  | blocked | left | right | noTarget => rw [Function.update_of_ne hother]

end Effect

end World

namespace View

variable {v last : View} {a : Act} {o : Outcome} {counter : Nat}

theorem occupants_revise (v : View) (c : Creature) :
    (v.revise c).world.occupant? = update v.world.occupant? v.slot (some c) := by
  funext slot
  rw [occupant?_revise, Function.update_apply]

theorem occupants_withCounter (v : View) (counter : Nat) :
    (v.withCounter counter).world.occupant? =
      update v.world.occupant? v.slot (some { v.active with counter }) :=
  v.occupants_revise _

theorem isSome_of_sight_ne_empty (hsight : v.sight ≠ .empty) {target : Nat}
    (ahead : v.ahead? = some target) : (v.world.occupant? target).isSome := by
  by_contra hfree
  apply hsight
  rw [← facesEmpty_iff, facesEmpty, ahead]
  simpa using hfree

theorem kind_of_sight_ne_enemy (hsight : v.sight ≠ .enemy) {target : Nat} {other : Creature}
    (ahead : v.ahead? = some target) (there : v.world.occupant? target = some other) :
    other.kind = v.active.kind := by
  by_contra henemy
  apply hsight
  rw [← enemyAhead?_isSome_iff, enemyAhead?, ahead]
  simp [there, Creature.sameKind, Ne.symm henemy]

/-- An act that follows a deliberation has the effect that it would have had at once, on a creature
with another counter. -/
theorem Performs.effect (h : (v.withCounter counter).Performs a o last) :
    v.world.Effect v.slot { v.active with counter } a o last.slot last.world.occupant? := by
  have hahead : (v.withCounter counter).ahead? = v.ahead? := v.ahead?_withCounter counter
  have hsight : (v.withCounter counter).sight = v.sight := v.sight_withCounter counter
  cases h with
  | @moved target _ ahead free _ slot board =>
    rw [hahead] at ahead
    have hne : target ≠ v.slot := by
      rintro rfl
      rw [occupant?_withCounter, if_pos rfl] at free
      cases free
    rw [occupant?_withCounter, if_neg hne] at free
    have hboard : last.world.occupant? = update (update v.world.occupant? v.slot none) target
        (some { v.active with counter }) := by
      funext there
      rw [board, active_withCounter, slot_withCounter, Function.update_apply, Function.update_apply,
        occupant?_withCounter]
      split
      · rfl
      · split <;> rfl
    rw [slot, hboard]
    exact .moved ahead free
  | blocked taken =>
    rw [occupants_withCounter]
    have hbarred : v.sight ≠ .empty := by
      rw [← hsight, Ne, ← facesEmpty_iff, taken]
      exact Bool.false_ne_true
    exact .blocked fun target ahead => isSome_of_sight_ne_empty hbarred ahead
  | turned turn =>
    rw [active_withCounter] at turn ⊢
    rw [occupants_revise, occupants_withCounter, slot_withCounter, Function.update_idem]
    rcases turn with ⟨rfl, rfl⟩ | ⟨rfl, rfl⟩
    · exact .left
    · exact .right
  | @infected target other _ ahead there enemy _ slot board =>
    rw [hahead] at ahead
    rw [active_withCounter] at enemy
    have hne : target ≠ v.slot := by
      rintro rfl
      rw [occupant?_withCounter, if_pos rfl] at there
      cases there
      exact enemy rfl
    rw [occupant?_withCounter, if_neg hne] at there
    have hboard : last.world.occupant? =
        update (update v.world.occupant? v.slot (some { v.active with counter })) target
          (some ⟨v.active.kind, other.heading, 0⟩) := by
      funext there
      rw [board, ← occupants_withCounter, Function.update_apply, active_withCounter]
      rfl
    rw [slot, hboard]
    exact .infected ahead there enemy
  | noTarget nobody =>
    rw [occupants_withCounter]
    have hfriendly : v.sight ≠ .enemy := by
      rw [← hsight, Ne, ← enemyAhead?_isSome_iff, nobody]
      exact Bool.false_ne_true
    exact .noTarget fun target other ahead there => kind_of_sight_ne_enemy hfriendly ahead there

theorem Ends.effect {budget : Nat} {decided : Decision × Deliberation} {t : Turn}
    (h : v.Ends budget decided t) {r : TurnReport} (hr : t.result = .ok r) :
    v.world.Effect v.slot { v.active with counter := decided.2.counter } r.act r.outcome
      t.view.slot t.view.world.occupant? := by
  cases h with
  | lost => cases hr
  | undecided => cases hr
  | acted hp =>
    cases hr
    exact hp.effect

end View

/-- A turn that succeeds has fetched at least an act and at most its budget. The act is the
instruction in front of where its creature's counter ends, in the program of the kind that the
creature had and keeps. The rest is the effect of that act, and the deliberation before leaves no
trace but the counter: a hop moves exactly if the cell ahead is on the board and empty, an infection
converts exactly a creature of another kind ahead, and cells that are neither the creature's nor the
one ahead are as they were. -/
theorem successful_turns_have_their_effect (v : View) (coin : Coin) (budget : Nat)
    {report : TurnReport} (h : (v.turn coin budget).result = .ok report) :
    1 ≤ report.steps ∧ report.steps ≤ budget ∧
    v.world.SameShape (v.turn coin budget).view.world ∧
    (v.turn coin budget).view.active.kind = v.active.kind ∧
    ∃ index, (v.turn coin budget).view.active.counter = index + 1 ∧
      v.active.program[index]? = some (.act report.act) ∧
      v.world.Effect v.slot { v.active with counter := index + 1 } report.act report.outcome
        (v.turn coin budget).view.slot (v.turn coin budget).view.world.occupant? ∧
      (report.outcome = .moved ↔ report.act = .hop ∧
        ∃ target, v.world.neighbor? v.slot v.active.heading = some target ∧
          v.world.occupant? target = none) ∧
      (report.outcome = .infected ↔ report.act = .infect ∧
        ∃ target other, v.world.neighbor? v.slot v.active.heading = some target ∧
          v.world.occupant? target = some other ∧ other.kind ≠ v.active.kind) ∧
      ∀ slot, slot ≠ v.slot → v.world.neighbor? v.slot v.active.heading ≠ some slot →
        (v.turn coin budget).view.world.occupant? slot = v.world.occupant? slot := by
  have hends := v.turn_ends coin budget
  obtain ⟨hact, _⟩ := hends.of_ok h
  obtain ⟨index, hcounter, hi⟩ : ∃ index, (v.deliberate coin budget).2.counter = index + 1 ∧
      v.active.program[index]? = some (.act report.act) := Deliberation.getElem?_of_act hact
  have heffect := hends.effect h
  rw [hcounter] at heffect
  refine ⟨View.steps_pos h, View.steps_le_budget h, hends.shape, hends.kind, index, ?_, hi, heffect,
    heffect.moved_iff, heffect.infected_iff, fun slot => heffect.unchanged⟩
  obtain ⟨heading, hactive⟩ := hends.active
  rw [hactive]
  exact hcounter

theorem ambush_rover_strikes :
    ∃ v, ambush.world.view 3 = .ok v ∧
      (v.turn ambush.coin 1000).result = .ok ⟨.infect, .infected, 2⟩ ∧
      v.active.program[9]? = some (.act .infect) ∧
      (∃ target other, ambush.world.neighbor? 3 .east = some target ∧
        ambush.world.occupant? target = some other ∧ other.kind ≠ ⟨2, Species.rover⟩) ∧
      ∀ slot, slot ≠ 3 → slot ≠ 4 →
        (v.turn ambush.coin 1000).view.world.occupant? slot = ambush.world.occupant? slot := by
  have hok : ((⟨ambush.world, 3, rfl⟩ : View).turn ambush.coin 1000).result =
      .ok ⟨.infect, .infected, 2⟩ := rfl
  obtain ⟨_, _, _, _, index, hcounter, hi, _, _, hinfected, hframe⟩ :=
    successful_turns_have_their_effect _ ambush.coin 1000 hok
  obtain rfl : 9 = index := Nat.succ.inj hcounter
  obtain ⟨_, hvictim⟩ := hinfected.mp rfl
  refine ⟨_, rfl, hok, hi, hvictim, ?_⟩
  intro slot hslot hahead
  exact hframe slot hslot fun h => hahead (Option.some.inj h).symm

end Vivarium
