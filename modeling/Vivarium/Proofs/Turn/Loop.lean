import Vivarium.Proofs.Turn.Success

/-! The turns of creatures that do one thing only. The programs of the food and of the hopper are an
act and a jump back to it: they look at nothing, toss no coin and come to their act in the first
fetch or in the second. -/
namespace Vivarium

def Program.loop (a : Act) : Program := [.act a, .jump .always 0]

namespace Creature

/-- A creature with one act, which has just been placed or has acted before. -/
structure Loops (a : Act) (c : Creature) : Prop where
  program : c.program = .loop a
  counter : c.counter ≤ 1

def acted (a : Act) (c : Creature) : Creature :=
  { c with heading := a.steer c.heading, counter := 1 }

def telling (round : Nat) (a : Act) (o : Outcome) (p q : Position) (c : Creature) : Event :=
  .turnTaken round c.symbol p q (c.acted a).heading a o (c.counter + 1)

end Creature

theorem Deliberation.run_loop (a : Act) (sight : Sight) {d : Deliberation} {budget : Nat}
    (hcounter : d.counter ≤ 1) (hbudget : 2 ≤ budget) :
    run (.loop a) sight budget d = (.act a, ⟨1, d.coin, d.fetched + d.counter + 1⟩) := by
  obtain ⟨extra, rfl⟩ := Nat.exists_eq_add_of_le' hbudget
  rcases d with ⟨counter, coin, fetched⟩
  cases counter with
  | zero => rfl
  | succ counter =>
    obtain rfl : counter = 0 := Nat.le_zero.mp (Nat.le_of_succ_le_succ hcounter)
    rfl

namespace World.Effect

variable {w u : World} {slot landing : Nat} {c : Creature} {o : Outcome}
  {board : Nat → Option Creature}

theorem of_left (h : w.Effect slot c .left o landing board) : o = .turned ∧ landing = slot ∧
    board = Function.update w.occupant? slot (some { c with heading := c.heading.left }) := by
  cases h
  exact ⟨rfl, rfl, rfl⟩

theorem of_hop (h : w.Effect slot c .hop o landing board) :
    board = Function.update (Function.update w.occupant? slot none) landing (some c) := by
  cases h with
  | moved ahead free => rfl
  | blocked barred => rw [Function.update_idem]

theorem ne_landing_of_hop (h : w.Effect slot c .hop o landing board) {x : Nat} (hne : x ≠ slot)
    (hx : (w.occupant? x).isSome) : x ≠ landing := by
  cases h with
  | moved ahead free =>
    rintro rfl
    rw [free] at hx
    cases hx
  | blocked barred => exact hne

theorem hop_of_taken (h : w.Effect slot c .hop o landing board) (hshape : w.SameShape u)
    (htaken : ∀ x, (u.occupant? x).isSome = (w.occupant? x).isSome) :
    ∃ board', u.Effect slot c .hop o landing board' := by
  cases h with
  | moved ahead free =>
    refine ⟨_, .moved (by rw [hshape.neighbor?_eq, ahead]) ?_⟩
    rw [← Option.isNone_iff_eq_none, ← Option.not_isSome, htaken, free]
    rfl
  | blocked barred =>
    refine ⟨_, .blocked ?_⟩
    intro target ahead
    rw [hshape.neighbor?_eq] at ahead
    rw [htaken]
    exact barred target ahead

end World.Effect

namespace View

variable {v : View} {a : Act} {budget : Nat}

theorem turn_of_loops (h : v.active.Loops a) (hact : a ≠ .infect) (hbudget : 2 ≤ budget)
    (coin : Coin) :
    ∃ report, (v.turn coin budget).result = .ok report ∧
      (∀ round, (v.turn coin budget).view.events round v.position report =
        [v.active.telling round a report.outcome v.position (v.turn coin budget).view.position]) ∧
      v.world.Effect v.slot { v.active with counter := 1 } a report.outcome
        (v.turn coin budget).view.slot (v.turn coin budget).view.world.occupant? := by
  have hdecided : v.deliberate coin budget = (.act a, ⟨1, coin, v.active.counter + 1⟩) := by
    rw [deliberate, h.program, Deliberation.run_loop a v.sight h.counter hbudget, Nat.zero_add]
  have hdone : (v.deliberate coin budget).1 = .act a := by rw [hdecided]
  obtain ⟨report, hok⟩ := exists_report hdone
  have hends := v.turn_ends coin budget
  rw [hdecided] at hends
  obtain ⟨hsame, hsteps⟩ := hends.of_ok hok
  obtain rfl : a = report.act := Decision.act.inj hsame
  have heffect := hends.effect hok
  have hquiet : report.outcome ≠ .infected := fun ho => hact (heffect.infected_iff.mp ho).1
  refine ⟨report, hok, ?_, heffect⟩
  intro round
  rw [events_of_not_infected hquiet, hends.active_of_ok hok, hsteps]
  rfl

end View

end Vivarium
