import Vivarium.Proofs.Geometry
import Vivarium.Turn

/-! What a turn does to the board. A turn that fails exchanges the counter of its creature. One that
comes to an act moves or revises its creature, or converts the creature ahead; the creatures that
do not have the turn stay where they are. -/
namespace Vivarium

def Creature.infectedBy (c : Creature) : Option Kind → Creature
  | none => c
  | some kind => c.convert kind

def Act.steer : Act → Heading → Heading
  | .left => Heading.left
  | .right => Heading.right
  | .hop | .infect => id

/-! ### Opening a view -/

namespace World

theorem view_eq_ok {w : World} {slot : Nat} (h : (w.occupant? slot).isSome) :
    w.view slot = .ok ⟨w, slot, h⟩ := dif_pos h

theorem view_eq_ok_iff {w : World} {slot : Nat} {v : View} :
    w.view slot = .ok v ↔ v.world = w ∧ v.slot = slot := by
  constructor
  · intro h
    unfold view at h
    split at h
    · cases h
      exact ⟨rfl, rfl⟩
    · cases h
  · rintro ⟨rfl, rfl⟩
    exact view_eq_ok v.occupied

end World

namespace View

/-! ### Revising the active creature -/

theorem active_eq_of_occupant? {v : View} {c : Creature}
    (h : v.world.occupant? v.slot = some c) : v.active = c := by
  rw [occupant?_slot] at h
  exact Option.some.inj h

theorem occupant?_revise (v : View) (c : Creature) (slot : Nat) :
    (v.revise c).world.occupant? slot =
      if slot = v.slot then some c else v.world.occupant? slot := by
  simp only [revise, World.occupant?_put, v.slot_lt, and_true]

@[simp] theorem active_revise (v : View) (c : Creature) : (v.revise c).active = c :=
  active_eq_of_occupant? (by rw [occupant?_revise]; exact if_pos rfl)

@[simp] theorem slot_revise (v : View) (c : Creature) : (v.revise c).slot = v.slot := rfl

theorem sameShape_revise (v : View) (c : Creature) : v.world.SameShape (v.revise c).world :=
  World.sameShape_put _ _ _

theorem eq_of_world {v u : View} (hworld : u.world = v.world) (hslot : u.slot = v.slot) :
    u = v := by
  cases v
  cases u
  cases hworld
  cases hslot
  rfl

@[simp] theorem revise_revise (v : View) (first last : Creature) :
    (v.revise first).revise last = v.revise last := by
  refine eq_of_world (World.SameShape.eq_of_occupants ⟨rfl, rfl⟩ ?_) rfl
  intro slot
  simp only [occupant?_revise, slot_revise]
  split <;> rfl

theorem ahead?_revise (v : View) {c : Creature} (h : c.heading = v.active.heading) :
    (v.revise c).ahead? = v.ahead? := by
  simp only [ahead?, active_revise, slot_revise, h, (v.sameShape_revise c).neighbor?_eq]

@[simp] theorem active_withCounter (v : View) (counter : Nat) :
    (v.withCounter counter).active = { v.active with counter } := v.active_revise _

@[simp] theorem slot_withCounter (v : View) (counter : Nat) :
    (v.withCounter counter).slot = v.slot := rfl

@[simp] theorem ahead?_withCounter (v : View) (counter : Nat) :
    (v.withCounter counter).ahead? = v.ahead? := v.ahead?_revise rfl

theorem occupant?_withCounter (v : View) (counter slot : Nat) :
    (v.withCounter counter).world.occupant? slot =
      if slot = v.slot then some { v.active with counter } else v.world.occupant? slot :=
  v.occupant?_revise _ slot

theorem sameShape_withCounter (v : View) (counter : Nat) :
    v.world.SameShape (v.withCounter counter).world := v.sameShape_revise _

@[simp] theorem withCounter_withCounter (v : View) (first last : Nat) :
    (v.withCounter first).withCounter last = v.withCounter last := by
  simp only [withCounter, active_revise, revise_revise]

/-! ### Performing an act -/

/-- The ways an act can go, each with the board it leaves. -/
inductive Performs (v : View) : Act → Outcome → View → Prop where
  | moved {target last} (ahead : v.ahead? = some target)
      (free : v.world.occupant? target = none) (shape : v.world.SameShape last.world)
      (slot : last.slot = target)
      (board : ∀ slot, last.world.occupant? slot =
        if slot = target then some v.active
        else if slot = v.slot then none else v.world.occupant? slot) :
      Performs v .hop .moved last
  | blocked (taken : v.facesEmpty = false) : Performs v .hop .blocked v
  | turned {a heading}
      (turn : a = .left ∧ heading = v.active.heading.left ∨
        a = .right ∧ heading = v.active.heading.right) :
      Performs v a .turned (v.revise { v.active with heading })
  | infected {target other last} (ahead : v.ahead? = some target)
      (there : v.world.occupant? target = some other) (enemy : other.kind ≠ v.active.kind)
      (shape : v.world.SameShape last.world) (slot : last.slot = v.slot)
      (board : ∀ slot, last.world.occupant? slot =
        if slot = target then some (other.convert v.active.kind)
        else v.world.occupant? slot) :
      Performs v .infect .infected last
  | noTarget (nobody : v.enemyAhead? = none) : Performs v .infect .noTarget v

theorem hop_performs {v : View} (h : v.facesEmpty = true) :
    ∃ last, v.hop = .ok last ∧ v.Performs .hop .moved last := by
  obtain ⟨target, ahead, free⟩ : ∃ target, v.ahead? = some target ∧
      v.world.occupant? target = none := by
    simpa [facesEmpty, Option.any_eq_true] using h
  have bound : target < v.world.cells.size := World.neighbor?_lt ahead
  unfold hop
  split
  · next hwall =>
    rw [ahead] at hwall
    cases hwall
  · next there hthere =>
    obtain rfl : target = there := Option.some.inj (ahead.symm.trans hthere)
    rw [if_neg (by simp [free])]
    refine ⟨_, rfl, .moved ahead free ?_ rfl ?_⟩
    · exact (World.sameShape_put _ _ _).trans (World.sameShape_put _ _ _)
    · intro slot
      have size := (World.sameShape_put v.world v.slot none).size_eq
      simp only [World.occupant?_put, size, bound, v.slot_lt, and_true]

theorem infect?_performs (v : View) :
    (∃ last, v.infect? = some last ∧ v.Performs .infect .infected last) ∨
      (v.infect? = none ∧ v.enemyAhead? = none) := by
  unfold infect?
  split
  · next wall => exact Or.inr ⟨rfl, by simp [enemyAhead?, wall]⟩
  · next target ahead =>
    split
    · next free => exact Or.inr ⟨rfl, by simp [enemyAhead?, ahead, free]⟩
    · next other there =>
      split
      · next friend =>
        exact Or.inr ⟨rfl, by simp [enemyAhead?, ahead, there, Creature.sameKind, friend]⟩
      · next enemy =>
        refine Or.inl ⟨_, rfl, .infected ahead there enemy (World.sameShape_put _ _ _) rfl ?_⟩
        intro slot
        have bound : target < v.world.cells.size := World.neighbor?_lt ahead
        simp only [World.occupant?_put, bound, and_true]

theorem perform_ok (v : View) (a : Act) :
    ∃ o last, v.perform a = .ok (o, last) ∧ v.Performs a o last := by
  cases a with
  | hop =>
    cases h : v.facesEmpty with
    | false => exact ⟨.blocked, v, by simp [perform, h], .blocked h⟩
    | true =>
      obtain ⟨last, hlast, hp⟩ := hop_performs h
      exact ⟨.moved, last, by simp [perform, h, hlast, Except.map], hp⟩
  | left => exact ⟨.turned, _, rfl, .turned (Or.inl ⟨rfl, rfl⟩)⟩
  | right => exact ⟨.turned, _, rfl, .turned (Or.inr ⟨rfl, rfl⟩)⟩
  | infect =>
    rcases v.infect?_performs with ⟨last, hlast, hp⟩ | ⟨hnone, hnobody⟩
    · exact ⟨.infected, last, by simp [perform, hlast], hp⟩
    · exact ⟨.noTarget, v, by simp [perform, hnone], .noTarget hnobody⟩

def spreads? (v : View) (o : Outcome) (slot : Nat) : Option Kind :=
  if o = .infected ∧ v.ahead? = some slot then some v.active.kind else none

theorem spreads?_eq_none {v : View} {o : Outcome} (h : o ≠ .infected) (slot : Nat) :
    v.spreads? o slot = none := if_neg fun hs => h hs.1

namespace Performs

variable {v last : View} {a : Act} {o : Outcome}

theorem shape (h : v.Performs a o last) : v.world.SameShape last.world := by
  cases h with
  | moved _ _ shape => exact shape
  | blocked => exact .refl _
  | turned => exact v.sameShape_revise _
  | infected _ _ _ shape => exact shape
  | noTarget => exact .refl _

theorem slot_free (h : v.Performs a o last) :
    last.slot = v.slot ∨ v.world.occupant? last.slot = none := by
  cases h with
  | moved _ free _ slot => exact Or.inr (by rw [slot]; exact free)
  | blocked => exact Or.inl rfl
  | turned => exact Or.inl rfl
  | infected _ _ _ _ slot => exact Or.inl slot
  | noTarget => exact Or.inl rfl

theorem infected_ne_slot {target : Nat} {other : Creature}
    (there : v.world.occupant? target = some other) (enemy : other.kind ≠ v.active.kind) :
    v.slot ≠ target := by
  rintro rfl
  rw [active_eq_of_occupant? there] at enemy
  exact enemy rfl

theorem active (h : v.Performs a o last) :
    last.active = { v.active with heading := a.steer v.active.heading } := by
  cases h with
  | moved _ _ _ slot board =>
    apply active_eq_of_occupant?
    rw [board, if_pos slot]
    rfl
  | blocked => rfl
  | turned turn => rcases turn with ⟨rfl, rfl⟩ | ⟨rfl, rfl⟩ <;> exact v.active_revise _
  | infected ahead there enemy _ slot board =>
    apply active_eq_of_occupant?
    rw [slot, board, if_neg (infected_ne_slot there enemy), v.occupant?_slot]
    rfl
  | noTarget => rfl

theorem of_infected (h : v.Performs a .infected last) :
    a = .infect ∧ ∃ target other, v.ahead? = some target ∧
      v.world.occupant? target = some other ∧ other.kind ≠ v.active.kind ∧ target ≠ v.slot ∧
      last.slot = v.slot ∧ last.ahead? = some target := by
  have hactive := h.active
  cases h with
  | @infected target other _ ahead there enemy shape slot =>
    refine ⟨rfl, target, other, ahead, there, enemy, (infected_ne_slot there enemy).symm, slot, ?_⟩
    rw [View.ahead?, hactive, slot, shape.neighbor?_eq]
    exact ahead

theorem board (h : v.Performs a o last) (slot : Nat) :
    last.world.occupant? slot =
      if slot = last.slot then some last.active
      else if slot = v.slot then none
      else (v.world.occupant? slot).map (·.infectedBy (v.spreads? o slot)) := by
  by_cases hslot : slot = last.slot
  · rw [if_pos hslot, hslot]
    exact last.occupant?_slot
  rw [if_neg hslot]
  cases h with
  | moved _ _ _ hlast board =>
    rw [board, if_neg (by rw [← hlast]; exact hslot), spreads?_eq_none (by decide)]
    split
    · rfl
    · simp [Creature.infectedBy]
  | blocked => simp [hslot, spreads?_eq_none, Creature.infectedBy]
  | turned =>
    rw [slot_revise] at hslot
    simp [occupant?_revise, hslot, spreads?_eq_none, Creature.infectedBy]
  | infected ahead there _ _ hlast board =>
    rw [hlast] at hslot
    rw [board, if_neg hslot]
    split
    · next htarget => simp [htarget, there, spreads?, ahead, Creature.infectedBy]
    · next htarget =>
      simp [spreads?, ahead, Ne.symm htarget, Creature.infectedBy]
  | noTarget => simp [hslot, spreads?_eq_none, Creature.infectedBy]

end Performs

/-! ### The whole turn -/

def deliberate (v : View) (coin : Coin) (budget : Nat) : Decision × Deliberation :=
  Deliberation.run v.active.program v.sight budget ⟨v.active.counter, coin, 0⟩

/-- The ways a turn can end, by the decision its creature comes to. -/
inductive Ends (v : View) (budget : Nat) : Decision × Deliberation → Turn → Prop where
  | lost {d} :
      Ends v budget (.lost, d)
        ⟨v.withCounter d.counter, d.coin,
          .error (.counterOutOfRange v.active.symbol d.counter v.active.program.length)⟩
  | undecided {d} :
      Ends v budget (.undecided, d)
        ⟨v.withCounter d.counter, d.coin, .error (.noProgress v.active.symbol budget)⟩
  | acted {d a o last} (performs : (v.withCounter d.counter).Performs a o last) :
      Ends v budget (.act a, d) ⟨last, d.coin, .ok ⟨a, o, d.fetched⟩⟩

theorem turn_ends (v : View) (coin : Coin) (budget : Nat) :
    v.Ends budget (v.deliberate coin budget) (v.turn coin budget) := by
  rcases hd : v.deliberate coin budget with ⟨decision, d⟩
  unfold deliberate at hd
  cases decision with
  | lost =>
    simp only [turn, hd]
    exact .lost
  | undecided =>
    simp only [turn, hd]
    exact .undecided
  | act a =>
    obtain ⟨o, last, hperform, hp⟩ := (v.withCounter d.counter).perform_ok a
    simp only [turn, hd, hperform]
    exact .acted hp

def infects? (v : View) (t : Turn) (slot : Nat) : Option Kind :=
  match t.result with
  | .ok r => v.spreads? r.outcome slot
  | .error _ => none

theorem infects?_eq_some_iff {v : View} {t : Turn} {slot : Nat} {kind : Kind} :
    v.infects? t slot = some kind ↔
      kind = v.active.kind ∧ v.ahead? = some slot ∧
        ∃ r, t.result = .ok r ∧ r.outcome = .infected := by
  unfold infects?
  cases hr : t.result with
  | error fault => simp
  | ok r =>
    change v.spreads? r.outcome slot = some kind ↔ _
    unfold spreads?
    split
    · next hs => simp [hs.1, hs.2, eq_comm]
    · next hs =>
      constructor
      · nofun
      · rintro ⟨_, ahead, _, hok, infected⟩
        cases hok
        exact absurd ⟨infected, ahead⟩ hs

namespace Ends

variable {v : View} {budget : Nat} {decided : Decision × Deliberation} {t : Turn}

theorem shape (h : v.Ends budget decided t) : v.world.SameShape t.view.world := by
  cases h with
  | lost => exact v.sameShape_withCounter _
  | undecided => exact v.sameShape_withCounter _
  | acted hp => exact (v.sameShape_withCounter _).trans hp.shape

theorem slot_free (h : v.Ends budget decided t) :
    t.view.slot = v.slot ∨ v.world.occupant? t.view.slot = none := by
  cases h with
  | lost => exact Or.inl rfl
  | undecided => exact Or.inl rfl
  | acted hp =>
    rcases hp.slot_free with hstay | hfree
    · exact Or.inl hstay
    · rw [occupant?_withCounter] at hfree
      split at hfree
      · cases hfree
      · exact Or.inr hfree

theorem coin (h : v.Ends budget decided t) : t.coin = decided.2.coin := by
  cases h <;> rfl

theorem active (h : v.Ends budget decided t) :
    ∃ heading, t.view.active = { v.active with heading, counter := decided.2.counter } := by
  cases h with
  | lost => exact ⟨v.active.heading, v.active_withCounter _⟩
  | undecided => exact ⟨v.active.heading, v.active_withCounter _⟩
  | acted hp =>
    have hactive := hp.active
    rw [active_withCounter] at hactive
    exact ⟨_, hactive⟩

theorem kind (h : v.Ends budget decided t) : t.view.active.kind = v.active.kind := by
  obtain ⟨heading, hactive⟩ := h.active
  rw [hactive]

/-- The board after a turn, slot by slot: its creature, the slot it left, and the others, of which
one may be infected. -/
theorem board (h : v.Ends budget decided t) (slot : Nat) :
    t.view.world.occupant? slot =
      if slot = t.view.slot then some t.view.active
      else if slot = v.slot then none
      else (v.world.occupant? slot).map (·.infectedBy (v.infects? t slot)) := by
  cases h with
  | lost | undecided =>
    by_cases hslot : slot = v.slot
    · simp [hslot, occupant?_withCounter]
    · simp [hslot, occupant?_withCounter, infects?, Creature.infectedBy]
  | @acted d _ _ _ hp =>
    have hspreads : ∀ o, (v.withCounter d.counter).spreads? o slot = v.spreads? o slot := by
      intro o
      simp [spreads?]
    rw [hp.board, slot_withCounter, hspreads]
    by_cases hslot : slot = v.slot
    · simp [hslot]
    · simp [hslot, occupant?_withCounter, infects?]

theorem bystander (h : v.Ends budget decided t) {slot : Nat} {c : Creature} (hne : slot ≠ v.slot)
    (hc : v.world.occupant? slot = some c) :
    slot ≠ t.view.slot ∧
      t.view.world.occupant? slot = some (c.infectedBy (v.infects? t slot)) := by
  have hslot : slot ≠ t.view.slot := by
    rintro rfl
    rcases h.slot_free with hstay | hfree
    · exact hne hstay
    · rw [hfree] at hc
      cases hc
  refine ⟨hslot, ?_⟩
  rw [h.board, if_neg hslot, if_neg hne, hc, Option.map_some]

theorem of_infected (h : v.Ends budget decided t) {r : TurnReport} (hr : t.result = .ok r)
    (ho : r.outcome = .infected) :
    decided.1 = .act .infect ∧ ∃ target other, v.ahead? = some target ∧
      v.world.occupant? target = some other ∧ other.kind ≠ v.active.kind ∧ target ≠ v.slot ∧
      t.view.slot = v.slot ∧ t.view.ahead? = some target := by
  cases h with
  | lost => cases hr
  | undecided => cases hr
  | acted hp =>
    cases hr
    obtain rfl : _ = Outcome.infected := ho
    obtain ⟨rfl, target, other, ahead, there, enemy, hne, hslot, hahead⟩ := hp.of_infected
    rw [ahead?_withCounter] at ahead
    rw [slot_withCounter] at hne hslot
    rw [occupant?_withCounter, if_neg hne] at there
    rw [active_withCounter] at enemy
    exact ⟨rfl, target, other, ahead, there, enemy, hne, hslot, hahead⟩

/-- A turn fails by a defect of its creature's program only. -/
theorem fault_cases (h : v.Ends budget decided t) {fault : Fault} (hf : t.result = .error fault) :
    decided.1 = .undecided ∧ fault = .noProgress v.active.symbol budget ∨
      decided.1 = .lost ∧ fault = .counterOutOfRange v.active.symbol decided.2.counter
        v.active.program.length := by
  cases h with
  | lost =>
    cases hf
    exact Or.inr ⟨rfl, rfl⟩
  | undecided =>
    cases hf
    exact Or.inl ⟨rfl, rfl⟩
  | acted => cases hf

theorem of_error (h : v.Ends budget decided t) {fault : Fault} (hf : t.result = .error fault) :
    t.view = v.withCounter decided.2.counter := by
  cases h with
  | lost => rfl
  | undecided => rfl
  | acted => cases hf

theorem of_ok (h : v.Ends budget decided t) {r : TurnReport} (hr : t.result = .ok r) :
    decided.1 = .act r.act ∧ r.steps = decided.2.fetched := by
  cases h with
  | lost => cases hr
  | undecided => cases hr
  | acted =>
    cases hr
    exact ⟨rfl, rfl⟩

theorem active_of_ok (h : v.Ends budget decided t) {r : TurnReport} (hr : t.result = .ok r) :
    t.view.active =
      { v.active with heading := r.act.steer v.active.heading, counter := decided.2.counter } := by
  cases h with
  | lost => cases hr
  | undecided => cases hr
  | acted hp =>
    cases hr
    rw [hp.active, active_withCounter]

theorem fault_not_internal (h : v.Ends budget decided t) {fault : Fault}
    (hf : t.result = .error fault) : fault.isInternal = false := by
  rcases h.fault_cases hf with ⟨_, rfl⟩ | ⟨_, rfl⟩ <;> rfl

end Ends

end View

end Vivarium
