import Vivarium.Proofs.Program.Counter
import Vivarium.Proofs.Scenario.Population

/-! What checked species promise of a run: no counter ever leaves the range of its program, and a
round fails only where a program makes no progress or is followed past its end. -/
namespace Vivarium

namespace Creature

/-- What the check of its species and every turn so far say about a creature. -/
structure Sound (c : Creature) : Prop where
  jumps : c.program.JumpsInside
  counter : c.program.Holds c.counter

theorem sound_spawn {kind : Kind} (h : kind.Checked) (heading : Heading) :
    (spawn kind heading).Sound :=
  ⟨Species.jumpsInside_of_check h, Program.holds_zero _⟩

theorem inherited_sound : Inherited Sound where
  turn c _ sight coin budget hc :=
    ⟨hc.jumps, Deliberation.holds_run (d := ⟨c.counter, coin, 0⟩) hc.jumps sight budget hc.counter⟩
  infection _ _ _ hinfector := ⟨hinfector.jumps, Program.holds_zero _⟩

theorem inherited_program (Q : Program → Prop) : Inherited fun c => Q c.program where
  turn _ _ _ _ _ hc := hc
  infection _ _ _ hinfector := hinfector

/-- The faults a round may end with, each on account of a creature. -/
inductive Causes (c : Creature) (budget : Nat) : Fault → Prop where
  | idle : Causes c budget (.noProgress c.symbol budget)
  | past (h : c.counter = c.program.length) :
      Causes c budget (.counterOutOfRange c.symbol c.program.length c.program.length)

end Creature

theorem View.active_causes {v : View} (h : v.active.Sound) {coin : Coin} {budget : Nat}
    {fault : Fault} (hf : (v.turn coin budget).result = .error fault) :
    (v.turn coin budget).view.active.Causes budget fault := by
  have hends := v.turn_ends coin budget
  have hcounter : v.active.program.Holds (⟨v.active.counter, coin, 0⟩ : Deliberation).counter :=
    h.counter
  obtain ⟨heading, hactive⟩ := hends.active
  rw [hactive]
  rcases hends.fault_cases hf with ⟨_, rfl⟩ | ⟨hlost, rfl⟩
  · exact .idle
  · have hend : (v.deliberate coin budget).2.counter = v.active.program.length :=
      Deliberation.lost_at_end h.jumps hcounter hlost
    rw [hend]
    exact .past rfl

namespace Simulation

/-- The contract of a run, whatever rounds of it fail. It is a stricter one where every program ends
in a `go`. -/
structure ErrorContract (s : Simulation) : Prop where
  bounded : ∀ w, s.Reaches w → w.All fun c => c.counter ≤ c.program.length
  faults : ∀ rounds fault, (s.after rounds).step.result = .error fault →
    ∃ slot c, (s.after (rounds + 1)).world.occupant? slot = some c ∧
      c.Causes s.settings.stepBudget fault
  inside : (s.world.All fun c => c.program.EndsInGo) →
    ∀ w, s.Reaches w → w.All fun c => c.counter < c.program.length
  progress : (s.world.All fun c => c.program.EndsInGo) →
    ∀ rounds fault, (s.after rounds).step.result = .error fault →
      ∃ slot c, (s.after (rounds + 1)).world.occupant? slot = some c ∧
        fault = .noProgress c.symbol s.settings.stepBudget

variable {s : Simulation}

theorem exists_cause (h : s.world.All Creature.Sound) {rounds : Nat} {fault : Fault}
    (hf : (s.after rounds).step.result = .error fault) :
    ∃ slot c, (s.after (rounds + 1)).world.occupant? slot = some c ∧
      c.Causes s.settings.stepBudget fault := by
  obtain ⟨v, coin, hall, hresult, hworld⟩ := World.exists_turn_of_fault Creature.inherited_sound
    (World.scheduled_occupiedSlots _) (all_after Creature.inherited_sound h rounds)
    (step_eq_error_iff.mp hf)
  have hleft : (s.after (rounds + 1)).world =
      (v.turn coin (s.after rounds).settings.stepBudget).view.world := by
    rw [after, step_world]
    exact hworld
  rw [s.settings_after] at hleft hresult
  refine ⟨(v.turn coin s.settings.stepBudget).view.slot, _, ?_,
    View.active_causes (View.all_active hall) hresult⟩
  rw [hleft]
  exact View.occupant?_slot _

theorem errorContract_of_sound (h : s.world.All Creature.Sound) : s.ErrorContract := by
  have hinside : (s.world.All fun c => c.program.EndsInGo) →
      ∀ w, s.Reaches w → w.All fun c => c.counter < c.program.length := by
    intro hgo w hw slot c hc
    have hsound := all_of_reaches Creature.inherited_sound h hw slot c hc
    exact hsound.counter.inside
      (all_of_reaches (Creature.inherited_program Program.EndsInGo) hgo hw slot c hc)
  refine ⟨?_, ?_, hinside, ?_⟩
  · intro w hw slot c hc
    exact (all_of_reaches Creature.inherited_sound h hw slot c hc).counter.bounded
  · intro rounds fault hf
    exact exists_cause h hf
  · intro hgo rounds fault hf
    obtain ⟨slot, c, hc, hcauses⟩ := exists_cause h hf
    cases hcauses with
    | idle => exact ⟨slot, c, hc, rfl⟩
    | past hend =>
      have hlt := hinside hgo _ (s.reaches_after (rounds + 1)) slot c hc
      exact absurd hend (Nat.ne_of_lt hlt)

end Simulation

/-- Checked species keep the contract, whoever places them: by hand, or by a scenario that is
accepted. -/
theorem checked_species_keep_contract :
    (∀ s : Simulation, s.world.Populated Kind.Checked → s.ErrorContract) ∧
    ∀ text scenario, Scenario.ofText text = .ok scenario → ∀ coin settings round,
      Simulation.ErrorContract ⟨scenario.world, coin, settings, round⟩ := by
  have hpopulated : ∀ s : Simulation, s.world.Populated Kind.Checked → s.ErrorContract := by
    intro s h
    apply Simulation.errorContract_of_sound
    exact h.all fun kind heading hkind => Creature.sound_spawn hkind heading
  refine ⟨hpopulated, ?_⟩
  intro text scenario h coin settings round
  exact hpopulated _ (Scenario.populated_of_ofText h)

def drifter : Kind := ⟨0, "d", [.act .hop]⟩

def mill : Blueprint where
  rows := 1
  cols := 1
  settings := { stepBudget := 3 }
  species := [⟨some "m", none, some "go 0"⟩]
  creatures := [⟨"m", ⟨0, 0⟩, .north⟩]

def millText : String :=
  "rows = 1\ncols = 1\n[simulation]\nstep_budget = 3\n" ++
    "[[species]]\nsymbol = \"m\"\nprogram = \"go 0\"\n" ++
    "[[creature]]\nspecies = \"m\"\nrow = 0\ncol = 0\nfacing = \"north\"\n"

/-- The drifter falls off its program in its second turn. The mill ends in a `go` and fails in its
first. -/
theorem drifter_and_mill_keep_contract :
    (∃ board world, World.empty 1 2 = .ok board ∧ board.place drifter ⟨0, 0⟩ .east = .ok world ∧
      ∃ slot c, (Simulation.after ⟨world, .scripted #[], {}, 0⟩ 2).world.occupant? slot = some c ∧
        c.Causes 1000 (.counterOutOfRange "d" 1 1)) ∧
    ∃ scenario, Scenario.ofText millText = .ok scenario ∧ ∃ slot c,
      (Simulation.after ⟨scenario.world, .scripted #[], scenario.settings, 0⟩ 1).world.occupant?
        slot = some c ∧ Fault.noProgress "m" 3 = .noProgress c.symbol 3 := by
  obtain ⟨hplaced, haccepted⟩ := checked_species_keep_contract
  constructor
  · have hempty : World.empty 1 2 = .ok _ := rfl
    have hchecked : drifter.Checked := rfl
    have hpopulated := World.Populated.place (.empty hempty) hchecked (p := ⟨0, 0⟩) (d := .east) rfl
    have hcontract := hplaced ⟨_, .scripted #[], {}, 0⟩ hpopulated
    exact ⟨_, _, hempty, rfl, hcontract.faults 1 _ rfl⟩
  · have hread : Blueprint.ofText? millText = some mill := by decide +kernel
    have hbuild : Scenario.ofText millText = mill.build := by simp only [Scenario.ofText, hread]
    have hcontract := haccepted millText _ (hbuild.trans rfl) (.scripted #[]) mill.settings 0
    refine ⟨_, hbuild.trans rfl, hcontract.progress ?_ 0 _ rfl⟩
    intro slot c hc
    cases slot with
    | zero =>
      cases hc
      exact ⟨0, rfl⟩
    | succ slot => cases hc

end Vivarium
