import Vivarium.Proofs.Program.Flow
import Vivarium.Proofs.Run.Course
import Vivarium.Proofs.Run.ErrorContract
import Vivarium.Proofs.Run.Turns
import Vivarium.Proofs.Turn.Steps

/-! What can be told from the programs alone: where control flow has no cycle and does not run past
the end, every turn comes to an act within as many fetches as its program has instructions, so no
round of any run fails. -/
namespace Vivarium

structure Kind.Decisive (k : Kind) : Prop where
  checked : k.Checked
  endsInGo : k.species.program.EndsInGo
  acyclic : k.species.program.Acyclic

namespace Species

theorem acyclic_of_mem_library : ∀ entry ∈ library, entry.2.program.Acyclic := by decide

theorem endsInGo_of_mem_library {entry : String × Species} (h : entry ∈ library) :
    entry.2.program.EndsInGo := by
  simp only [library, List.mem_cons, List.not_mem_nil, or_false] at h
  rcases h with rfl | rfl | rfl | rfl <;> exact ⟨0, rfl⟩

theorem decisive_of_mem_library {entry : String × Species} (h : entry ∈ library) (tag : Nat) :
    Kind.Decisive ⟨tag, entry.2⟩ :=
  ⟨check_of_mem_library h, endsInGo_of_mem_library h, acyclic_of_mem_library entry h⟩

end Species

namespace Creature

/-- A creature of a decisive kind, at a place of its program that it can come to, with a budget for
the whole program. -/
structure Decisive (budget : Nat) (c : Creature) : Prop extends Sound c where
  endsInGo : c.program.EndsInGo
  acyclic : c.program.Acyclic
  affordable : c.program.length ≤ budget

theorem inherited_decisive (budget : Nat) : Inherited (Decisive budget) where
  turn c heading sight coin turnBudget hc :=
    ⟨inherited_sound.turn c heading sight coin turnBudget hc.toSound, hc.endsInGo, hc.acyclic,
      hc.affordable⟩
  infection victim infector hvictim hinfector :=
    ⟨inherited_sound.infection victim infector hvictim.toSound hinfector.toSound,
      hinfector.endsInGo, hinfector.acyclic, hinfector.affordable⟩

end Creature

theorem View.turn_of_decisive {v : View} {budget : Nat} (h : v.active.Decisive budget)
    (coin : Coin) : ∃ report, (v.turn coin budget).result = .ok report ∧
      report.steps ≤ v.active.program.length := by
  have hstart : v.active.program.Holds (⟨v.active.counter, coin, 0⟩ : Deliberation).counter :=
    h.counter
  obtain ⟨a, ha⟩ := Deliberation.decides_of_acyclic h.jumps h.endsInGo h.acyclic v.sight
    h.affordable hstart
  obtain ⟨report, hreport⟩ := View.exists_report ha
  refine ⟨report, hreport, ?_⟩
  rw [View.steps_of_ok hreport]
  exact h.acyclic.length_le (Deliberation.isChain_path v.sight budget _)
    fun _ => Deliberation.lt_length_of_mem_path

namespace Simulation

variable {s : Simulation}

theorem advance_of_ok {rounds : Nat}
    (h : ∀ k < rounds, ∃ report, (s.after k).step.result = .ok report) :
    (s.advance rounds).fault? = none ∧
      (s.advance rounds).rounds = (List.range rounds).map fun k => (s.after k).step := by
  induction rounds generalizing s with
  | zero => exact ⟨rfl, rfl⟩
  | succ rounds ih =>
    obtain ⟨report, hreport⟩ := h 0 (Nat.zero_lt_succ rounds)
    have hrest : ∀ k < rounds, ∃ report, (s.step.simulation.after k).step.result = .ok report := by
      intro k hk
      rw [after_step]
      exact h (k + 1) (Nat.succ_lt_succ hk)
    obtain ⟨hfault, hrounds⟩ := ih hrest
    rw [after] at hreport
    simp only [advance, hreport]
    refine ⟨hfault, ?_⟩
    rw [hrounds, List.range_succ_eq_map, List.map_cons, List.map_map]
    simp only [after_step, Function.comp_def, after]

theorem step_of_turns (h : ∀ p ∈ s.turns, ∃ report, p.ended.result = .ok report) :
    s.step.result = .ok s.report := by
  cases hresult : s.step.result with
  | ok report => rw [report_of_step hresult]
  | error fault =>
    obtain ⟨p, hp, hfault⟩ := step_eq_error_iff_turns.mp hresult
    obtain ⟨report, hok⟩ := h p hp
    rw [hok] at hfault
    cases hfault

theorem step_of_decisive (h : s.world.All (Creature.Decisive s.settings.stepBudget)) :
    ∃ report, s.step.result = .ok report := by
  refine ⟨s.report, step_of_turns ?_⟩
  intro p hp
  obtain ⟨hreached, coin, hended⟩ := start_of_mem_turns (s := s) (k := 0) hp
  have hactive := View.all_active (all_of_reaches (Creature.inherited_decisive _) h hreached)
  obtain ⟨report, hok, _⟩ := View.turn_of_decisive hactive coin
  exact ⟨report, hended ▸ hok⟩

end Simulation

/-- On a board populated by decisive kinds, with a budget for the longest program, all rounds of all
runs succeed, and no turn fetches more than its creature's program has instructions. The library
species are decisive. -/
theorem decisive_kinds_never_fail :
    (∀ entry ∈ Species.library, ∀ tag, Kind.Decisive ⟨tag, entry.2⟩) ∧
    ∀ s : Simulation, s.world.Populated Kind.Decisive →
      (s.world.All fun c => c.program.length ≤ s.settings.stepBudget) →
      (∀ rounds, (s.run rounds).fault? = none ∧
        (s.run rounds).rounds = (List.range rounds).map fun k => (s.after k).step) ∧
      (∀ rounds, ∃ report, (s.after rounds).step.result = .ok report ∧
        report.events = (s.after rounds).turns.flatMap (Played.events report.round)) ∧
      ∀ m p, s.turnAt? m = some p → ∃ report, p.ended.result = .ok report ∧
        report.steps ≤ p.start.active.program.length := by
  refine ⟨fun _ h => Species.decisive_of_mem_library h, ?_⟩
  intro s hpopulated hbudget
  have hplaced : s.world.All fun c => c.Sound ∧ c.program.EndsInGo ∧ c.program.Acyclic :=
    hpopulated.all fun kind heading hkind =>
      ⟨Creature.sound_spawn hkind.checked heading, hkind.endsInGo, hkind.acyclic⟩
  have hall : s.world.All (Creature.Decisive s.settings.stepBudget) := by
    intro slot c hc
    obtain ⟨hsound, hgo, hacyclic⟩ := hplaced slot c hc
    exact ⟨hsound, hgo, hacyclic, hbudget slot c hc⟩
  have hrounds : ∀ rounds, ∃ report, (s.after rounds).step.result = .ok report := by
    intro rounds
    apply Simulation.step_of_decisive
    rw [s.settings_after]
    exact Simulation.all_after (Creature.inherited_decisive _) hall rounds
  refine ⟨fun rounds => Simulation.advance_of_ok fun k _ => hrounds k, ?_, ?_⟩
  · intro rounds
    obtain ⟨report, hreport⟩ := hrounds rounds
    exact ⟨report, hreport, Simulation.events_of_step hreport⟩
  intro m p hp
  obtain ⟨hstart, coin, hended⟩ := Simulation.start_of_turnAt? hp
  have hboard :=
    Simulation.all_of_reaches (Creature.inherited_decisive _) hall (s.reaches_boardAt m)
  rw [← hstart] at hboard
  rw [hended]
  exact View.turn_of_decisive (View.all_active hboard) coin

theorem rover_and_trap_never_fail :
    ∃ board halfway world, World.empty 1 2 = .ok board ∧
      board.place ⟨0, Species.rover⟩ ⟨0, 0⟩ .east = .ok halfway ∧
      halfway.place ⟨1, Species.trap⟩ ⟨0, 1⟩ .west = .ok world ∧
      ∀ coin rounds, ((⟨world, coin, { stepBudget := 11 }, 0⟩ : Simulation).run rounds).fault? =
        none := by
  obtain ⟨hlibrary, hnever⟩ := decisive_kinds_never_fail
  have hempty : World.empty 1 2 = .ok _ := rfl
  have hrover : Kind.Decisive ⟨0, Species.rover⟩ := hlibrary ("rover", Species.rover) (by decide) 0
  have htrap : Kind.Decisive ⟨1, Species.trap⟩ := hlibrary ("trap", Species.trap) (by decide) 1
  have hhalfway := World.Populated.place (.empty hempty) hrover (p := ⟨0, 0⟩) (d := .east) rfl
  have hpopulated := hhalfway.place htrap (p := ⟨0, 1⟩) (d := .west) rfl
  refine ⟨_, _, _, hempty, rfl, rfl, ?_⟩
  intro coin rounds
  refine ((hnever ⟨_, coin, { stepBudget := 11 }, 0⟩ hpopulated ?_).1 rounds).1
  rintro (_ | _ | slot) c hc
  · cases hc
    exact Nat.le_refl 11
  · cases hc
    exact (by decide : 5 ≤ 11)
  · cases hc

end Vivarium
