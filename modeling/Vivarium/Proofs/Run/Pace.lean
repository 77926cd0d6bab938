import Vivarium.Proofs.Run.Budget
import Vivarium.Proofs.Run.Progress

/-! The pace of the classic species. Wherever a turn can begin, their programs come to an act within
five fetches, and only one kind of turn takes as many: that of a rover which has acted before and
now finds its way barred. -/
namespace Vivarium

namespace Program

def Classic (p : Program) : Prop := ∃ entry ∈ Species.library, entry.2.program = p

variable {p : Program} {index : Nat}

theorem settles_five_of_classic (h : p.Classic) (hindex : index < p.length) :
    p.settles 5 index = true := by
  have hlibrary : ∀ entry ∈ Species.library, ∀ i < entry.2.program.length,
      entry.2.program.settles 5 i = true := by decide
  obtain ⟨entry, hentry, rfl⟩ := h
  exact hlibrary entry hentry index hindex

theorem settles_four_of_classic (h : p.Classic) (hindex : index < p.length) :
    p.settles 4 index = true ∨
      p = Species.rover.program ∧ p[index]? = some (.jump .always 0) := by
  have hlibrary : ∀ entry ∈ Species.library, ∀ i < entry.2.program.length,
      entry.2.program.settles 4 i = true ∨ entry.2.program = Species.rover.program ∧
        entry.2.program[i]? = some (.jump .always 0) := by decide
  obtain ⟨entry, hentry, rfl⟩ := h
  exact hlibrary entry hentry index hindex

theorem Classic.endsInGo (h : p.Classic) : p.EndsInGo := by
  obtain ⟨entry, hentry, rfl⟩ := h
  exact Species.endsInGo_of_mem_library hentry

theorem Classic.jumpsInside (h : p.Classic) : p.JumpsInside := by
  obtain ⟨entry, hentry, rfl⟩ := h
  exact Species.jumpsInside_of_check (Species.check_of_mem_library hentry)

end Program

/-- What a rover fetches after a `go`, whatever the coin shows: it looks out for an enemy, for an
empty cell, and then tosses. -/
theorem Deliberation.length_path_of_go {d : Deliberation} (sight : Sight) (budget : Nat)
    (h : Species.rover.program[d.counter]? = some (.jump .always 0)) :
    (path Species.rover.program sight (budget + 5) d).length =
      if sight = .enemy then 3 else if sight = .empty then 4 else 5 := by
  have hgo : path Species.rover.program sight (budget + 5) d =
      d.counter :: path Species.rover.program sight (budget + 4) (d.branch sight .always 0) := by
    simp only [path, h]
  rw [hgo, List.length_cons]
  cases sight with
  | enemy | empty => rfl
  | wall | friend =>
    cases htoss : d.coin.outcome d.coin.flips with
    | true => simp [path, Species.rover, branch, Condition.test, Coin.flip, htoss]
    | false => simp [path, Species.rover, branch, Condition.test, Coin.flip, htoss]

/-! ### Creatures -/

def Kind.Classic (k : Kind) : Prop := k.species.program.Classic

namespace Creature

structure Classic (c : Creature) : Prop extends Sound c where
  program : c.program.Classic

theorem classic_spawn {kind : Kind} (h : kind.Classic) (heading : Heading) :
    (spawn kind heading).Classic :=
  ⟨⟨h.jumpsInside, Program.holds_zero _⟩, h⟩

theorem inherited_classic : Inherited Classic where
  turn c heading sight coin budget hc :=
    ⟨inherited_sound.turn c heading sight coin budget hc.toSound, hc.program⟩
  infection victim infector hvictim hinfector :=
    ⟨inherited_sound.infection victim infector hvictim.toSound hinfector.toSound,
      hinfector.program⟩

end Creature

/-! ### Turns -/

namespace View

/-- It is the turn of a rover that begins with the `go` behind its last act and faces a wall or a
friend. -/
structure Hesitates (v : View) : Prop where
  rover : v.active.program = Species.rover.program
  resumes : v.active.program[v.active.counter]? = some (.jump .always 0)
  barred : v.sight = .wall ∨ v.sight = .friend

variable {v : View} {coin : Coin} {budget : Nat} {report : TurnReport}

theorem length_path_of_hesitates (h : v.Hesitates) (coin : Coin) (budget : Nat) :
    (v.path coin (budget + 5)).length = 5 := by
  have hgo := h.resumes
  unfold path
  rw [h.rover] at hgo ⊢
  rw [Deliberation.length_path_of_go v.sight budget hgo]
  rcases h.barred with hsight | hsight <;> rw [hsight] <;> rfl

theorem length_path_le_five (h : v.active.Classic) (coin : Coin) (budget : Nat) :
    (v.path coin budget).length ≤ 5 :=
  Deliberation.length_path_le_of_settles
    (Program.settles_five_of_classic h.program (h.counter.inside h.program.endsInGo))

theorem hesitates_of_length_path (h : v.active.Classic) (coin : Coin) (budget : Nat)
    (hlong : 4 < (v.path coin (budget + 5)).length) : v.Hesitates := by
  have hinside := h.counter.inside h.program.endsInGo
  rcases Program.settles_four_of_classic h.program hinside with hfour | ⟨hrover, hgo⟩
  · have hshort : (v.path coin (budget + 5)).length ≤ 4 :=
      Deliberation.length_path_le_of_settles hfour
    omega
  · refine ⟨hrover, hgo, ?_⟩
    unfold path at hlong
    rw [hrover] at hgo hlong
    rw [Deliberation.length_path_of_go v.sight budget hgo] at hlong
    cases hsight : v.sight with
    | wall => exact Or.inl rfl
    | friend => exact Or.inr rfl
    | enemy | empty =>
      rw [hsight] at hlong
      contradiction

theorem steps_of_classic (h : v.active.Classic) (hok : (v.turn coin budget).result = .ok report) :
    report.steps ≤ 5 ∧ (report.steps = 5 ↔ v.Hesitates) := by
  -- The turn is the same one under a budget that covers five fetches.
  have hsame : v.turn coin (budget + 5) = v.turn coin budget :=
    turn_of_le_of_ok (Nat.le_add_right budget 5) hok
  rw [← hsame] at hok
  rw [steps_of_ok hok]
  refine ⟨length_path_le_five h coin _, ?_, ?_⟩
  · intro hfive
    exact hesitates_of_length_path h coin budget (by omega)
  · intro hhesitates
    exact length_path_of_hesitates hhesitates coin budget

theorem exists_report_of_classic (h : v.active.Classic) (coin : Coin) (hfour : 4 ≤ budget)
    (hfive : v.Hesitates → 5 ≤ budget) : ∃ report, (v.turn coin budget).result = .ok report := by
  have hcovered : (v.path coin (budget + 1)).length ≤ budget := by
    by_cases hhesitates : v.Hesitates
    · exact Nat.le_trans (length_path_le_five h coin _) (hfive hhesitates)
    · obtain ⟨extra, rfl⟩ := Nat.exists_eq_add_of_le' hfour
      have hshort : (v.path coin (extra + 5)).length ≤ 4 := by
        by_contra hlong
        exact hhesitates (hesitates_of_length_path h coin extra (by omega))
      exact Nat.le_trans hshort hfour
  obtain ⟨a, ha⟩ := Deliberation.decides_of_length_path h.jumps h.program.endsInGo hcovered
    h.counter
  exact exists_report ha

theorem turn_of_four_iff (h : v.active.Classic) (coin : Coin) {fault : Fault} :
    (v.turn coin 4).result = .error fault ↔
      v.Hesitates ∧ fault = .noProgress v.active.symbol 4 := by
  by_cases hhesitates : v.Hesitates
  · have hlong : 4 < (v.path coin 5).length := by
      rw [length_path_of_hesitates hhesitates coin 0]
      omega
    rw [exhausted_of_lt_length_path hlong]
    simp [hhesitates, eq_comm]
  · obtain ⟨report, hok⟩ := exists_report_of_classic h coin (Nat.le_refl 4)
      fun hslow => absurd hslow hhesitates
    rw [hok]
    simp [hhesitates]

end View

/-! ### Rounds -/

namespace Simulation

variable {s : Simulation} {k : Nat}

theorem classic_of_mem_turns (h : s.world.All Creature.Classic) {p : Played}
    (hp : p ∈ (s.after k).turns) : p.start.active.Classic ∧
      ∃ coin, p.ended = p.start.turn coin s.settings.stepBudget := by
  obtain ⟨hreached, hended⟩ := start_of_mem_turns hp
  exact ⟨View.all_active (all_of_reaches Creature.inherited_classic h hreached), hended⟩

theorem step_of_classic (h : s.world.All Creature.Classic) (hfour : 4 ≤ s.settings.stepBudget)
    (hfive : ∀ p ∈ (s.after k).turns, p.start.Hesitates → 5 ≤ s.settings.stepBudget) :
    (s.after k).step.result = .ok (s.after k).report := by
  apply step_of_turns
  intro p hp
  obtain ⟨hclassic, coin, hended⟩ := classic_of_mem_turns h hp
  rw [hended]
  exact View.exists_report_of_classic hclassic coin hfour (hfive p hp)

end Simulation

/-- On a board populated by library species no turn fetches more than five instructions, so with a
budget of five or more no round fails. The turns that fetch five are those of a rover that resumes
behind an act and has a wall or a friend ahead. A round without such turns does with a budget of
four, and with just four any other round fails. -/
theorem classic_turns_take_five_fetches_at_most (s : Simulation)
    (h : s.world.Populated Kind.Classic) :
    (∀ k, ∀ n ∈ (s.after k).step.events.filterMap Event.steps?, n ≤ 5) ∧
    (5 ≤ s.settings.stepBudget → ∀ rounds, (s.run rounds).fault? = none) ∧
    (∀ k, ∀ p ∈ (s.after k).turns, ∀ report, p.ended.result = .ok report →
      (report.steps = 5 ↔ p.start.Hesitates)) ∧
    (4 ≤ s.settings.stepBudget → ∀ k, (∀ p ∈ (s.after k).turns, ¬ p.start.Hesitates) →
      (s.after k).step.result = .ok (s.after k).report ∧
        ∀ n ∈ (s.after k).step.events.filterMap Event.steps?, n ≤ 4) ∧
    (s.settings.stepBudget = 4 → ∀ k fault, (s.after k).step.result = .error fault ↔
      ∃ p ∈ (s.after k).turns, p.start.Hesitates ∧
        fault = .noProgress p.start.active.symbol 4) := by
  have hall : s.world.All Creature.Classic :=
    h.all fun _ heading hkind => Creature.classic_spawn hkind heading
  have hturns : ∀ {k p report}, p ∈ (s.after k).turns → p.ended.result = .ok report →
      report.steps ≤ 5 ∧ (report.steps = 5 ↔ p.start.Hesitates) := by
    intro k p report hp hok
    obtain ⟨hclassic, coin, hended⟩ := Simulation.classic_of_mem_turns hall hp
    rw [hended] at hok
    exact View.steps_of_classic hclassic hok
  refine ⟨?_, ?_, ?_, ?_, ?_⟩
  · intro k n hn
    obtain ⟨p, hp, report, hok, rfl⟩ := Simulation.mem_steps_of_step.mp hn
    exact (hturns hp hok).1
  · intro hfive rounds
    refine Simulation.run_fault?_eq_none_iff.mpr ?_
    intro k _
    exact Simulation.step_of_classic hall (by omega) fun _ _ _ => hfive
  · intro k p hp report hok
    exact (hturns hp hok).2
  · intro hfour k hquick
    refine ⟨Simulation.step_of_classic hall hfour fun p hp hslow => absurd hslow (hquick p hp), ?_⟩
    intro n hn
    obtain ⟨p, hp, report, hok, rfl⟩ := Simulation.mem_steps_of_step.mp hn
    obtain ⟨hle, hiff⟩ := hturns hp hok
    have hne : report.steps ≠ 5 := fun hfive => hquick p hp (hiff.mp hfive)
    omega
  · intro hfour k fault
    rw [Simulation.step_eq_error_iff_turns]
    constructor
    · intro hfails
      obtain ⟨p, hp, hfault⟩ := hfails
      obtain ⟨hclassic, coin, hended⟩ := Simulation.classic_of_mem_turns hall hp
      rw [hended, hfour] at hfault
      exact ⟨p, hp, (View.turn_of_four_iff hclassic coin).mp hfault⟩
    · intro hslow
      obtain ⟨p, hp, hfault⟩ := hslow
      obtain ⟨hclassic, coin, hended⟩ := Simulation.classic_of_mem_turns hall hp
      refine ⟨p, hp, ?_⟩
      rw [hended, hfour]
      exact (View.turn_of_four_iff hclassic coin).mpr hfault

theorem populated_shutIn : shutIn.world.Populated Kind.Classic :=
  have hempty : World.empty 1 1 = .ok _ := rfl
  have hrover : Kind.Classic ⟨0, Species.rover⟩ := ⟨("rover", Species.rover), by decide, rfl⟩
  .place (.empty hempty) hrover (p := ⟨0, 0⟩) (d := .north) rfl

theorem shutIn_keeps_its_pace :
    (∀ rounds, (shutIn.run rounds).fault? = none) ∧
    (∀ k, ∀ n ∈ (shutIn.after k).step.events.filterMap Event.steps?, n ≤ 5) ∧
    ((shutIn.withBudget 4).after 1).step.result = .error (.noProgress "r" 4) := by
  obtain ⟨hsteps, hnever, _⟩ := classic_turns_take_five_fetches_at_most shutIn populated_shutIn
  obtain ⟨_, _, _, _, hfails⟩ :=
    classic_turns_take_five_fetches_at_most (shutIn.withBudget 4) populated_shutIn
  refine ⟨hnever (by decide), hsteps, (hfails rfl 1 _).mpr ?_⟩
  exact ⟨_, List.mem_cons_self, ⟨rfl, rfl, Or.inl rfl⟩, rfl⟩

theorem shutIn_fetches_more_than_four :
    shutIn.world.Populated Kind.Classic ∧
    (shutIn.after 1).step.events.filterMap Event.steps? = [5] ∧
    ((shutIn.withBudget 4).run 2).fault? = some (.noProgress "r" 4) :=
  ⟨populated_shutIn, rfl, rfl⟩

end Vivarium
