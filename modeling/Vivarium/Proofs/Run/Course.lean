import Vivarium.Proofs.Run.Creatures

/-! The course of a run: the rounds that it plays, up to the first that fails, and what it keeps of
them. All of it is told by the states that its rounds lead to. -/
namespace Vivarium.Simulation

def report (s : Simulation) : RoundReport :=
  ⟨s.round + 1, s.progress.events, s.progress.world.census⟩

def Succeeds (s : Simulation) (rounds : Nat) : Prop :=
  ∀ k < rounds, (s.after k).step.result = .ok (s.after k).report

structure FailsAfter (s : Simulation) (rounds : Nat) (fault : Fault) : Prop where
  earlier : s.Succeeds rounds
  last : (s.after rounds).step.result = .error fault

variable {s : Simulation} {rounds k : Nat} {fault : Fault}

theorem report_of_step {report : RoundReport} (h : s.step.result = .ok report) :
    report = s.report := (step_eq_ok_iff.mp h).2.symm

theorem census_report (s : Simulation) : s.report.census = (s.after 1).world.census := by
  rw [after, after, step_world]
  rfl

theorem after_step (s : Simulation) (rounds : Nat) :
    s.step.simulation.after rounds = s.after (rounds + 1) := by
  induction rounds with
  | zero => rfl
  | succ rounds ih => rw [after, ih, ← after]

theorem round_after (s : Simulation) (rounds : Nat) :
    (s.after rounds).round = s.round + rounds := by
  induction rounds with
  | zero => rfl
  | succ rounds ih =>
    have hstep : (s.after rounds).step.simulation.round = (s.after rounds).round + 1 := by
      simp only [step]
      split <;> rfl
    rw [after, hstep, ih, Nat.add_assoc]

theorem succeeds_succ_iff : s.Succeeds (rounds + 1) ↔
    s.step.result = .ok s.report ∧ s.step.simulation.Succeeds rounds := by
  constructor
  · intro h
    refine ⟨h 0 (Nat.zero_lt_succ rounds), ?_⟩
    intro k hk
    rw [after_step]
    exact h (k + 1) (Nat.succ_lt_succ hk)
  · intro h k hk
    obtain ⟨hfirst, hrest⟩ := h
    cases k with
    | zero => exact hfirst
    | succ k =>
      rw [← after_step]
      exact hrest k (Nat.lt_of_succ_lt_succ hk)

theorem succeeds_or_failsAfter (s : Simulation) (rounds : Nat) :
    s.Succeeds rounds ∨ ∃ k < rounds, ∃ fault, s.FailsAfter k fault := by
  induction rounds with
  | zero => exact Or.inl nofun
  | succ rounds ih =>
    rcases ih with hok | ⟨k, hk, hfails⟩
    · cases hresult : (s.after rounds).step.result with
      | error fault => exact Or.inr ⟨rounds, Nat.lt_succ_self rounds, fault, hok, hresult⟩
      | ok report =>
        refine Or.inl ?_
        intro k hk
        by_cases hlast : k = rounds
        · rw [hlast, hresult, report_of_step hresult]
        · exact hok k (by omega)
    · exact Or.inr ⟨k, by omega, hfails⟩

/-! ### What a run keeps -/

def observations (s : Simulation) (rounds : Nat) : List Observation :=
  (List.range (rounds + 1)).map fun k => (s.after k).observe

def reports (s : Simulation) (rounds : Nat) : List RoundReport :=
  (List.range rounds).map fun k => (s.after k).report

theorem observations_succ (s : Simulation) (rounds : Nat) :
    s.observations (rounds + 1) = s.observe :: s.step.simulation.observations rounds := by
  unfold observations
  rw [List.range_succ_eq_map, List.map_cons, List.map_map]
  simp only [Function.comp_def, after_step]
  rfl

theorem reports_succ (s : Simulation) (rounds : Nat) :
    s.reports (rounds + 1) = s.report :: s.step.simulation.reports rounds := by
  unfold reports
  rw [List.range_succ_eq_map, List.map_cons, List.map_map]
  simp only [Function.comp_def, after_step]
  rfl

theorem take_observations (s : Simulation) (h : k ≤ rounds) :
    (s.observations rounds).take (k + 1) = s.observations k := by
  unfold observations
  rw [← List.map_take, List.take_range, Nat.min_eq_left (Nat.succ_le_succ h)]

theorem take_reports (s : Simulation) (h : k ≤ rounds) :
    (s.reports rounds).take k = s.reports k := by
  unfold reports
  rw [← List.map_take, List.take_range, Nat.min_eq_left h]

theorem of_getElem?_reports {report : RoundReport} (h : (s.reports rounds)[k]? = some report) :
    report.round = s.round + k + 1 ∧ report.census = (s.after (k + 1)).world.census := by
  rw [reports, List.getElem?_map] at h
  obtain ⟨j, hj, rfl⟩ := Option.map_eq_some_iff.mp h
  obtain ⟨hlt, hjk⟩ := List.getElem?_eq_some_iff.mp hj
  rw [List.getElem_range] at hjk
  subst hjk
  refine ⟨?_, (s.after k).census_report⟩
  rw [report, round_after]

/-- What a run comes to, told by the rounds that succeed. -/
structure Course (s : Simulation) (played : Nat) (last : Simulation) (fault? : Option Fault)
    (r : RunEnd) : Prop where
  simulation : r.simulation = last
  observed : r.observed = s.observations played
  reports : r.reports = s.reports played
  fault : r.fault? = fault?

theorem run_succ_of_ok (h : s.step.result = .ok s.report) (rounds : Nat) :
    (s.run (rounds + 1)).simulation = (s.step.simulation.run rounds).simulation ∧
      (s.run (rounds + 1)).observed = s.observe :: (s.step.simulation.run rounds).observed ∧
      (s.run (rounds + 1)).reports = s.report :: (s.step.simulation.run rounds).reports ∧
      (s.run (rounds + 1)).fault? = (s.step.simulation.run rounds).fault? := by
  simp only [run, advance, h, RunEnd.reports, List.filterMap_cons, and_true, true_and]
  rfl

theorem course_of_succeeds (h : s.Succeeds rounds) :
    s.Course rounds (s.after rounds) none (s.run rounds) := by
  induction rounds generalizing s with
  | zero => exact ⟨rfl, rfl, rfl, rfl⟩
  | succ rounds ih =>
    obtain ⟨hfirst, hrest⟩ := succeeds_succ_iff.mp h
    obtain ⟨hlast, hobserved, hreports, hfault⟩ := run_succ_of_ok hfirst rounds
    have hcourse := ih hrest
    refine ⟨?_, ?_, ?_, ?_⟩
    · rw [hlast, hcourse.simulation, after_step]
    · rw [hobserved, hcourse.observed, observations_succ]
    · rw [hreports, hcourse.reports, reports_succ]
    · rw [hfault, hcourse.fault]

theorem failsAfter_succ (h : s.FailsAfter (k + 1) fault) :
    s.step.result = .ok s.report ∧ s.step.simulation.FailsAfter k fault := by
  obtain ⟨hfirst, hrest⟩ := succeeds_succ_iff.mp h.earlier
  refine ⟨hfirst, hrest, ?_⟩
  rw [after_step]
  exact h.last

theorem course_of_failsAfter (h : s.FailsAfter k fault) (hk : k < rounds) :
    s.Course k (s.after (k + 1)) (some fault) (s.run rounds) := by
  obtain ⟨rounds, rfl⟩ : ∃ more, rounds = more + 1 := ⟨rounds - 1, by omega⟩
  induction k generalizing s rounds with
  | zero =>
    have hresult : s.step.result = .error fault := h.last
    refine ⟨?_, ?_, ?_, ?_⟩
    · simp only [run, advance, hresult]
      rfl
    · simp only [run, advance, hresult]
      rfl
    · simp only [RunEnd.reports, run, advance, hresult, List.filterMap_cons, List.filterMap_nil]
      rfl
    · simp only [run, advance, hresult]
  | succ k ih =>
    obtain ⟨hfirst, hrest⟩ := failsAfter_succ h
    obtain ⟨hlast, hobserved, hreports, hfault⟩ := run_succ_of_ok hfirst rounds
    obtain ⟨rounds, rfl⟩ : ∃ more, rounds = more + 1 := ⟨rounds - 1, by omega⟩
    have hcourse := ih hrest rounds (by omega)
    refine ⟨?_, ?_, ?_, ?_⟩
    · rw [hlast, hcourse.simulation, after_step]
    · rw [hobserved, hcourse.observed, observations_succ]
    · rw [hreports, hcourse.reports, reports_succ]
    · rw [hfault, hcourse.fault]

theorem run_fault?_eq_none_iff : (s.run rounds).fault? = none ↔ s.Succeeds rounds := by
  constructor
  · intro h
    rcases s.succeeds_or_failsAfter rounds with hok | ⟨k, hk, fault, hfails⟩
    · exact hok
    · rw [(course_of_failsAfter hfails hk).fault] at h
      cases h
  · intro h
    exact (course_of_succeeds h).fault

theorem run_fault?_eq_some_iff :
    (s.run rounds).fault? = some fault ↔ ∃ k < rounds, s.FailsAfter k fault := by
  constructor
  · intro h
    rcases s.succeeds_or_failsAfter rounds with hok | ⟨k, hk, first, hfails⟩
    · rw [(course_of_succeeds hok).fault] at h
      cases h
    · have hfault := (course_of_failsAfter hfails hk).fault
      rw [h] at hfault
      cases hfault
      exact ⟨k, hk, hfails⟩
  · intro h
    obtain ⟨k, hk, hfails⟩ := h
    exact (course_of_failsAfter hfails hk).fault

end Vivarium.Simulation
