import Vivarium.Proofs.Run.Budget

/-! Runs one after the other. Some rounds and then some more are the same run as all of them at
once: the board in between is observed once, the reports are numbered through, and a run that fails
is over, however many rounds were still to come. -/
namespace Vivarium

namespace RunEnd

/-- What a run hands back: the reports of its rounds, or the fault of the round that has failed. -/
def returned (r : RunEnd) : Except Fault (List RoundReport) :=
  match r.fault? with
  | some fault => .error fault
  | none => .ok r.reports

/-- A run followed by another from where it has ended. The board in between is observed once. -/
def andThen (first second : RunEnd) : RunEnd :=
  { second with
    observed := first.observed ++ second.observed.tail
    rounds := first.rounds ++ second.rounds }

variable {r first : RunEnd} {fault : Fault} {reports : List RoundReport}

theorem returned_eq_error_iff : r.returned = .error fault ↔ r.fault? = some fault := by
  simp only [returned]
  cases r.fault? with
  | none => simp
  | some other => simp

theorem returned_eq_ok_iff : r.returned = .ok reports ↔ r.fault? = none ∧ r.reports = reports := by
  simp only [returned]
  cases r.fault? with
  | none => simp
  | some other => simp

theorem reports_andThen (first second : RunEnd) :
    (first.andThen second).reports = first.reports ++ second.reports := List.filterMap_append

theorem returned_andThen (h : first.returned = .ok reports) (second : RunEnd) :
    (first.andThen second).returned = second.returned.map (reports ++ ·) := by
  obtain ⟨_, rfl⟩ := returned_eq_ok_iff.mp h
  have hfault : (first.andThen second).fault? = second.fault? := rfl
  simp only [returned, hfault, reports_andThen]
  cases second.fault? with
  | none => rfl
  | some fault => rfl

end RunEnd

namespace Simulation

variable {s : Simulation} {rounds k : Nat} {fault : Fault}

/-! ### Some rounds and some more -/

theorem advance_add_of_error (h : (s.advance rounds).fault? = some fault) (more : Nat) :
    s.advance (rounds + more) = s.advance rounds := by
  induction rounds generalizing s with
  | zero => cases h
  | succ rounds ih =>
    rw [Nat.add_right_comm]
    cases hresult : s.step.result with
    | error first => simp only [advance, hresult]
    | ok report =>
      simp only [advance, hresult] at h ⊢
      rw [ih h]

theorem advance_add_of_ok (h : (s.advance rounds).fault? = none) (more : Nat) :
    s.advance (rounds + more) =
      let rest := (s.advance rounds).simulation.advance more
      { rest with
        observed := (s.advance rounds).observed ++ rest.observed
        rounds := (s.advance rounds).rounds ++ rest.rounds } := by
  induction rounds generalizing s with
  | zero =>
    rw [Nat.zero_add]
    rfl
  | succ rounds ih =>
    rw [Nat.add_right_comm]
    cases hresult : s.step.result with
    | error first =>
      simp only [advance, hresult] at h
      cases h
    | ok report =>
      simp only [advance, hresult] at h ⊢
      rw [ih h]
      rfl

theorem run_add_of_error (h : (s.run rounds).fault? = some fault) (more : Nat) :
    s.run (rounds + more) = s.run rounds := by
  simp only [run, advance_add_of_error h more]

theorem run_add_of_ok (h : (s.run rounds).fault? = none) (more : Nat) :
    s.run (rounds + more) = (s.run rounds).andThen ((s.run rounds).simulation.run more) := by
  simp only [run, advance_add_of_ok h more]
  rfl

/-! ### What is told of a run -/

theorem observations_eq (s : Simulation) (rounds : Nat) :
    s.observations rounds =
      (List.range (rounds + 1)).map fun j => ⟨s.round + j, (s.after j).world⟩ := by
  apply List.map_congr_left
  intro j _
  rw [observe, round_after]

theorem numbers_of_reports (s : Simulation) (rounds : Nat) :
    (s.reports rounds).map RoundReport.round = List.range' (s.round + 1) rounds := by
  rw [reports, List.map_map, List.range'_eq_map_range]
  apply List.map_congr_left
  intro j _
  simp only [Function.comp_apply, report, round_after]
  omega

theorem seam_of_succeeds (h : s.Succeeds rounds) (more : Nat) :
    ((s.run rounds).simulation.run more).observed.head? = (s.run rounds).observed.getLast? := by
  have hcourse := course_of_succeeds h
  rw [hcourse.observed, hcourse.simulation, observations, List.range_succ, List.map_append,
    List.map_singleton, List.getLast?_concat]
  rfl

end Simulation

/-- A run that fails is the same however many rounds were to follow. After a run that succeeds, more
rounds are another run from where it has ended: the boards, the coin and the number of the last
round are the same in the end, the reports follow one another, and the observations do as well,
where the board in between is observed by both runs and counted once. Rounds are numbered through
from where a run starts. A run fails if and only if one of its rounds does, after rounds that
succeed: then it has observed the board before each of these rounds and after it, hands back no
report, and has counted the failing round. -/
theorem runs_compose (s : Simulation) (rounds more : Nat) :
    (∀ fault, (s.run rounds).returned = .error fault → s.run (rounds + more) = s.run rounds) ∧
    (∀ reports, (s.run rounds).returned = .ok reports →
      let rest := (s.run rounds).simulation.run more
      (s.run (rounds + more)).simulation = rest.simulation ∧
      (s.run (rounds + more)).returned = rest.returned.map (reports ++ ·) ∧
      (s.run (rounds + more)).observed = (s.run rounds).observed ++ rest.observed.tail ∧
      rest.observed.head? = (s.run rounds).observed.getLast? ∧
      (s.run rounds).simulation.round = s.round + rounds ∧
      reports.map RoundReport.round = List.range' (s.round + 1) rounds ∧
      (s.run rounds).observed =
        (List.range (rounds + 1)).map fun j => ⟨s.round + j, (s.after j).world⟩) ∧
    (∀ fault, (s.run rounds).returned = .error fault ↔ ∃ k < rounds, s.FailsAfter k fault) ∧
    ∀ k fault, k < rounds → s.FailsAfter k fault →
      (s.run rounds).observed =
        (List.range (k + 1)).map (fun j => ⟨s.round + j, (s.after j).world⟩) ∧
      (s.run rounds).returned = .error fault ∧
      (s.run rounds).simulation.round = s.round + (k + 1) := by
  refine ⟨?_, ?_, ?_, ?_⟩
  · intro fault h
    exact Simulation.run_add_of_error (RunEnd.returned_eq_error_iff.mp h) more
  · intro reports h
    obtain ⟨hnone, hreports⟩ := RunEnd.returned_eq_ok_iff.mp h
    have hok := Simulation.run_fault?_eq_none_iff.mp hnone
    have hcourse := Simulation.course_of_succeeds hok
    have hrun := Simulation.run_add_of_ok hnone more
    refine ⟨?_, ?_, ?_, Simulation.seam_of_succeeds hok more, ?_, ?_, ?_⟩
    · rw [hrun]
      rfl
    · rw [hrun, RunEnd.returned_andThen h]
    · rw [hrun]
      rfl
    · rw [hcourse.simulation, s.round_after]
    · rw [← hreports, hcourse.reports, s.numbers_of_reports]
    · rw [hcourse.observed, s.observations_eq]
  · intro fault
    rw [RunEnd.returned_eq_error_iff]
    exact Simulation.run_fault?_eq_some_iff
  · intro k fault hk hfails
    have hcourse := Simulation.course_of_failsAfter hfails hk
    refine ⟨?_, RunEnd.returned_eq_error_iff.mpr hcourse.fault, ?_⟩
    · rw [hcourse.observed, s.observations_eq]
    · rw [hcourse.simulation, s.round_after]

/-- With a budget of four, the rover that is shut in fails in the second of three rounds. So does
the second of two runs, and it has nothing to hand back either. Five rounds more make no
difference. -/
theorem shutIn_is_run_in_parts :
    (∃ reports, ((shutIn.withBudget 4).run 1).returned = .ok reports ∧
      ((shutIn.withBudget 4).run (1 + 2)).returned =
        (((shutIn.withBudget 4).run 1).simulation.run 2).returned.map (reports ++ ·)) ∧
    ((shutIn.withBudget 4).run 3).returned = .error (.noProgress "r" 4) ∧
    (shutIn.withBudget 4).run (3 + 5) = (shutIn.withBudget 4).run 3 ∧
    ((shutIn.withBudget 4).run 3).simulation.round = 2 ∧
    ((shutIn.withBudget 4).run 3).observed.map Observation.round = [0, 1] := by
  have hfault : ((shutIn.withBudget 4).run 3).returned = .error (.noProgress "r" 4) := rfl
  obtain ⟨_, hparts, _, _⟩ := runs_compose (shutIn.withBudget 4) 1 2
  obtain ⟨hover, _, hiff, hfailed⟩ := runs_compose (shutIn.withBudget 4) 3 5
  have hone : ((shutIn.withBudget 4).run 1).returned = .ok ((shutIn.withBudget 4).run 1).reports :=
    rfl
  obtain ⟨_, htogether, _⟩ := hparts _ hone
  obtain ⟨k, hk, hfails⟩ := (hiff _).mp hfault
  obtain ⟨hobserved, _, hround⟩ := hfailed k _ hk hfails
  have hcounted : 2 = 0 + (k + 1) := hround
  obtain rfl : k = 1 := by omega
  refine ⟨⟨_, hone, htogether⟩, hfault, hover _ hfault, hround, ?_⟩
  rw [hobserved]
  rfl

end Vivarium
