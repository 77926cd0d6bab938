import Vivarium.Proofs.Round.Schedule
import Vivarium.Proofs.Run.Chance
import Vivarium.Proofs.Run.Course
import Vivarium.Proofs.Turn.Steps

/-! The step budget of a run. A larger budget is noticed first by a turn that runs out of the
smaller one. So a run that never does is the same under both budgets, and any other is the same up
to the round in which one does. -/
namespace Vivarium

variable {budget larger : Nat}

/-! ### Rounds -/

namespace World

variable {round : Nat} {queue : List Nat} {w : World} {coin : Coin}

theorem playSlots_of_le (hs : w.Scheduled queue) (h : budget ≤ larger)
    (hturns : ∀ fault, (playSlots round budget queue w coin).fault? = some fault →
      ¬ fault.IsExhaustion) :
    playSlots round larger queue w coin = playSlots round budget queue w coin := by
  induction queue, w, coin, hs using Scheduled.induction budget with
  | nil => rfl
  | error v queue coin fault hs hf =>
    rw [playSlots_cons_of_error hf] at hturns ⊢
    have hturn : v.turn coin larger = v.turn coin budget := by
      apply View.turn_of_le h
      intro first hfirst
      rw [hf] at hfirst
      cases hfirst
      exact hturns fault rfl
    rw [← hturn] at hf ⊢
    exact playSlots_cons_of_error hf
  | ok v queue coin report hs hr ih =>
    rw [playSlots_cons_of_ok hr] at hturns ⊢
    have hturn := View.turn_of_le_of_ok h hr
    have hrest := ih hturns
    rw [← hturn] at hr hrest ⊢
    rw [playSlots_cons_of_ok hr, hrest]

theorem playSlots_of_steps_le (hs : w.Scheduled queue) (h : budget ≤ larger)
    (hok : (playSlots round larger queue w coin).fault? = none)
    (hsteps : ∀ n ∈ (playSlots round larger queue w coin).events.filterMap Event.steps?,
      n ≤ budget) :
    playSlots round budget queue w coin = playSlots round larger queue w coin := by
  induction queue, w, coin, hs using Scheduled.induction larger with
  | nil => rfl
  | error v queue coin fault hs hf =>
    rw [playSlots_cons_of_error hf] at hok
    cases hok
  | ok v queue coin report hs hr ih =>
    rw [playSlots_cons_of_ok hr] at hok hsteps ⊢
    rw [Event.steps_of_turn, List.forall_mem_cons] at hsteps
    have hturn := View.turn_of_steps_le h hr hsteps.1
    have hrest := ih hok hsteps.2
    rw [← hturn] at hr hrest ⊢
    rw [playSlots_cons_of_ok hr, hrest]

end World

/-! ### Runs -/

namespace Simulation

def withBudget (s : Simulation) (stepBudget : Nat) : Simulation :=
  { s with settings := { s.settings with stepBudget } }

/-- In some rounds of a run no turn notices another budget. -/
def Unaffected (s : Simulation) (budget rounds : Nat) : Prop :=
  ∀ k < rounds, ((s.after k).withBudget budget).progress = (s.after k).progress

variable {s : Simulation} {rounds k : Nat} {fault : Fault}

theorem step_withBudget (h : (s.withBudget budget).progress = s.progress) :
    (s.withBudget budget).step =
      { s.step with simulation := s.step.simulation.withBudget budget } := by
  have hplayed : s.world.playRound (s.round + 1) budget s.coin =
      s.world.playRound (s.round + 1) s.settings.stepBudget s.coin := h
  simp only [step, withBudget, hplayed]
  cases (s.world.playRound (s.round + 1) s.settings.stepBudget s.coin).fault? <;> rfl

namespace Unaffected

theorem mono (h : s.Unaffected budget rounds) (hk : k ≤ rounds) : s.Unaffected budget k :=
  fun j hj => h j (Nat.lt_of_lt_of_le hj hk)

theorem after (h : s.Unaffected budget rounds) :
    (s.withBudget budget).after rounds = (s.after rounds).withBudget budget := by
  induction rounds with
  | zero => rfl
  | succ rounds ih =>
    rw [Simulation.after, ih (h.mono (Nat.le_succ rounds)),
      step_withBudget (h rounds (Nat.lt_succ_self rounds))]
    rfl

theorem report (h : s.Unaffected budget rounds) (hk : k < rounds) :
    ((s.withBudget budget).after k).report = (s.after k).report := by
  rw [(h.mono (Nat.le_of_lt hk)).after]
  simp only [Simulation.report, h k hk]
  rfl

theorem result (h : s.Unaffected budget rounds) (hk : k < rounds) :
    ((s.withBudget budget).after k).step.result = (s.after k).step.result := by
  rw [(h.mono (Nat.le_of_lt hk)).after, step_withBudget (h k hk)]

theorem succeeds (h : s.Unaffected budget rounds) (hok : s.Succeeds rounds) :
    (s.withBudget budget).Succeeds rounds := by
  intro k hk
  rw [h.result hk, h.report hk]
  exact hok k hk

theorem failsAfter (h : s.Unaffected budget (k + 1)) (hfails : s.FailsAfter k fault) :
    (s.withBudget budget).FailsAfter k fault where
  earlier := (h.mono (Nat.le_succ k)).succeeds hfails.earlier
  last := by
    rw [h.result (Nat.lt_succ_self k)]
    exact hfails.last

theorem observations (h : s.Unaffected budget rounds) :
    (s.withBudget budget).observations rounds = s.observations rounds := by
  apply List.map_congr_left
  intro k hk
  rw [(h.mono (Nat.le_of_lt_succ (List.mem_range.mp hk))).after]
  rfl

theorem reports (h : s.Unaffected budget rounds) :
    (s.withBudget budget).reports rounds = s.reports rounds := by
  apply List.map_congr_left
  intro k hk
  exact h.report (List.mem_range.mp hk)

theorem sameCourse {last other : Simulation} {fault? : Option Fault} {r q : RunEnd}
    (h : s.Unaffected budget k) (hlast : other = last.withBudget budget)
    (hr : s.Course k last fault? r) (hq : (s.withBudget budget).Course k other fault? q) :
    r.SameCourse q ∧ q.simulation.coin = r.simulation.coin := by
  refine ⟨⟨?_, ?_, ?_, ?_⟩, ?_⟩
  · rw [hq.observed, hr.observed, h.observations]
  · rw [hq.reports, hr.reports, h.reports]
  · rw [hq.fault, hr.fault]
  · rw [hq.simulation, hr.simulation, hlast]
    rfl
  · rw [hq.simulation, hr.simulation, hlast]
    rfl

theorem sameCourse_of_succeeds (h : s.Unaffected budget rounds) (hok : s.Succeeds rounds) :
    (s.run rounds).SameCourse ((s.withBudget budget).run rounds) ∧
      ((s.withBudget budget).run rounds).simulation.coin = (s.run rounds).simulation.coin :=
  h.sameCourse h.after (course_of_succeeds hok) (course_of_succeeds (h.succeeds hok))

theorem sameCourse_of_failsAfter (h : s.Unaffected budget (k + 1)) (hfails : s.FailsAfter k fault)
    (hk : k < rounds) :
    (s.run rounds).SameCourse ((s.withBudget budget).run rounds) ∧
      ((s.withBudget budget).run rounds).simulation.coin = (s.run rounds).simulation.coin :=
  (h.mono (Nat.le_succ k)).sameCourse h.after (course_of_failsAfter hfails hk)
    (course_of_failsAfter (h.failsAfter hfails) hk)

end Unaffected

theorem progress_of_le (h : s.settings.stepBudget ≤ larger)
    (hf : ∀ fault, s.step.result = .error fault → ¬ fault.IsExhaustion) :
    (s.withBudget larger).progress = s.progress := by
  apply World.playSlots_of_le s.world.scheduled_occupiedSlots h
  intro fault hfault
  exact hf fault (step_eq_error_iff.mpr hfault)

theorem progress_of_steps_le (h : budget ≤ s.settings.stepBudget)
    (hok : s.step.result = .ok s.report)
    (hsteps : ∀ n ∈ s.report.events.filterMap Event.steps?, n ≤ budget) :
    (s.withBudget budget).progress = s.progress :=
  World.playSlots_of_steps_le s.world.scheduled_occupiedSlots h (step_eq_ok_iff.mp hok).1 hsteps

theorem unaffected_of_succeeds (h : s.settings.stepBudget ≤ larger) (hok : s.Succeeds rounds) :
    s.Unaffected larger rounds := by
  intro k hk
  apply progress_of_le
  · rw [s.settings_after]
    exact h
  · intro fault hfault
    rw [hok k hk] at hfault
    cases hfault

theorem unaffected_of_failsAfter (h : s.settings.stepBudget ≤ larger)
    (hfails : s.FailsAfter k fault) (hfault : ¬ fault.IsExhaustion) :
    s.Unaffected larger (k + 1) := by
  intro j hj
  by_cases hlast : j = k
  · apply progress_of_le
    · rw [s.settings_after]
      exact h
    · intro first hfirst
      rw [hlast, hfails.last] at hfirst
      cases hfirst
      exact hfault
  · exact unaffected_of_succeeds h hfails.earlier j (by omega)

theorem unaffected_of_steps_le (h : budget ≤ s.settings.stepBudget) (hok : s.Succeeds rounds)
    (hsteps : ∀ r ∈ s.reports rounds, ∀ n ∈ r.events.filterMap Event.steps?, n ≤ budget) :
    s.Unaffected budget rounds := by
  intro k hk
  apply progress_of_steps_le
  · rw [s.settings_after]
    exact h
  · exact hok k hk
  · exact hsteps _ (List.mem_map_of_mem (List.mem_range.mpr hk))

theorem take_of_succeeds (hok : s.Succeeds k) (hk : k ≤ rounds) :
    (s.run rounds).observed.take (k + 1) = s.observations k ∧
      (s.run rounds).reports.take k = s.reports k := by
  rcases s.succeeds_or_failsAfter rounds with hall | ⟨j, hj, fault, hfails⟩
  · have hcourse := course_of_succeeds hall
    rw [hcourse.observed, hcourse.reports, s.take_observations hk, s.take_reports hk]
    exact ⟨rfl, rfl⟩
  · have hle : k ≤ j := by
      by_contra hlt
      have hresult := hok j (by omega)
      rw [hfails.last] at hresult
      cases hresult
    have hcourse := course_of_failsAfter hfails hj
    rw [hcourse.observed, hcourse.reports, s.take_observations hle, s.take_reports hle]
    exact ⟨rfl, rfl⟩

end Simulation

/-- A larger budget gives the same run, and leaves the coin the same, unless a turn runs out of the
smaller one. If that happens in the round after the first `k`, the run under the larger budget
begins with the same `k` reports and the same observations of the first `k` rounds. And if a run
succeeds under the larger budget and none of its turns fetches more than the smaller one covers, it
is the same under the smaller one. -/
theorem larger_budgets_keep_runs (s : Simulation) (rounds : Nat) {larger : Nat}
    (h : s.settings.stepBudget ≤ larger) :
    ((∀ fault, (s.run rounds).fault? = some fault → ¬ fault.IsExhaustion) →
      (s.run rounds).SameCourse ((s.withBudget larger).run rounds) ∧
        ((s.withBudget larger).run rounds).simulation.coin = (s.run rounds).simulation.coin) ∧
    (∀ fault, (s.run rounds).fault? = some fault → fault.IsExhaustion →
      ∃ k < rounds, s.FailsAfter k fault ∧
        (s.run rounds).reports.length = k ∧ (s.run rounds).observed.length = k + 1 ∧
        ((s.withBudget larger).run rounds).reports.take k = (s.run rounds).reports ∧
        ((s.withBudget larger).run rounds).observed.take (k + 1) = (s.run rounds).observed) ∧
    (((s.withBudget larger).run rounds).fault? = none →
      (∀ r ∈ ((s.withBudget larger).run rounds).reports,
        ∀ n ∈ r.events.filterMap Event.steps?, n ≤ s.settings.stepBudget) →
      ((s.withBudget larger).run rounds).SameCourse (s.run rounds) ∧
        (s.run rounds).simulation.coin = ((s.withBudget larger).run rounds).simulation.coin) := by
  refine ⟨?_, ?_, ?_⟩
  · intro hfault
    rcases s.succeeds_or_failsAfter rounds with hok | ⟨k, hk, fault, hfails⟩
    · exact (Simulation.unaffected_of_succeeds h hok).sameCourse_of_succeeds hok
    · have hother := hfault fault (Simulation.course_of_failsAfter hfails hk).fault
      exact (Simulation.unaffected_of_failsAfter h hfails hother).sameCourse_of_failsAfter hfails hk
  · intro fault hfault _
    obtain ⟨k, hk, hfails⟩ := Simulation.run_fault?_eq_some_iff.mp hfault
    have hcourse := Simulation.course_of_failsAfter hfails hk
    have hunaffected := Simulation.unaffected_of_succeeds h hfails.earlier
    obtain ⟨hobserved, hreports⟩ := Simulation.take_of_succeeds
      (hunaffected.succeeds hfails.earlier) (Nat.le_of_lt hk)
    refine ⟨k, hk, hfails, ?_, ?_, ?_, ?_⟩
    · rw [hcourse.reports, Simulation.reports, List.length_map, List.length_range]
    · rw [hcourse.observed, Simulation.observations, List.length_map, List.length_range]
    · rw [hreports, hcourse.reports, hunaffected.reports]
    · rw [hobserved, hcourse.observed, hunaffected.observations]
  · intro hnone hsteps
    have hok := Simulation.run_fault?_eq_none_iff.mp hnone
    rw [(Simulation.course_of_succeeds hok).reports] at hsteps
    exact (Simulation.unaffected_of_steps_le h hok hsteps).sameCourse_of_succeeds hok

/-- With a budget of four, a rover that is shut in runs out of it in the second round, and its first
round is the one it has with a budget of five. Five are as good as a thousand to it. -/
theorem shutIn_with_budgets_of_four_and_five :
    ((shutIn.withBudget 4).run 3).fault? = some (.noProgress "r" 4) ∧
    ((shutIn.withBudget 5).run 3).reports.take 1 = ((shutIn.withBudget 4).run 3).reports ∧
    ((shutIn.withBudget 5).run 3).SameCourse ((shutIn.withBudget 1000).run 3) ∧
    ((shutIn.withBudget 1000).run 3).SameCourse ((shutIn.withBudget 5).run 3) := by
  have hfour : (shutIn.withBudget 4).settings.stepBudget ≤ 5 := by decide
  have hfive : (shutIn.withBudget 5).settings.stepBudget ≤ 1000 := by decide
  obtain ⟨_, hcut, _⟩ := larger_budgets_keep_runs (shutIn.withBudget 4) 3 hfour
  obtain ⟨hraised, _, hlowered⟩ := larger_budgets_keep_runs (shutIn.withBudget 5) 3 hfive
  obtain ⟨k, _, _, hlength, _, hreports, _⟩ := hcut (.noProgress "r" 4) rfl ⟨_, _, rfl⟩
  obtain rfl : 1 = k := hlength
  have hfetched : ∀ r ∈ ((shutIn.withBudget 1000).run 3).reports,
      ∀ n ∈ r.events.filterMap Event.steps?, n ≤ 5 := by decide
  exact ⟨rfl, hreports, (hraised nofun).1, (hlowered rfl hfetched).1⟩

end Vivarium
