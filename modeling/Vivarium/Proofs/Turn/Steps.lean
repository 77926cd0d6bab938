import Vivarium.Proofs.Program.Budget
import Vivarium.Proofs.Turn.Effect

/-! How many instructions a turn fetches, and what its budget has to do with it. A turn that
succeeds fetches something, and nothing beyond its budget; a larger budget makes a difference only
to a turn that has run out of the smaller one. -/
namespace Vivarium

def Fault.IsExhaustion (fault : Fault) : Prop := ∃ symbol budget, fault = .noProgress symbol budget

namespace View

variable {v : View} {coin : Coin} {budget larger : Nat} {report : TurnReport}

def path (v : View) (coin : Coin) (budget : Nat) : List Nat :=
  Deliberation.path v.active.program v.sight budget ⟨v.active.counter, coin, 0⟩

theorem fetched_deliberate (v : View) (coin : Coin) (budget : Nat) :
    (v.deliberate coin budget).2.fetched = (v.path coin budget).length := by
  rw [deliberate, Deliberation.fetched_run, Nat.zero_add, path]

theorem steps_of_ok (h : (v.turn coin budget).result = .ok report) :
    report.steps = (v.path coin budget).length := by
  rw [((v.turn_ends coin budget).of_ok h).2, fetched_deliberate]

theorem steps_pos (h : (v.turn coin budget).result = .ok report) : 0 < report.steps := by
  obtain ⟨hact, hsteps⟩ := (v.turn_ends coin budget).of_ok h
  rw [hsteps]
  exact Deliberation.lt_fetched_of_act hact

theorem steps_le_budget (h : (v.turn coin budget).result = .ok report) : report.steps ≤ budget := by
  rw [steps_of_ok h]
  exact Deliberation.length_path_le_budget _ _ _ _

theorem exists_report {a : Act} (h : (v.deliberate coin budget).1 = .act a) :
    ∃ report, (v.turn coin budget).result = .ok report := by
  cases hresult : (v.turn coin budget).result with
  | ok report => exact ⟨report, rfl⟩
  | error fault =>
    rcases (v.turn_ends coin budget).fault_cases hresult with ⟨hundecided, _⟩ | ⟨hlost, _⟩
    · rw [h] at hundecided
      cases hundecided
    · rw [h] at hlost
      cases hlost

theorem undecided_iff : (v.deliberate coin budget).1 = .undecided ↔
    (v.turn coin budget).result = .error (.noProgress v.active.symbol budget) := by
  have hends := v.turn_ends coin budget
  constructor
  · intro hundecided
    cases hresult : (v.turn coin budget).result with
    | ok report =>
      have hact := (hends.of_ok hresult).1
      rw [hundecided] at hact
      cases hact
    | error fault =>
      rcases hends.fault_cases hresult with ⟨_, rfl⟩ | ⟨hlost, _⟩
      · rfl
      · rw [hundecided] at hlost
        cases hlost
  · intro hresult
    rcases hends.fault_cases hresult with ⟨hundecided, _⟩ | ⟨_, hfault⟩
    · exact hundecided
    · cases hfault

theorem exhausted_of_isExhaustion {fault : Fault} (h : (v.turn coin budget).result = .error fault)
    (hexhausted : fault.IsExhaustion) :
    (v.turn coin budget).result = .error (.noProgress v.active.symbol budget) := by
  rcases (v.turn_ends coin budget).fault_cases h with ⟨_, rfl⟩ | ⟨_, rfl⟩
  · exact h
  · rcases hexhausted with ⟨symbol, spent, hother⟩
    cases hother

theorem exhausted_of_lt_length_path {fetched : Nat} (h : fetched < (v.path coin budget).length) :
    (v.turn coin fetched).result = .error (.noProgress v.active.symbol fetched) := by
  have hundecided : (v.deliberate coin fetched).1 = .undecided :=
    (Deliberation.of_lt_length_path h).1
  exact undecided_iff.mp hundecided

/-! ### Two budgets -/

theorem turn_of_deliberate (hdecided : (v.deliberate coin budget).1 ≠ .undecided)
    (h : v.deliberate coin larger = v.deliberate coin budget) :
    v.turn coin larger = v.turn coin budget := by
  unfold deliberate at h hdecided
  simp only [turn, h]
  rcases hrun : Deliberation.run v.active.program v.sight budget ⟨v.active.counter, coin, 0⟩ with
    ⟨decision, d⟩
  rw [hrun] at hdecided
  cases decision with
  | undecided => exact absurd rfl hdecided
  | act | lost => rfl

theorem turn_of_le (h : budget ≤ larger)
    (hturn : ∀ fault, (v.turn coin budget).result = .error fault → ¬ fault.IsExhaustion) :
    v.turn coin larger = v.turn coin budget := by
  have hdecided : (v.deliberate coin budget).1 ≠ .undecided := by
    intro hundecided
    exact hturn _ (undecided_iff.mp hundecided) ⟨_, _, rfl⟩
  exact turn_of_deliberate hdecided (Deliberation.run_of_le h hdecided)

theorem turn_of_le_of_ok (h : budget ≤ larger) (hok : (v.turn coin budget).result = .ok report) :
    v.turn coin larger = v.turn coin budget := by
  apply turn_of_le h
  intro fault hfault
  rw [hok] at hfault
  cases hfault

theorem turn_of_steps_le (h : budget ≤ larger) (hok : (v.turn coin larger).result = .ok report)
    (hsteps : report.steps ≤ budget) : v.turn coin budget = v.turn coin larger := by
  obtain ⟨hact, hfetched⟩ := (v.turn_ends coin larger).of_ok hok
  have hsame : v.deliberate coin budget = v.deliberate coin larger := by
    apply Deliberation.run_of_fetched_le h hact
    rw [Nat.zero_add]
    exact hfetched ▸ hsteps
  refine turn_of_deliberate ?_ hsame
  rw [hact]
  nofun

end View

end Vivarium
