import Vivarium.Proofs.Program.Flow

/-! What the budget of a deliberation is for. It only ever cuts a deliberation short: one that is
cut short could be resumed, and one that is not stays the same under any larger budget, or any
budget that covers what it fetches. -/
namespace Vivarium.Deliberation

variable {p : Program} {sight : Sight} {budget larger : Nat} {d : Deliberation}

/-- Goes on with a deliberation that has spent its budget. -/
def resume (p : Program) (sight : Sight) (extra : Nat) :
    Decision × Deliberation → Decision × Deliberation
  | (.undecided, d) => run p sight extra d
  | decided => decided

theorem resume_of_decided {decided : Decision × Deliberation} (h : decided.1 ≠ .undecided)
    (extra : Nat) : resume p sight extra decided = decided := by
  obtain ⟨decision, d⟩ := decided
  cases decision with
  | undecided => exact absurd rfl h
  | act | lost => rfl

theorem run_add (p : Program) (sight : Sight) (budget extra : Nat) (d : Deliberation) :
    run p sight (budget + extra) d = resume p sight extra (run p sight budget d) := by
  induction budget generalizing d with
  | zero =>
    rw [Nat.zero_add]
    rfl
  | succ budget ih =>
    rw [Nat.succ_add]
    cases hi : p[d.counter]? with
    | none =>
      simp only [run, hi]
      rfl
    | some i =>
      cases i with
      | act a =>
        simp only [run, hi]
        rfl
      | jump condition target =>
        simp only [run, hi]
        exact ih _

theorem run_of_le (h : budget ≤ larger) (hdecided : (run p sight budget d).1 ≠ .undecided) :
    run p sight larger d = run p sight budget d := by
  obtain ⟨extra, rfl⟩ := Nat.exists_eq_add_of_le h
  rw [run_add, resume_of_decided hdecided]

theorem undecided_of_le (h : budget ≤ larger) (hlarger : (run p sight larger d).1 = .undecided) :
    (run p sight budget d).1 = .undecided := by
  by_contra hdecided
  rw [run_of_le h hdecided] at hlarger
  exact hdecided hlarger

theorem run_add_of_undecided (h : (run p sight budget d).1 = .undecided) (extra : Nat) :
    run p sight (budget + extra) d = run p sight extra (run p sight budget d).2 := by
  rw [run_add]
  rcases hrun : run p sight budget d with ⟨decision, spent⟩
  rw [hrun] at h
  subst h
  rfl

def charge (fetched : Nat) (d : Deliberation) : Deliberation :=
  { d with fetched := fetched + d.fetched }

theorem run_charge (p : Program) (sight : Sight) (budget fetched : Nat) (d : Deliberation) :
    run p sight budget (d.charge fetched) =
      ((run p sight budget d).1, (run p sight budget d).2.charge fetched) := by
  induction budget generalizing d with
  | zero => rfl
  | succ budget ih =>
    have hcounter : (d.charge fetched).counter = d.counter := rfl
    cases hi : p[d.counter]? with
    | none => simp only [run, hcounter, hi]
    | some i =>
      cases i with
      | act a =>
        simp only [run, hcounter, hi]
        rfl
      | jump condition target =>
        simp only [run, hcounter, hi]
        exact ih (d.branch sight condition target)

/-! ### How much is fetched -/

theorem isPrefix_path (p : Program) (sight : Sight) (d : Deliberation) (h : budget ≤ larger) :
    path p sight budget d <+: path p sight larger d := by
  induction budget generalizing d larger with
  | zero => exact List.nil_prefix
  | succ budget ih =>
    obtain ⟨larger, rfl⟩ : ∃ more, larger = more + 1 := ⟨larger - 1, by omega⟩
    cases hi : p[d.counter]? with
    | none =>
      simp only [path, hi]
      exact List.prefix_rfl
    | some i =>
      cases i with
      | act a =>
        simp only [path, hi]
        exact List.prefix_rfl
      | jump condition target =>
        simp only [path, hi]
        exact List.prefix_cons_inj _ |>.mpr (ih _ (by omega))

theorem length_path_le_budget (p : Program) (sight : Sight) (budget : Nat) (d : Deliberation) :
    (path p sight budget d).length ≤ budget := by
  induction budget generalizing d with
  | zero => exact Nat.le_refl 0
  | succ budget ih =>
    unfold path
    split
    · exact Nat.zero_le _
    · exact Nat.succ_le_succ (Nat.zero_le _)
    · exact Nat.succ_le_succ (ih _)

theorem fetched_of_undecided (h : (run p sight budget d).1 = .undecided) :
    (run p sight budget d).2.fetched = d.fetched + budget := by
  induction budget generalizing d with
  | zero => rfl
  | succ budget ih =>
    unfold run at h
    split at h
    · cases h
    · cases h
    · next condition target hjump =>
      simp only [run, hjump]
      rw [ih h]
      simp only [branch]
      omega

theorem lt_fetched_of_act {a : Act} (h : (run p sight budget d).1 = .act a) :
    d.fetched < (run p sight budget d).2.fetched := by
  rw [fetched_run]
  cases budget with
  | zero => cases h
  | succ budget =>
    cases hi : p[d.counter]? with
    | none =>
      simp only [run, hi] at h
      cases h
    | some i =>
      cases i with
      | act first =>
        simp only [path, hi, List.length_singleton]
        omega
      | jump condition target =>
        simp only [path, hi, List.length_cons]
        omega

theorem run_of_fetched_le (h : budget ≤ larger) {a : Act} (hact : (run p sight larger d).1 = .act a)
    (hfetched : (run p sight larger d).2.fetched ≤ d.fetched + budget) :
    run p sight budget d = run p sight larger d := by
  obtain ⟨extra, rfl⟩ := Nat.exists_eq_add_of_le h
  rw [run_add] at hact hfetched ⊢
  rcases hrun : run p sight budget d with ⟨decision, spent⟩
  rw [hrun] at hact hfetched
  cases decision with
  | act | lost => rfl
  | undecided =>
    -- The rest fetches at least the act, beyond what the budget covers.
    have hmore : spent.fetched < (run p sight extra spent).2.fetched := lt_fetched_of_act hact
    have hcovered : (run p sight extra spent).2.fetched ≤ d.fetched + budget := hfetched
    have hspent : (run p sight budget d).2.fetched = d.fetched + budget :=
      fetched_of_undecided (by rw [hrun])
    rw [hrun] at hspent
    have hall : spent.fetched = d.fetched + budget := hspent
    omega

theorem of_lt_length_path {fetched : Nat} (h : fetched < (path p sight budget d).length) :
    (run p sight fetched d).1 = .undecided ∧ (run p sight fetched d).2.counter < p.length := by
  induction budget generalizing d fetched with
  | zero => cases h
  | succ budget ih =>
    cases hi : p[d.counter]? with
    | none =>
      simp only [path, hi] at h
      cases h
    | some i =>
      have hinside : d.counter < p.length := (List.getElem?_eq_some_iff.mp hi).1
      cases fetched with
      | zero => exact ⟨rfl, hinside⟩
      | succ fetched =>
        cases i with
        | act a =>
          simp only [path, hi, List.length_singleton] at h
          omega
        | jump condition target =>
          simp only [path, hi, List.length_cons] at h
          simp only [run, hi]
          exact ih (by omega)

theorem length_path_le_of_settles {steps : Nat} (h : p.settles steps d.counter = true) :
    (path p sight budget d).length ≤ steps := by
  induction steps generalizing d budget with
  | zero => cases h
  | succ steps ih =>
    cases budget with
    | zero => exact Nat.zero_le _
    | succ budget =>
      unfold path
      split
      · exact Nat.zero_le _
      · exact Nat.succ_le_succ (Nat.zero_le steps)
      · next condition target hjump =>
        rw [Program.settles, List.all_eq_true] at h
        exact Nat.succ_le_succ (ih (h _ (edge_branch hjump)))

end Vivarium.Deliberation
