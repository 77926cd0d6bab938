import Vivarium.Deliberation

/-! Where the counter of a checked program can be: at one of its instructions or, when the last of
them is passed, just behind it. -/
namespace Vivarium

namespace Program

def JumpsInside (p : Program) : Prop :=
  ∀ i ∈ p, ∀ target, i.target? = some target → target < p.length

/-- The end cannot be passed: the last instruction always jumps. -/
def EndsInGo (p : Program) : Prop := ∃ target, p.getLast? = some (.jump .always target)

/-- The counters that runs of a checked program can have. -/
structure Holds (p : Program) (counter : Nat) : Prop where
  bounded : counter ≤ p.length
  inside : p.EndsInGo → counter < p.length

variable {p : Program}

theorem EndsInGo.length_pos (h : p.EndsInGo) : 0 < p.length := by
  obtain ⟨target, hlast⟩ := h
  apply List.length_pos_iff.mpr
  rintro rfl
  cases hlast

theorem holds_zero (p : Program) : p.Holds 0 := ⟨Nat.zero_le _, EndsInGo.length_pos⟩

theorem holds_target (h : p.JumpsInside) {i target : Nat} {condition : Condition}
    (hi : p[i]? = some (.jump condition target)) : p.Holds target := by
  have hlt : target < p.length := h _ (List.mem_of_getElem? hi) target rfl
  exact ⟨Nat.le_of_lt hlt, fun _ => hlt⟩

theorem holds_succ {i : Nat} {instruction : Instruction} (hi : p[i]? = some instruction)
    (hpass : ∀ target, instruction ≠ .jump .always target) : p.Holds (i + 1) := by
  have hlt : i < p.length := (List.getElem?_eq_some_iff.mp hi).1
  refine ⟨hlt, ?_⟩
  rintro ⟨target, hlast⟩
  rw [List.getLast?_eq_getElem?] at hlast
  apply Nat.lt_of_not_le
  intro hend
  -- An instruction that ends the program is its last, which `EndsInGo` says is a `go`.
  have hi' : i = p.length - 1 := by omega
  rw [← hi', hi] at hlast
  exact hpass target (Option.some.inj hlast)

end Program

namespace Deliberation

theorem counter_branch (d : Deliberation) (sight : Sight) (condition : Condition) (target : Nat) :
    (d.branch sight condition target).counter = target ∨
      condition ≠ .always ∧ (d.branch sight condition target).counter = d.counter + 1 := by
  unfold branch
  rcases htest : condition.test sight d.coin with ⟨taken, coin⟩
  cases taken with
  | true => exact Or.inl rfl
  | false =>
    refine Or.inr ⟨?_, rfl⟩
    rintro rfl
    cases htest

theorem holds_run {p : Program} (hp : p.JumpsInside) (sight : Sight) (budget : Nat)
    {d : Deliberation} (h : p.Holds d.counter) :
    p.Holds (run p sight budget d).2.counter := by
  induction budget generalizing d with
  | zero => exact h
  | succ budget ih =>
    unfold run
    split
    · exact h
    · next a hi => exact Program.holds_succ hi nofun
    · next condition target hi =>
      apply ih
      rcases d.counter_branch sight condition target with htaken | ⟨hpassed, hnext⟩
      · rw [htaken]
        exact Program.holds_target hp hi
      · rw [hnext]
        refine Program.holds_succ hi ?_
        rintro _ heq
        cases heq
        exact hpassed rfl

theorem getElem?_of_lost {p : Program} {sight : Sight} {budget : Nat} {d : Deliberation}
    (h : (run p sight budget d).1 = .lost) : p[(run p sight budget d).2.counter]? = none := by
  induction budget generalizing d with
  | zero => cases h
  | succ budget ih =>
    cases hi : p[d.counter]? with
    | none => simp only [run, hi]
    | some i =>
      cases i with
      | act a =>
        simp only [run, hi] at h
        cases h
      | jump condition target =>
        simp only [run, hi] at h ⊢
        exact ih h

theorem getElem?_of_act {p : Program} {sight : Sight} {budget : Nat} {d : Deliberation} {a : Act}
    (h : (run p sight budget d).1 = .act a) :
    ∃ index, (run p sight budget d).2.counter = index + 1 ∧ p[index]? = some (.act a) := by
  induction budget generalizing d with
  | zero => cases h
  | succ budget ih =>
    cases hi : p[d.counter]? with
    | none =>
      simp only [run, hi] at h
      cases h
    | some i =>
      cases i with
      | act first =>
        simp only [run, hi] at h ⊢
        cases h
        exact ⟨d.counter, rfl, hi⟩
      | jump condition target =>
        simp only [run, hi] at h ⊢
        exact ih h

theorem act_mem_of_run {p : Program} {sight : Sight} {budget : Nat} {d : Deliberation} {a : Act}
    (h : (run p sight budget d).1 = .act a) : .act a ∈ p := by
  obtain ⟨index, _, hi⟩ := getElem?_of_act h
  exact List.mem_of_getElem? hi

theorem lost_at_end {p : Program} (hp : p.JumpsInside) {sight : Sight} {budget : Nat}
    {d : Deliberation} (hd : p.Holds d.counter) (h : (run p sight budget d).1 = .lost) :
    (run p sight budget d).2.counter = p.length := by
  have hholds := holds_run hp sight budget hd
  have hout := List.getElem?_eq_none_iff.mp (getElem?_of_lost h)
  exact Nat.le_antisymm hholds.bounded hout

end Deliberation

end Vivarium
