import Mathlib.Data.List.Chain
import Mathlib.Data.List.Perm.Subperm
import Mathlib.Logic.Relation
import Vivarium.Proofs.Program.Counter

/-! The control flow of a program. A creature deliberates along the edges of the flow graph, so
where these form no cycle it fetches no instruction twice, and it comes to an act before it has
fetched more instructions than its program has. -/
namespace Vivarium

/-- Where control passes on to within a turn. An act passes it on to nowhere, for it ends the
turn. -/
def Instruction.successors (index : Nat) : Instruction → List Nat
  | .act _ => []
  | .jump .always target => [target]
  | .jump _ target => [index + 1, target]

namespace Program

def successors (p : Program) (index : Nat) : List Nat :=
  match p[index]? with
  | some i => i.successors index
  | none => []

def Edge (p : Program) (i j : Nat) : Prop := j ∈ p.successors i

def Acyclic (p : Program) : Prop := ∀ i, ¬ Relation.TransGen p.Edge i i

/-- Whether every walk from an index has fewer than `steps` edges. -/
def settles (p : Program) : (steps : Nat) → (index : Nat) → Bool
  | 0, _ => false
  | steps + 1, index => (p.successors index).all (p.settles steps)

variable {p : Program}

theorem Edge.lt_length {i j : Nat} (h : p.Edge i j) : i < p.length := by
  unfold Edge successors at h
  split at h
  · next hi => exact (List.getElem?_eq_some_iff.mp hi).1
  · cases h

theorem Acyclic.length_le (h : p.Acyclic) {path : List Nat} (hwalk : path.IsChain p.Edge)
    (hinside : ∀ i ∈ path, i < p.length) : path.length ≤ p.length := by
  have hforward : path.Pairwise (Relation.TransGen p.Edge) :=
    List.isChain_iff_pairwise.mp (hwalk.imp fun _ _ => Relation.TransGen.single)
  have hnodup : path.Nodup := by
    apply hforward.imp
    rintro i _ hcycle rfl
    exact h i hcycle
  have hsub : path ⊆ List.range p.length := fun i hi => List.mem_range.mpr (hinside i hi)
  simpa using (hnodup.subperm hsub).length_le

theorem not_settles_of_cycle {i : Nat} (h : Relation.TransGen p.Edge i i) (steps : Nat) :
    p.settles steps i = false := by
  induction steps generalizing i with
  | zero => rfl
  | succ steps ih =>
    -- The next index on the cycle is on a cycle too: the same one, entered one edge later.
    obtain ⟨j, hedge, hback⟩ := Relation.TransGen.head'_iff.mp h
    have hj : p.settles steps j = false := ih (Relation.TransGen.tail' hback hedge)
    rw [settles, List.all_eq_false]
    exact ⟨j, hedge, by simp [hj]⟩

theorem exists_walk_of_not_settles {steps i : Nat} (h : p.settles steps i = false) :
    ∃ path : List Nat, path.length = steps ∧ path.IsChain p.Edge ∧
      (∀ j ∈ path.head?, j = i) ∧ ∀ j ∈ path, j < p.length := by
  induction steps generalizing i with
  | zero => exact ⟨[], rfl, .nil, by simp, by simp⟩
  | succ steps ih =>
    rw [settles, List.all_eq_false] at h
    obtain ⟨j, hedge, hj⟩ := h
    obtain ⟨path, hlength, hwalk, hhead, hinside⟩ := ih ((Bool.not_eq_true _).mp hj)
    refine ⟨i :: path, by simp [hlength], List.isChain_cons.mpr ⟨?_, hwalk⟩, by simp, ?_⟩
    · intro k hk
      rw [hhead k hk]
      exact hedge
    · intro k hk
      rcases List.mem_cons.mp hk with rfl | hk
      · exact Edge.lt_length hedge
      · exact hinside k hk

theorem acyclic_iff_settles :
    p.Acyclic ↔ ∀ i < p.length, p.settles (p.length + 1) i = true := by
  constructor
  · intro h i _
    by_contra hnot
    obtain ⟨path, hlength, hwalk, _, hinside⟩ :=
      exists_walk_of_not_settles ((Bool.not_eq_true _).mp hnot)
    have hle := h.length_le hwalk hinside
    omega
  · intro h i hcycle
    obtain ⟨j, hedge, _⟩ := Relation.TransGen.head'_iff.mp hcycle
    have hsettles := h i (Edge.lt_length hedge)
    rw [not_settles_of_cycle hcycle] at hsettles
    cases hsettles

instance (p : Program) : Decidable p.Acyclic := decidable_of_iff' _ acyclic_iff_settles

example : ¬ Acyclic [.jump .wall 2, .jump .empty 0, .act .left, .jump .always 0] := by decide

end Program

namespace Deliberation

variable {p : Program} {sight : Sight}

/-- The indices that a run fetches from, in order. -/
def path (p : Program) (sight : Sight) : (budget : Nat) → Deliberation → List Nat
  | 0, _ => []
  | budget + 1, d =>
    match p[d.counter]? with
    | none => []
    | some (.act _) => [d.counter]
    | some (.jump condition target) =>
      d.counter :: path p sight budget (d.branch sight condition target)

theorem edge_branch {d : Deliberation} {condition : Condition} {target : Nat}
    (h : p[d.counter]? = some (.jump condition target)) :
    p.Edge d.counter (d.branch sight condition target).counter := by
  unfold Program.Edge Program.successors
  rw [h]
  rcases d.counter_branch sight condition target with htaken | ⟨hpassed, hnext⟩
  · rw [htaken]
    cases condition <;> simp [Instruction.successors]
  · rw [hnext]
    cases condition <;> simp_all [Instruction.successors]

theorem fetched_run (budget : Nat) (d : Deliberation) :
    (run p sight budget d).2.fetched = d.fetched + (path p sight budget d).length := by
  induction budget generalizing d with
  | zero => rfl
  | succ budget ih =>
    cases hi : p[d.counter]? with
    | none => simp only [run, path, hi, List.length_nil, Nat.add_zero]
    | some i =>
      cases i with
      | act a => simp only [run, path, hi, pass, List.length_singleton]
      | jump condition target =>
        simp only [run, path, hi, ih, branch, List.length_cons]
        omega

theorem lt_length_of_mem_path {budget : Nat} {d : Deliberation} {i : Nat}
    (h : i ∈ path p sight budget d) : i < p.length := by
  induction budget generalizing d with
  | zero => cases h
  | succ budget ih =>
    unfold path at h
    split at h
    · cases h
    · next hact =>
      rw [List.mem_singleton.mp h]
      exact (List.getElem?_eq_some_iff.mp hact).1
    · next hjump =>
      rcases List.mem_cons.mp h with rfl | h
      · exact (List.getElem?_eq_some_iff.mp hjump).1
      · exact ih h

theorem head_path {budget : Nat} {d : Deliberation} {i : Nat}
    (h : i ∈ (path p sight budget d).head?) : i = d.counter := by
  cases budget with
  | zero => cases h
  | succ budget =>
    unfold path at h
    split at h <;> simp_all

theorem isChain_path (sight : Sight) (budget : Nat) (d : Deliberation) :
    (path p sight budget d).IsChain p.Edge := by
  induction budget generalizing d with
  | zero => exact .nil
  | succ budget ih =>
    unfold path
    split
    · exact .nil
    · exact .singleton _
    · next condition target hjump =>
      refine List.isChain_cons.mpr ⟨?_, ih _⟩
      intro i hi
      rw [head_path hi]
      exact edge_branch hjump

theorem length_path_of_undecided {budget : Nat} {d : Deliberation}
    (h : (run p sight budget d).1 = .undecided)
    (hinside : (run p sight budget d).2.counter < p.length) :
    (path p sight (budget + 1) d).length = budget + 1 := by
  induction budget generalizing d with
  | zero =>
    have hi : p[d.counter]? = some p[d.counter] := List.getElem?_eq_getElem hinside
    cases hd : p[d.counter] <;> simp [path, hi, hd]
  | succ budget ih =>
    unfold run at h hinside
    split at h
    · cases h
    · cases h
    · next condition target hjump =>
      simp only [hjump] at hinside
      rw [path]
      simp only [hjump, List.length_cons]
      rw [ih h hinside]

theorem decides_of_length_path (hjumps : p.JumpsInside) (hgo : p.EndsInGo) {budget : Nat}
    {d : Deliberation} (hpath : (path p sight (budget + 1) d).length ≤ budget)
    (hd : p.Holds d.counter) : ∃ a, (run p sight budget d).1 = .act a := by
  have hinside : (run p sight budget d).2.counter < p.length :=
    (holds_run hjumps sight budget hd).inside hgo
  cases hdecision : (run p sight budget d).1 with
  | act a => exact ⟨a, rfl⟩
  | lost =>
    have hend := lost_at_end hjumps hd hdecision
    omega
  | undecided =>
    rw [length_path_of_undecided hdecision hinside] at hpath
    omega

/-- With a budget of the program's length, a checked program without cycles that ends in a `go`
comes to an act. -/
theorem decides_of_acyclic (hjumps : p.JumpsInside) (hgo : p.EndsInGo) (h : p.Acyclic)
    (sight : Sight) {budget : Nat} (hbudget : p.length ≤ budget) {d : Deliberation}
    (hd : p.Holds d.counter) :
    ∃ a, (run p sight budget d).1 = .act a := by
  have hle := h.length_le (isChain_path sight (budget + 1) d) fun _ => lt_length_of_mem_path
  exact decides_of_length_path hjumps hgo (Nat.le_trans hle hbudget) hd

end Deliberation

end Vivarium
