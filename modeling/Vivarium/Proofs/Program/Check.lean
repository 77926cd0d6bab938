import Vivarium.Proofs.Program.Counter

/-! What the check of a species demands: a symbol that can be drawn, a program that is not empty,
and jumps that land inside it. A species that lacks one of these is refused for the first it
lacks. -/
namespace Vivarium

def Drawable (symbol : String) : Prop :=
  ∃ c, symbol.toList = [c] ∧ c ≠ vacantGlyph ∧ Text.isBlank c = false

def Instruction.Strays (len : Nat) (i : Instruction) : Prop :=
  ∃ target, i.target? = some target ∧ len ≤ target

namespace Species

structure Fit (s : Species) : Prop where
  symbol : Drawable s.symbol
  program : s.program ≠ []
  jumps : s.program.JumpsInside

/-- Why a species is refused. Of several stray jumps the first one counts. -/
inductive Unfit (s : Species) : Fault → Prop where
  | symbol (undrawable : ¬ Drawable s.symbol) : Unfit s (.badSymbol s.symbol)
  | empty (drawable : Drawable s.symbol) (empty : s.program = []) :
      Unfit s (.emptyProgram s.symbol)
  | jump {before i after target} (drawable : Drawable s.symbol)
      (split : s.program = before ++ i :: after)
      (inside : ∀ j ∈ before, ¬ j.Strays s.program.length)
      (jumps : i.target? = some target) (strays : s.program.length ≤ target) :
      Unfit s (.targetOutOfRange s.symbol before.length target s.program.length)

theorem drawable_iff {symbol : String} : drawable symbol = true ↔ Drawable symbol := by
  unfold drawable Drawable
  split
  · next c hc => simp [hc]
  · next hmany =>
    constructor
    · nofun
    · rintro ⟨c, hc, -⟩
      exact absurd hc (hmany c)

theorem strayJump?_cons {len index : Nat} {i : Instruction} {rest : Program}
    (h : ¬ i.Strays len) : strayJump? len index (i :: rest) = strayJump? len (index + 1) rest := by
  rw [strayJump?]
  split
  · next target htarget =>
    exact if_neg fun hle => h ⟨target, htarget, hle⟩
  · rfl

theorem strayJump?_eq_none_iff {len index : Nat} {p : Program} :
    strayJump? len index p = none ↔ ∀ i ∈ p, ¬ i.Strays len := by
  induction p generalizing index with
  | nil => simp [strayJump?]
  | cons i rest ih =>
    rw [List.forall_mem_cons]
    by_cases hi : i.Strays len
    · obtain ⟨target, htarget, hle⟩ := id hi
      simp [strayJump?, htarget, hle, hi]
    · rw [strayJump?_cons hi, ih]
      simp [hi]

theorem strayJump?_eq_some_iff {len index place target : Nat} {p : Program} :
    strayJump? len index p = some (place, target) ↔
      ∃ before i after, p = before ++ i :: after ∧ (∀ j ∈ before, ¬ j.Strays len) ∧
        i.target? = some target ∧ len ≤ target ∧ place = index + before.length := by
  induction p generalizing index with
  | nil => simp [strayJump?]
  | cons i rest ih =>
    by_cases hi : i.Strays len
    · obtain ⟨stray, hstray, hle⟩ := id hi
      rw [strayJump?, hstray]
      simp only [hle, if_true]
      constructor
      · rintro ⟨⟩
        exact ⟨[], i, rest, rfl, List.forall_mem_nil _, hstray, hle, rfl⟩
      · rintro ⟨_ | ⟨first, before⟩, j, after, hsplit, hbefore, htarget, _, rfl⟩
        · obtain ⟨rfl, -⟩ := List.cons.inj hsplit
          cases hstray.symm.trans htarget
          rfl
        · obtain ⟨rfl, -⟩ := List.cons.inj hsplit
          exact absurd hi (hbefore _ List.mem_cons_self)
    · rw [strayJump?_cons hi, ih]
      constructor
      · rintro ⟨before, j, after, rfl, hbefore, htarget, hle, rfl⟩
        have hall : ∀ j ∈ i :: before, ¬ j.Strays len := List.forall_mem_cons.mpr ⟨hi, hbefore⟩
        refine ⟨i :: before, j, after, rfl, hall, htarget, hle, ?_⟩
        rw [List.length_cons]
        omega
      · rintro ⟨_ | ⟨first, before⟩, j, after, hsplit, hbefore, htarget, hle, rfl⟩
        · obtain ⟨rfl, -⟩ := List.cons.inj hsplit
          exact absurd ⟨target, htarget, hle⟩ hi
        · obtain ⟨rfl, rfl⟩ := List.cons.inj hsplit
          refine ⟨before, j, after, rfl, (List.forall_mem_cons.mp hbefore).2, htarget, hle, ?_⟩
          rw [List.length_cons]
          omega

theorem jumpsInside_iff {p : Program} : p.JumpsInside ↔ ∀ i ∈ p, ¬ i.Strays p.length := by
  simp only [Program.JumpsInside, Instruction.Strays, not_exists, not_and, Nat.not_le]

theorem check_eq_ok_iff {s : Species} : s.check = .ok () ↔ s.Fit := by
  unfold check
  constructor
  · intro h
    split at h
    · cases h
    · next hdrawable =>
      split at h
      · cases h
      · next hprogram =>
        split at h
        · cases h
        · next hstray =>
          refine ⟨drawable_iff.mp (by simpa using hdrawable), hprogram, ?_⟩
          exact jumpsInside_iff.mpr (strayJump?_eq_none_iff.mp hstray)
  · rintro ⟨hsymbol, hprogram, hjumps⟩
    have hstray : strayJump? s.program.length 0 s.program = none :=
      strayJump?_eq_none_iff.mpr (jumpsInside_iff.mp hjumps)
    simp [drawable_iff.mpr hsymbol, hprogram, hstray]

theorem jumpsInside_of_check {s : Species} (h : s.check = .ok ()) : s.program.JumpsInside :=
  (check_eq_ok_iff.mp h).jumps

theorem check_eq_error_iff {s : Species} {fault : Fault} :
    s.check = .error fault ↔ s.Unfit fault := by
  unfold check
  constructor
  · intro h
    split at h
    · next hdrawable =>
      cases h
      exact .symbol fun hs => by simp [drawable_iff.mpr hs] at hdrawable
    · next hdrawable =>
      have hsymbol : Drawable s.symbol := drawable_iff.mp (by simpa using hdrawable)
      split at h
      · next hempty =>
        cases h
        exact .empty hsymbol hempty
      · split at h
        · next place target hstray =>
          cases h
          obtain ⟨before, i, after, hsplit, hbefore, htarget, hle, rfl⟩ :=
            strayJump?_eq_some_iff.mp hstray
          rw [Nat.zero_add]
          exact .jump hsymbol hsplit hbefore htarget hle
        · cases h
  · rintro (hsymbol | ⟨hsymbol, hempty⟩ | ⟨hsymbol, hsplit, hbefore, htarget, hle⟩)
    · have hdrawable : drawable s.symbol = false := by
        rw [← Bool.not_eq_true, drawable_iff]
        exact hsymbol
      simp [hdrawable]
    · simp [drawable_iff.mpr hsymbol, hempty]
    · rename_i before i after target
      have hne : s.program ≠ [] := by simp [hsplit]
      have hstray : strayJump? s.program.length 0 s.program = some (before.length, target) :=
        strayJump?_eq_some_iff.mpr ⟨before, i, after, hsplit, hbefore, htarget, hle, by simp⟩
      simp [drawable_iff.mpr hsymbol, hne, hstray]

theorem checked_eq_ok_iff {s u : Species} : checked s = .ok u ↔ s.Fit ∧ u = s := by
  unfold checked
  cases hcheck : s.check with
  | ok _ => simp [Except.map, check_eq_ok_iff.mp hcheck, eq_comm]
  | error fault =>
    have hunfit : ¬ s.Fit := fun hfit => by simp [check_eq_ok_iff.mpr hfit] at hcheck
    simp [Except.map, hunfit]

theorem checked_eq_error_iff {s : Species} {fault : Fault} :
    checked s = .error fault ↔ s.Unfit fault := by
  rw [← check_eq_error_iff, checked]
  cases s.check <;> simp [Except.map]

end Species

end Vivarium
