import Vivarium.Proofs.Scenario.Population
import Vivarium.Proofs.Scenario.Settlement

/-! Which blueprints are accepted and what becomes of them. The conditions are on a blueprint as a
whole. The loader finds them out entry by entry, and the first one that fails gives the fault. -/
namespace Vivarium

theorem Settings.check_eq_ok_iff {s : Settings} : s.check = .ok () ↔ 1 ≤ s.stepBudget := by
  unfold check
  split
  · next hzero => simp [hzero]
  · next hpos => simp [Nat.one_le_iff_ne_zero.mpr hpos]

theorem Settings.check_eq_error_iff {s : Settings} {fault : Fault} :
    s.check = .error fault ↔ s.stepBudget = 0 ∧ fault = .config .zeroStepBudget := by
  unfold check
  split
  · next hzero => simp [hzero, eq_comm]
  · next hpos => simp [hpos]

namespace Blueprint

structure Acceptable (b : Blueprint) (species : List Species) : Prop where
  budget : 1 ≤ b.settings.stepBudget
  defines : Defines b.species species
  room : 1 ≤ b.rows * b.cols ∧ b.rows * b.cols < Text.wordBound
  placeable : Placeable species b.rows b.cols b.creatures

/-- The fault of the first condition that fails: of the step budget, of the entries in order, of the
size, of the creatures in order. -/
inductive FirstFault (b : Blueprint) : Fault → Prop where
  | settings (idle : b.settings.stepBudget = 0) : FirstFault b (.config .zeroStepBudget)
  | species {before e after species fault} (budget : 1 ≤ b.settings.stepBudget)
      (split : b.species = before ++ e :: after) (defines : Defines before species)
      (barred : e.Barred species fault) : FirstFault b fault
  | size {species} (budget : 1 ≤ b.settings.stepBudget) (defines : Defines b.species species)
      (room : ¬ (1 ≤ b.rows * b.cols ∧ b.rows * b.cols < Text.wordBound)) :
      FirstFault b (.badDimensions b.rows b.cols)
  | creature {species before e after fault} (budget : 1 ≤ b.settings.stepBudget)
      (defines : Defines b.species species)
      (room : 1 ≤ b.rows * b.cols ∧ b.rows * b.cols < Text.wordBound)
      (split : b.creatures = before ++ e :: after)
      (placeable : Placeable species b.rows b.cols before)
      (barred : e.Barred species b.rows b.cols before fault) : FirstFault b fault

end Blueprint

/-- The scenario that a blueprint with these species describes. -/
structure Scenario.Realises (scenario : Scenario) (b : Blueprint) (species : List Species) :
    Prop where
  settings : scenario.settings = b.settings
  kinds : scenario.kinds = numbered species
  world : scenario.world.Peopled scenario.kinds b.rows b.cols b.creatures

theorem Scenario.Realises.unique {scenario other : Scenario} {b : Blueprint}
    {species : List Species} (h : scenario.Realises b species) (ho : other.Realises b species) :
    other = scenario := by
  have hkinds : other.kinds = scenario.kinds := ho.kinds.trans h.kinds.symm
  have hsettings : other.settings = scenario.settings := ho.settings.trans h.settings.symm
  have hworld := ho.world
  rw [hkinds] at hworld
  have hworld : other.world = scenario.world := h.world.unique hworld
  cases other
  cases scenario
  simp only at hkinds hsettings hworld
  rw [hkinds, hsettings, hworld]

namespace Blueprint

variable {b : Blueprint} {species : List Species} {scenario : Scenario} {fault : Fault}

theorem build_of_defines (hbudget : 1 ≤ b.settings.stepBudget)
    (hdefines : Defines b.species species) :
    b.build = (do
      let board ← World.empty b.rows b.cols
      let world ← populate (numbered species) board b.creatures
      .ok ⟨world, b.settings, numbered species⟩) := by
  unfold build
  rw [Settings.check_eq_ok_iff.mpr hbudget, addKinds_eq_ok_iff.mpr ⟨species, hdefines, rfl⟩]
  rfl

theorem defines_or_firstFault (b : Blueprint) :
    (1 ≤ b.settings.stepBudget ∧ ∃ species, Defines b.species species) ∨
      ∃ fault, b.build = .error fault ∧ b.FirstFault fault := by
  cases hbudget : b.settings.check with
  | error fault =>
    obtain ⟨hzero, rfl⟩ := Settings.check_eq_error_iff.mp hbudget
    exact Or.inr ⟨_, Except.bind_eq_error_iff.mpr (Or.inl hbudget), .settings hzero⟩
  | ok _ =>
    have hone := Settings.check_eq_ok_iff.mp hbudget
    cases hkinds : addKinds [] b.species with
    | ok kinds =>
      obtain ⟨species, hdefines, _⟩ := addKinds_eq_ok_iff.mp hkinds
      exact Or.inl ⟨hone, species, hdefines⟩
    | error fault =>
      obtain ⟨before, e, after, species, hsplit, hdefines, he⟩ := addKinds_eq_error_iff.mp hkinds
      refine Or.inr ⟨fault, ?_, .species hone hsplit hdefines he⟩
      refine Except.bind_eq_error_iff.mpr (Or.inr ⟨(), hbudget, ?_⟩)
      exact Except.bind_eq_error_iff.mpr (Or.inl hkinds)

theorem realises_of_build (h : b.build = .ok scenario) :
    ∃ species, b.Acceptable species ∧ scenario.Realises b species := by
  rcases b.defines_or_firstFault with ⟨hbudget, species, hdefines⟩ | ⟨fault, hfault, _⟩
  · rw [build_of_defines hbudget hdefines] at h
    obtain ⟨board, hboard, h⟩ := Except.bind_eq_ok_iff.mp h
    obtain ⟨world, hworld, h⟩ := Except.bind_eq_ok_iff.mp h
    cases h
    obtain ⟨hplaceable, hpeopled⟩ :=
      (populate_eq_ok_iff hdefines.distinct (World.bare_of_empty hboard)).mp hworld
    exact ⟨species, ⟨hbudget, hdefines, World.room_of_empty hboard, hplaceable⟩,
      ⟨rfl, rfl, hpeopled⟩⟩
  · rw [h] at hfault
    cases hfault

theorem exists_build (h : b.Acceptable species) :
    ∃ scenario, b.build = .ok scenario ∧ scenario.Realises b species := by
  obtain ⟨board, hboard⟩ := World.exists_empty h.room
  have hbare := World.bare_of_empty hboard
  obtain ⟨world, hworld⟩ := exists_populate h.defines.distinct hbare h.placeable
  have hpeopled := ((populate_eq_ok_iff h.defines.distinct hbare).mp hworld).2
  refine ⟨⟨world, b.settings, numbered species⟩, ?_, ⟨rfl, rfl, hpeopled⟩⟩
  rw [build_of_defines h.budget h.defines]
  refine Except.bind_eq_ok_iff.mpr ⟨board, hboard, ?_⟩
  exact Except.bind_eq_ok_iff.mpr ⟨world, hworld, rfl⟩

theorem build_eq_ok_iff :
    b.build = .ok scenario ↔ ∃ species, b.Acceptable species ∧ scenario.Realises b species := by
  constructor
  · exact realises_of_build
  · rintro ⟨species, hacceptable, hrealises⟩
    obtain ⟨other, hother, hrealises'⟩ := exists_build hacceptable
    rw [hother, hrealises.unique hrealises']

theorem firstFault_of_build (h : b.build = .error fault) : b.FirstFault fault := by
  rcases b.defines_or_firstFault with ⟨hbudget, species, hdefines⟩ | ⟨fault', hfault, hfirst⟩
  · rw [build_of_defines hbudget hdefines] at h
    rcases Except.bind_eq_error_iff.mp h with hboard | ⟨board, hboard, h⟩
    · obtain ⟨hroom, rfl⟩ := World.empty_eq_error_iff.mp hboard
      exact .size hbudget hdefines hroom
    rcases Except.bind_eq_error_iff.mp h with hworld | ⟨_, _, h⟩
    · obtain ⟨before, e, after, hsplit, hplaceable, he⟩ :=
        (populate_eq_error_iff hdefines.distinct (World.bare_of_empty hboard)).mp hworld
      exact .creature hbudget hdefines (World.room_of_empty hboard) hsplit hplaceable he
    · cases h
  · cases h.symm.trans hfault
    exact hfirst

theorem build_of_firstFault (h : b.FirstFault fault) : b.build = .error fault := by
  cases h with
  | settings hzero =>
    exact Except.bind_eq_error_iff.mpr (Or.inl (Settings.check_eq_error_iff.mpr ⟨hzero, rfl⟩))
  | species hbudget hsplit hdefines he =>
    refine Except.bind_eq_error_iff.mpr (Or.inr ⟨(), Settings.check_eq_ok_iff.mpr hbudget, ?_⟩)
    exact Except.bind_eq_error_iff.mpr
      (Or.inl (addKinds_eq_error_iff.mpr ⟨_, _, _, _, hsplit, hdefines, he⟩))
  | size hbudget hdefines hroom =>
    rw [build_of_defines hbudget hdefines]
    exact Except.bind_eq_error_iff.mpr (Or.inl (World.empty_eq_error_iff.mpr ⟨hroom, rfl⟩))
  | creature hbudget hdefines hroom hsplit hplaceable he =>
    obtain ⟨board, hboard⟩ := World.exists_empty hroom
    have hworld := (populate_eq_error_iff hdefines.distinct (World.bare_of_empty hboard)).mpr
      ⟨_, _, _, hsplit, hplaceable, he⟩
    rw [build_of_defines hbudget hdefines]
    refine Except.bind_eq_error_iff.mpr (Or.inr ⟨board, hboard, ?_⟩)
    exact Except.bind_eq_error_iff.mpr (Or.inl hworld)

theorem build_eq_error_iff : b.build = .error fault ↔ b.FirstFault fault :=
  ⟨firstFault_of_build, build_of_firstFault⟩

theorem build_perm {creatures : List CreatureEntry} (hperm : creatures.Perm b.creatures)
    (h : b.build = .ok scenario) : { b with creatures }.build = .ok scenario := by
  obtain ⟨species, hacceptable, hrealises⟩ := build_eq_ok_iff.mp h
  refine build_eq_ok_iff.mpr ⟨species, ?_, ?_⟩
  · exact ⟨hacceptable.budget, hacceptable.defines, hacceptable.room,
      hacceptable.placeable.perm hperm⟩
  · exact ⟨hrealises.settings, hrealises.kinds, hrealises.world.perm hperm⟩

end Blueprint

/-- A blueprint is built if and only if all conditions on it hold, and the scenario is then the one
it describes: every creature where it is listed, of the one kind with its symbol, and nobody else.
The order in which the creatures are listed is of no account. A blueprint for which some condition
fails is refused for the first that does. -/
theorem blueprints_are_built_by_the_rules (b : Blueprint) :
    (∀ text, Blueprint.ofText? text = some b → Scenario.ofText text = b.build) ∧
    ((∃ scenario, b.build = .ok scenario) ↔ ∃ species, b.Acceptable species) ∧
    (∀ scenario, b.build = .ok scenario ↔
      ∃ species, b.Acceptable species ∧ scenario.Realises b species) ∧
    (∀ creatures scenario, creatures.Perm b.creatures → b.build = .ok scenario →
      { b with creatures }.build = .ok scenario) ∧
    ∀ fault, b.build = .error fault ↔ b.FirstFault fault := by
  refine ⟨fun _ => Scenario.ofText_eq_build, ?_, fun _ => Blueprint.build_eq_ok_iff, ?_,
    fun _ => Blueprint.build_eq_error_iff⟩
  · constructor
    · rintro ⟨scenario, h⟩
      obtain ⟨species, hacceptable, _⟩ := Blueprint.realises_of_build h
      exact ⟨species, hacceptable⟩
    · rintro ⟨species, hacceptable⟩
      obtain ⟨scenario, h, _⟩ := Blueprint.exists_build hacceptable
      exact ⟨scenario, h⟩
  · intro creatures scenario hperm h
    exact Blueprint.build_perm hperm h

/-- Two traps, the second under a symbol of its own and with its name in capitals. -/
def garrison (symbol : String) (cols : Nat) : Blueprint where
  rows := 1
  cols := cols
  settings := {}
  species := [⟨none, some "trap", none⟩, ⟨some symbol, some "TRAP", none⟩]
  creatures := [⟨"t", ⟨0, 0⟩, .east⟩, ⟨symbol, ⟨0, 2⟩, .west⟩]

/-- The traps may be listed in either order. With one symbol for both, the second is refused before
it comes out that the board has no cells. -/
theorem garrison_is_built_by_the_rules :
    (∃ scenario, (garrison "T" 3).build = .ok scenario ∧
      { garrison "T" 3 with creatures := (garrison "T" 3).creatures.reverse }.build =
        .ok scenario) ∧
    (garrison "t" 0).build = .error (.duplicateSpecies "t") := by
  constructor
  · obtain ⟨_, _, _, hperm, _⟩ := blueprints_are_built_by_the_rules (garrison "T" 3)
    exact ⟨_, rfl, hperm _ _ (List.reverse_perm _) rfl⟩
  · obtain ⟨_, _, _, _, hfault⟩ := blueprints_are_built_by_the_rules (garrison "t" 0)
    have hlower : Species.Known "trap" Species.trap := ⟨"trap", by decide, by decide⟩
    have hupper : Species.Known "TRAP" Species.trap := ⟨"trap", by decide, by decide⟩
    have htrap : SpeciesEntry.StandsFor ⟨none, some "trap", none⟩ Species.trap := .listed hlower
    have hrenamed : SpeciesEntry.StandsFor ⟨some "t", some "TRAP", none⟩ Species.trap :=
      .renamed hupper
    have hfit : Species.trap.Fit := Species.check_eq_ok_iff.mp rfl
    have hdefines : Defines [⟨none, some "trap", none⟩] [Species.trap] :=
      ⟨.cons htrap .nil, by simpa using hfit, by decide⟩
    have hsplit : (garrison "t" 0).species =
      [⟨none, some "trap", none⟩] ++ ⟨some "t", some "TRAP", none⟩ :: [] := rfl
    have hbudget : 1 ≤ (garrison "t" 0).settings.stepBudget := by decide
    exact (hfault _).mpr (.species hbudget hsplit hdefines (.duplicate hrenamed hfit (by decide)))

end Vivarium
