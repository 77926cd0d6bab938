import Vivarium.Blueprint.Decode
import Vivarium.Proofs.Run.Creatures
import Vivarium.Proofs.Scenario.Definitions
import Vivarium.Proofs.World.Placing

/-! How a board comes to be populated: creature by creature, from an empty board. A scenario that is
accepted has a board populated by kinds that pass the check of a species. -/
namespace Vivarium

def Kind.Checked (k : Kind) : Prop := k.species.check = .ok ()

/-- Boards made from an empty one by placing creatures of admitted kinds. -/
inductive World.Populated (admits : Kind → Prop) : World → Prop where
  | empty {rows cols w} (h : World.empty rows cols = .ok w) : Populated admits w
  | place {w u kind p d} (before : Populated admits w) (admitted : admits kind)
      (h : w.place kind p d = .ok u) : Populated admits u

namespace World

theorem Populated.mono {admits admits' : Kind → Prop} (h : ∀ k, admits k → admits' k) {w : World}
    (hw : w.Populated admits) : w.Populated admits' := by
  induction hw with
  | empty hempty => exact .empty hempty
  | place _ admitted hplace ih => exact .place ih (h _ admitted) hplace

theorem Populated.all {admits : Kind → Prop} {P : Creature → Prop}
    (hP : ∀ kind d, admits kind → P (.spawn kind d)) {w : World} (h : w.Populated admits) :
    w.All P := by
  induction h with
  | empty hempty =>
    intro slot c hc
    rw [occupant?_empty hempty] at hc
    cases hc
  | @place w u kind p d _ admitted hplace ih =>
    obtain ⟨there, _, _, rfl⟩ := exists_slot_of_place hplace
    intro slot c hc
    rw [occupant?_put] at hc
    split at hc
    · cases hc
      exact hP kind d admitted
    · exact ih slot c hc

end World

/-! ### Scenarios -/

namespace Blueprint

theorem populated_of_populate {admits : Kind → Prop} {kinds : List Kind}
    (hk : ∀ k ∈ kinds, admits k) {entries : List CreatureEntry} {w u : World}
    (h : populate kinds w entries = .ok u) (hw : w.Populated admits) : u.Populated admits := by
  induction entries generalizing w with
  | nil =>
    cases h
    exact hw
  | cons e entries ih =>
    unfold populate at h
    split at h
    · cases h
    · next kind hkind =>
      obtain ⟨next, hplace, h⟩ := Except.bind_eq_ok_iff.mp h
      exact ih h (.place hw (hk kind (List.mem_of_find?_eq_some hkind)) hplace)

variable {b : Blueprint} {scenario : Scenario}

/-- The world of a scenario is populated by the kinds that the scenario lists, and they are those
that the entries define. -/
theorem populated_of_build (h : b.build = .ok scenario) :
    scenario.world.Populated (· ∈ scenario.kinds) ∧
      ∃ species, Defines b.species species ∧ scenario.kinds = numbered species := by
  obtain ⟨_, _, h⟩ := Except.bind_eq_ok_iff.mp h
  obtain ⟨kinds, hkinds, h⟩ := Except.bind_eq_ok_iff.mp h
  obtain ⟨board, hboard, h⟩ := Except.bind_eq_ok_iff.mp h
  obtain ⟨world, hworld, h⟩ := Except.bind_eq_ok_iff.mp h
  cases h
  exact ⟨populated_of_populate (fun _ hk => hk) hworld (.empty hboard),
    addKinds_eq_ok_iff.mp hkinds⟩

theorem checked_of_build (h : b.build = .ok scenario) : ∀ k ∈ scenario.kinds, k.Checked := by
  obtain ⟨_, species, hdefines, hkinds⟩ := populated_of_build h
  intro k hk
  rw [hkinds] at hk
  have hmem : k.species ∈ species := by
    rw [← map_species_numbered species]
    exact List.mem_map_of_mem hk
  exact Species.check_eq_ok_iff.mpr (hdefines.fit _ hmem)

end Blueprint

theorem Scenario.ofText_eq_build {text : String} {b : Blueprint}
    (h : Blueprint.ofText? text = some b) : ofText text = b.build := by
  simp only [ofText, h]

theorem Scenario.build_of_ofText {text : String} {scenario : Scenario}
    (h : ofText text = .ok scenario) : ∃ b : Blueprint, b.build = .ok scenario := by
  unfold ofText at h
  split at h
  · cases h
  · next b _ => exact ⟨b, h⟩

theorem Scenario.populated_of_ofText {text : String} {scenario : Scenario}
    (h : ofText text = .ok scenario) : scenario.world.Populated Kind.Checked := by
  obtain ⟨b, hb⟩ := build_of_ofText h
  exact (Blueprint.populated_of_build hb).1.mono (Blueprint.checked_of_build hb)

end Vivarium
