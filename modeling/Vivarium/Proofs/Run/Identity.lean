import Vivarium.Proofs.Run.Populations
import Vivarium.Proofs.Scenario.Population

/-! Symbols as names of kinds. The kinds of a scenario have symbols of their own, and no others come
up in its runs. There symbols tell kinds apart, and who counts symbols counts populations. -/
namespace Vivarium

namespace Scenario

/-- What a run may start from: a text that is accepted, or the demonstration. -/
inductive Provided (scenario : Scenario) : Prop where
  | read {text : String} (h : ofText text = .ok scenario)
  | demo (h : Scenario.demo = .ok scenario)

/-- The boards of all runs from a scenario, whatever their coins and their settings. -/
def LeadsTo (scenario : Scenario) (w : World) : Prop :=
  ∃ s : Simulation, s.world = scenario.world ∧ s.Reaches w

theorem leadsTo_after (scenario : Scenario) (coin : Coin) (settings : Settings)
    (round rounds : Nat) :
    scenario.LeadsTo (Simulation.after ⟨scenario.world, coin, settings, round⟩ rounds).world :=
  ⟨_, rfl, Simulation.reaches_after _ rounds⟩

variable {scenario : Scenario} {w : World}

theorem Provided.exists_build (h : scenario.Provided) :
    ∃ b : Blueprint, b.build = .ok scenario := by
  cases h with
  | read h => exact build_of_ofText h
  | demo h => exact ⟨Blueprint.demo, h⟩

theorem Provided.eq_of_symbol_eq (h : scenario.Provided) {k l : Kind} (hk : k ∈ scenario.kinds)
    (hl : l ∈ scenario.kinds) (hsymbol : k.species.symbol = l.species.symbol) : k = l := by
  obtain ⟨b, hb⟩ := h.exists_build
  obtain ⟨_, species, hdefines, hkinds⟩ := Blueprint.populated_of_build hb
  have hdistinct : (scenario.kinds.map fun k => k.species.symbol).Nodup := by
    rw [hkinds, map_symbol_numbered]
    exact hdefines.distinct
  exact List.inj_on_of_nodup_map hdistinct hk hl hsymbol

/-- Infection only hands on the kinds that were there, and those were the scenario's. -/
theorem Provided.kind_mem (h : scenario.Provided) (hw : scenario.LeadsTo w) :
    w.All fun c => c.kind ∈ scenario.kinds := by
  obtain ⟨b, hb⟩ := h.exists_build
  obtain ⟨s, hs, hw⟩ := hw
  have hstart : s.world.All fun c => c.kind ∈ scenario.kinds := by
    rw [hs]
    exact (Blueprint.populated_of_build hb).1.all fun _ _ hkind => hkind
  exact Simulation.all_of_reaches (Creature.inherited_kind (· ∈ scenario.kinds)) hstart hw

end Scenario

namespace World

variable {w : World} {kinds : List Kind}

theorem occupant?_of_mem_creatures {entry : Nat × Creature} (h : entry ∈ w.creatures) :
    w.occupant? entry.1 = some entry.2 := by
  obtain ⟨slot, _, hentry⟩ := List.mem_filterMap.mp h
  obtain ⟨c, hc, rfl⟩ := Option.map_eq_some_iff.mp hentry
  exact hc

theorem count_symbol_eq_population {kind : Kind}
    (h : w.All fun c => c.symbol = kind.species.symbol → c.kind = kind) :
    (w.creatures.map fun entry => entry.2.symbol).count kind.species.symbol =
      w.population kind := by
  rw [symbols_count, ← List.countP_eq_length_filter, population, tally, toList_cells,
    List.countP_map]
  apply List.countP_congr
  intro slot _
  cases hc : w.occupant? slot with
  | none => simp [hc]
  | some c =>
    have hiff : c.symbol = kind.species.symbol ↔ c.kind = kind := by
      constructor
      · exact h slot c hc
      · intro hkind
        rw [← hkind]
        rfl
    simpa [hc] using hiff

theorem lookup_census_eq_some_iff (hkinds : w.All fun c => c.kind ∈ kinds)
    (hsymbols : ∀ k ∈ kinds, ∀ l ∈ kinds, k.species.symbol = l.species.symbol → k = l)
    {symbol : String} {n : Nat} :
    w.census.lookup symbol = some n ↔
      ∃ kind ∈ kinds, kind.species.symbol = symbol ∧ w.population kind = n ∧ 0 < n := by
  have hcount : ∀ kind ∈ kinds, (w.creatures.map fun entry => entry.2.symbol).count
      kind.species.symbol = w.population kind := by
    intro kind hkind
    apply count_symbol_eq_population
    intro slot c hc
    exact hsymbols _ (hkinds slot c hc) _ hkind
  rw [census, (Census.counts_ofSymbols _).lookup]
  constructor
  · intro hlookup
    split at hlookup
    · cases hlookup
    · next hshown =>
      cases hlookup
      have hpos := Nat.pos_of_ne_zero hshown
      obtain ⟨entry, hentry, rfl⟩ := List.mem_map.mp (List.count_pos_iff.mp hpos)
      have hkind := hkinds _ _ (occupant?_of_mem_creatures hentry)
      exact ⟨entry.2.kind, hkind, rfl, (hcount _ hkind).symm, hpos⟩
  · intro hkind
    obtain ⟨kind, hmem, rfl, rfl, hpos⟩ := hkind
    rw [hcount kind hmem, if_neg (by omega)]

end World

/-- Two creatures on boards that runs from one scenario come to are of one kind if and only if they
show one symbol, and with it they share the program. The census lists the symbols of those kinds of
the scenario that have members left, each with the size of its population. -/
theorem symbols_tell_kinds_apart {scenario : Scenario} (hscenario : scenario.Provided)
    {w u : World} (hw : scenario.LeadsTo w) (hu : scenario.LeadsTo u) :
    (∀ p q c d, w.creatureAt? p = some c → u.creatureAt? q = some d →
      (c.sameKind d = true ↔ c.symbol = d.symbol) ∧
        (c.symbol = d.symbol → c.program = d.program)) ∧
    ∀ symbol n, w.census.lookup symbol = some n ↔
      ∃ kind ∈ scenario.kinds, kind.species.symbol = symbol ∧ w.population kind = n ∧ 0 < n := by
  have hkinds := hscenario.kind_mem hw
  constructor
  · intro p q c d hc hd
    obtain ⟨slot, hslot, _⟩ := World.creatureAt?_eq_some_iff.mp hc
    obtain ⟨there, hthere, _⟩ := World.creatureAt?_eq_some_iff.mp hd
    have hkind : c.symbol = d.symbol → c.kind = d.kind :=
      hscenario.eq_of_symbol_eq (hkinds slot c hslot) (hscenario.kind_mem hu there d hthere)
    refine ⟨⟨?_, ?_⟩, ?_⟩
    · intro hsame
      rw [Creature.symbol, of_decide_eq_true hsame]
      rfl
    · intro hsymbol
      exact decide_eq_true (hkind hsymbol)
    · intro hsymbol
      rw [Creature.program, hkind hsymbol]
      rfl
  · intro symbol n
    apply World.lookup_census_eq_some_iff hkinds
    intro k hk l hl
    exact hscenario.eq_of_symbol_eq hk hl

def snareText : String :=
  "rows = 1\ncols = 2\nspecies = [\x7blibrary = \"trap\"\x7d, \x7blibrary = \"food\"\x7d]\n" ++
    "creature = [[\"t\", 0, 0, \"east\"], [\"f\", 0, 1, \"north\"]]\n"

def snare : Blueprint where
  rows := 1
  cols := 2
  settings := {}
  species := [⟨none, some "trap", none⟩, ⟨none, some "food", none⟩]
  creatures := [⟨"t", ⟨0, 0⟩, .east⟩, ⟨"f", ⟨0, 1⟩, .north⟩]

/-- After one round the food that the trap has caught is a trap, by kind and by symbol. After one
round of the demonstration there are still four hoppers. -/
theorem caught_food_is_a_trap :
    (∃ scenario, Scenario.ofText snareText = .ok scenario ∧
      ∃ w c d, scenario.LeadsTo w ∧ w.creatureAt? ⟨0, 0⟩ = some c ∧
        w.creatureAt? ⟨0, 1⟩ = some d ∧ c.sameKind d = true ∧ w.census.lookup "t" = some 2) ∧
    ∃ scenario, Scenario.demo = .ok scenario ∧
      ∃ w, scenario.LeadsTo w ∧ w.census.lookup "h" = some 4 := by
  constructor
  · have hread : Blueprint.ofText? snareText = some snare := by decide +kernel
    have hscenario : Scenario.ofText snareText = .ok _ := (Scenario.ofText_eq_build hread).trans rfl
    obtain ⟨hcreatures, hcensus⟩ := symbols_tell_kinds_apart (.read hscenario)
      (Scenario.leadsTo_after _ (.scripted #[]) {} 0 1)
      (Scenario.leadsTo_after _ (.scripted #[]) {} 0 1)
    obtain ⟨hkinds, _⟩ := hcreatures ⟨0, 0⟩ ⟨0, 1⟩ _ _ rfl rfl
    refine ⟨_, hscenario, _, _, _, Scenario.leadsTo_after _ (.scripted #[]) {} 0 1, rfl, rfl,
      hkinds.mpr rfl, ?_⟩
    exact (hcensus "t" 2).mpr ⟨⟨0, Species.trap⟩, by decide, rfl, rfl, by decide⟩
  · have hdemo : Scenario.demo = .ok _ := rfl
    obtain ⟨_, hcensus⟩ := symbols_tell_kinds_apart (.demo hdemo)
      (Scenario.leadsTo_after _ (.scripted #[]) {} 0 1)
      (Scenario.leadsTo_after _ (.scripted #[]) {} 0 1)
    refine ⟨_, hdemo, _, Scenario.leadsTo_after _ (.scripted #[]) {} 0 1, ?_⟩
    exact (hcensus "h" 4).mpr ⟨⟨1, Species.hopper⟩, by decide, rfl, rfl, by decide⟩

end Vivarium
