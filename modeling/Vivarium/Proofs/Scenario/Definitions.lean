import Mathlib.Data.List.Forall2
import Mathlib.Data.List.Induction
import Mathlib.Data.List.Nodup
import Vivarium.Blueprint
import Vivarium.Proofs.Program.Check

/-! Which species a blueprint defines. An entry stands for at most one species, whatever comes
before it. It is refused because it stands for none, because the species is not fit to live on a
board or because its symbol has been taken. -/
namespace Vivarium

/-! ### Loops that stop at a fault -/

section

variable {σ α β : Type} {f : σ → α → Except Fault σ} {s u : σ} {xs : List α} {x : α}

theorem Except.bind_eq_ok_iff {x : Except Fault α} {g : α → Except Fault β} {b : β} :
    x >>= g = .ok b ↔ ∃ a, x = .ok a ∧ g a = .ok b := by
  cases x with
  | error fault => simp [bind, Except.bind]
  | ok a => simp [bind, Except.bind]

theorem Except.bind_eq_error_iff {x : Except Fault α} {g : α → Except Fault β} {fault : Fault} :
    x >>= g = .error fault ↔ x = .error fault ∨ ∃ a, x = .ok a ∧ g a = .error fault := by
  cases x with
  | error cause => simp [bind, Except.bind]
  | ok a => simp [bind, Except.bind]

theorem Except.map_eq_ok_iff {x : Except Fault α} {g : α → β} {b : β} :
    x.map g = .ok b ↔ ∃ a, x = .ok a ∧ g a = b := by
  cases x with
  | error fault => simp [Except.map]
  | ok a => simp [Except.map]

theorem foldlM_concat_eq_ok_iff :
    (xs ++ [x]).foldlM f s = .ok u ↔ ∃ t, xs.foldlM f s = .ok t ∧ f t x = .ok u := by
  rw [List.foldlM_append, Except.bind_eq_ok_iff]
  simp only [List.foldlM_cons, List.foldlM_nil, bind_pure]

theorem foldlM_eq_error_iff {fault : Fault} :
    xs.foldlM f s = .error fault ↔
      ∃ before x after t, xs = before ++ x :: after ∧ before.foldlM f s = .ok t ∧
        f t x = .error fault := by
  constructor
  · intro h
    induction xs generalizing s with
    | nil => cases h
    | cons x xs ih =>
      rw [List.foldlM_cons] at h
      rcases Except.bind_eq_error_iff.mp h with hx | ⟨t, ht, h⟩
      · exact ⟨[], x, xs, s, rfl, rfl, hx⟩
      · obtain ⟨before, y, after, u, rfl, hbefore, hy⟩ := ih h
        refine ⟨x :: before, y, after, u, rfl, ?_, hy⟩
        rw [List.foldlM_cons]
        exact Except.bind_eq_ok_iff.mpr ⟨t, ht, hbefore⟩
  · rintro ⟨before, x, after, t, rfl, hbefore, hx⟩
    rw [List.foldlM_append]
    refine Except.bind_eq_error_iff.mpr (Or.inr ⟨t, hbefore, ?_⟩)
    rw [List.foldlM_cons]
    exact Except.bind_eq_error_iff.mpr (Or.inl hx)

theorem forall₂_concat_left_iff {R : α → β → Prop} {zs : List β} :
    List.Forall₂ R (xs ++ [x]) zs ↔ ∃ ys y, List.Forall₂ R xs ys ∧ R x y ∧ zs = ys ++ [y] := by
  constructor
  · intro h
    have hreverse := List.forall₂_reverse_iff.mpr h
    rw [List.reverse_append, List.reverse_singleton, List.singleton_append] at hreverse
    obtain ⟨y, ys, hxy, hys, hzs⟩ := List.forall₂_cons_left_iff.mp hreverse
    refine ⟨ys.reverse, y, ?_, hxy, ?_⟩
    · rw [← List.forall₂_reverse_iff, List.reverse_reverse]
      exact hys
    · rw [← List.reverse_reverse zs, hzs, List.reverse_cons]
  · rintro ⟨ys, y, hys, hxy, rfl⟩
    exact List.rel_append hys (.cons hxy .nil)

theorem nodup_map_concat_iff {g : α → β} :
    ((xs ++ [x]).map g).Nodup ↔ g x ∉ xs.map g ∧ (xs.map g).Nodup := by
  rw [List.map_append, List.map_singleton, ← List.concat_eq_append, List.nodup_concat]

end

/-! ### What an entry stands for -/

namespace Species

def Known (name : String) (s : Species) : Prop :=
  ∃ listed, (listed, s) ∈ library ∧ sameName listed name = true

theorem sameName_iff {a b : String} :
    sameName a b = true ↔ a.toList.map Char.toLower = b.toList.map Char.toLower :=
  decide_eq_true_iff

theorem check_of_mem_library {entry : String × Species} (h : entry ∈ library) :
    entry.2.check = .ok () := by
  simp only [library, List.mem_cons, List.not_mem_nil, or_false] at h
  rcases h with rfl | rfl | rfl | rfl <;> rfl

theorem eq_of_sameName : ∀ a ∈ library, ∀ b ∈ library, sameName a.1 b.1 = true → a = b := by decide

theorem named_eq_ok_iff {name : String} {s : Species} : named name = .ok s ↔ Known name s := by
  unfold named
  constructor
  · intro h
    split at h
    · next listed found hfind =>
      cases h
      have hsame := List.find?_some hfind
      exact ⟨listed, List.mem_of_find?_eq_some hfind, hsame⟩
    · cases h
  · rintro ⟨listed, hmem, hsame⟩
    split
    · next found hfind =>
      have hfound := List.find?_some hfind
      -- Both names spell the one that is looked up, so they are one name.
      have hone := eq_of_sameName _ (List.mem_of_find?_eq_some hfind) _ hmem
        (sameName_iff.mpr ((sameName_iff.mp hfound).trans (sameName_iff.mp hsame).symm))
      cases hone
      rfl
    · next hfind =>
      exact absurd hsame (List.find?_eq_none.mp hfind _ hmem)

theorem named_eq_error_iff {name : String} {fault : Fault} :
    named name = .error fault ↔ (∀ s, ¬ Known name s) ∧ fault = .unknownSpecies name := by
  cases hnamed : named name with
  | ok s =>
    have hknown := named_eq_ok_iff.mp hnamed
    simp only [reduceCtorEq, false_iff, not_and]
    intro hnone
    exact absurd hknown (hnone s)
  | error cause =>
    have hnone : ∀ s, ¬ Known name s := by
      intro s hs
      cases hnamed.symm.trans (named_eq_ok_iff.mpr hs)
    have hcause : cause = .unknownSpecies name := by
      unfold named at hnamed
      split at hnamed
      · cases hnamed
      · cases hnamed
        rfl
    simp [hnone, hcause, eq_comm]

theorem Known.fit {name : String} {s : Species} (h : Known name s) : s.Fit := by
  obtain ⟨listed, hmem, _⟩ := h
  exact check_eq_ok_iff.mp (check_of_mem_library hmem)

theorem Known.unique {name : String} {s u : Species} (hs : Known name s) (hu : Known name u) :
    s = u := by
  have hok := (named_eq_ok_iff.mpr hs).symm.trans (named_eq_ok_iff.mpr hu)
  exact Except.ok.inj hok

end Species

namespace SpeciesEntry

/-- The library species that an entry names, under the symbol it gives if it gives one, or the
species with the symbol and the program it gives. -/
inductive StandsFor : SpeciesEntry → Species → Prop where
  | listed {name s} (known : Species.Known name s) : StandsFor ⟨none, some name, none⟩ s
  | renamed {symbol name s} (known : Species.Known name s) :
      StandsFor ⟨some symbol, some name, none⟩ ⟨symbol, s.program⟩
  | written {symbol source program} (assembles : Assembly.assemble source = .ok program) :
      StandsFor ⟨some symbol, none, some source⟩ ⟨symbol, program⟩

/-- Why an entry is refused on its own account. -/
inductive Denied (number : Nat) : SpeciesEntry → Fault → Prop where
  | both {symbol? name source} :
      Denied number ⟨symbol?, some name, some source⟩ (.config (.ambiguousSpecies number))
  | neither {symbol?} :
      Denied number ⟨symbol?, none, none⟩ (.config (.ambiguousSpecies number))
  | unknown {symbol? name} (unknown : ∀ s, ¬ Species.Known name s) :
      Denied number ⟨symbol?, some name, none⟩ (.unknownSpecies name)
  | nameless {source} :
      Denied number ⟨none, none, some source⟩ (.config (.missingSymbol number))
  | garbled {symbol source fault} (refused : Assembly.assemble source = .error fault) :
      Denied number ⟨some symbol, none, some source⟩ fault
  | unfit {e s fault} (stands : StandsFor e s) (unfit : s.Unfit fault) : Denied number e fault

theorem StandsFor.unique {e : SpeciesEntry} {s u : Species} (hs : e.StandsFor s)
    (hu : e.StandsFor u) : s = u := by
  cases hs with
  | listed hknown =>
    cases hu with
    | listed hknown' => exact hknown.unique hknown'
  | renamed hknown =>
    cases hu with
    | renamed hknown' => rw [hknown.unique hknown']
  | written hprogram =>
    cases hu with
    | written hprogram' =>
      cases hprogram.symm.trans hprogram'
      rfl

theorem build_eq_ok_iff {number : Nat} {e : SpeciesEntry} {s : Species} :
    e.build number = .ok s ↔ e.StandsFor s ∧ s.Fit := by
  constructor
  · intro h
    rcases e with ⟨symbol?, _ | name, _ | source⟩
    · cases h
    · cases symbol? with
      | none => cases h
      | some symbol =>
        obtain ⟨program, hprogram, h⟩ := Except.bind_eq_ok_iff.mp h
        obtain ⟨hfit, rfl⟩ := Species.checked_eq_ok_iff.mp h
        exact ⟨.written hprogram, hfit⟩
    · obtain ⟨base, hbase, h⟩ := Except.bind_eq_ok_iff.mp h
      have hknown := Species.named_eq_ok_iff.mp hbase
      cases symbol? with
      | none =>
        cases h
        exact ⟨.listed hknown, hknown.fit⟩
      | some symbol =>
        obtain ⟨hfit, rfl⟩ := Species.checked_eq_ok_iff.mp h
        exact ⟨.renamed hknown, hfit⟩
    · cases h
  · rintro ⟨hstands, hfit⟩
    cases hstands with
    | listed hknown =>
      exact Except.bind_eq_ok_iff.mpr ⟨s, Species.named_eq_ok_iff.mpr hknown, rfl⟩
    | @renamed symbol name base hknown =>
      exact Except.bind_eq_ok_iff.mpr ⟨base, Species.named_eq_ok_iff.mpr hknown,
        Species.checked_eq_ok_iff.mpr ⟨hfit, rfl⟩⟩
    | @written symbol source program hprogram =>
      exact Except.bind_eq_ok_iff.mpr ⟨program, hprogram,
        Species.checked_eq_ok_iff.mpr ⟨hfit, rfl⟩⟩

theorem build_eq_error_iff {number : Nat} {e : SpeciesEntry} {fault : Fault} :
    e.build number = .error fault ↔ e.Denied number fault := by
  constructor
  · intro h
    rcases e with ⟨symbol?, _ | name, _ | source⟩
    · cases h
      exact .neither
    · cases symbol? with
      | none =>
        cases h
        exact .nameless
      | some symbol =>
        rcases Except.bind_eq_error_iff.mp h with hsource | ⟨program, hprogram, h⟩
        · exact .garbled hsource
        · exact .unfit (.written hprogram) (Species.checked_eq_error_iff.mp h)
    · rcases Except.bind_eq_error_iff.mp h with hname | ⟨base, hbase, h⟩
      · obtain ⟨hunknown, rfl⟩ := Species.named_eq_error_iff.mp hname
        exact .unknown hunknown
      · cases symbol? with
        | none => cases h
        | some symbol =>
          exact .unfit (.renamed (Species.named_eq_ok_iff.mp hbase))
            (Species.checked_eq_error_iff.mp h)
    · cases h
      exact .both
  · intro h
    cases h with
    | both => rfl
    | neither => rfl
    | unknown hunknown =>
      exact Except.bind_eq_error_iff.mpr (Or.inl (Species.named_eq_error_iff.mpr ⟨hunknown, rfl⟩))
    | nameless => rfl
    | garbled hsource => exact Except.bind_eq_error_iff.mpr (Or.inl hsource)
    | unfit hstands hunfit =>
      have hchecked := Species.checked_eq_error_iff.mpr hunfit
      cases hstands with
      | listed hknown =>
        cases (Species.check_eq_ok_iff.mpr hknown.fit).symm.trans
          (Species.check_eq_error_iff.mpr hunfit)
      | @renamed symbol name base hknown =>
        exact Except.bind_eq_error_iff.mpr
          (Or.inr ⟨base, Species.named_eq_ok_iff.mpr hknown, hchecked⟩)
      | @written symbol source program hprogram =>
        exact Except.bind_eq_error_iff.mpr (Or.inr ⟨program, hprogram, hchecked⟩)

end SpeciesEntry

/-! ### The species of a blueprint -/

def numbered (species : List Species) : List Kind := species.mapIdx Kind.mk

theorem numbered_concat (species : List Species) (s : Species) :
    numbered (species ++ [s]) = numbered species ++ [⟨species.length, s⟩] := List.mapIdx_concat

theorem length_numbered (species : List Species) : (numbered species).length = species.length :=
  List.length_mapIdx

theorem map_species_numbered (species : List Species) :
    (numbered species).map Kind.species = species := by
  induction species using List.reverseRecOn with
  | nil => rfl
  | append_singleton species s ih => rw [numbered_concat, List.map_append, ih, List.map_singleton]

theorem map_symbol_numbered (species : List Species) :
    (numbered species).map (fun k => k.species.symbol) = species.map Species.symbol := by
  conv_rhs => rw [← map_species_numbered species, List.map_map]
  rfl

theorem kindOf?_eq_none_iff {kinds : List Kind} {symbol : String} :
    kindOf? kinds symbol = none ↔ symbol ∉ kinds.map fun k => k.species.symbol := by
  simp [kindOf?, List.find?_eq_none]

/-- Entries and the species they define, in order: all of them fit, no two with one symbol. -/
structure Defines (entries : List SpeciesEntry) (species : List Species) : Prop where
  stands : List.Forall₂ SpeciesEntry.StandsFor entries species
  fit : ∀ s ∈ species, s.Fit
  distinct : (species.map Species.symbol).Nodup

/-- Why an entry is refused where the entries before it define these species. -/
inductive SpeciesEntry.Barred (species : List Species) (e : SpeciesEntry) : Fault → Prop where
  | denied {fault} (denied : e.Denied (species.length + 1) fault) : Barred species e fault
  | duplicate {s} (stands : e.StandsFor s) (fit : s.Fit)
      (taken : s.symbol ∈ species.map Species.symbol) :
      Barred species e (.duplicateSpecies s.symbol)

theorem Defines.concat_iff {entries : List SpeciesEntry} {e : SpeciesEntry}
    {all : List Species} :
    Defines (entries ++ [e]) all ↔ ∃ species s, Defines entries species ∧ e.StandsFor s ∧ s.Fit ∧
      s.symbol ∉ species.map Species.symbol ∧ all = species ++ [s] := by
  constructor
  · rintro ⟨hstands, hfit, hdistinct⟩
    obtain ⟨species, s, hspecies, hs, rfl⟩ := forall₂_concat_left_iff.mp hstands
    obtain ⟨hfit, hsfit⟩ := List.forall_mem_append.mp hfit
    obtain ⟨hnew, hdistinct⟩ := nodup_map_concat_iff.mp hdistinct
    have hlast := hsfit s (List.mem_singleton_self s)
    exact ⟨species, s, ⟨hspecies, hfit, hdistinct⟩, hs, hlast, hnew, rfl⟩
  · rintro ⟨species, s, ⟨hspecies, hfit, hdistinct⟩, hs, hsfit, hnew, rfl⟩
    exact ⟨forall₂_concat_left_iff.mpr ⟨species, s, hspecies, hs, rfl⟩,
      List.forall_mem_append.mpr ⟨hfit, by simpa using hsfit⟩,
      nodup_map_concat_iff.mpr ⟨hnew, hdistinct⟩⟩

namespace Blueprint

def addKind (kinds : List Kind) (e : SpeciesEntry) : Except Fault (List Kind) := do
  let s ← e.build (kinds.length + 1)
  if (kindOf? kinds s.symbol).isSome then .error (.duplicateSpecies s.symbol)
  else .ok (kinds ++ [⟨kinds.length, s⟩])

theorem addKinds_eq_foldlM (kinds : List Kind) (entries : List SpeciesEntry) :
    addKinds kinds entries = entries.foldlM addKind kinds := by
  induction entries generalizing kinds with
  | nil => rfl
  | cons e entries ih =>
    rw [addKinds, List.foldlM_cons, addKind, bind_assoc]
    congr 1
    funext s
    split
    · rfl
    · exact ih _

variable {species : List Species} {e : SpeciesEntry} {entries : List SpeciesEntry}
  {kinds : List Kind} {fault : Fault}

theorem isSome_kindOf?_numbered {symbol : String} :
    (kindOf? (numbered species) symbol).isSome = true ↔ symbol ∈ species.map Species.symbol := by
  rw [Option.isSome_iff_ne_none, ne_eq, kindOf?_eq_none_iff, not_not, map_symbol_numbered]

theorem addKind_eq_ok_iff :
    addKind (numbered species) e = .ok kinds ↔ ∃ s, e.StandsFor s ∧ s.Fit ∧
      s.symbol ∉ species.map Species.symbol ∧ kinds = numbered (species ++ [s]) := by
  rw [addKind, Except.bind_eq_ok_iff]
  simp only [SpeciesEntry.build_eq_ok_iff, isSome_kindOf?_numbered, length_numbered,
    numbered_concat, and_assoc]
  refine exists_congr fun s => and_congr_right fun _ => and_congr_right fun _ => ?_
  split <;> simp_all [eq_comm]

theorem addKind_eq_error_iff :
    addKind (numbered species) e = .error fault ↔ e.Barred species fault := by
  rw [addKind, Except.bind_eq_error_iff, length_numbered]
  constructor
  · rintro (hbuild | ⟨s, hbuild, h⟩)
    · exact .denied (SpeciesEntry.build_eq_error_iff.mp hbuild)
    · obtain ⟨hstands, hfit⟩ := SpeciesEntry.build_eq_ok_iff.mp hbuild
      split at h
      · next htaken =>
        cases h
        exact .duplicate hstands hfit (isSome_kindOf?_numbered.mp htaken)
      · cases h
  · rintro (hdenied | ⟨hstands, hfit, htaken⟩)
    · exact Or.inl (SpeciesEntry.build_eq_error_iff.mpr hdenied)
    · refine Or.inr ⟨_, SpeciesEntry.build_eq_ok_iff.mpr ⟨hstands, hfit⟩, ?_⟩
      exact if_pos (isSome_kindOf?_numbered.mpr htaken)

theorem addKinds_eq_ok_iff :
    addKinds [] entries = .ok kinds ↔
      ∃ species, Defines entries species ∧ kinds = numbered species := by
  rw [addKinds_eq_foldlM]
  induction entries using List.reverseRecOn generalizing kinds with
  | nil =>
    constructor
    · rintro ⟨⟩
      exact ⟨[], ⟨.nil, List.forall_mem_nil _, List.nodup_nil⟩, rfl⟩
    · rintro ⟨species, ⟨hstands, -, -⟩, rfl⟩
      cases hstands
      rfl
  | append_singleton entries e ih =>
    rw [foldlM_concat_eq_ok_iff]
    constructor
    · rintro ⟨before, hbefore, he⟩
      obtain ⟨species, hspecies, rfl⟩ := ih.mp hbefore
      obtain ⟨s, hs, hfit, hnew, rfl⟩ := addKind_eq_ok_iff.mp he
      exact ⟨_, Defines.concat_iff.mpr ⟨species, s, hspecies, hs, hfit, hnew, rfl⟩, rfl⟩
    · rintro ⟨all, hall, rfl⟩
      obtain ⟨species, s, hspecies, hs, hfit, hnew, rfl⟩ := Defines.concat_iff.mp hall
      exact ⟨_, ih.mpr ⟨species, hspecies, rfl⟩, addKind_eq_ok_iff.mpr ⟨s, hs, hfit, hnew, rfl⟩⟩

theorem addKinds_eq_error_iff :
    addKinds [] entries = .error fault ↔ ∃ before e after species,
      entries = before ++ e :: after ∧ Defines before species ∧ e.Barred species fault := by
  rw [addKinds_eq_foldlM, foldlM_eq_error_iff]
  simp only [← addKinds_eq_foldlM, addKinds_eq_ok_iff]
  constructor
  · rintro ⟨before, e, after, _, hsplit, ⟨species, hspecies, rfl⟩, he⟩
    exact ⟨before, e, after, species, hsplit, hspecies, addKind_eq_error_iff.mp he⟩
  · rintro ⟨before, e, after, species, hsplit, hspecies, he⟩
    exact ⟨before, e, after, _, hsplit, ⟨species, hspecies, rfl⟩, addKind_eq_error_iff.mpr he⟩

end Blueprint

end Vivarium
