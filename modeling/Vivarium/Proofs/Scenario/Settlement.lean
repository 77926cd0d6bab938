import Vivarium.Proofs.Scenario.Definitions
import Vivarium.Proofs.World.Placing

/-! Which creatures of a blueprint can be placed, and the board they make. It does not depend on the
order in which they are placed. -/
namespace Vivarium

def TheKind (kinds : List Kind) (symbol : String) (kind : Kind) : Prop :=
  ∀ k, k ∈ kinds ∧ k.species.symbol = symbol ↔ k = kind

structure Placeable (species : List Species) (rows cols : Nat) (entries : List CreatureEntry) :
    Prop where
  named : ∀ e ∈ entries, e.symbol ∈ species.map Species.symbol
  inside : ∀ e ∈ entries, e.position.row < rows ∧ e.position.col < cols
  apart : (entries.map CreatureEntry.position).Nodup

inductive CreatureEntry.Barred (species : List Species) (rows cols : Nat)
    (before : List CreatureEntry) (e : CreatureEntry) : Fault → Prop where
  | unknown (unknown : e.symbol ∉ species.map Species.symbol) :
      Barred species rows cols before e (.unknownSpecies e.symbol)
  | outside (named : e.symbol ∈ species.map Species.symbol)
      (outside : ¬ (e.position.row < rows ∧ e.position.col < cols)) :
      Barred species rows cols before e (.outOfBounds e.position rows cols)
  | occupied (named : e.symbol ∈ species.map Species.symbol)
      (inside : e.position.row < rows ∧ e.position.col < cols)
      (occupied : e.position ∈ before.map CreatureEntry.position) :
      Barred species rows cols before e (.cellOccupied e.position)

/-- A board of this size with the creatures of these entries, all of them as they are born, and no
others. -/
structure World.Peopled (w : World) (kinds : List Kind) (rows cols : Nat)
    (entries : List CreatureEntry) : Prop where
  rows_eq : w.rows = rows
  cols_eq : w.cols = cols
  listed : ∀ e ∈ entries, ∃ kind, TheKind kinds e.symbol kind ∧
    w.creatureAt? e.position = some ⟨kind, e.heading, 0⟩
  unlisted : ∀ p, p ∉ entries.map CreatureEntry.position → w.creatureAt? p = none

theorem kindOf?_eq_some_iff {kinds : List Kind}
    (h : (kinds.map fun k => k.species.symbol).Nodup) {symbol : String} {kind : Kind} :
    kindOf? kinds symbol = some kind ↔ TheKind kinds symbol kind := by
  constructor
  · intro hkind
    have hmem := List.mem_of_find?_eq_some hkind
    have hsymbol : kind.species.symbol = symbol := by simpa using List.find?_some hkind
    intro k
    constructor
    · rintro ⟨hk, rfl⟩
      exact List.inj_on_of_nodup_map h hk hmem hsymbol.symm
    · rintro rfl
      exact ⟨hmem, hsymbol⟩
  · intro hthe
    obtain ⟨hmem, hsymbol⟩ := (hthe kind).mpr rfl
    cases hkind : kindOf? kinds symbol with
    | none =>
      have hnone := kindOf?_eq_none_iff.mp hkind
      rw [← hsymbol] at hnone
      exact absurd (List.mem_map_of_mem hmem) hnone
    | some k =>
      have hk : k.species.symbol = symbol := by simpa using List.find?_some hkind
      rw [(hthe k).mp ⟨List.mem_of_find?_eq_some hkind, hk⟩]

theorem Placeable.concat_iff {species : List Species} {rows cols : Nat}
    {entries : List CreatureEntry} {e : CreatureEntry} :
    Placeable species rows cols (entries ++ [e]) ↔ Placeable species rows cols entries ∧
      e.symbol ∈ species.map Species.symbol ∧ (e.position.row < rows ∧ e.position.col < cols) ∧
      e.position ∉ entries.map CreatureEntry.position := by
  constructor
  · rintro ⟨hnamed, hinside, hapart⟩
    obtain ⟨hnamed, henamed⟩ := List.forall_mem_append.mp hnamed
    obtain ⟨hinside, heinside⟩ := List.forall_mem_append.mp hinside
    obtain ⟨hnew, hapart⟩ := nodup_map_concat_iff.mp hapart
    have hlast := List.mem_singleton_self e
    exact ⟨⟨hnamed, hinside, hapart⟩, henamed e hlast, heinside e hlast, hnew⟩
  · rintro ⟨⟨hnamed, hinside, hapart⟩, henamed, heinside, hnew⟩
    exact ⟨List.forall_mem_append.mpr ⟨hnamed, by simpa using henamed⟩,
      List.forall_mem_append.mpr ⟨hinside, by simpa using heinside⟩,
      nodup_map_concat_iff.mpr ⟨hnew, hapart⟩⟩

theorem Placeable.perm {species : List Species} {rows cols : Nat}
    {entries others : List CreatureEntry} (h : Placeable species rows cols entries)
    (hperm : others.Perm entries) : Placeable species rows cols others where
  named e he := h.named e (hperm.mem_iff.mp he)
  inside e he := h.inside e (hperm.mem_iff.mp he)
  apart := (hperm.map CreatureEntry.position).nodup_iff.mpr h.apart

namespace World

variable {w u : World} {kinds : List Kind} {rows cols : Nat} {entries : List CreatureEntry}

theorem Bare.peopled (h : w.Bare rows cols) : w.Peopled kinds rows cols [] where
  rows_eq := h.rows_eq
  cols_eq := h.cols_eq
  listed := List.forall_mem_nil _
  unlisted p _ := h.vacant p

theorem Peopled.unique (hw : w.Peopled kinds rows cols entries)
    (hu : u.Peopled kinds rows cols entries) : u = w := by
  have hshape : w.SameShape u :=
    ⟨hu.rows_eq.trans hw.rows_eq.symm, hu.cols_eq.trans hw.cols_eq.symm⟩
  apply hshape.eq_of_creatures
  intro p
  by_cases hp : p ∈ entries.map CreatureEntry.position
  · obtain ⟨e, he, rfl⟩ := List.mem_map.mp hp
    obtain ⟨kind, hkind, hc⟩ := hw.listed e he
    obtain ⟨kind', hkind', hc'⟩ := hu.listed e he
    obtain rfl := (hkind kind').mp ((hkind' kind').mpr rfl)
    rw [hc, hc']
  · rw [hw.unlisted p hp, hu.unlisted p hp]

theorem Peopled.perm {others : List CreatureEntry} (h : w.Peopled kinds rows cols entries)
    (hperm : others.Perm entries) : w.Peopled kinds rows cols others where
  rows_eq := h.rows_eq
  cols_eq := h.cols_eq
  listed e he := h.listed e (hperm.mem_iff.mp he)
  unlisted p hp := h.unlisted p fun hmem => hp ((hperm.map CreatureEntry.position).mem_iff.mpr hmem)

theorem Peopled.creatureAt?_ne_none_iff (h : w.Peopled kinds rows cols entries) {p : Position} :
    w.creatureAt? p ≠ none ↔ p ∈ entries.map CreatureEntry.position := by
  constructor
  · intro hoccupied
    by_contra hp
    exact hoccupied (h.unlisted p hp)
  · intro hp
    obtain ⟨e, he, rfl⟩ := List.mem_map.mp hp
    obtain ⟨kind, _, hc⟩ := h.listed e he
    simp [hc]

theorem Peopled.contains_iff (h : w.Peopled kinds rows cols entries) {p : Position} :
    w.Contains p ↔ p.row < rows ∧ p.col < cols := by
  rw [Contains, h.rows_eq, h.cols_eq]

theorem Peopled.place (h : w.Peopled kinds rows cols entries) {e : CreatureEntry} {kind : Kind}
    (hkind : TheKind kinds e.symbol kind) (hplaced : w.Placed kind e.position e.heading u) :
    u.Peopled kinds rows cols (entries ++ [e]) where
  rows_eq := hplaced.shape.rows.trans h.rows_eq
  cols_eq := hplaced.shape.cols.trans h.cols_eq
  listed := by
    intro e' he'
    rw [hplaced.cells]
    rcases List.mem_append.mp he' with he' | he'
    · obtain ⟨kind', hkind', hc⟩ := h.listed e' he'
      have hne : e'.position ≠ e.position := by
        intro heq
        rw [heq, hplaced.free] at hc
        cases hc
      rw [if_neg hne]
      exact ⟨kind', hkind', hc⟩
    · obtain rfl := List.mem_singleton.mp he'
      rw [if_pos rfl]
      exact ⟨kind, hkind, rfl⟩
  unlisted := by
    intro p hp
    rw [List.map_append, List.map_singleton, List.mem_append, List.mem_singleton, not_or] at hp
    rw [hplaced.cells, if_neg hp.2]
    exact h.unlisted p hp.1

end World

namespace Blueprint

def settle (kinds : List Kind) (w : World) (e : CreatureEntry) : Except Fault World :=
  match kindOf? kinds e.symbol with
  | none => .error (.unknownSpecies e.symbol)
  | some kind => w.place kind e.position e.heading

theorem populate_eq_foldlM (kinds : List Kind) (w : World) (entries : List CreatureEntry) :
    populate kinds w entries = entries.foldlM (settle kinds) w := by
  induction entries generalizing w with
  | nil => rfl
  | cons e entries ih =>
    rw [populate, List.foldlM_cons, settle]
    cases kindOf? kinds e.symbol with
    | none => rfl
    | some kind =>
      refine congrArg (w.place kind e.position e.heading >>= ·) ?_
      funext u
      exact ih u

variable {species : List Species} {rows cols : Nat} {w u board : World} {e : CreatureEntry}
  {entries : List CreatureEntry} {fault : Fault}

section

variable (distinct : (species.map Species.symbol).Nodup)

include distinct

theorem theKind_of_kindOf? {symbol : String} {kind : Kind}
    (h : kindOf? (numbered species) symbol = some kind) :
    TheKind (numbered species) symbol kind := by
  rw [← map_symbol_numbered] at distinct
  exact (kindOf?_eq_some_iff distinct).mp h

theorem peopled_of_settle (hw : w.Peopled (numbered species) rows cols entries)
    (h : settle (numbered species) w e = .ok u) :
    (e.symbol ∈ species.map Species.symbol ∧ (e.position.row < rows ∧ e.position.col < cols) ∧
      e.position ∉ entries.map CreatureEntry.position) ∧
      u.Peopled (numbered species) rows cols (entries ++ [e]) := by
  unfold settle at h
  split at h
  · cases h
  · next kind hkind =>
    have hplaced := World.placed_of_place h
    have hnamed := isSome_kindOf?_numbered.mp (by rw [hkind]; rfl)
    refine ⟨⟨hnamed, hw.contains_iff.mp hplaced.contains, ?_⟩,
      hw.place (theKind_of_kindOf? distinct hkind) hplaced⟩
    rw [← hw.creatureAt?_ne_none_iff, not_not]
    exact hplaced.free

omit distinct in
theorem exists_settle (hw : w.Peopled (numbered species) rows cols entries)
    (hnamed : e.symbol ∈ species.map Species.symbol)
    (hinside : e.position.row < rows ∧ e.position.col < cols)
    (hnew : e.position ∉ entries.map CreatureEntry.position) :
    ∃ u, settle (numbered species) w e = .ok u := by
  obtain ⟨kind, hkind⟩ := Option.isSome_iff_exists.mp (isSome_kindOf?_numbered.mpr hnamed)
  rw [settle, hkind]
  exact World.exists_place (hw.contains_iff.mpr hinside) (hw.unlisted _ hnew) kind e.heading

omit distinct in
theorem settle_eq_error_iff (hw : w.Peopled (numbered species) rows cols entries) :
    settle (numbered species) w e = .error fault ↔ e.Barred species rows cols entries fault := by
  unfold settle
  cases hkind : kindOf? (numbered species) e.symbol with
  | none =>
    have hunknown : e.symbol ∉ species.map Species.symbol := by
      rw [← map_symbol_numbered]
      exact kindOf?_eq_none_iff.mp hkind
    constructor
    · rintro ⟨⟩
      exact .unknown hunknown
    · rintro (_ | ⟨hnamed, _⟩ | ⟨hnamed, _, _⟩)
      · rfl
      · exact absurd hnamed hunknown
      · exact absurd hnamed hunknown
  | some kind =>
    have hnamed : e.symbol ∈ species.map Species.symbol :=
      isSome_kindOf?_numbered.mp (by rw [hkind]; rfl)
    simp only [World.place_eq_error_iff, hw.contains_iff, hw.creatureAt?_ne_none_iff, hw.rows_eq,
      hw.cols_eq]
    constructor
    · rintro (⟨houtside, rfl⟩ | ⟨hinside, hoccupied, rfl⟩)
      · exact .outside hnamed houtside
      · exact .occupied hnamed hinside hoccupied
    · rintro (hunknown | ⟨_, houtside⟩ | ⟨_, hinside, hoccupied⟩)
      · exact absurd hnamed hunknown
      · exact Or.inl ⟨houtside, rfl⟩
      · exact Or.inr ⟨hinside, hoccupied, rfl⟩

theorem peopled_of_populate (hboard : board.Bare rows cols)
    (h : populate (numbered species) board entries = .ok u) :
    Placeable species rows cols entries ∧ u.Peopled (numbered species) rows cols entries := by
  rw [populate_eq_foldlM] at h
  induction entries using List.reverseRecOn generalizing u with
  | nil =>
    cases h
    exact ⟨⟨List.forall_mem_nil _, List.forall_mem_nil _, List.nodup_nil⟩, hboard.peopled⟩
  | append_singleton entries e ih =>
    obtain ⟨w, hentries, he⟩ := foldlM_concat_eq_ok_iff.mp h
    obtain ⟨hplaceable, hw⟩ := ih hentries
    obtain ⟨hnew, hu⟩ := peopled_of_settle distinct hw he
    exact ⟨Placeable.concat_iff.mpr ⟨hplaceable, hnew⟩, hu⟩

theorem exists_populate (hboard : board.Bare rows cols)
    (h : Placeable species rows cols entries) :
    ∃ u, populate (numbered species) board entries = .ok u := by
  induction entries using List.reverseRecOn with
  | nil => exact ⟨board, rfl⟩
  | append_singleton entries e ih =>
    obtain ⟨hentries, hnamed, hinside, hnew⟩ := Placeable.concat_iff.mp h
    obtain ⟨w, hw⟩ := ih hentries
    obtain ⟨u, hu⟩ := exists_settle (peopled_of_populate distinct hboard hw).2 hnamed hinside hnew
    rw [populate_eq_foldlM] at hw ⊢
    exact ⟨u, foldlM_concat_eq_ok_iff.mpr ⟨w, hw, hu⟩⟩

theorem populate_eq_ok_iff (hboard : board.Bare rows cols) :
    populate (numbered species) board entries = .ok u ↔
      Placeable species rows cols entries ∧ u.Peopled (numbered species) rows cols entries := by
  constructor
  · exact peopled_of_populate distinct hboard
  · rintro ⟨hplaceable, hu⟩
    obtain ⟨w, hw⟩ := exists_populate distinct hboard hplaceable
    rw [hw, (peopled_of_populate distinct hboard hw).2.unique hu]

theorem populate_eq_error_iff (hboard : board.Bare rows cols) :
    populate (numbered species) board entries = .error fault ↔ ∃ before e after,
      entries = before ++ e :: after ∧ Placeable species rows cols before ∧
        e.Barred species rows cols before fault := by
  rw [populate_eq_foldlM, foldlM_eq_error_iff]
  simp only [← populate_eq_foldlM]
  constructor
  · rintro ⟨before, e, after, w, hsplit, hbefore, he⟩
    obtain ⟨hplaceable, hw⟩ := peopled_of_populate distinct hboard hbefore
    exact ⟨before, e, after, hsplit, hplaceable, (settle_eq_error_iff hw).mp he⟩
  · rintro ⟨before, e, after, hsplit, hplaceable, he⟩
    obtain ⟨w, hbefore⟩ := exists_populate distinct hboard hplaceable
    have hw := (peopled_of_populate distinct hboard hbefore).2
    exact ⟨before, e, after, w, hsplit, hbefore, (settle_eq_error_iff hw).mpr he⟩

end

end Blueprint

end Vivarium
