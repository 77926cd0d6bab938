import Vivarium.Proofs.Turn.Success
import Vivarium.Proofs.World.Conservation

/-! What a view answers and what it can do. The questions divide the cell ahead into four classes,
and the actions abide by them: a hop needs an empty cell, an infection an enemy, and an action that
is refused changes nothing. -/
namespace Vivarium

open Function (update)

namespace View

variable {v last : View} {sight : Sight}

/-- The class of the cell ahead, as the questions of the view tell it. -/
def Faces (v : View) : Sight → Prop
  | .wall => v.facesWall = true
  | .empty => v.facesEmpty = true
  | .enemy => v.enemyAhead?.isSome = true
  | .friend => ∃ target other, v.ahead? = some target ∧ v.world.occupant? target = some other ∧
      other.kind = v.active.kind

theorem facesWall_iff (v : View) : v.facesWall = true ↔ v.sight = .wall := by
  unfold facesWall sight
  cases v.ahead? with
  | none => simp
  | some target =>
    cases hthere : v.world.occupant? target with
    | none => simp [hthere]
    | some other => cases hkind : v.active.sameKind other <;> simp [hthere, hkind]

theorem friend_iff (v : View) : v.sight = .friend ↔ ∃ target other, v.ahead? = some target ∧
    v.world.occupant? target = some other ∧ other.kind = v.active.kind := by
  unfold sight
  cases v.ahead? with
  | none => simp
  | some target =>
    cases hthere : v.world.occupant? target with
    | none => simp [hthere]
    | some other => simp [hthere, Creature.sameKind, eq_comm]

theorem faces_iff : v.Faces sight ↔ v.sight = sight := by
  cases sight with
  | wall => exact v.facesWall_iff
  | empty => exact v.facesEmpty_iff
  | friend => exact v.friend_iff.symm
  | enemy => exact v.enemyAhead?_isSome_iff

/-! ### Hopping -/

theorem exists_hop_iff : (∃ last, v.hop = .ok last) ↔ v.facesEmpty = true := by
  constructor
  · rintro ⟨last, hlast⟩
    cases performs_of_hop hlast with
    | moved ahead free => simp [facesEmpty, ahead, free]
  · intro hempty
    obtain ⟨last, hlast, _⟩ := hop_performs hempty
    exact ⟨last, hlast⟩

theorem hop_eq_error_iff {fault : Fault} : v.hop = .error fault ↔
    v.ahead? = none ∧ fault = .hopIntoWall v.position ∨
      ∃ target, v.ahead? = some target ∧ (v.world.occupant? target).isSome = true ∧
        fault = .hopIntoOccupied v.position (v.world.positionOf target) := by
  unfold hop
  split
  · next wall =>
    constructor
    · rintro ⟨⟩
      exact Or.inl ⟨wall, rfl⟩
    · rintro (⟨_, rfl⟩ | ⟨target, ahead, _⟩)
      · rfl
      · rw [wall] at ahead
        cases ahead
  · next there ahead =>
    split
    · next taken =>
      constructor
      · rintro ⟨⟩
        exact Or.inr ⟨there, ahead, taken, rfl⟩
      · rintro (⟨wall, _⟩ | ⟨target, htarget, _, rfl⟩)
        · rw [ahead] at wall
          cases wall
        · rw [ahead] at htarget
          cases htarget
          rfl
    · next free =>
      constructor
      · rintro ⟨⟩
      · rintro (⟨wall, _⟩ | ⟨target, htarget, taken, _⟩)
        · rw [ahead] at wall
          cases wall
        · rw [ahead] at htarget
          cases htarget
          exact absurd taken free

theorem hop_into_wall_iff : v.hop = .error (.hopIntoWall v.position) ↔ v.facesWall = true := by
  rw [hop_eq_error_iff, facesWall, Option.isNone_iff_eq_none]
  constructor
  · rintro (⟨wall, _⟩ | ⟨_, _, _, hfault⟩)
    · exact wall
    · cases hfault
  · intro wall
    exact Or.inl ⟨wall, rfl⟩

theorem hop_into_occupied_iff : (∃ target, v.ahead? = some target ∧
    v.hop = .error (.hopIntoOccupied v.position (v.world.positionOf target))) ↔
      v.facesEmpty = false ∧ v.facesWall = false := by
  unfold facesEmpty facesWall
  constructor
  · rintro ⟨target, ahead, hfault⟩
    rcases hop_eq_error_iff.mp hfault with ⟨_, hwall⟩ | ⟨there, hthere, taken, _⟩
    · cases hwall
    · rw [ahead] at hthere ⊢
      cases hthere
      exact ⟨by simpa using taken, rfl⟩
  · rintro ⟨hempty, hwall⟩
    cases ahead : v.ahead? with
    | none =>
      rw [ahead] at hwall
      cases hwall
    | some target =>
      rw [ahead, Option.any_some] at hempty
      have taken : (v.world.occupant? target).isSome = true := by simpa using hempty
      exact ⟨target, rfl, hop_eq_error_iff.mpr (Or.inr ⟨target, ahead, taken, rfl⟩)⟩

theorem occupants_of_hop (h : v.hop = .ok last) : v.world.SameShape last.world ∧
    v.ahead? = some last.slot ∧ last.world.occupant? =
      update (update v.world.occupant? v.slot none) last.slot (some v.active) := by
  cases performs_of_hop h with
  | moved ahead _ shape slot board =>
    subst slot
    refine ⟨shape, ahead, ?_⟩
    funext there
    rw [board, Function.update_apply, Function.update_apply]

/-! ### Infecting -/

theorem isSome_infect?_iff (v : View) : v.infect?.isSome = true ↔ v.sight = .enemy := by
  rw [← v.enemyAhead?_isSome_iff]
  rcases v.infect?_performs with ⟨last, hlast, hperforms⟩ | ⟨hnone, hnobody⟩
  · cases hperforms with
    | infected ahead there enemy =>
      simp [hlast, enemyAhead?, ahead, there, Creature.sameKind, Ne.symm enemy]
  · simp [hnone, hnobody]

theorem occupants_of_infect? (h : v.infect? = some last) : ∃ target other,
    v.ahead? = some target ∧ v.enemyAhead? = some other ∧ v.world.SameShape last.world ∧
      last.slot = v.slot ∧ last.world.occupant? =
        update v.world.occupant? target (some ⟨v.active.kind, other.heading, 0⟩) := by
  cases performs_of_infect? h with
  | @infected target other _ ahead there enemy shape slot board =>
    refine ⟨target, other, ahead, ?_, shape, slot, ?_⟩
    · simp [enemyAhead?, ahead, there, Creature.sameKind, Ne.symm enemy]
    · funext slot
      rw [board, Function.update_apply]
      rfl

theorem sight_of_infect? (h : v.infect? = some last) : last.sight = .friend := by
  have hactive : last.active = v.active := (performs_of_infect? h).active
  obtain ⟨target, other, ahead, _, shape, slot, hboard⟩ := occupants_of_infect? h
  have hahead : last.ahead? = some target := by
    rw [ahead?, hactive, slot, shape.neighbor?_eq]
    exact ahead
  rw [friend_iff, hactive]
  have hthere : last.world.occupant? target = some ⟨v.active.kind, other.heading, 0⟩ := by
    rw [hboard, Function.update_self]
  exact ⟨target, _, hahead, hthere, rfl⟩

theorem sight_call_infect (v : View) : (v.call .infect).sight ≠ .enemy := by
  rw [call]
  cases hinfect : v.infect? with
  | none =>
    rw [Option.getD_none, Ne, ← isSome_infect?_iff, hinfect]
    exact Bool.false_ne_true
  | some last =>
    rw [Option.getD_some, sight_of_infect? hinfect]
    decide

end View

/-- Of the four classes the cell ahead is in exactly one, as the questions tell. A hop succeeds if
and only if the cell is empty, and takes the creature there. It fails at a wall with the one fault,
before any creature with the other, which names the cell the hop sets out from and the cell ahead,
and leaves the view as it was. An infection takes place if and only if there is an enemy ahead, and
converts this creature and nothing else; afterwards there is no enemy ahead, so a second one has
nothing to do. -/
theorem queries_and_actions_agree (v : View) :
    v.world.view v.slot = .ok v ∧ (∃! sight, v.Faces sight) ∧
    ((∃ last, v.hop = .ok last) ↔ v.facesEmpty = true) ∧
    (∀ last, v.hop = .ok last → v.world.SameShape last.world ∧ v.ahead? = some last.slot ∧
      last.world.occupant? =
        update (update v.world.occupant? v.slot none) last.slot (some v.active)) ∧
    (v.hop = .error (.hopIntoWall v.position) ↔ v.facesWall = true) ∧
    (v.facesEmpty = false ∧ v.facesWall = false ↔ ∃ target, v.ahead? = some target ∧
      v.hop = .error (.hopIntoOccupied v.position (v.world.positionOf target))) ∧
    (∀ fault, v.hop = .error fault → v.call .hop = v) ∧
    (v.infect?.isSome = true ↔ v.enemyAhead?.isSome = true) ∧
    (∀ last, v.infect? = some last → ∃ target other, v.ahead? = some target ∧
      v.enemyAhead? = some other ∧ v.world.SameShape last.world ∧ last.slot = v.slot ∧
      last.world.occupant? =
        update v.world.occupant? target (some ⟨v.active.kind, other.heading, 0⟩)) ∧
    (v.infect? = none → v.call .infect = v) ∧
    (v.call .infect).enemyAhead? = none ∧ (v.call .infect).infect? = none := by
  have hfriendly : (v.call .infect).sight ≠ .enemy := v.sight_call_infect
  refine ⟨World.view_eq_ok_iff.mpr ⟨rfl, rfl⟩, ⟨v.sight, View.faces_iff.mpr rfl, ?_⟩,
    View.exists_hop_iff, fun last => View.occupants_of_hop, View.hop_into_wall_iff,
    View.hop_into_occupied_iff.symm, ?_, ?_, fun last => View.occupants_of_infect?, ?_, ?_, ?_⟩
  · intro sight hfaces
    exact (View.faces_iff.mp hfaces).symm
  · intro fault hfault
    rw [View.call, hfault]
  · rw [v.isSome_infect?_iff, v.enemyAhead?_isSome_iff]
  · intro hnone
    rw [View.call, hnone, Option.getD_none]
  · rw [Ne, ← View.enemyAhead?_isSome_iff] at hfriendly
    simpa using hfriendly
  · rw [Ne, ← View.isSome_infect?_iff] at hfriendly
    simpa using hfriendly

/-- The rover of the ambush has the food ahead of it: it cannot hop there, but infect it once. -/
theorem ambush_rover_infects_once :
    ∃ v, ambush.world.view 3 = .ok v ∧ (∃! sight, v.Faces sight) ∧
      v.hop = .error (.hopIntoOccupied ⟨1, 0⟩ ⟨1, 1⟩) ∧ v.call .hop = v ∧
      (∃ last, v.infect? = some last ∧ ∃ target other, v.ahead? = some target ∧
        v.enemyAhead? = some other ∧ last.world.occupant? =
          update v.world.occupant? target (some ⟨⟨2, Species.rover⟩, other.heading, 0⟩)) ∧
      (v.call .infect).infect? = none := by
  have hfault : (⟨ambush.world, 3, rfl⟩ : View).hop = .error (.hopIntoOccupied ⟨1, 0⟩ ⟨1, 1⟩) := rfl
  have hinfects : (⟨ambush.world, 3, rfl⟩ : View).infect? = some _ := rfl
  obtain ⟨hview, hone, _, _, _, _, hstays, _, hconverts, _, _, hagain⟩ :=
    queries_and_actions_agree ⟨ambush.world, 3, rfl⟩
  obtain ⟨target, other, ahead, henemy, _, _, hboard⟩ := hconverts _ hinfects
  exact ⟨_, hview, hone, hfault, hstays _ hfault,
    ⟨_, hinfects, target, other, ahead, henemy, hboard⟩, hagain⟩

end Vivarium
