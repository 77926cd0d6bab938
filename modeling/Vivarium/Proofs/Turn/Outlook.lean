import Vivarium.Proofs.View.Queries
import Vivarium.Proofs.World.Adjacency

/-! The outlook of a turn. On boards that have nothing in common, creatures that are equal and see
the same class of cell ahead have the same turn: nothing else of a board has any influence on it. -/
namespace Vivarium

namespace View

variable {v u : View} {sight : Sight}

theorem sameOutlook_of_faces (hactive : u.active = v.active) (hv : v.Faces sight)
    (hu : u.Faces sight) : v.SameOutlook u :=
  ⟨hactive, (faces_iff.mp hu).trans (faces_iff.mp hv).symm⟩

theorem Ends.slot_ne_iff {budget : Nat} {decided : Decision × Deliberation} {t : Turn}
    (h : v.Ends budget decided t) : t.view.slot ≠ v.slot ↔ t.Moved := by
  constructor
  · intro hne
    by_contra hmoved
    exact hne (h.slot_of_not_moved hmoved)
  · intro hmoved
    exact World.neighbor?_ne (h.ahead?_of_moved hmoved)

end View

/-- The turn of a creature is determined by the creature and the class of the cell ahead, by the
coin and by the budget. If these are the same for two creatures, on whatever boards, their turns
report the same or fail alike, leave the coin the same and the creatures as well, and either both
creatures move, each to the cell ahead of it, or neither does. -/
theorem turns_see_only_the_cell_ahead {v u : View} {sight : Sight} (hactive : u.active = v.active)
    (hv : v.Faces sight) (hu : u.Faces sight) (coin : Coin) (budget : Nat) :
    (u.turn coin budget).result = (v.turn coin budget).result ∧
    (u.turn coin budget).coin = (v.turn coin budget).coin ∧
    (u.turn coin budget).view.active = (v.turn coin budget).view.active ∧
    ((u.turn coin budget).view.slot ≠ u.slot ↔ (v.turn coin budget).view.slot ≠ v.slot) ∧
    ((v.turn coin budget).view.slot ≠ v.slot →
      v.ahead? = some (v.turn coin budget).view.slot ∧
        u.ahead? = some (u.turn coin budget).view.slot) := by
  have houtlook := View.sameOutlook_of_faces hactive hv hu
  have hv := v.turn_ends coin budget
  have hu := u.turn_ends coin budget
  rw [houtlook.deliberate] at hu
  obtain ⟨hresult, hafter⟩ := houtlook.ends hv hu
  have hmoved : (u.turn coin budget).Moved ↔ (v.turn coin budget).Moved := by
    rw [Turn.Moved, Turn.Moved, hresult]
  refine ⟨hresult, by rw [hu.coin, hv.coin], hafter, ?_, ?_⟩
  · rw [hu.slot_ne_iff, hv.slot_ne_iff, hmoved]
  · intro hne
    have hboth := hv.slot_ne_iff.mp hne
    exact ⟨hv.ahead?_of_moved hboth, hu.ahead?_of_moved (hmoved.mpr hboth)⟩

/-- A rover with a trap ahead of it:

    r→ t←
    -  -
-/
def skirmish : View where
  world :=
    { rows := 2
      cols := 2
      cells :=
        #[some (.spawn ⟨2, Species.rover⟩ .east), some ⟨⟨7, Species.trap⟩, .west, 2⟩, none, none]
      filled := rfl
      nonempty := by decide
      addressable := by decide }
  slot := 0
  occupied := rfl

theorem rovers_of_two_boards_strike :
    ∃ v : View, ambush.world.view 3 = .ok v ∧ skirmish.active = v.active ∧ v.Faces .enemy ∧
      skirmish.Faces .enemy ∧
      (skirmish.turn ambush.coin 9).result = (v.turn ambush.coin 9).result ∧
      (skirmish.turn ambush.coin 9).view.active = (v.turn ambush.coin 9).view.active ∧
      ((skirmish.turn ambush.coin 9).view.slot ≠ skirmish.slot ↔
        (v.turn ambush.coin 9).view.slot ≠ v.slot) := by
  have hequal : skirmish.active = (⟨ambush.world, 3, rfl⟩ : View).active := rfl
  have hrover : (⟨ambush.world, 3, rfl⟩ : View).Faces .enemy := rfl
  have hlike : skirmish.Faces .enemy := rfl
  obtain ⟨hresult, _, hafter, hmove, _⟩ :=
    turns_see_only_the_cell_ahead hequal hrover hlike ambush.coin 9
  exact ⟨⟨ambush.world, 3, rfl⟩, rfl, hequal, hrover, hlike, hresult, hafter, hmove⟩

end Vivarium
