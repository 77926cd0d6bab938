import Mathlib.Data.List.Basic
import Vivarium.Proofs.Round.Schedule
import Vivarium.Proofs.Turn.Locality

/-! Turns of creatures that have nothing to do with each other. Where their footprints do not meet
and neither flips the coin, it makes no difference who goes first. -/
namespace Vivarium

namespace View

variable {v u other : View}

theorem exists_alike_of_apart (hworld : other.world = v.world)
    (apart : v.footprint.Disjoint other.footprint) (coin : Coin) (budget : Nat) :
    ∃ u, (v.turn coin budget).view.world.view other.slot = .ok u ∧ other.Alike u := by
  have hoccupants : ∀ slot ∈ other.footprint,
      (v.turn coin budget).view.world.occupant? slot = other.world.occupant? slot := by
    intro slot hslot
    rw [v.occupant?_turn_of_notMem coin budget fun hmem => apart hmem hslot, hworld]
  have hoccupied : ((v.turn coin budget).view.world.occupant? other.slot).isSome := by
    rw [hoccupants other.slot (mem_footprint.mpr (Or.inl rfl))]
    exact other.occupied
  refine ⟨_, World.view_eq_ok hoccupied, ?_, rfl, hoccupants⟩
  rw [hworld]
  exact (v.turn_ends coin budget).shape

theorem occupant?_second_turn {first : World} (hfirst : u.world = first) (h : other.Alike u)
    (coin : Coin) (budget slot : Nat) :
    (u.turn coin budget).view.world.occupant? slot =
      if slot ∈ other.footprint then (other.turn coin budget).view.world.occupant? slot
      else first.occupant? slot := by
  split
  · next hmem => exact (h.turn coin budget).2 slot hmem
  · next hnot =>
    rw [← h.footprint] at hnot
    rw [u.occupant?_turn_of_notMem coin budget hnot, hfirst]

end View

/-- The turns of two creatures can be exchanged if their footprints have no cell in common, which
makes them two, and neither program tests for heads: both orders leave the same world, and each of
the turns has the same result in both. -/
theorem independent_turns_commute {w : World} {a b : Nat} {va vb : View}
    (ha : w.view a = .ok va) (hb : w.view b = .ok vb)
    (apart : va.footprint.Disjoint vb.footprint)
    (hcoina : va.active.program.Coinless) (hcoinb : vb.active.program.Coinless)
    (coin : Coin) (budget : Nat) :
    ∃ vb' va',
      (va.turn coin budget).view.world.view b = .ok vb' ∧
      (vb.turn coin budget).view.world.view a = .ok va' ∧
      (vb'.turn (va.turn coin budget).coin budget).view.world =
        (va'.turn (vb.turn coin budget).coin budget).view.world ∧
      (va'.turn (vb.turn coin budget).coin budget).result = (va.turn coin budget).result ∧
      (vb'.turn (va.turn coin budget).coin budget).result = (vb.turn coin budget).result := by
  obtain ⟨hworlda, rfl⟩ := World.view_eq_ok_iff.mp ha
  obtain ⟨hworldb, rfl⟩ := World.view_eq_ok_iff.mp hb
  rw [va.coin_turn hcoina, vb.coin_turn hcoinb]
  obtain ⟨vb', hopenb, hlikeb⟩ :=
    View.exists_alike_of_apart (hworldb.trans hworlda.symm) apart coin budget
  obtain ⟨va', hopena, hlikea⟩ :=
    View.exists_alike_of_apart (hworlda.trans hworldb.symm) (List.disjoint_symm apart)
      coin budget
  have hworldb' := (World.view_eq_ok_iff.mp hopenb).1
  have hworlda' := (World.view_eq_ok_iff.mp hopena).1
  refine ⟨vb', va', hopenb, hopena, ?_, (hlikea.turn coin budget).1, (hlikeb.turn coin budget).1⟩
  apply World.SameShape.eq_of_occupants
  · have hshapea := hlikea.shape.trans (va'.turn_ends coin budget).shape
    have hshapeb := hlikeb.shape.trans (vb'.turn_ends coin budget).shape
    rw [hworlda] at hshapea
    rw [hworldb] at hshapeb
    exact hshapea.symm.trans hshapeb
  · -- A cell of one of the footprints is as the turn of its own creature leaves it in either order.
    intro slot
    rw [View.occupant?_second_turn hworldb' hlikeb, View.occupant?_second_turn hworlda' hlikea]
    by_cases hmemb : slot ∈ vb.footprint
    · rw [if_pos hmemb, if_neg fun hmema => apart hmema hmemb]
    · rw [if_neg hmemb]
      by_cases hmema : slot ∈ va.footprint
      · rw [if_pos hmema]
      · rw [if_neg hmema, va.occupant?_turn_of_notMem coin budget hmema,
          vb.occupant?_turn_of_notMem coin budget hmemb, hworlda, hworldb]

theorem ambush_turns_commute :
    ∃ trap hopper hopper' trap', ambush.world.view 1 = .ok trap ∧ ambush.world.view 2 = .ok hopper ∧
      (trap.turn ambush.coin 9).view.world.view 2 = .ok hopper' ∧
      (hopper.turn ambush.coin 9).view.world.view 1 = .ok trap' ∧
      (hopper'.turn (trap.turn ambush.coin 9).coin 9).view.world =
        (trap'.turn (hopper.turn ambush.coin 9).coin 9).view.world ∧
      (trap'.turn (hopper.turn ambush.coin 9).coin 9).result = .ok ⟨.infect, .infected, 2⟩ ∧
      (hopper'.turn (trap.turn ambush.coin 9).coin 9).result = .ok ⟨.hop, .moved, 1⟩ := by
  have htrap : ambush.world.view 1 = .ok ⟨ambush.world, 1, rfl⟩ := rfl
  have hhopper : ambush.world.view 2 = .ok ⟨ambush.world, 2, rfl⟩ := rfl
  have apart : List.Disjoint [1, 4] [2, 5] := by simp
  obtain ⟨hopper', trap', hopen, hopen', hworld, hresult, hresult'⟩ :=
    independent_turns_commute htrap hhopper apart (by decide) (by decide) ambush.coin 9
  exact ⟨_, _, hopper', trap', htrap, hhopper, hopen, hopen', hworld, hresult, hresult'⟩

end Vivarium
