import Mathlib.Data.Finset.Card
import Mathlib.Data.Finset.Prod
import Vivarium.Proofs.Run.Chance

/-! How long a turn can be. What a creature sees does not change while it deliberates, so between
two flips its counter settles what comes next: a counter that comes back without a flip comes back
for ever. A turn that ends is therefore short, or has flipped the coin often. -/
namespace Vivarium

namespace Deliberation

variable {p : Program} {sight : Sight} {budget larger : Nat} {d : Deliberation}

/-! ### Coming back -/

/-- A deliberation stands after `first` fetches where it stands again after `period` more, and has
not flipped the coin in between. -/
structure Recurs (p : Program) (sight : Sight) (d : Deliberation) (first period : Nat) : Prop where
  pos : 0 < period
  undecided : (run p sight (first + period) d).1 = .undecided
  counter : (run p sight (first + period) d).2.counter = (run p sight first d).2.counter
  coin : (run p sight (first + period) d).2.coin = (run p sight first d).2.coin

namespace Recurs

variable {first period : Nat}

theorem charged (h : Recurs p sight d first period) :
    (run p sight (first + period) d).2 = (run p sight first d).2.charge period := by
  have hsooner := undecided_of_le (Nat.le_add_right first period) h.undecided
  have hfetched : (run p sight (first + period) d).2.fetched =
      period + (run p sight first d).2.fetched := by
    rw [fetched_of_undecided h.undecided, fetched_of_undecided hsooner]
    omega
  rw [charge, ← h.counter, ← h.coin, ← hfetched]

theorem run_add (h : Recurs p sight d first period) (hfirst : first ≤ budget) :
    run p sight (budget + period) d =
      ((run p sight budget d).1, (run p sight budget d).2.charge period) := by
  obtain ⟨extra, rfl⟩ := Nat.exists_eq_add_of_le hfirst
  have hsooner := undecided_of_le (Nat.le_add_right first period) h.undecided
  rw [Nat.add_right_comm, run_add_of_undecided h.undecided, h.charged, run_charge,
    run_add_of_undecided hsooner]

theorem exists_sooner (h : Recurs p sight d first period) (budget : Nat) :
    ∃ sooner ≤ first + period, (run p sight budget d).1 = (run p sight sooner d).1 ∧
      (run p sight budget d).2.coin = (run p sight sooner d).2.coin := by
  induction budget using Nat.strong_induction_on with
  | _ budget ih =>
    by_cases hsoon : budget ≤ first + period
    · exact ⟨budget, hsoon, rfl, rfl⟩
    · have hpos := h.pos
      obtain ⟨sooner, hsooner, hdecision, hcoin⟩ := ih (budget - period) (by omega)
      have hlater : first ≤ budget - period := by omega
      have hround := h.run_add hlater
      rw [Nat.sub_add_cancel (by omega)] at hround
      refine ⟨sooner, hsooner, ?_, ?_⟩
      · rw [hround, hdecision]
      · rw [hround, ← hcoin]
        rfl

theorem undecided_run (h : Recurs p sight d first period) (budget : Nat) :
    (run p sight budget d).1 = .undecided := by
  obtain ⟨sooner, hsooner, hdecision, _⟩ := h.exists_sooner budget
  rw [hdecision]
  exact undecided_of_le hsooner h.undecided

end Recurs

/-! ### As many places as instructions -/

theorem tosses_fetches_le (p : Program) (sight : Sight) (d : Deliberation) (h : budget ≤ larger) :
    tosses (fetches p sight budget d) ≤ tosses (fetches p sight larger d) :=
  ((isPrefix_path p sight d h).filterMap _).sublist.countP_le

/-- Where a deliberation stands after some fetches: at an instruction, with so many flips made. -/
def place (p : Program) (sight : Sight) (d : Deliberation) (fetched : Nat) : Nat × Nat :=
  ((run p sight fetched d).2.counter, tosses (fetches p sight fetched d))

theorem recurs_of_place {i j : Nat} (hij : i < j) (hj : j < (path p sight budget d).length)
    (hplace : place p sight d j = place p sight d i) : Recurs p sight d i (j - i) := by
  have hback : i + (j - i) = j := by omega
  refine ⟨by omega, ?_, ?_, ?_⟩
  · rw [hback]
    exact (of_lt_length_path hj).1
  · rw [hback]
    exact congrArg Prod.fst hplace
  · rw [hback, coin_run_eq_skip, coin_run_eq_skip]
    exact congrArg (d.coin.skip ·.2) hplace

/-- There are only so many places to stand at, for a deliberation that fetches from its program and
makes no more than some flips. -/
theorem exists_recurs {flips : Nat} (hflips : tosses (fetches p sight budget d) ≤ flips)
    (hlong : p.length * (flips + 1) < (path p sight budget d).length) :
    ∃ first period, Recurs p sight d first period ∧ first + period ≤ p.length * (flips + 1) := by
  have hcard : (Finset.range p.length ×ˢ Finset.range (flips + 1)).card <
      (Finset.range (p.length * (flips + 1) + 1)).card := by
    simp only [Finset.card_product, Finset.card_range]
    omega
  have hfetched : ∀ k ∈ Finset.range (p.length * (flips + 1) + 1),
      k < (path p sight budget d).length := by
    intro k hk
    rw [Finset.mem_range] at hk
    omega
  have hplaces : ∀ k ∈ Finset.range (p.length * (flips + 1) + 1),
      place p sight d k ∈ Finset.range p.length ×ˢ Finset.range (flips + 1) := by
    intro k hk
    have hk' := hfetched k hk
    have hbudget := length_path_le_budget p sight budget d
    have hmade := tosses_fetches_le p sight d (show k ≤ budget by omega)
    rw [Finset.mem_product, Finset.mem_range, Finset.mem_range]
    exact ⟨(of_lt_length_path hk').2, Nat.lt_succ_of_le (Nat.le_trans hmade hflips)⟩
  obtain ⟨i, hi, j, hj, hne, hplace⟩ :=
    Finset.exists_ne_map_eq_of_card_lt_of_maps_to hcard hplaces
  have hi' := Finset.mem_range.mp hi
  have hj' := Finset.mem_range.mp hj
  rcases Nat.lt_or_gt_of_ne hne with hij | hij
  · exact ⟨i, j - i, recurs_of_place hij (hfetched j hj) hplace.symm, by omega⟩
  · exact ⟨j, i - j, recurs_of_place hij (hfetched i hi) hplace, by omega⟩

end Deliberation

namespace View

variable {v : View} {coin : Coin} {budget flips : Nat}

theorem tosses_of_flips (h : (v.turn coin budget).coin.flips = coin.flips + flips) :
    tosses (v.fetches coin budget) = flips := by
  rw [coin_turn_eq_skip] at h
  exact Nat.add_left_cancel h

theorem steps_le_of_ok {report : TurnReport} (hok : (v.turn coin budget).result = .ok report)
    (hflips : (v.turn coin budget).coin.flips = coin.flips + flips) :
    report.steps ≤ v.active.program.length * (flips + 1) := by
  by_contra hlong
  rw [steps_of_ok hok] at hlong
  obtain ⟨first, period, hrecurs, _⟩ := Deliberation.exists_recurs
    (Nat.le_of_eq (tosses_of_flips hflips)) (Nat.lt_of_not_le hlong)
  have hact : (v.deliberate coin budget).1 = .act report.act :=
    ((v.turn_ends coin budget).of_ok hok).1
  have hundecided : (v.deliberate coin budget).1 = .undecided := hrecurs.undecided_run budget
  rw [hundecided] at hact
  cases hact

theorem recurs_of_exhausted
    (h : (v.turn coin budget).result = .error (.noProgress v.active.symbol budget))
    (hlong : v.active.program.length < budget)
    (hflips : (v.turn coin budget).coin.flips = coin.flips) :
    ∃ first period, first + period ≤ v.active.program.length ∧
      Deliberation.Recurs v.active.program v.sight ⟨v.active.counter, coin, 0⟩ first period := by
  have hfetched : (v.deliberate coin budget).2.fetched = 0 + budget :=
    Deliberation.fetched_of_undecided (undecided_iff.mpr h)
  rw [fetched_deliberate, Nat.zero_add] at hfetched
  have hnone : tosses (v.fetches coin budget) = 0 := tosses_of_flips hflips
  have hpath : v.active.program.length * (0 + 1) < (v.path coin budget).length := by omega
  obtain ⟨first, period, hrecurs, hsoon⟩ := Deliberation.exists_recurs (Nat.le_of_eq hnone) hpath
  exact ⟨first, period, by omega, hrecurs⟩

end View

/-- A turn that succeeds with some flips of the coin fetches at most its program's length for each
flip and once more. A turn that runs out of a budget larger than its program's length without a flip
goes round in its program, and never flips the coin: it runs out of every budget, and after at most
as many fetches as its program has instructions, it comes back again and again to where it was. -/
theorem turns_are_short_without_flips (v : View) (coin : Coin) (budget : Nat) :
    (∀ report flips, (v.turn coin budget).result = .ok report →
      (v.turn coin budget).coin.flips = coin.flips + flips →
      report.steps ≤ v.active.program.length * (flips + 1)) ∧
    ∀ fault, (v.turn coin budget).result = .error fault → fault.IsExhaustion →
      v.active.program.length < budget → (v.turn coin budget).coin.flips = coin.flips →
      (∀ other, (v.turn coin other).result = .error (.noProgress v.active.symbol other) ∧
        (v.turn coin other).coin = coin) ∧
      ∃ first period, 0 < period ∧ first + period ≤ v.active.program.length ∧
        ∀ other, first ≤ other →
          (v.turn coin (other + period)).view = (v.turn coin other).view := by
  refine ⟨fun report flips => View.steps_le_of_ok, ?_⟩
  intro fault hfault hexhausted hlong hflips
  obtain ⟨first, period, hsoon, hrecurs⟩ := View.recurs_of_exhausted
    (View.exhausted_of_isExhaustion hfault hexhausted) hlong hflips
  have hevery : ∀ other, (v.turn coin other).result =
      .error (.noProgress v.active.symbol other) := by
    intro other
    exact View.undecided_iff.mp (hrecurs.undecided_run other)
  refine ⟨fun other => ⟨hevery other, ?_⟩, first, period, hrecurs.pos, hsoon, ?_⟩
  · obtain ⟨sooner, hsooner, _, hcoin⟩ := hrecurs.exists_sooner other
    have hunflipped : tosses (v.fetches coin sooner) = 0 := by
      have hmade := Deliberation.tosses_fetches_le v.active.program v.sight
        ⟨v.active.counter, coin, 0⟩ (show sooner ≤ budget by omega)
      have hnone : tosses (v.fetches coin budget) = 0 := View.tosses_of_flips hflips
      exact Nat.le_zero.mp (hnone ▸ hmade)
    calc (v.turn coin other).coin
        = (v.turn coin sooner).coin := by
          rw [(v.turn_ends coin other).coin, (v.turn_ends coin sooner).coin]
          exact hcoin
      _ = coin.skip (tosses (v.fetches coin sooner)) := v.coin_turn_eq_skip coin sooner
      _ = coin := by rw [hunflipped, Coin.skip_zero]
  · intro other hother
    have hcounter : (v.deliberate coin (other + period)).2.counter =
        (v.deliberate coin other).2.counter :=
      congrArg (fun decided => decided.2.counter) (hrecurs.run_add hother)
    rw [(v.turn_ends coin (other + period)).of_error (hevery (other + period)),
      (v.turn_ends coin other).of_error (hevery other), hcounter]

def waiting : Kind := ⟨0, "q", [.jump .empty 2, .jump .always 0, .act .hop]⟩

/-- The rover that is shut in flips the coin once and needs no more than two rounds of its program.
A creature that waits for a wall to go away has not done so after four fetches, and never will. -/
theorem shutIn_is_brief_and_waiting_is_endless :
    (∃ v, shutIn.world.view 0 = .ok v ∧
      (v.turn shutIn.coin 1000).result = .ok ⟨.right, .turned, 4⟩ ∧
      (v.turn shutIn.coin 1000).coin.flips = 0 + 1 ∧ 4 ≤ v.active.program.length * (1 + 1)) ∧
    ∃ board world v, World.empty 1 1 = .ok board ∧ board.place waiting ⟨0, 0⟩ .north = .ok world ∧
      world.view 0 = .ok v ∧ (v.turn (.scripted #[]) 4).result = .error (.noProgress "q" 4) ∧
      ∀ other, (v.turn (.scripted #[]) other).result = .error (.noProgress "q" other) := by
  have hok : ((⟨shutIn.world, 0, rfl⟩ : View).turn shutIn.coin 1000).result =
      .ok ⟨.right, .turned, 4⟩ := rfl
  obtain ⟨hbrief, _⟩ := turns_are_short_without_flips ⟨shutIn.world, 0, rfl⟩ shutIn.coin 1000
  obtain ⟨board, world, v, hboard, hworld, hview, hstuck, hunflipped, hlength⟩ :
      ∃ board world v, World.empty 1 1 = .ok board ∧
        board.place waiting ⟨0, 0⟩ .north = .ok world ∧ world.view 0 = .ok v ∧
        (v.turn (.scripted #[]) 4).result = .error (.noProgress "q" 4) ∧
        (v.turn (.scripted #[]) 4).coin.flips = 0 ∧ v.active.program.length = 3 :=
    ⟨_, _, _, rfl, rfl, rfl, rfl, rfl, rfl⟩
  obtain ⟨hevery, _⟩ := (turns_are_short_without_flips v (.scripted #[]) 4).2 _ hstuck
    ⟨_, _, rfl⟩ (by omega) hunflipped
  have hsymbol : v.active.symbol = "q" := by
    simpa using (hevery 4).1.symm.trans hstuck
  refine ⟨⟨_, rfl, hok, rfl, hbrief _ 1 hok rfl⟩, board, world, v, hboard, hworld, hview, hstuck,
    ?_⟩
  intro other
  rw [(hevery other).1, hsymbol]

end Vivarium
